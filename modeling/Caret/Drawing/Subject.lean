import Caret.Drawing.Rows

namespace Caret.Drawing

inductive Part where
  | diagnostic (d : Diagnostic)
  | excerpt (e : Excerpt)
  | help (h : Help)
  | line (l : Line)
  | marker (m : Marker)
  | note (message : String)
  deriving DecidableEq, Repr

/-- Extension reaches blocks that are drawn directly or through a help; a line alone has the gutter
of its own number, and a note alone is not indented. -/
def part (p : Palette) (extend : Bool) : Part → List Step
  | .diagnostic d => diagnostic p d
  | .excerpt e => excerpt p extend e
  | .help h => help p extend h
  | .line l => line p (Gutter.columns l.number) l
  | .marker m => marker m
  | .note message => note p none message

inductive Subject where
  | part (x : Part)
  | span (s : Span)
  | location (l : Location)
  | foreign (kind : String)
  deriving DecidableEq, Repr

def Part.kind : Part → String
  | .diagnostic d => match d.level with
    | .error _ => "Error"
    | .warning => "Warning"
  | .excerpt _ => "Code"
  | .help _ => "Help"
  | .line _ => "Line"
  | .marker _ => "Marker"
  | .note _ => "Note"

def Subject.kind : Subject → String
  | .part x => x.kind
  | .span _ => "Span"
  | .location _ => "File"
  | .foreign kind => kind

inductive Refusal where
  | notDrawable (kind : String)
  deriving DecidableEq, Repr

def Refusal.message : Refusal → String
  | .notDrawable kind => "cannot render " ++ kind

def request (kind : String) (extend : Bool) : Log.Record :=
  ⟨Log.trace, "Rendering " ++ kind ++ " (extend=" ++ (if extend then "True" else "False") ++ ")"⟩

def subject (p : Palette) (extend : Bool) (s : Subject) : List Step × Option Refusal :=
  match s with
  | .part x => (.log (request x.kind extend) :: part p extend x, none)
  | other => ([.log (request other.kind extend)], some (.notDrawable other.kind))

def render (p : Palette) (extend : Bool) (x : Part) : Traced String :=
  let steps := (subject p extend (.part x)).1
  ⟨records steps, text steps⟩

end Caret.Drawing

namespace Caret.Diagnostic

def render (p : Palette) (d : Diagnostic) : Traced String := Drawing.render p false (.diagnostic d)

end Caret.Diagnostic
