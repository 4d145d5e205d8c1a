import Caret.Drawing.Obstacle
import Caret.Drawing.Subject

/-!
How far a drawing gets. An excerpt needs the width of its gutter before its first row, a line its
number, a location its numbers and an underline its blanks and symbols; the drawing stops where the
first of them cannot be had.
-/
namespace Caret

def Marker.isCountable (m : Marker) : Bool :=
  m.span.first < Drawing.wordLimit && m.span.width < Drawing.wordLimit

namespace Drawing

/-- The steps that are taken, and the obstacle that stands in the way of the next write, with what
has been put together of it. -/
structure Course where
  steps : List Step := []
  stop : Option Obstacle := none
  begun : Write := []
  deriving DecidableEq, Repr

namespace Course

def of (steps : List Step) : Course := { steps }

def halt (o : Obstacle) (begun : Write) : Course := { stop := some o, begun }

def andThen (a b : Course) : Course :=
  match a.stop with
  | none => ⟨a.steps ++ b.steps, b.stop, b.begun⟩
  | some _ => a

def all (cs : List Course) : Course := cs.foldr andThen {}

def need {α : Type} (o : Obstacle) (part : Option α) (begun : Write) : Course :=
  if part.isSome then {} else halt o begun

def marker (m : Marker) : Course :=
  if m.isCountable then of (Drawing.marker m) else halt .tooWide []

def underline (p : Palette) (width : Nat) : Option Marker → Course
  | none => {}
  | some m => (of [rule p (Gutter.spaces width ++ " | ")]).andThen (marker m)

def line (p : Palette) (width : Nat) (l : Line) : Course :=
  (need .tooLong (Text.writeInteger? l.number) []).andThen
    ((of (codeRow p width l)).andThen (underline p width l.marker))

def linesAfter (p : Palette) (width : Nat) : Option Nat → List Line → Course
  | _, [] => {}
  | previous, l :: rest =>
    (of (between p previous l.number)).andThen
      ((line p width l).andThen (linesAfter p width (some l.number) rest))

def excerpt (p : Palette) (extend : Bool) (e : Excerpt) : Course :=
  (need .tooLong (Gutter.blockWidth e.numbers) []).andThen
    ((of (blankGutter p e.width)).andThen
      ((linesAfter p e.width none e.lines).andThen
        (of (if extend || !e.endsMarked then blankGutter p e.width else []))))

def help (p : Palette) (extend : Bool) (h : Help) : Course :=
  (of [helpLabel p h.message]).andThen
    (match h.suggestion with
      | none => {}
      | some e => excerpt p extend e)

def head (p : Palette) (d : Diagnostic) : Course :=
  (of (header p d)).andThen
    ((need .tooLong d.location.toText
        [.escape (.color p.location), .text " --> ", .escape .reset]).andThen
      (of [locationRow p d.location]))

def indentation (d : Diagnostic) : Course :=
  match d.level with
  | .error _ => {}
  | .warning => need .tooLong (Gutter.blockWidth d.excerpt.numbers) []

def notes (p : Palette) (d : Diagnostic) : Course :=
  (indentation d).andThen (of (d.notes.flatMap (note p (noteIndent d))))

def diagnostic (p : Palette) (d : Diagnostic) : Course :=
  (of [.log (announcement d)]).andThen
    ((head p d).andThen
      ((excerpt p (d.helps.isEmpty && d.notes.isEmpty) d.excerpt).andThen
        ((all (d.helps.map (help p false))).andThen (notes p d))))

def part (p : Palette) (extend : Bool) : Part → Course
  | .diagnostic d => diagnostic p d
  | .excerpt e => excerpt p extend e
  | .help h => help p extend h
  | .line l =>
    (need .tooLong (Gutter.width l.number) []).andThen (line p (Gutter.columns l.number) l)
  | .marker m => marker m
  | .note message => of (note p none message)

def render (p : Palette) (extend : Bool) (x : Part) : Course :=
  (of [.log (request x.kind extend)]).andThen (part p extend x)

def drawn (c : Course) : Traced (Except Obstacle String) :=
  ⟨records c.steps, match c.stop with
    | none => .ok (text c.steps)
    | some o => .error o⟩

end Course
end Drawing

def Diagnostic.drawn (p : Palette) (d : Diagnostic) : Traced (Except Drawing.Obstacle String) :=
  (Drawing.Course.render p false (.diagnostic d)).drawn

end Caret
