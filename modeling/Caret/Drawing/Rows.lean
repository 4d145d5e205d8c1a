import Caret.Diagnostic
import Caret.Drawing.Ink
import Caret.Palette

/-!
The rows of a drawing.

    error[E0308]: mismatched types
     --> main.rs:7:5
      |
    3 | fn foo() -> String {
      |             ------ expected `String` because of return type
    ...
    7 |     12_i32
      |     ^^^^^^ expected `String`, found `i32`
    help: consider using the available `ToString` impl
      |
    7 |     12_i32.to_string()
      |           ~~~~~~~~~~~~

A block opens with a blank gutter row. It is closed by another one when it is asked to extend, or
when its last line has no marker. The primary block of a diagnostic extends only if neither help
nor note follows; suggestions never do.
-/
namespace Caret.Drawing

def rule (p : Palette) (s : String) : Step :=
  .write [.escape .bold, .escape (.color p.location), .text s, .escape .reset]

def plain (s : String) : Step := .write [.text s]

def blankGutter (p : Palette) (width : Nat) : List Step :=
  [rule p (Gutter.spaces width ++ " |"), plain "\n"]

def ellipsis (p : Palette) : List Step := [rule p "...", plain "\n"]

def underlining (m : Marker) : String :=
  Gutter.spaces m.span.first ++ String.ofList (List.replicate m.span.width m.symbol) ++
    match m.message with
    | some message => " " ++ message
    | none => ""

def marker (m : Marker) : List Step :=
  [.write [.escape .bold, .escape (.color m.color), .text (underlining m), .escape .reset,
    .text "\n"]]

def underlineRow (p : Palette) (width : Nat) (m : Marker) : List Step :=
  rule p (Gutter.spaces width ++ " | ") :: marker m

def slice (cs : List Char) (start length : Nat) : String :=
  String.ofList ((cs.drop start).take length)

def colored (cs : List Char) (m : Marker) : List Step :=
  [plain (slice cs 0 m.span.first),
    .write [.escape (.color m.color), .text (slice cs m.span.first m.span.width), .escape .reset],
    plain (String.ofList (cs.drop (m.span.last + 1)) ++ "\n")]

def misfit (m : Marker) (l : Line) : Log.Record :=
  ⟨Log.debug, "Span " ++ m.span.toText ++ " does not fit line " ++ toString l.number ++ " (" ++
    toString l.text.length ++ " chars); not coloring it inline"⟩

def codeText (l : Line) : List Step :=
  match l.marker with
  | none => [plain (l.text ++ "\n")]
  | some m =>
    if m.inline then
      if m.span.fits l.text.length then colored l.text.toList m
      else [.log (misfit m l), plain (l.text ++ "\n")]
    else [plain (l.text ++ "\n")]

def codeRow (p : Palette) (width : Nat) (l : Line) : List Step :=
  rule p (Gutter.padRight width (toString l.number) ++ " | ") :: codeText l

def line (p : Palette) (width : Nat) (l : Line) : List Step :=
  codeRow p width l ++
    match l.marker with
    | none => []
    | some m => underlineRow p width m

/-- An ellipsis stands before a line that does not follow on the one before. -/
def between (p : Palette) (previous : Option Nat) (number : Nat) : List Step :=
  match previous with
  | none => []
  | some n => if n + 1 = number then [] else ellipsis p

def linesAfter (p : Palette) (width : Nat) : Option Nat → List Line → List Step
  | _, [] => []
  | previous, l :: rest =>
    between p previous l.number ++ line p width l ++ linesAfter p width (some l.number) rest

def excerpt (p : Palette) (extend : Bool) (e : Excerpt) : List Step :=
  blankGutter p e.width ++ linesAfter p e.width none e.lines ++
    if extend || !e.endsMarked then blankGutter p e.width else []

def helpLabel (p : Palette) (message : String) : Step :=
  .write [.escape .bold, .escape (.color p.help), .text "help", .escape .reset,
    .text (": " ++ message ++ "\n")]

def help (p : Palette) (extend : Bool) (h : Help) : List Step :=
  helpLabel p h.message ::
    match h.suggestion with
    | none => []
    | some e => excerpt p extend e

def noteRow (message : String) : Step :=
  .write [.escape .bold, .text "note", .escape .reset, .text (": " ++ message ++ "\n")]

/-- A note of a warning is indented to the gutter of the warning's code. -/
def note (p : Palette) (indent : Option Int) (message : String) : List Step :=
  match indent with
  | none => [noteRow message]
  | some width => [rule p (Gutter.spaces width.toNat ++ " = "), noteRow message]

def levelColor (p : Palette) : Level → Color
  | .error _ => p.error
  | .warning => p.warning

def header (p : Palette) (d : Diagnostic) : List Step :=
  [.write [.escape .bold, .escape (.color (levelColor p d.level)), .text d.level.label,
      .escape .reset],
    .write [.escape .bold, .text (": " ++ d.message), .escape .reset, .text "\n"]]

def locationRow (p : Palette) (l : Location) : Step :=
  .write [.escape (.color p.location), .text " --> ", .escape .reset, .text (l.spelling ++ "\n")]

def announcement (d : Diagnostic) : Log.Record :=
  ⟨Log.trace, "Rendering " ++ d.level.name ++ " " ++ Text.quote d.message ++ " (" ++
    toString d.helps.length ++ " help(s), " ++ toString d.notes.length ++ " note(s))"⟩

def noteIndent (d : Diagnostic) : Option Int :=
  match d.level with
  | .error _ => none
  | .warning => some d.excerpt.width

def diagnostic (p : Palette) (d : Diagnostic) : List Step :=
  .log (announcement d) :: header p d ++ [locationRow p d.location] ++
    excerpt p (d.helps.isEmpty && d.notes.isEmpty) d.excerpt ++
    d.helps.flatMap (help p false) ++ d.notes.flatMap (note p (noteIndent d))

end Caret.Drawing
