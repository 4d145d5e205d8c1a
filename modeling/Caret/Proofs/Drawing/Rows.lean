import Caret.Drawing.Subject
import Caret.Proofs.Drawing.Cells

namespace Caret.Drawing

section
variable (p : Palette)

def gutterCells (s behind : String) : List Cell :=
  [⟨.bold, ""⟩, ⟨.color p.location, s⟩, ⟨.reset, behind⟩]

def blankCells (width : Nat) : List Cell := gutterCells p (Gutter.spaces width ++ " |") "\n"

def ellipsisCells : List Cell := gutterCells p "..." "\n"

def inlineMarker (l : Line) : Option Marker :=
  l.marker.filter fun m => m.inline && m.span.fits l.text.length

def numberText (width : Nat) (l : Line) : String :=
  Gutter.padRight width (toString l.number) ++ " | "

def codeCells (width : Nat) (l : Line) : List Cell :=
  match inlineMarker l with
  | none => gutterCells p (numberText width l) (l.text ++ "\n")
  | some m =>
    let cs := l.text.toList
    gutterCells p (numberText width l) (slice cs 0 m.span.first) ++
      [⟨.color m.color, slice cs m.span.first m.span.width⟩,
        ⟨.reset, String.ofList (cs.drop (m.span.last + 1)) ++ "\n"⟩]

def markerCells (m : Marker) : List Cell :=
  [⟨.bold, ""⟩, ⟨.color m.color, underlining m⟩, ⟨.reset, "\n"⟩]

def underlineCells (width : Nat) (m : Marker) : List Cell :=
  gutterCells p (Gutter.spaces width ++ " | ") "" ++ markerCells m

def lineCells (width : Nat) (l : Line) : List Cell :=
  codeCells p width l ++
    match l.marker with
    | none => []
    | some m => underlineCells p width m

def gap (previous : Option Nat) (number : Nat) : Bool := previous.any (· + 1 != number)

def linesCells (width : Nat) : Option Nat → List Line → List Cell
  | _, [] => []
  | previous, l :: rest =>
    (if gap previous l.number then ellipsisCells p else []) ++ lineCells p width l ++
      linesCells width (some l.number) rest

def excerptCells (extend : Bool) (e : Excerpt) : List Cell :=
  blankCells p e.width ++ linesCells p e.width none e.lines ++
    if extend || !e.endsMarked then blankCells p e.width else []

def helpCells (h : Help) : List Cell :=
  [⟨.bold, ""⟩, ⟨.color p.help, "help"⟩, ⟨.reset, ": " ++ h.message ++ "\n"⟩] ++
    match h.suggestion with
    | none => []
    | some e => excerptCells p false e

def noteCells (indent : Option Int) (message : String) : List Cell :=
  (match indent with
    | none => []
    | some width => gutterCells p (Gutter.spaces width.toNat ++ " = ") "") ++
    [⟨.bold, "note"⟩, ⟨.reset, ": " ++ message ++ "\n"⟩]

def headCells (d : Diagnostic) : List Cell :=
  [⟨.bold, ""⟩, ⟨.color (levelColor p d.level), d.level.label⟩, ⟨.reset, ""⟩,
    ⟨.bold, ": " ++ d.message⟩, ⟨.reset, "\n"⟩, ⟨.color p.location, " --> "⟩,
    ⟨.reset, d.location.spelling ++ "\n"⟩]

def diagnosticCells (d : Diagnostic) : List Cell :=
  headCells p d ++ excerptCells p (d.helps.isEmpty && d.notes.isEmpty) d.excerpt ++
    d.helps.flatMap (helpCells p) ++ d.notes.flatMap (noteCells p (noteIndent d))

/-- The steps draw what the cells show. -/
structure Draws (steps : List Step) (cells : List Cell) : Prop where
  chars : (text steps).toList = flat cells

theorem draws_nil : Draws [] [] := ⟨rfl⟩

theorem draws_append {a b : List Step} {x y : List Cell} (first : Draws a x) (second : Draws b y) :
    Draws (a ++ b) (x ++ y) := by
  constructor
  rw [text_append, flat_append, first.chars, second.chars]

theorem blank_drawn (width : Nat) : Draws (blankGutter p width) (blankCells p width) := by
  constructor
  simp [blankGutter, rule, plain, text_write, text_nil, blankCells, gutterCells, flat,
    Cell.chars, Ink.toText]

theorem ellipsis_drawn : Draws (ellipsis p) (ellipsisCells p) := by
  constructor
  simp [ellipsis, rule, plain, text_write, text_nil, ellipsisCells, gutterCells, flat,
    Cell.chars, Ink.toText]

theorem code_drawn (width : Nat) (l : Line) : Draws (codeRow p width l) (codeCells p width l) := by
  constructor
  unfold codeRow codeText codeCells inlineMarker
  cases l.marker with
  | none =>
    simp [rule, plain, text_write, text_nil, gutterCells, flat, Cell.chars, Ink.toText, numberText]
  | some m =>
    cases inline : m.inline <;> cases fits : m.span.fits l.text.length <;>
      simp [rule, plain, colored, text_write, text_log, text_nil, gutterCells, flat,
        Cell.chars, Ink.toText, numberText, inline, fits, Option.filter]

theorem rule_drawn (s : String) : Draws [rule p s] (gutterCells p s "") := by
  constructor
  simp [rule, text_write, text_nil, gutterCells, flat, Cell.chars, Ink.toText]

theorem marker_drawn (m : Marker) : Draws (marker m) (markerCells m) := by
  constructor
  simp [marker, text_write, text_nil, markerCells, flat, Cell.chars, Ink.toText]

theorem underline_drawn (width : Nat) (m : Marker) :
    Draws (underlineRow p width m) (underlineCells p width m) :=
  draws_append (rule_drawn p _) (marker_drawn m)

theorem line_drawn (width : Nat) (l : Line) : Draws (line p width l) (lineCells p width l) := by
  unfold line lineCells
  refine draws_append (code_drawn p width l) ?_
  cases l.marker with
  | none => exact draws_nil
  | some m => exact underline_drawn p width m

theorem lines_drawn (width : Nat) (previous : Option Nat) (ls : List Line) :
    Draws (linesAfter p width previous ls) (linesCells p width previous ls) := by
  induction ls generalizing previous with
  | nil => exact draws_nil
  | cons l ls ih =>
    unfold linesAfter linesCells
    refine draws_append (draws_append ?_ (line_drawn p width l)) (ih _)
    cases previous with
    | none => exact draws_nil
    | some n =>
      by_cases next : n + 1 = l.number
      · simp only [next, between, gap, Option.any, bne_self_eq_false, if_true, Bool.false_eq_true,
          if_false]
        exact draws_nil
      · have apart : gap (some n) l.number = true := by simpa [gap] using next
        simp only [between, next, apart, if_true, if_false]
        exact ellipsis_drawn p

theorem excerpt_drawn (extend : Bool) (e : Excerpt) :
    Draws (excerpt p extend e) (excerptCells p extend e) := by
  refine draws_append (draws_append (blank_drawn p _) (lines_drawn p _ _ _)) ?_
  split
  · exact blank_drawn p _
  · exact draws_nil

theorem label_drawn (message : String) : Draws [helpLabel p message]
    [⟨.bold, ""⟩, ⟨.color p.help, "help"⟩, ⟨.reset, ": " ++ message ++ "\n"⟩] := by
  constructor
  simp [helpLabel, text_write, text_nil, flat, Cell.chars, Ink.toText]

theorem help_drawn (h : Help) : Draws (help p false h) (helpCells p h) := by
  unfold help helpCells
  refine draws_append (label_drawn p h.message) ?_
  cases h.suggestion with
  | none => exact draws_nil
  | some e => exact excerpt_drawn p false e

theorem note_drawn (indent : Option Int) (message : String) :
    Draws (note p indent message) (noteCells p indent message) := by
  have label : Draws [noteRow message] [⟨.bold, "note"⟩, ⟨.reset, ": " ++ message ++ "\n"⟩] := by
    constructor
    simp [noteRow, text_write, text_nil, flat, Cell.chars, Ink.toText]
  cases indent with
  | none => exact label
  | some width => exact draws_append (rule_drawn p _) label

theorem all_drawn {α : Type} {steps : α → List Step} {cells : α → List Cell}
    (one : ∀ x, Draws (steps x) (cells x)) (xs : List α) :
    Draws (xs.flatMap steps) (xs.flatMap cells) := by
  induction xs with
  | nil => exact draws_nil
  | cons x xs ih =>
    rw [List.flatMap_cons, List.flatMap_cons]
    exact draws_append (one x) ih

theorem diagnostic_drawn (d : Diagnostic) : Draws (diagnostic p d) (diagnosticCells p d) := by
  have head : Draws (.log (announcement d) :: header p d ++ [locationRow p d.location])
      (headCells p d) := by
    constructor
    simp [header, locationRow, text_write, text_log, text_nil, headCells, flat, Cell.chars,
      Ink.toText]
  unfold diagnostic diagnosticCells
  refine draws_append (draws_append (draws_append head ?_) ?_) ?_
  · exact excerpt_drawn p _ _
  · exact all_drawn (help_drawn p) _
  · exact all_drawn (note_drawn p _) _

theorem render_drawn (d : Diagnostic) : (d.render p).value.toList = flat (diagnosticCells p d) := by
  simp only [Diagnostic.render, render, subject, part, text_log]
  exact (diagnostic_drawn p d).chars

end
end Caret.Drawing
