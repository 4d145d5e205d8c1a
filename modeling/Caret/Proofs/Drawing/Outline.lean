import Caret.Proofs.Drawing.Rows

/-!
A drawing as a list of rows. A row is known with all that stands in it, and the outline of a block
or a diagnostic lists its rows in order, each line compared with the one before it. Main statement:
what is drawn is the rows of the outline, each ended by a line feed. Whether a row holds further
line feeds is not decided here.
-/
namespace Caret.Drawing

inductive Row where
  | header (level : Level) (message : String)
  | location (place : Location)
  | blank (width : Nat)
  | ellipsis
  | code (width : Nat) (line : Line)
  | underline (width : Nat) (marker : Marker)
  | help (message : String)
  | note (indent : Option Nat) (message : String)
  deriving DecidableEq, Repr

def neighbours (ls : List Line) : List (Option Line × Line) := (none :: ls.map some).zip ls

def apart : Option Line × Line → Bool
  | (none, _) => false
  | (some before, l) => l.number != before.number + 1

def lineRows (width : Nat) (pair : Option Line × Line) : List Row :=
  (if apart pair then [.ellipsis] else []) ++
    .code width pair.2 :: (pair.2.marker.map (Row.underline width)).toList

def closes (extend : Bool) (e : Excerpt) : Bool :=
  extend || e.lines.isEmpty || e.lines.getLast?.any fun l => l.marker.isNone

def excerptRows (extend : Bool) (e : Excerpt) : List Row :=
  .blank e.width :: ((neighbours e.lines).flatMap (lineRows e.width) ++
    if closes extend e then [.blank e.width] else [])

def helpRows (h : Help) : List Row :=
  .help h.message :: match h.suggestion with
    | none => []
    | some e => excerptRows false e

def noteWidth (d : Diagnostic) : Option Nat :=
  match d.level with
  | .error _ => none
  | .warning => some d.excerpt.width

def diagnosticRows (d : Diagnostic) : List Row :=
  .header d.level d.message :: .location d.location ::
    (excerptRows (d.helps.isEmpty && d.notes.isEmpty) d.excerpt ++
      d.helps.flatMap helpRows ++ d.notes.map (.note (noteWidth d)))

section
variable (p : Palette)

def Row.cells : Row → List Cell
  | header level message =>
    [⟨.bold, ""⟩, ⟨.color (levelColor p level), level.label⟩, ⟨.reset, ""⟩,
      ⟨.bold, ": " ++ message⟩, ⟨.reset, ""⟩]
  | location place => [⟨.color p.location, " --> "⟩, ⟨.reset, place.spelling⟩]
  | blank width => gutterCells p (Gutter.spaces width ++ " |") ""
  | ellipsis => gutterCells p "..." ""
  | code width l =>
    match inlineMarker l with
    | none => gutterCells p (numberText width l) l.text
    | some m =>
      let cs := l.text.toList
      gutterCells p (numberText width l) (slice cs 0 m.span.first) ++
        [⟨.color m.color, slice cs m.span.first m.span.width⟩,
          ⟨.reset, String.ofList (cs.drop (m.span.last + 1))⟩]
  | underline width m =>
    gutterCells p (Gutter.spaces width ++ " | ") "" ++
      [⟨.bold, ""⟩, ⟨.color m.color, underlining m⟩, ⟨.reset, ""⟩]
  | help message => [⟨.bold, ""⟩, ⟨.color p.help, "help"⟩, ⟨.reset, ": " ++ message⟩]
  | note indent message =>
    (match indent with
      | none => []
      | some width => gutterCells p (Gutter.spaces width ++ " = ") "") ++
      [⟨.bold, "note"⟩, ⟨.reset, ": " ++ message⟩]

def Row.chars (r : Row) : List Char := flat (r.cells p)

def stacked (rows : List Row) : List Char := rows.flatMap fun r => r.chars p ++ ['\n']

theorem stacked_append (a b : List Row) : stacked p (a ++ b) = stacked p a ++ stacked p b :=
  List.flatMap_append

theorem stacked_cons (r : Row) (rows : List Row) :
    stacked p (r :: rows) = r.chars p ++ '\n' :: stacked p rows := by
  simp [stacked]

def ended : List Cell → List Cell
  | [] => []
  | [c] => [⟨c.escape, c.text ++ "\n"⟩]
  | c :: d :: rest => c :: ended (d :: rest)

theorem flat_ended {cells : List Cell} (row : cells ≠ []) :
    flat (ended cells) = flat cells ++ ['\n'] := by
  induction cells with
  | nil => exact absurd rfl row
  | cons c cells ih =>
    cases cells with
    | nil => simp [ended, flat, Cell.chars]
    | cons d cells =>
      rw [ended, flat_cons, flat_cons, ih (List.cons_ne_nil _ _), List.append_assoc]

def rowCells (rows : List Row) : List Cell := rows.flatMap fun r => ended (r.cells p)

theorem rows_append (a b : List Row) : rowCells p (a ++ b) = rowCells p a ++ rowCells p b :=
  List.flatMap_append

theorem rows_flatMap {α : Type} (rows : α → List Row) (xs : List α) :
    rowCells p (xs.flatMap rows) = xs.flatMap fun x => rowCells p (rows x) :=
  List.flatMap_assoc

theorem flat_rows (rows : List Row) : flat (rowCells p rows) = stacked p rows := by
  have each (r : Row) : flat (ended (r.cells p)) = r.chars p ++ ['\n'] := by
    refine flat_ended ?_
    cases r with
    | code width l => cases inline : inlineMarker l <;> simp [Row.cells, inline, gutterCells]
    | note indent message => cases indent <;> simp [Row.cells, gutterCells]
    | _ => simp [Row.cells, gutterCells]
  rw [flat, rowCells, List.flatMap_assoc, stacked]
  exact List.flatMap_congr fun r _ => each r

theorem blank_row (width : Nat) : blankCells p width = rowCells p [.blank width] := by
  simp [rowCells, Row.cells, blankCells, gutterCells, ended]

theorem ellipsis_row : ellipsisCells p = rowCells p [.ellipsis] := by
  simp [rowCells, Row.cells, ellipsisCells, gutterCells, ended]

theorem code_row (width : Nat) (l : Line) : codeCells p width l = rowCells p [.code width l] := by
  cases inline : inlineMarker l <;>
    simp [rowCells, Row.cells, codeCells, inline, gutterCells, ended]

theorem underline_row (width : Nat) (m : Marker) :
    underlineCells p width m = rowCells p [.underline width m] := by
  simp [rowCells, Row.cells, underlineCells, markerCells, gutterCells, ended]

theorem note_row (indent : Option Nat) (message : String) :
    noteCells p (indent.map Int.ofNat) message = rowCells p [.note indent message] := by
  cases indent <;> simp [rowCells, Row.cells, noteCells, gutterCells, ended]

theorem head_rows (d : Diagnostic) :
    headCells p d = rowCells p [.header d.level d.message, .location d.location] := by
  simp [rowCells, Row.cells, headCells, ended]

theorem gap_apart (before : Option Line) (l : Line) :
    gap (before.map Line.number) l.number = apart (before, l) := by
  cases before with
  | none => rfl
  | some b =>
    simp only [gap, apart, Option.map_some, Option.any_some]
    exact bne_comm

theorem line_rows (width : Nat) (l : Line) : lineCells p width l =
    rowCells p (.code width l :: (l.marker.map (Row.underline width)).toList) := by
  unfold lineCells
  rw [code_row]
  cases l.marker with
  | none => exact List.append_nil _
  | some m =>
    simp only [underline_row]
    exact (rows_append p [_] [_]).symm

theorem neighbour_rows (width : Nat) (before : Option Line) (l : Line) :
    (if gap (before.map Line.number) l.number then ellipsisCells p else []) ++
      lineCells p width l = rowCells p (lineRows width (before, l)) := by
  rw [gap_apart, line_rows, lineRows, rows_append]
  congr 1
  cases apart (before, l) with
  | false => rfl
  | true => exact ellipsis_row p

theorem lines_rows (width : Nat) (before : Option Line) (ls : List Line) :
    linesCells p width (before.map Line.number) ls =
      rowCells p (((before :: ls.map some).zip ls).flatMap (lineRows width)) := by
  -- The loop hands on the number of a line, the outline the line itself.
  induction ls generalizing before with
  | nil => rfl
  | cons l ls ih =>
    rw [linesCells, neighbour_rows, List.map_cons, List.zip_cons_cons, List.flatMap_cons, rows_append]
    exact congrArg _ (ih (some l))

theorem closes_drawn (extend : Bool) (e : Excerpt) :
    (extend || !e.endsMarked) = closes extend e := by
  have ends : (!e.endsMarked) =
      (e.lines.isEmpty || e.lines.getLast?.any fun l => l.marker.isNone) := by
    unfold Excerpt.endsMarked
    cases last : e.lines.getLast? with
    | none =>
      rw [List.getLast?_eq_none_iff.mp last]
      rfl
    | some l =>
      have some_line : e.lines ≠ [] := by
        intro empty
        simp [empty] at last
      simp [some_line]
  rw [ends, closes, Bool.or_assoc]

theorem excerpt_rows (extend : Bool) (e : Excerpt) :
    excerptCells p extend e = rowCells p (excerptRows extend e) := by
  have closing : (if closes extend e then blankCells p e.width else []) =
      rowCells p (if closes extend e then [.blank e.width] else []) := by
    cases closes extend e with
    | false => rfl
    | true => exact blank_row p e.width
  have lines := lines_rows p e.width none e.lines
  rw [Option.map_none] at lines
  rw [excerptCells, closes_drawn, closing, lines, blank_row, ← rows_append, ← rows_append,
    excerptRows, neighbours, List.append_assoc, List.singleton_append]

theorem label_row (message : String) :
    [⟨.bold, ""⟩, ⟨.color p.help, "help"⟩, ⟨.reset, ": " ++ message ++ "\n"⟩] =
      rowCells p [.help message] := by
  simp [rowCells, Row.cells, ended]

theorem help_rows (h : Help) : helpCells p h = rowCells p (helpRows h) := by
  obtain ⟨message, suggestion⟩ := h
  rw [helpCells, label_row]
  cases suggestion with
  | none => exact List.append_nil _
  | some e =>
    simp only [excerpt_rows]
    exact (rows_append p [_] _).symm

def bodyRows (d : Diagnostic) : List Row :=
  .header d.level d.message :: .location d.location ::
    (excerptRows (d.helps.isEmpty && d.notes.isEmpty) d.excerpt ++ d.helps.flatMap helpRows)

theorem diagnostic_rows_split (d : Diagnostic) :
    diagnosticRows d = bodyRows d ++ d.notes.map (.note (noteWidth d)) := by
  simp [diagnosticRows, bodyRows]

theorem diagnostic_rows (d : Diagnostic) :
    diagnosticCells p d = rowCells p (diagnosticRows d) := by
  have helps : d.helps.flatMap (helpCells p) = rowCells p (d.helps.flatMap helpRows) := by
    rw [rows_flatMap]
    exact List.flatMap_congr fun h _ => help_rows p h
  have indent : noteIndent d = (noteWidth d).map Int.ofNat := by
    unfold noteIndent noteWidth
    cases d.level <;> rfl
  have notes : d.notes.flatMap (noteCells p (noteIndent d)) =
      rowCells p (d.notes.map (.note (noteWidth d))) := by
    rw [indent, rowCells, List.flatMap_map]
    refine List.flatMap_congr fun n _ => ?_
    rw [note_row, rowCells, List.flatMap_singleton]
  rw [diagnosticCells, head_rows, excerpt_rows, helps, notes, ← rows_append, ← rows_append,
    ← rows_append]
  rfl

theorem render_rows (d : Diagnostic) :
    (d.render p).value.toList = stacked p (diagnosticRows d) := by
  rw [render_drawn, diagnostic_rows, flat_rows]

theorem render_excerpt_rows (extend : Bool) (e : Excerpt) :
    (render p extend (.excerpt e)).value.toList = stacked p (excerptRows extend e) := by
  simp only [render, subject, part, text_log]
  rw [(excerpt_drawn p extend e).chars, excerpt_rows, flat_rows]

end
end Caret.Drawing
