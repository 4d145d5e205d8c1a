import Caret.Proofs.Drawing.Lacks
import Caret.Proofs.Drawing.Records

namespace Caret.Drawing

def Part.Lacks (c : Char) : Part → Prop
  | .diagnostic d => d.Lacks c
  | .excerpt e => e.Lacks c
  | .help h => h.Lacks c
  | .line l => l.Lacks c
  | .marker m => m.Lacks c
  | .note message => Caret.Lacks c message

def Part.rows (extend : Bool) : Part → List Row
  | .diagnostic d => diagnosticRows d
  | .excerpt e => excerptRows extend e
  | .help h => .help h.message :: match h.suggestion with
    | none => []
    | some e => excerptRows extend e
  | .line l =>
    .code (Gutter.columns l.number) l ::
      (l.marker.map (Row.underline (Gutter.columns l.number))).toList
  | .marker _ => []
  | .note message => [.note none message]

def Part.cells (p : Palette) (extend : Bool) : Part → List Cell
  | .marker m => markerCells m
  | x => rowCells p (x.rows extend)

/-- What a row takes from a line of code: the code itself or its underline. -/
inductive Piece where
  | code (line : Line)
  | underline (marker : Marker)
  deriving DecidableEq, Repr

def Row.piece? : Row → Option Piece
  | code _ l => some (.code l)
  | underline _ m => some (.underline m)
  | _ => none

section
variable (p : Palette) (extend : Bool)

theorem part_drawn (x : Part) : Draws (part p extend x) (x.cells p extend) := by
  cases x with
  | diagnostic d =>
    have drawn := diagnostic_drawn p d
    rw [diagnostic_rows] at drawn
    exact drawn
  | excerpt e =>
    have drawn := excerpt_drawn p extend e
    rw [excerpt_rows] at drawn
    exact drawn
  | help h =>
    obtain ⟨message, suggestion⟩ := h
    have label := label_drawn p message
    rw [label_row] at label
    cases suggestion with
    | none => exact label
    | some e =>
      have below := excerpt_drawn p extend e
      rw [excerpt_rows] at below
      have whole := draws_append label below
      rw [← rows_append] at whole
      exact whole
  | line l =>
    have drawn := line_drawn p (Gutter.columns l.number) l
    rw [line_rows] at drawn
    exact drawn
  | marker m => exact marker_drawn m
  | note message =>
    have drawn := note_drawn p none message
    have rows := note_row p none message
    rw [Option.map_none] at rows
    rw [rows] at drawn
    exact drawn

theorem render_cells (x : Part) : (render p extend x).value.toList = flat (x.cells p extend) := by
  simp only [render, subject, text_log]
  exact (part_drawn p extend x).chars

end

section
variable {c : Char} (extend : Bool)

theorem part_rows_lack {x : Part} (plain : x.Lacks c) : ∀ r ∈ x.rows extend, r.Lacks c := by
  cases x with
  | diagnostic d => exact diagnostic_rows_lack plain
  | excerpt e => exact excerpt_rows_lack extend plain
  | help h =>
    obtain ⟨message, suggestion⟩ := h
    intro r member
    rcases List.mem_cons.mp member with rfl | later
    · exact plain.message
    cases suggestion with
    | none => cases later
    | some e => exact excerpt_rows_lack extend (plain.suggestion e rfl) r later
  | line l =>
    intro r member
    rcases List.mem_cons.mp member with rfl | below
    · exact plain.text
    · obtain ⟨m, marked, rfl⟩ := Option.map_eq_some_iff.mp (Option.mem_toList.mp below)
      exact plain.marker m marked
  | marker m =>
    intro r member
    cases member
  | note message =>
    intro r member
    obtain rfl := List.mem_singleton.mp member
    exact plain

end

def pieces (l : Line) : List Piece := .code l :: (l.marker.map Piece.underline).toList

theorem line_rows_pieces (width : Nat) (pair : Option Line × Line) :
    (lineRows width pair).filterMap Row.piece? = pieces pair.2 := by
  unfold lineRows pieces
  cases apart pair <;> cases pair.2.marker <;> rfl

theorem excerpt_rows_pieces (extend : Bool) (e : Excerpt) :
    (excerptRows extend e).filterMap Row.piece? = e.lines.flatMap pieces := by
  have closing : (if closes extend e then [Row.blank e.width] else []).filterMap Row.piece? = [] := by
    cases closes extend e <;> rfl
  have lines (pairs : List (Option Line × Line)) :
      (pairs.flatMap (lineRows e.width)).filterMap Row.piece? =
        (pairs.map Prod.snd).flatMap pieces := by
    induction pairs with
    | nil => rfl
    | cons pair pairs ih =>
      rw [List.flatMap_cons, List.filterMap_append, line_rows_pieces, ih]
      rfl
  have seconds : (neighbours e.lines).map Prod.snd = e.lines := List.map_snd_zip (by simp)
  have opening : Row.piece? (.blank e.width) = none := rfl
  rw [excerptRows, List.filterMap_cons_none opening, List.filterMap_append, lines, seconds, closing,
    List.append_nil]

theorem help_rows_pieces (extend : Bool) (h : Help) :
    (Part.rows extend (.help h)).filterMap Row.piece? = h.lines.flatMap pieces := by
  obtain ⟨message, suggestion⟩ := h
  cases suggestion with
  | none => rfl
  | some e => exact excerpt_rows_pieces extend e

theorem diagnostic_rows_pieces (d : Diagnostic) : (diagnosticRows d).filterMap Row.piece? =
    (d.excerpt.lines ++ d.helps.flatMap Help.lines).flatMap pieces := by
  have helps (hs : List Help) : (hs.flatMap helpRows).filterMap Row.piece? =
      (hs.flatMap Help.lines).flatMap pieces := by
    induction hs with
    | nil => rfl
    | cons h hs ih =>
      have first : (helpRows h).filterMap Row.piece? = h.lines.flatMap pieces :=
        help_rows_pieces false h
      rw [List.flatMap_cons, List.filterMap_append, first, ih, List.flatMap_cons,
        List.flatMap_append]
  have notes (indent : Option Nat) (messages : List String) :
      (messages.map (Row.note indent)).filterMap Row.piece? = [] := by
    rw [List.filterMap_map]
    exact List.filterMap_eq_nil_iff.mpr fun _ _ => rfl
  unfold diagnosticRows
  rw [List.filterMap_cons_none rfl, List.filterMap_cons_none rfl, List.filterMap_append,
    List.filterMap_append, excerpt_rows_pieces, helps, notes, List.append_nil, List.flatMap_append]

/-- The rows of a part show its lines, and no others. -/
theorem part_rows_pieces (extend : Bool) (x : Part) :
    (x.rows extend).filterMap Row.piece? = x.lines.flatMap pieces := by
  cases x with
  | diagnostic d => exact diagnostic_rows_pieces d
  | excerpt e => exact excerpt_rows_pieces extend e
  | help h => exact help_rows_pieces extend h
  | line l =>
    rw [Part.lines, List.flatMap_singleton]
    exact line_rows_pieces (Gutter.columns l.number) (none, l)
  | marker m => rfl
  | note message => rfl

end Caret.Drawing
