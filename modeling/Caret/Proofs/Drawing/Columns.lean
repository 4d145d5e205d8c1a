import Caret.Proofs.Drawing.Stripped
import Caret.Proofs.Gutter

namespace Caret.Drawing

/-- A label on the left of the gutter, and the bar behind it. -/
structure Ruled (width : Nat) (label row : List Char) : Prop where
  label : row.take width = label ++ List.replicate (width - label.length) ' '
  bar : row[width + 1]? = some '|'

structure CodeRow (width : Nat) (l : Line) (row : List Char) : Prop where
  gutter : Ruled width (toString l.number).toList row
  code : ∀ k, row[width + 3 + k]? = l.text.toList[k]?

structure UnderlineRow (width : Nat) (m : Marker) (row : List Char) : Prop where
  gutter : Ruled width [] row
  before : ∀ c, width + 3 ≤ c → c < width + 3 + m.span.first → row[c]? = some ' '
  under : ∀ c, width + 3 + m.span.first ≤ c → c ≤ width + 3 + m.span.last → row[c]? = some m.symbol
  behind : row.drop (width + 3 + m.span.last + 1) = underlineTail m

def dots : List Char := "...".toList

/-- The rows of some lines: each line on a row of its own, its underline directly below, and dots
between the lines. -/
inductive LineByLine (width : Nat) : List Line → List (List Char) → Prop where
  | done : LineByLine width [] []
  | dotted {ls : List Line} {rows : List (List Char)} :
      LineByLine width ls rows → LineByLine width ls (dots :: rows)
  | plain {l : Line} {ls : List Line} {row : List Char} {rows : List (List Char)} :
      CodeRow width l row → l.marker = none → LineByLine width ls rows →
      LineByLine width (l :: ls) (row :: rows)
  | marked {l : Line} {m : Marker} {ls : List Line} {row under : List Char}
      {rows : List (List Char)} :
      CodeRow width l row → l.marker = some m → UnderlineRow width m under →
      LineByLine width ls rows → LineByLine width (l :: ls) (row :: under :: rows)

/-- What may stand in a gutter: nothing, or the number of a line. -/
def Labels (ls : List Line) (label : List Char) : Prop :=
  label = [] ∨ ∃ l ∈ ls, label = (toString l.number).toList

structure Aligned (e : Excerpt) (rows : List (List Char)) : Prop where
  gutters : ∀ row ∈ rows, row ≠ dots → ∃ label, Labels e.lines label ∧ Ruled e.width label row
  lines : ∃ first middle last, rows = first :: (middle ++ last) ∧ Ruled e.width [] first ∧
    LineByLine e.width e.lines middle ∧ ∀ row ∈ last, Ruled e.width [] row

structure NoteRow (width : Nat) (message : String) (row : List Char) : Prop where
  blank : ∀ c, c ≤ width → row[c]? = some ' '
  sign : row[width + 1]? = some '='
  text : row.drop (width + 2) = " note: ".toList ++ (Style.strip message).toList ++ ['\n']

theorem ruled_row {width : Nat} {label : List Char} (fits : label.length ≤ width)
    (behind : List Char) :
    Ruled width label
      (label ++ List.replicate (width - label.length) ' ' ++ ' ' :: '|' :: behind) := by
  have front : (label ++ List.replicate (width - label.length) ' ').length = width := by
    rw [List.length_append, List.length_replicate]
    omega
  constructor
  · exact List.take_left' front
  · rw [List.getElem?_append_right (by omega), front, Nat.add_sub_cancel_left]
    rfl

theorem behind_bar {front : List Char} {width : Nat} (wide : front.length = width) (c : Nat)
    (rest : List Char) : (front ++ ' ' :: '|' :: ' ' :: rest)[width + 3 + c]? = rest[c]? := by
  rw [List.getElem?_append_right (by omega), wide, Nat.add_assoc, Nat.add_sub_cancel_left,
    Nat.add_comm 3 c]
  rfl

theorem blank_ruled (width : Nat) : Ruled width [] (Row.blank width).shown := by
  have row : Ruled width [] _ := ruled_row (Nat.zero_le width) []
  simpa [Row.shown, spaces_text] using row

theorem code_aligned {width : Nat} {l : Line} (fits : (toString l.number).toList.length ≤ width) :
    CodeRow width l (Row.code width l).shown := by
  let front := (toString l.number).toList ++
    List.replicate (width - (toString l.number).toList.length) ' '
  have wide : front.length = width := by
    rw [List.length_append, List.length_replicate]
    omega
  have row : (Row.code width l).shown = front ++ ' ' :: '|' :: ' ' :: l.text.toList := by
    simp only [Row.shown, numberText, Gutter.padRight, String.toList_append, spaces_text, front,
      String.length_toList, List.append_assoc]
    rfl
  constructor
  · rw [row]
    exact ruled_row fits _
  · intro k
    rw [row, behind_bar wide]

theorem underline_aligned (width : Nat) (m : Marker) :
    UnderlineRow width m (Row.underline width m).shown := by
  have ordered := m.span.ordered
  have span : m.span.width = m.span.last - m.span.first + 1 := rfl
  have wide : (List.replicate width ' ').length = width := List.length_replicate
  let under := List.replicate m.span.first ' ' ++
    (List.replicate m.span.width m.symbol ++ underlineTail m)
  have row : (Row.underline width m).shown =
      List.replicate width ' ' ++ ' ' :: '|' :: ' ' :: under := by
    simp [Row.shown, spaces_text, underline_chars, under]
  have column (c : Nat) (right : width + 3 ≤ c) :
      (Row.underline width m).shown[c]? = under[c - (width + 3)]? := by
    obtain ⟨k, rfl⟩ := Nat.exists_eq_add_of_le right
    rw [row, behind_bar wide, Nat.add_sub_cancel_left]
  refine ⟨?_, ?_, ?_, ?_⟩
  · rw [row]
    exact ruled_row (Nat.zero_le width) _
  · intro c right left
    rw [column c right, List.getElem?_append_left (by simp; omega), List.getElem?_replicate,
      if_pos (by omega)]
  · intro c right left
    rw [column c (by omega), List.getElem?_append_right (by simp; omega), List.length_replicate,
      List.getElem?_append_left (by simp; omega), List.getElem?_replicate, if_pos (by omega)]
  · refine List.ext_getElem? fun k => ?_
    rw [List.getElem?_drop, column _ (by omega), List.getElem?_append_right (by simp; omega),
      List.length_replicate, List.getElem?_append_right (by simp; omega), List.length_replicate]
    congr 1
    omega

theorem lines_aligned {width : Nat} {ls : List Line} (before : Option Line)
    (fits : ∀ l ∈ ls, (toString l.number).toList.length ≤ width) :
    LineByLine width ls
      ((((before :: ls.map some).zip ls).flatMap (lineRows width)).map Row.shown) := by
  -- The line before only decides whether dots come first, which `dotted` allows anywhere.
  induction ls generalizing before with
  | nil => exact .done
  | cons l ls ih =>
    have code := code_aligned (fits l List.mem_cons_self)
    have rest := ih (some l) fun x member => fits x (List.mem_cons_of_mem _ member)
    have own : LineByLine width (l :: ls) ((Row.code width l ::
        ((l.marker.map (Row.underline width)).toList ++
          ((some l :: ls.map some).zip ls).flatMap (lineRows width))).map Row.shown) := by
      cases marker : l.marker with
      | none => exact .plain code marker rest
      | some m => exact .marked code marker (underline_aligned width m) rest
    rw [List.map_cons, List.zip_cons_cons, List.flatMap_cons, lineRows]
    cases apart (before, l) with
    | false => exact own
    | true => exact .dotted own

theorem labels_more {l : Line} {ls : List Line} {label : List Char} (labels : Labels ls label) :
    Labels (l :: ls) label := by
  rcases labels with empty | ⟨x, member, number⟩
  · exact .inl empty
  · exact .inr ⟨x, List.mem_cons_of_mem _ member, number⟩

theorem lines_ruled {width : Nat} {ls : List Line} {rows : List (List Char)}
    (aligned : LineByLine width ls rows) :
    ∀ row ∈ rows, row ≠ dots → ∃ label, Labels ls label ∧ Ruled width label row := by
  induction aligned with
  | done =>
    intro row member
    cases member
  | dotted _ ih =>
    intro row member other
    rcases List.mem_cons.mp member with rfl | below
    · exact absurd rfl other
    · exact ih row below other
  | plain code _ _ ih =>
    intro row member other
    rcases List.mem_cons.mp member with rfl | below
    · exact ⟨_, .inr ⟨_, List.mem_cons_self, rfl⟩, code.gutter⟩
    · obtain ⟨label, labels, ruled⟩ := ih row below other
      exact ⟨label, labels_more labels, ruled⟩
  | marked code _ underline _ ih =>
    intro row member other
    rcases List.mem_cons.mp member with rfl | below
    · exact ⟨_, .inr ⟨_, List.mem_cons_self, rfl⟩, code.gutter⟩
    · rcases List.mem_cons.mp below with rfl | below
      · exact ⟨[], .inl rfl, underline.gutter⟩
      · obtain ⟨label, labels, ruled⟩ := ih row below other
        exact ⟨label, labels_more labels, ruled⟩

theorem excerpt_aligned (extend : Bool) (e : Excerpt) :
    Aligned e ((excerptRows extend e).map Row.shown) := by
  have first := blank_ruled e.width
  have fits : ∀ l ∈ e.lines, (toString l.number).toList.length ≤ e.width := by
    intro l member
    rw [String.length_toList]
    exact Gutter.number_fits member
  have middle := lines_aligned none fits
  have last : ∀ row ∈ (if closes extend e then [Row.blank e.width] else []).map Row.shown,
      Ruled e.width [] row := by
    intro row member
    split at member
    · obtain rfl := List.mem_singleton.mp member
      exact first
    · cases member
  rw [excerptRows, List.map_cons, List.map_append]
  refine ⟨?_, ⟨_, _, _, rfl, first, middle, last⟩⟩
  intro row member other
  rcases List.mem_cons.mp member with rfl | below
  · exact ⟨[], .inl rfl, first⟩
  rcases List.mem_append.mp below with within | closing
  · exact lines_ruled middle row within other
  · exact ⟨[], .inl rfl, last row closing⟩

theorem excerpt_stripped (p : Palette) (extend : Bool) {e : Excerpt} (visible : e.Lacks Style.esc)
    (unbroken : e.Lacks '\n') :
    (Style.strip (render p extend (.excerpt e)).value).toList.splitOn '\n' =
      (excerptRows extend e).map Row.shown ++ [[]] := by
  have whole : ∀ cs ∈ (excerptRows extend e).map Row.shown, '\n' ∉ cs := by
    intro cs member
    obtain ⟨r, listed, rfl⟩ := List.mem_map.mp member
    exact shown_lacks (by decide) (excerpt_rows_lack extend unbroken r listed)
  rw [Style.strip, String.toList_ofList, render_excerpt_rows,
    strip_stacked p (excerpt_rows_lack extend visible), ← Text.ended_cut whole, List.flatMap_map]

theorem stacked_ends (p : Palette) {rows : List Row} (listed : rows ≠ []) :
    ∃ cs, stacked p rows = cs ++ ['\n'] := by
  obtain ⟨front, last, rfl⟩ := List.eq_nil_or_concat rows |>.resolve_left listed
  refine ⟨stacked p front ++ last.chars p, ?_⟩
  rw [List.concat_eq_append, stacked_append, stacked_cons, List.append_assoc]
  rfl

theorem note_stripped (p : Palette) (width : Nat) (message : String) (rest : List Char) :
    Style.stripFrom 0 ((Row.note (some width) message).chars p ++ '\n' :: rest) =
      List.replicate (width + 1) ' ' ++ '=' :: (" note: ".toList ++ (Style.strip message).toList ++
        '\n' :: Style.stripFrom 0 rest) := by
  let before : List Cell := gutterCells p (Gutter.spaces width ++ " = ") "" ++
    [⟨.bold, "note"⟩, ⟨.reset, ": "⟩]
  have control : Style.esc < ' ' := by decide
  have clean : Clean before := by
    refine bare_append (gutter_lacks p control ?_ (by decide)) ?_
    · exact lacks_append (lacks_spaces control width) (by decide)
    · exact bare_cons (by decide) (bare_cons (by decide) bare_nil)
  have chars : (Row.note (some width) message).chars p ++ '\n' :: rest =
      flat before ++ (message.toList ++ '\n' :: rest) := by
    simp [Row.chars, Row.cells, before, flat, Cell.chars]
  have shown : before.flatMap (fun c => c.text.toList) =
      List.replicate (width + 1) ' ' ++ '=' :: " note: ".toList := by
    simp [before, gutterCells, spaces_text, List.replicate_succ']
  have said : (Style.strip message).toList = Style.stripFrom 0 message.toList :=
    String.toList_ofList
  rw [chars, strip_cells clean, shown, Style.strip_ended (Nat.zero_le _), said, List.append_assoc,
    List.cons_append, List.append_assoc]

theorem note_aligned (width : Nat) (message : String) : NoteRow width message
    (List.replicate (width + 1) ' ' ++ '=' :: (" note: ".toList ++ (Style.strip message).toList ++
      ['\n'])) := by
  have wide : (List.replicate (width + 1) ' ').length = width + 1 := List.length_replicate
  constructor
  · intro c left
    rw [List.getElem?_append_left (by omega), List.getElem?_replicate, if_pos (by omega)]
  · rw [List.getElem?_append_right (by omega), wide, Nat.sub_self]
    rfl
  · simp [List.drop_append, wide]

theorem notes_aligned (p : Palette) (width : Nat) (notes : List String) :
    ∃ rows, Style.stripFrom 0 (stacked p (notes.map (.note (some width)))) = rows.flatten ∧
      List.Forall₂ (NoteRow width) notes rows := by
  induction notes with
  | nil => exact ⟨[], rfl, .nil⟩
  | cons n notes ih =>
    obtain ⟨rows, stripped, aligned⟩ := ih
    refine ⟨_ :: rows, ?_, .cons (note_aligned width n) aligned⟩
    rw [List.map_cons, stacked_cons, note_stripped, stripped, List.flatten_cons]
    simp

/-- Where no text of a block holds a line feed or an escape character, and in every warning. -/
theorem columns_line_up :
    (∀ (p : Palette) (extend : Bool) (e : Excerpt), e.Lacks Style.esc → e.Lacks '\n' →
      ∃ rows, (Style.strip (render p extend (.excerpt e)).value).toList.splitOn '\n' =
        rows ++ [[]] ∧ Aligned e rows) ∧
    (∀ (p : Palette) (d : Diagnostic), d.level = .warning →
      ∃ above rows, (Style.strip (d.render p).value).toList = above ++ '\n' :: rows.flatten ∧
        List.Forall₂ (NoteRow d.excerpt.width) d.notes rows) := by
  constructor
  · intro p extend e visible unbroken
    exact ⟨_, excerpt_stripped p extend visible unbroken, excerpt_aligned extend e⟩
  · intro p d warning
    have width : noteWidth d = some d.excerpt.width := by simp [noteWidth, warning]
    have head : bodyRows d ≠ [] := List.cons_ne_nil _ _
    obtain ⟨body, ended⟩ := stacked_ends p head
    obtain ⟨rows, stripped, aligned⟩ := notes_aligned p d.excerpt.width d.notes
    refine ⟨Style.stripFrom 0 body, rows, ?_, aligned⟩
    rw [Style.strip, String.toList_ofList, render_rows, diagnostic_rows_split, stacked_append,
      width, ended, List.append_assoc, List.singleton_append, Style.strip_ended (Nat.zero_le _),
      stripped]

theorem columns_line_up_past_end :
    ∃ (e : Excerpt) (d : Diagnostic), e.lines.map Line.number = [10, 9] ∧ e.width = 2 ∧
      e.Lacks Style.esc ∧ e.Lacks '\n' ∧ d.level = .warning ∧ d.notes = ["a\n\x1b[", "b"] ∧
      (∃ rows, (Style.strip (render {} true (.excerpt e)).value).toList.splitOn '\n' =
        rows ++ [[]] ∧ Aligned e rows) ∧
      ∃ above rows, (Style.strip (d.render {}).value).toList = above ++ '\n' :: rows.flatten ∧
        List.Forall₂ (NoteRow 2) d.notes rows := by
  let e : Excerpt :=
    ⟨[⟨"let", 10, some ⟨⟨1, 6, by decide⟩, ' ', 9, some "", true⟩, by decide, by decide⟩,
      ⟨"", 9, none, by decide, by decide⟩]⟩
  let d : Diagnostic :=
    ⟨.warning, "m", ⟨"p", 7, 1⟩, e, [⟨"h", some ⟨[]⟩⟩], ["a\n\x1b[", "b"]⟩
  have visible : e.Lacks Style.esc := by decide
  have unbroken : e.Lacks '\n' := by decide
  exact ⟨e, d, rfl, by decide, visible, unbroken, rfl, rfl,
    columns_line_up.1 {} true e visible unbroken, columns_line_up.2 {} d rfl⟩

end Caret.Drawing
