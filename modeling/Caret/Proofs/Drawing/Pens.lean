import Caret.Proofs.Drawing.Parts
import Caret.Proofs.Terminal

/-!
Drawings on a terminal. Each row is said here glyph by glyph, with the pen that its characters are
shown in. Every row starts in the pen of the terminal and leaves it so, and the row of a code line
uses another pen behind its gutter only where a marker colours the code. Main statement: a drawing
whose texts hold no escape character shows these rows and leaves no style behind. Texts with a line
feed are covered, but then a feed may stand within a style.
-/
namespace Caret
open Terminal

/-- The pen for the character of a code line at an index. A marker that colours its code does so
from the first to the last character of its span, if the line has them all. -/
def Line.penAt (l : Line) (k : Nat) : Pen :=
  match l.marker with
  | none => {}
  | some m =>
    if m.inline ∧ m.span.last < l.text.length ∧ m.span.first ≤ k ∧ k ≤ m.span.last then
      { color := some m.color }
    else {}

def Line.glyphs (l : Line) : List Glyph := l.text.toList.mapIdx fun k c => ⟨c, l.penAt k⟩

def Marker.pen (m : Marker) : Pen := ⟨true, some m.color⟩

namespace Drawing

def feed : Glyph := ⟨'\n', {}⟩

def rulePen (p : Palette) : Pen := ⟨true, some p.location⟩

section
variable (p : Palette)

def Row.glyphs : Row → List Glyph
  | header level message =>
    penned ⟨true, some (levelColor p level)⟩ level.label.toList ++
      penned ⟨true, none⟩ (": " ++ message).toList
  | location place =>
    penned ⟨false, some p.location⟩ " --> ".toList ++ penned {} place.spelling.toList
  | blank width => penned (rulePen p) (Gutter.spaces width ++ " |").toList
  | ellipsis => penned (rulePen p) "...".toList
  | code width l => penned (rulePen p) (numberText width l).toList ++ l.glyphs
  | underline width m =>
    penned (rulePen p) (Gutter.spaces width ++ " | ").toList ++ penned m.pen (underlining m).toList
  | help message =>
    penned ⟨true, some p.help⟩ "help".toList ++ penned {} (": " ++ message).toList
  | note indent message =>
    (match indent with
      | none => []
      | some width => penned (rulePen p) (Gutter.spaces width ++ " = ").toList) ++
      penned ⟨true, none⟩ "note".toList ++ penned {} (": " ++ message).toList

def Part.glyphs (extend : Bool) : Part → List Glyph
  | .marker m => penned m.pen (underlining m).toList ++ [feed]
  | x => (x.rows extend).flatMap fun r => r.glyphs p ++ [feed]

end

def inked : Pen → List Cell → Screen
  | pen, [] => ⟨[], pen⟩
  | pen, c :: rest =>
    let after := inked (pen.turn c.escape) rest
    ⟨penned (pen.turn c.escape) c.text.toList ++ after.glyphs, after.pen⟩

theorem display_cells (pen : Pen) {cells : List Cell} (clean : Clean cells) (rest : List Char) :
    displayFrom 0 pen (flat cells ++ rest) =
      ⟨(inked pen cells).glyphs ++ (displayFrom 0 (inked pen cells).pen rest).glyphs,
        (displayFrom 0 (inked pen cells).pen rest).pen⟩ := by
  induction cells generalizing pen with
  | nil => rfl
  | cons c cells ih =>
    have later := ih (pen.turn c.escape) fun x member => clean x (List.mem_cons_of_mem _ member)
    rw [flat_cons, Cell.chars, List.append_assoc, List.append_assoc, display_escape,
      display_text _ (clean c List.mem_cons_self), later, ← List.append_assoc]
    rfl

theorem inked_chars (pen : Pen) (cells : List Cell) :
    (inked pen cells).glyphs.map Glyph.char = cells.flatMap fun c => c.text.toList := by
  induction cells generalizing pen with
  | nil => rfl
  | cons c cells ih =>
    rw [inked, List.map_append, penned_chars, ih, List.flatMap_cons]

section
variable (p : Palette)

theorem gutter_inked (s behind : String) (rest : List Cell) :
    inked {} (gutterCells p s behind ++ rest) =
      ⟨penned (rulePen p) s.toList ++ (penned {} behind.toList ++ (inked {} rest).glyphs),
        (inked {} rest).pen⟩ := by
  simp [gutterCells, inked, Pen.turn, penned, rulePen]

theorem rule_inked (s behind : String) : inked {} (gutterCells p s behind) =
    ⟨penned (rulePen p) s.toList ++ penned {} behind.toList, {}⟩ := by
  have shown := gutter_inked p s behind []
  rw [List.append_nil] at shown
  rw [shown, inked, List.append_nil]

theorem one_pen {pen : Pen} {penAt : Nat → Pen} {cs : List Char}
    (same : ∀ k, k < cs.length → penAt k = pen) :
    cs.mapIdx (fun k c => (⟨c, penAt k⟩ : Glyph)) = penned pen cs := by
  refine List.ext_getElem (by simp [penned]) ?_
  intro k within _
  rw [List.length_mapIdx] at within
  simp [penned, same k within]

theorem plain_glyphs {l : Line} (unmarked : inlineMarker l = none) :
    l.glyphs = penned {} l.text.toList := by
  refine one_pen fun k _ => ?_
  unfold Line.penAt
  cases marked : l.marker with
  | none => rfl
  | some m =>
    unfold inlineMarker at unmarked
    rw [marked, Option.filter_some] at unmarked
    have unfit : ¬ (m.inline = true ∧ m.span.last < l.text.length) := by
      simpa [Span.fits] using unmarked
    exact if_neg fun fits => unfit ⟨fits.1, fits.2.1⟩

theorem marked_glyphs {l : Line} {m : Marker} (marked : inlineMarker l = some m) :
    l.glyphs = penned {} (slice l.text.toList 0 m.span.first).toList ++
      (penned { color := some m.color }
        (slice l.text.toList m.span.first m.span.width).toList ++
      penned {} (l.text.toList.drop (m.span.last + 1))) := by
  obtain ⟨given, fits⟩ := Option.filter_eq_some_iff.mp marked
  obtain ⟨inline, within⟩ : m.inline = true ∧ m.span.last < l.text.length := by
    simpa [Span.fits] using fits
  have ordered := m.span.ordered
  have pens (k : Nat) : l.penAt k =
      if m.span.first ≤ k ∧ k ≤ m.span.last then { color := some m.color } else {} := by
    simp [Line.penAt, given, inline, within]
  have joined := congrArg String.toList (slices_joined l.text.toList m.span)
  simp only [String.toList_append, String.toList_ofList] at joined
  rw [← String.length_toList] at within
  have before : (slice l.text.toList 0 m.span.first).toList.length = m.span.first := by
    simp only [slice, String.toList_ofList, List.length_take, List.length_drop]
    omega
  have inside : (slice l.text.toList m.span.first m.span.width).toList.length = m.span.width := by
    simp only [slice, String.toList_ofList, List.length_take, List.length_drop, Span.width]
    omega
  have width : m.span.width = m.span.last - m.span.first + 1 := rfl
  unfold Line.glyphs
  conv => lhs; rw [← joined]
  rw [List.append_assoc, List.mapIdx_append, List.mapIdx_append, before, inside]
  refine congrArg₂ (· ++ ·) (one_pen ?_) (congrArg₂ (· ++ ·) (one_pen ?_) (one_pen ?_))
  · intro k below
    rw [pens, if_neg (by omega)]
  · intro k below
    rw [pens, if_pos (by omega)]
  · intro k below
    rw [pens, if_neg (by omega)]

theorem code_inked (width : Nat) (l : Line) :
    inked {} ((Row.code width l).cells p) = ⟨(Row.code width l).glyphs p, {}⟩ := by
  cases marked : inlineMarker l with
  | none => simp only [Row.cells, Row.glyphs, marked, rule_inked, plain_glyphs marked]
  | some m =>
    simp only [Row.cells, Row.glyphs, marked, gutter_inked, marked_glyphs marked, inked, Pen.turn,
      String.toList_ofList, List.append_nil]

/-- A row that starts in the pen of the terminal shows its glyphs and ends in that pen. -/
theorem row_inked (r : Row) : inked {} (r.cells p) = ⟨r.glyphs p, {}⟩ := by
  have gutter (s : String) : inked {} (gutterCells p s "") = ⟨penned (rulePen p) s.toList, {}⟩ := by
    rw [rule_inked]
    exact congrArg (Screen.mk · {}) (List.append_nil _)
  cases r with
  | header level message => simp [Row.cells, Row.glyphs, inked, Pen.turn, penned]
  | location place => simp [Row.cells, Row.glyphs, inked, Pen.turn]
  | blank width => exact gutter _
  | ellipsis => exact gutter _
  | code width l => exact code_inked p width l
  | underline width m =>
    simp [Row.cells, Row.glyphs, gutter_inked, inked, Pen.turn, penned, Marker.pen]
  | help message => simp [Row.cells, Row.glyphs, inked, Pen.turn, penned]
  | note indent message =>
    cases indent with
    | none => simp [Row.cells, Row.glyphs, inked, Pen.turn]
    | some width => simp [Row.cells, Row.glyphs, gutter_inked, inked, Pen.turn, penned]

theorem row_glyphs_chars (r : Row) : (r.glyphs p).map Glyph.char = r.shown := by
  have chars := inked_chars {} (r.cells p)
  rw [row_inked, shown_cells] at chars
  exact chars

theorem display_stacked {rows : List Row} (plain : ∀ r ∈ rows, r.Lacks Style.esc) :
    displayFrom 0 {} (stacked p rows) = ⟨rows.flatMap fun r => r.glyphs p ++ [feed], {}⟩ := by
  induction rows with
  | nil => rfl
  | cons r rows ih =>
    have clean : Clean (r.cells p) := row_lacks p (by decide) (plain r List.mem_cons_self)
    have later := ih fun x member => plain x (List.mem_cons_of_mem _ member)
    have fed (rest : List Char) := display_text {} (by decide : Style.esc ∉ ['\n']) rest
    rw [stacked_cons, Row.chars, display_cells {} clean, row_inked, ← List.singleton_append, fed,
      later, List.flatMap_cons, List.append_assoc]
    rfl

theorem part_displayed (extend : Bool) {x : Part} (plain : x.Lacks Style.esc) :
    display (render p extend x).value = ⟨x.glyphs p extend, {}⟩ := by
  rw [display, render_cells]
  have rows := display_stacked p (part_rows_lack extend plain)
  rw [← flat_rows] at rows
  cases x with
  | marker m =>
    have clean : Clean (markerCells m) :=
      bare_cons (by decide) (bare_cons (underline_lacks (by decide) plain)
        (bare_cons (by decide) bare_nil))
    have shown := display_cells {} clean []
    rw [List.append_nil] at shown
    rw [Part.cells, shown]
    simp [markerCells, inked, displayFrom, Pen.turn, penned, Part.glyphs, Marker.pen, feed]
  | _ => exact rows

theorem row_feeds {r : Row} (plain : r.Lacks '\n') {g : Glyph} (member : g ∈ r.glyphs p) :
    g.char ≠ '\n' := by
  have shown : g.char ∈ r.shown := by
    rw [← row_glyphs_chars p]
    exact List.mem_map_of_mem member
  rw [← shown_cells p] at shown
  obtain ⟨x, listed, inside⟩ := List.mem_flatMap.mp shown
  intro fed
  rw [fed] at inside
  exact row_lacks p (by decide) plain x listed inside

theorem part_feeds (extend : Bool) {x : Part} (plain : x.Lacks '\n') {g : Glyph}
    (member : g ∈ x.glyphs p extend) (fed : g.char = '\n') : g.pen = {} := by
  have ends {front : List Glyph} (others : ∀ h ∈ front, h.char ≠ '\n')
      (listed : g ∈ front ++ [feed]) : g.pen = {} := by
    rcases List.mem_append.mp listed with early | last
    · exact absurd fed (others g early)
    · obtain rfl := List.mem_singleton.mp last
      rfl
  have rows (listed : g ∈ (x.rows extend).flatMap fun r => r.glyphs p ++ [feed]) : g.pen = {} := by
    obtain ⟨r, row, inside⟩ := List.mem_flatMap.mp listed
    exact ends (fun h own => row_feeds p (part_rows_lack extend plain r row) own) inside
  cases x with
  | marker m =>
    refine ends ?_ member
    intro h own
    obtain ⟨c, drawn, rfl⟩ := List.mem_map.mp own
    rintro rfl
    exact underline_lacks (by decide) plain drawn
  | _ => exact rows member

end

theorem line_glyphs_chars (l : Line) : l.glyphs.map Glyph.char = l.text.toList := by
  refine List.ext_getElem (by simp [Line.glyphs]) ?_
  intro k _ _
  simp [Line.glyphs]

/-- A drawing leaves no style behind, and behind its gutter a code line has a style of its own
exactly where a marker colours it. -/
theorem styling_never_leaks (p : Palette) (extend : Bool) (x : Part) (plain : x.Lacks Style.esc) :
    display (render p extend x).value = ⟨x.glyphs p extend, {}⟩ ∧
    (x.Lacks '\n' → ∀ g ∈ (display (render p extend x).value).glyphs, g.char = '\n' → g.pen = {}) ∧
    (display (render p extend x).value).glyphs.map Glyph.char =
      (Style.strip (render p extend x).value).toList ∧
    (x.rows extend).filterMap Row.piece? = x.lines.flatMap pieces ∧
    ∀ width l, .code width l ∈ x.rows extend →
      (Row.code width l).glyphs p = penned (rulePen p) (numberText width l).toList ++ l.glyphs ∧
      l.glyphs.map Glyph.char = l.text.toList ∧
      ∀ k (within : k < l.glyphs.length), l.glyphs[k].pen = l.penAt k := by
  refine ⟨part_displayed p extend plain, ?_, display_strip _, part_rows_pieces extend x, ?_⟩
  · intro fedless g member fed
    rw [part_displayed p extend plain] at member
    exact part_feeds p extend fedless member fed
  · intro width l _
    refine ⟨rfl, line_glyphs_chars l, ?_⟩
    intro k within
    simp [Line.glyphs]

theorem styling_never_leaks_at_ends :
    ∃ inside beyond : Line, ∃ x : Part, x.Lacks Style.esc ∧ x.Lacks '\n' ∧
      x.lines = [inside, beyond] ∧
      (display (render {} true x).value).pen = {} ∧
      (∀ g ∈ (display (render {} true x).value).glyphs, g.char = '\n' → g.pen = {}) ∧
      inside.glyphs = [⟨'a', {}⟩, ⟨'b', { color := some 10 }⟩] ∧
      beyond.glyphs = [⟨'a', {}⟩, ⟨'b', {}⟩] := by
  let inside : Line :=
    ⟨"ab", 7, some ⟨⟨1, 1, by decide⟩, '~', 10, some "m", true⟩, by decide, by decide⟩
  let beyond : Line := ⟨"ab", 9, some ⟨⟨1, 2, by decide⟩, '~', 10, none, true⟩, by decide, by decide⟩
  let h : Help := ⟨"h", some ⟨[inside, beyond]⟩⟩
  have plain : h.Lacks Style.esc := by decide
  have fedless : h.Lacks '\n' := by decide
  obtain ⟨shown, feeds, _⟩ := styling_never_leaks {} true (.help h) plain
  exact ⟨inside, beyond, .help h, plain, fedless, rfl, by rw [shown], feeds fedless, by decide,
    by decide⟩

end Drawing
end Caret
