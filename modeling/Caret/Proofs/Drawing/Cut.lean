import Mathlib.Algebra.GroupWithZero.Nat
import Caret.Proofs.Drawing.Lacks

namespace Caret.Drawing

def marked (e : Excerpt) : Nat := e.lines.countP fun l => l.marker.isSome

/-- Neighbours whose numbers do not follow on each other. -/
def leaps (e : Excerpt) : Nat :=
  (e.lines.zip e.lines.tail).countP fun pair => pair.2.number != pair.1.number + 1

def blocks (d : Diagnostic) : List (Bool × Excerpt) :=
  (d.helps.isEmpty && d.notes.isEmpty, d.excerpt) ::
    d.helps.filterMap fun h => h.suggestion.map fun e => (false, e)

def blockRows (block : Bool × Excerpt) : Nat :=
  1 + block.2.lines.length + marked block.2 + leaps block.2 +
    if closes block.1 block.2 then 1 else 0

section
variable (p : Palette)

theorem command_printed (e : Style.Escape) : ∀ d ∈ command e, ' ' ≤ d := by
  intro d member
  cases e with
  | bold =>
    simp only [command, List.mem_cons, List.not_mem_nil, or_false] at member
    rcases member with rfl | rfl <;> decide
  | color c =>
    simp only [command, List.mem_append, List.mem_cons, List.not_mem_nil, or_false] at member
    rcases member with ((rfl | rfl | rfl | rfl | rfl) | number) | rfl
    case inl.inr => exact digit_printed (Text.nat_text_digits c.val d number)
    all_goals decide
  | reset =>
    simp only [command, List.mem_cons, List.not_mem_nil, or_false] at member
    rcases member with rfl | rfl <;> decide

section
variable {c : Char}

theorem escape_lacks (control : c < ' ') (other : c ≠ Style.esc) (e : Style.Escape) :
    Lacks c e.text := by
  intro member
  rw [escape_chars, List.mem_cons, List.mem_cons] at member
  rcases member with esc | bracket | behind
  · exact other esc
  · exact absurd control (by rw [bracket]; decide)
  · exact absurd control (Char.not_lt.mpr (command_printed e c behind))

theorem chars_lack (control : c < ' ') (other : c ≠ Style.esc) {r : Row} (plain : r.Lacks c) :
    c ∉ r.chars p := by
  intro member
  obtain ⟨x, shown, inside⟩ := List.mem_flatMap.mp member
  rcases List.mem_append.mp inside with escape | text
  · exact escape_lacks control other x.escape escape
  · exact row_lacks p control plain x shown text

end

theorem chars_unfed {r : Row} (plain : r.Lacks '\n') : '\n' ∉ r.chars p :=
  chars_lack p (by decide) (by decide) plain

theorem stacked_cut {rows : List Row} (plain : ∀ r ∈ rows, r.Lacks '\n') :
    (stacked p rows).splitOn '\n' = rows.map (Row.chars p) ++ [[]] := by
  have whole : ∀ cs ∈ rows.map (Row.chars p), '\n' ∉ cs := by
    intro cs member
    obtain ⟨r, listed, rfl⟩ := List.mem_map.mp member
    exact chars_unfed p (plain r listed)
  rw [← Text.ended_cut whole, List.flatMap_map]
  rfl

theorem line_rows_length (width : Nat) (pair : Option Line × Line) :
    (lineRows width pair).length =
      1 + (if pair.2.marker.isSome then 1 else 0) + if apart pair then 1 else 0 := by
  unfold lineRows
  cases apart pair <;> cases pair.2.marker <;> rfl

theorem pairs_rows_length (width : Nat) (pairs : List (Option Line × Line)) :
    (pairs.flatMap (lineRows width)).length =
      pairs.length + pairs.countP (fun pair => pair.2.marker.isSome) + pairs.countP apart := by
  induction pairs with
  | nil => rfl
  | cons pair pairs ih =>
    rw [List.flatMap_cons, List.length_append, line_rows_length, ih, List.countP_cons,
      List.countP_cons, List.length_cons]
    omega

theorem neighbours_second (ls : List Line) : (neighbours ls).map Prod.snd = ls :=
  List.map_snd_zip (by simp)

theorem neighbours_apart (e : Excerpt) : (neighbours e.lines).countP apart = leaps e := by
  obtain ⟨ls⟩ := e
  cases ls with
  | nil => rfl
  | cons l ls =>
    -- Without the first line, which is never apart, these are the pairs that `leaps` counts.
    have others : neighbours (l :: ls) =
        (none, l) :: ((l :: ls).zip ls).map (Prod.map some id) := by
      rw [neighbours, List.map_cons, List.zip_cons_cons, ← List.map_cons, List.zip_map_left]
    rw [others, List.countP_cons, List.countP_map]
    rfl

theorem excerpt_rows_length (block : Bool × Excerpt) :
    (excerptRows block.1 block.2).length = blockRows block := by
  obtain ⟨extend, e⟩ := block
  have lines : (neighbours e.lines).length = e.lines.length := by
    rw [← List.length_map Prod.snd, neighbours_second]
  have markers : (neighbours e.lines).countP (fun pair => pair.2.marker.isSome) = marked e := by
    conv => rhs; rw [marked, ← neighbours_second e.lines, List.countP_map]
    rfl
  simp only [excerptRows, blockRows, List.length_cons, List.length_append, pairs_rows_length, lines,
    markers, neighbours_apart]
  split <;> simp <;> omega

theorem helps_rows_length (hs : List Help) : (hs.flatMap helpRows).length = hs.length +
    ((hs.filterMap fun h => h.suggestion.map fun e => (false, e)).map blockRows).sum := by
  induction hs with
  | nil => rfl
  | cons h hs ih =>
    obtain ⟨message, suggestion⟩ := h
    cases suggestion with
    | none =>
      simp only [List.flatMap_cons, helpRows, List.length_append, ih, List.filterMap_cons,
        Option.map_none, List.length_cons, List.length_nil]
      omega
    | some e =>
      have block := excerpt_rows_length (false, e)
      simp only [List.flatMap_cons, helpRows, List.length_append, ih, List.filterMap_cons,
        Option.map_some, List.length_cons, List.map_cons, List.sum_cons] at block ⊢
      omega

theorem diagnostic_rows_length (d : Diagnostic) : (diagnosticRows d).length =
    2 + d.notes.length + d.helps.length + ((blocks d).map blockRows).sum := by
  have primary := excerpt_rows_length (d.helps.isEmpty && d.notes.isEmpty, d.excerpt)
  simp only [diagnosticRows, blocks, List.length_cons, List.length_append, List.length_map,
    helps_rows_length, List.map_cons, List.sum_cons] at primary ⊢
  omega

theorem drawing_cut (d : Diagnostic) (plain : d.Lacks '\n') :
    (d.render p).value.toList.splitOn '\n' = (diagnosticRows d).map (Row.chars p) ++ [[]] ∧
      (diagnosticRows d).length =
        2 + d.notes.length + d.helps.length + ((blocks d).map blockRows).sum := by
  rw [render_rows]
  exact ⟨stacked_cut p (diagnostic_rows_lack plain), diagnostic_rows_length d⟩

end

theorem drawing_cut_nested :
    ∃ d : Diagnostic, d.excerpt.lines.map Line.number = [10, 3, 4] ∧
      d.helps.map Help.suggestion = [some ⟨[]⟩, none] ∧ d.Lacks '\n' ∧
      (d.render {}).value.toList.splitOn '\n' = (diagnosticRows d).map (Row.chars {}) ++ [[]] ∧
      (diagnosticRows d).length = 14 := by
  let d : Diagnostic := ⟨.error "E1", "m", ⟨"a:b", 7, 2⟩,
    ⟨[⟨"let x", 10, none, by decide, by decide⟩,
      ⟨"x", 3, some ⟨⟨0, 4, by decide⟩, '^', 9, some "", true⟩, by decide, by decide⟩,
      ⟨"", 4, none, by decide, by decide⟩]⟩,
    [⟨"h", some ⟨[]⟩⟩, ⟨"g", none⟩], ["n"]⟩
  have plain : d.Lacks '\n' := by
    refine ⟨?_, by decide, by decide, by decide, by decide, by decide⟩
    rintro code ⟨⟩
    decide
  obtain ⟨cut, count⟩ := drawing_cut {} d plain
  exact ⟨d, rfl, rfl, plain, cut, count.trans (by decide)⟩

end Caret.Drawing
