import Caret.Drawing.Rows
import Caret.Proofs.Text.Split
import Caret.Text.Numeral
import Mathlib.Algebra.Group.Nat.Defs
import Mathlib.Order.Nat

namespace Caret.Gutter

theorem columns_digits (n : Int) : columns n = (Nat.toDigits 10 n.natAbs).length := by
  rw [columns, ← Text.nat_text, String.length_toList]

theorem columns_pos (n : Int) : 0 < columns n := by
  rw [columns_digits]
  exact List.length_pos_iff.mpr Nat.toDigits_ne_nil

section
variable {m n : Int} {w : Nat}

theorem columns_le_iff (n : Int) (column : 0 < w) : columns n ≤ w ↔ n.natAbs < 10 ^ w := by
  rw [columns_digits]
  exact Nat.length_toDigits_le_iff (by decide) column

end

section
variable {ms ns : List Int} {w : Nat}

theorem block_columns_le_iff (ns : List Int) :
    blockColumns ns ≤ w ↔ 1 ≤ w ∧ ∀ n ∈ ns, columns n ≤ w := by
  induction ns with
  | nil => simp [blockColumns]
  | cons n ns ih =>
    have step : blockColumns (n :: ns) = max (columns n) (blockColumns ns) := rfl
    rw [step, Nat.max_le, ih, List.forall_mem_cons, and_left_comm]

theorem block_columns_bound {n : Int} (member : n ∈ ns) : columns n ≤ blockColumns ns :=
  ((block_columns_le_iff ns).mp (Nat.le_refl _)).2 n member

end

theorem number_fits {e : Excerpt} {l : Line} (member : l ∈ e.lines) :
    (toString l.number).length ≤ e.width := by
  have numbered : (l.number : Int) ∈ e.numbers := List.mem_map_of_mem member
  have bound := block_columns_bound numbered
  rwa [columns, Int.natAbs_natCast] at bound

theorem width_columns (n : Int) :
    width n = if columns n ≤ Text.maxDigits then some (columns n) else none := by
  have digits : (toString (n.natAbs : Int).natAbs).length = columns n := by
    rw [Int.natAbs_natCast]
    rfl
  unfold width Text.writeInteger?
  rw [digits]
  by_cases short : columns n ≤ Text.maxDigits
  · rw [if_neg (Nat.not_lt_of_le short), if_pos short]
    rfl
  · rw [if_pos (Nat.lt_of_not_le short), if_neg short]
    rfl

theorem short_iff (n : Int) : columns n ≤ Text.maxDigits ↔ n.natAbs < 10 ^ Text.maxDigits :=
  columns_le_iff n (by decide)

theorem width_some_iff {n : Int} {w : Nat} :
    width n = some w ↔ n.natAbs < 10 ^ Text.maxDigits ∧ columns n = w := by
  rw [width_columns, ← short_iff]
  by_cases short : columns n ≤ Text.maxDigits
  · rw [if_pos short, Option.some_inj]
    exact (and_iff_right short).symm
  · rw [if_neg short]
    simp [short]

theorem block_width_some_iff {ns : List Int} {w : Nat} : blockWidth ns = some w ↔
    (∀ n ∈ ns, n.natAbs < 10 ^ Text.maxDigits) ∧ blockColumns ns = w := by
  induction ns generalizing w with
  | nil => simp [blockWidth, blockColumns]
  | cons n ns ih =>
    have step : blockWidth (n :: ns) =
        (width n).bind fun v => (blockWidth ns).map fun w => max v w := by
      unfold blockWidth
      rw [List.mapM_cons]
      cases width n with
      | none => rfl
      | some v => cases ns.mapM width <;> rfl
    have columns_step : blockColumns (n :: ns) = max (columns n) (blockColumns ns) := rfl
    rw [step, columns_step, List.forall_mem_cons]
    constructor
    · intro wide
      obtain ⟨v, first, rest⟩ := Option.bind_eq_some_iff.mp wide
      obtain ⟨u, block, rfl⟩ := Option.map_eq_some_iff.mp rest
      obtain ⟨short, rfl⟩ := width_some_iff.mp first
      obtain ⟨others, rfl⟩ := ih.mp block
      exact ⟨⟨short, others⟩, rfl⟩
    · rintro ⟨⟨short, others⟩, rfl⟩
      rw [width_some_iff.mpr ⟨short, rfl⟩, ih.mpr ⟨others, rfl⟩]
      rfl

end Caret.Gutter
