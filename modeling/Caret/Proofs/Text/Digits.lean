import Caret.Text.Numeral
import Caret.Text.Upper
import Mathlib.Data.List.TakeWhile

namespace Caret.Text

theorem read_numeral {cs : List Char} {n : Nat} : readNumeral cs = .ok n ↔
    cs ≠ [] ∧ cs.all isDecimal = true ∧ cs.length ≤ maxDigits ∧ n = decimalFold cs := by
  have whole : cs.all isDecimal = true → cs.takeWhile isDecimal = cs := fun decimal =>
    List.takeWhile_eq_self_iff.mpr (List.all_eq_true.mp decimal)
  constructor
  · intro read
    simp only [readNumeral] at read
    split at read
    · cases read
    · rename_i short
      split at read
      · rename_i taken
        obtain ⟨decimal, some⟩ := Bool.and_eq_true_iff.mp taken
        rw [whole decimal] at short
        cases read
        refine ⟨?_, decimal, by omega, rfl⟩
        intro none
        rw [none] at some
        cases some
      · cases read
  · rintro ⟨some, decimal, short, rfl⟩
    have fits : ¬ maxDigits < (cs.takeWhile isDecimal).length := by
      rw [whole decimal]
      omega
    have taken : (cs.all isDecimal && !cs.isEmpty) = true := by simp [decimal, some]
    simp only [readNumeral, if_neg fits, if_pos taken]

theorem decimal_digit {c : Char} (decimal : isDecimal c = true) : isDigit c = true := by
  rw [isDigit, decimal, Bool.true_or]

theorem small_letter : ∀ n < 26, isDigit (Char.ofNat (97 + n)) = false ∧
    isDigit (Char.ofNat (97 + n)).toUpper = false := by decide +kernel

theorem capital_moved {c : Char} (moved : c.toUpper ≠ c) :
    isDigit c = false ∧ isDigit c.toUpper = false := by
  have small : ∃ n < 26, Char.ofNat (97 + n) = c := by
    unfold Char.toUpper at moved
    split at moved
    · rename_i within
      have low : 97 ≤ c.toNat := UInt32.le_iff_toNat_le.mp within.1
      have high : c.toNat ≤ 122 := UInt32.le_iff_toNat_le.mp within.2
      refine ⟨c.toNat - 97, by omega, ?_⟩
      rw [show 97 + (c.toNat - 97) = c.toNat by omega, Char.ofNat_toNat]
    · exact absurd rfl moved
  obtain ⟨n, bound, rfl⟩ := small
  exact small_letter n bound

theorem upper_char_digit {c : Char} (digit : isDigit c = true) : upperChar c = [c] := by
  unfold upperChar
  split
  case h_11 =>
    by_cases same : c.toUpper = c
    · rw [same]
    · rw [(capital_moved same).1] at digit
      cases digit
  all_goals exact absurd digit (by decide)

theorem digit_of_upper {c : Char} (digits : (upperChar c).all isDigit = true) :
    isDigit c = true := by
  unfold upperChar at digits
  split at digits
  case h_11 =>
    rw [List.all_cons, List.all_nil, Bool.and_true] at digits
    by_cases same : c.toUpper = c
    · rwa [same] at digits
    · rw [(capital_moved same).2] at digits
      cases digits
  all_goals exact absurd digits (by decide)

theorem upper_digits {cs : List Char} (digits : cs.all isDigit = true) : upper cs = cs := by
  induction cs with
  | nil => rfl
  | cons c cs ih =>
    rw [List.all_cons, Bool.and_eq_true] at digits
    have rest : upper cs = cs := ih digits.2
    rw [upper] at rest
    rw [upper, List.flatMap_cons, upper_char_digit digits.1, rest, List.singleton_append]

theorem digits_of_upper {cs : List Char} (digits : (upper cs).all isDigit = true) :
    upper cs = cs := by
  refine upper_digits (List.all_eq_true.mpr fun c member => digit_of_upper ?_)
  rw [List.all_eq_true]
  intro d inside
  exact List.all_eq_true.mp digits d (List.mem_flatMap.mpr ⟨c, member, inside⟩)

end Caret.Text
