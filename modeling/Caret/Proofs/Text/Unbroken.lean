import Caret.Proofs.Text.Break
import Caret.Proofs.Text.Lacks
import Caret.Text.Quoted

namespace Caret.Text

theorem unbroken_append {s t : String} (first : hasBreak s = false) (second : hasBreak t = false) :
    hasBreak (s ++ t) = false := by
  simp only [hasBreak, String.toList_append, List.any_append, Bool.or_eq_false_iff]
  exact ⟨first, second⟩

theorem printed_unbreaking {c : Char} (printed : ' ' ≤ c) : isBreak c = false := by
  rw [isBreak, Bool.or_eq_false_iff, beq_eq_false_iff_ne, beq_eq_false_iff_ne]
  constructor
  · rintro rfl
    exact absurd printed (by decide)
  · rintro rfl
    exact absurd printed (by decide)

theorem printed_unbroken {s : String} (printed : Printed s) : hasBreak s = false := by
  rw [hasBreak, List.any_eq_false]
  intro c member
  rw [printed_unbreaking (printed c member)]
  decide

theorem int_unbroken (i : Int) : hasBreak (toString i) = false := by
  refine printed_unbroken fun c member => ?_
  rcases int_text_chars i c member with rfl | digit
  · decide
  · exact digit_printed digit

theorem digit_char_printed : ∀ n < 16, ' ' ≤ n.digitChar := by
  decide

theorem hexadecimal_printed (n : Nat) : ∀ c ∈ Nat.toDigits 16 n, ' ' ≤ c := by
  induction n using Nat.strongRecOn with
  | ind n ih =>
    intro c member
    by_cases small : n < 16
    · rw [Nat.toDigits_of_lt_base small, List.mem_singleton] at member
      rw [member]
      exact digit_char_printed n small
    · rw [Nat.toDigits_of_base_le (by decide) (Nat.le_of_not_lt small), List.mem_append,
        List.mem_singleton] at member
      rcases member with front | rfl
      · exact ih (n / 16) (by omega) c front
      · exact digit_char_printed (n % 16) (Nat.mod_lt n (by decide))

theorem hex_printed (width n : Nat) : ∀ c ∈ hexDigits width n, ' ' ≤ c := by
  intro c member
  rcases List.mem_append.mp member with zero | digit
  · rw [List.eq_of_mem_replicate zero]
    decide
  · exact hexadecimal_printed n c digit

theorem printable_printed {c : Char} (printable : isPrintable c = true) : ' ' ≤ c := by
  have low : 32 ≤ c.toNat := by
    unfold isPrintable at printable
    simp only at printable
    split at printable
    · exact of_decide_eq_true printable
    · omega
  exact UInt32.le_iff_toNat_le.mpr low

theorem quote_char_printed {mark : Char} (visible : ' ' ≤ mark) (c : Char) :
    ∀ d ∈ quoteChar mark c, ' ' ≤ d := by
  have spelled {letter : Char} {digits : List Char} (shown : ' ' ≤ letter)
      (all : ∀ d ∈ digits, ' ' ≤ d) : ∀ d ∈ '\\' :: letter :: digits, ' ' ≤ d :=
    List.forall_mem_cons.mpr ⟨by decide, List.forall_mem_cons.mpr ⟨shown, all⟩⟩
  have nothing : ∀ d ∈ ([] : List Char), ' ' ≤ d := List.forall_mem_nil _
  unfold quoteChar
  split
  · rename_i special
    refine spelled ?_ nothing
    rcases special with rfl | rfl
    · exact visible
    · decide
  split
  · exact spelled (by decide) nothing
  split
  · exact spelled (by decide) nothing
  split
  · exact spelled (by decide) nothing
  split
  · rename_i printable
    exact List.forall_mem_singleton.mpr (printable_printed printable)
  · simp only
    split
    · exact spelled (by decide) (hex_printed 2 _)
    split
    · exact spelled (by decide) (hex_printed 4 _)
    · exact spelled (by decide) (hex_printed 8 _)

theorem quote_printed (s : String) : Printed (quote s) := by
  have visible : ' ' ≤ quoteMark s.toList := by
    unfold quoteMark
    split <;> decide
  intro c member
  simp only [quote, String.toList_ofList, List.cons_append, List.mem_cons, List.mem_append,
    List.mem_flatMap, List.not_mem_nil, or_false] at member
  rcases member with rfl | ⟨d, _, spelled⟩ | rfl
  · exact visible
  · exact quote_char_printed visible d c spelled
  · exact visible

theorem quote_unbroken (s : String) : hasBreak (quote s) = false :=
  printed_unbroken (quote_printed s)

end Caret.Text
