import Caret.Gutter
import Caret.Proofs.Text.Split

namespace Caret

def Lacks (c : Char) (s : String) : Prop := c ∉ s.toList

instance (c : Char) (s : String) : Decidable (Lacks c s) := inferInstanceAs (Decidable (c ∉ s.toList))

def Printed (s : String) : Prop := ∀ d ∈ s.toList, ' ' ≤ d

instance (s : String) : Decidable (Printed s) :=
  decidable_of_iff (s.toList.all (fun d => ' ' ≤ d) = true) (by simp [Printed])

section
variable {c : Char}

theorem lacks_append {s t : String} (first : Lacks c s) (second : Lacks c t) : Lacks c (s ++ t) := by
  unfold Lacks at *
  rw [String.toList_append, List.mem_append]
  rintro (member | member)
  · exact first member
  · exact second member

theorem lacks_part {s : String} {cs : List Char} (whole : Lacks c s) (part : cs ⊆ s.toList) :
    Lacks c (String.ofList cs) := by
  intro member
  rw [String.toList_ofList] at member
  exact whole (part member)

theorem lacks_printed {s : String} (control : c < ' ') (printed : Printed s) : Lacks c s := by
  intro member
  exact absurd control (Char.not_lt.mpr (printed c member))

theorem lacks_spaces (control : c < ' ') (n : Nat) : Lacks c (Gutter.spaces n) := by
  refine lacks_printed control ?_
  intro d member
  rw [Gutter.spaces, String.toList_ofList] at member
  obtain rfl := List.eq_of_mem_replicate member
  exact Char.le_refl _

theorem digit_printed {d : Char} (digit : d.isDigit = true) : ' ' ≤ d := by
  have low : '0' ≤ d := by
    simp only [Char.isDigit, Bool.and_eq_true, decide_eq_true_eq] at digit
    exact digit.1
  exact Char.le_trans (by decide) low

theorem lacks_nat (control : c < ' ') (n : Nat) : Lacks c (toString n) :=
  lacks_printed control fun d member => digit_printed (Text.nat_text_digits n d member)

theorem lacks_int (control : c < ' ') (i : Int) : Lacks c (toString i) := by
  refine lacks_printed control ?_
  intro d member
  rcases Text.int_text_chars i d member with rfl | digit
  · decide
  · exact digit_printed digit

end
end Caret
