import Caret.Proofs.Text.Digits
import Caret.Proofs.Text.Split
import Mathlib.Algebra.Group.Nat.Defs
import Mathlib.Data.List.Induction

namespace Caret.Text

/-- A run of decimal digits that is read as a number. -/
structure Numeral (cs : List Char) : Prop where
  nonempty : cs ≠ []
  decimal : ∀ c ∈ cs, isDecimal c = true
  short : cs.length ≤ maxDigits

structure PlainNumeral (cs : List Char) : Prop where
  nonempty : cs ≠ []
  ascii : ∀ c ∈ cs, c.isDigit = true
  needed : cs.head? = some '0' → cs = ['0']

theorem read_numeral_iff {cs : List Char} {n : Nat} :
    readNumeral cs = .ok n ↔ Numeral cs ∧ decimalFold cs = n := by
  rw [read_numeral, List.all_eq_true]
  constructor
  · rintro ⟨some, decimal, short, value⟩
    exact ⟨⟨some, decimal, short⟩, value.symm⟩
  · rintro ⟨⟨some, decimal, short⟩, value⟩
    exact ⟨some, decimal, short, value.symm⟩

theorem numeral_digits {cs : List Char} (numeral : Numeral cs) : allDigits cs = true := by
  rw [allDigits, Bool.and_eq_true]
  refine ⟨by simpa using numeral.nonempty, List.all_eq_true.mpr ?_⟩
  intro c member
  exact decimal_digit (numeral.decimal c member)

theorem ascii_value {c : Char} (digit : c.isDigit = true) :
    decimalValue? c = some (c.toNat - '0'.toNat) := by
  simp only [Char.isDigit, Bool.and_eq_true, decide_eq_true_eq] at digit
  have low : 48 ≤ c.toNat := UInt32.le_iff_toNat_le.mp digit.1
  have high : c.toNat ≤ 57 := UInt32.le_iff_toNat_le.mp digit.2
  have within : (decide (0x30 ≤ c.toNat) && decide (c.toNat < 0x30 + 10)) = true := by
    rw [Bool.and_eq_true, decide_eq_true_eq, decide_eq_true_eq]
    omega
  have first : decimalZeros.find? (fun z => z ≤ c.toNat && c.toNat < z + 10) = some 0x30 :=
    List.find?_cons_of_pos within
  rw [decimalValue?, first]
  rfl

theorem ascii_decimal {c : Char} (digit : c.isDigit = true) : isDecimal c = true := by
  rw [isDecimal, ascii_value digit]
  rfl

theorem ascii_fold {cs : List Char} (ascii : ∀ c ∈ cs, c.isDigit = true) :
    decimalFold cs = Nat.ofDigitChars 10 cs 0 := by
  rw [decimalFold, Nat.ofDigitChars_eq_foldl]
  refine List.foldl_ext _ _ _ fun n c member => ?_
  rw [ascii_value (ascii c member), Option.getD_some]

theorem nat_text_value (n : Nat) : decimalFold (toString n).toList = n := by
  rw [ascii_fold (nat_text_digits n), nat_text]
  exact Nat.ofDigitChars_toDigits (by decide) (by decide)

theorem nat_text_numeral {n : Nat} (short : (toString n).length ≤ maxDigits) :
    Numeral (toString n).toList := by
  refine ⟨nat_text_nonempty n, ?_, by rwa [String.length_toList]⟩
  intro c member
  exact ascii_decimal (nat_text_digits n c member)

theorem value_bound {c : Char} {v : Nat} (value : decimalValue? c = some v) : v < 10 := by
  obtain ⟨start, found, rfl⟩ := Option.map_eq_some_iff.mp value
  have within := List.find?_some found
  rw [Bool.and_eq_true, decide_eq_true_eq, decide_eq_true_eq] at within
  omega

theorem fold_bound {cs : List Char} (decimal : ∀ c ∈ cs, isDecimal c = true) :
    decimalFold cs < 10 ^ cs.length := by
  unfold decimalFold
  induction cs using List.reverseRecOn with
  | nil => exact Nat.one_pos
  | append_singleton cs c ih =>
    have before := ih fun d member => decimal d (List.mem_append_left _ member)
    obtain ⟨v, value⟩ := Option.isSome_iff_exists.mp
      (decimal c (List.mem_append_right _ (List.mem_singleton_self c)))
    have small := value_bound value
    rw [List.foldl_append, List.foldl_cons, List.foldl_nil, value, Option.getD_some,
      List.length_append, List.length_singleton, Nat.pow_succ]
    omega

theorem numeral_text_short {cs : List Char} (numeral : Numeral cs) :
    (toString (decimalFold cs)).length ≤ maxDigits := by
  have some : 0 < cs.length := List.length_pos_iff.mpr numeral.nonempty
  have written : (Nat.toDigits 10 (decimalFold cs)).length ≤ cs.length :=
    (Nat.length_toDigits_le_iff (by decide) some).mpr (fold_bound numeral.decimal)
  rw [← nat_text, String.length_toList] at written
  exact written.trans numeral.short

theorem digit_char {c : Char} (digit : c.isDigit = true) :
    c.toNat - '0'.toNat < 10 ∧ (c.toNat - '0'.toNat).digitChar = c := by
  simp only [Char.isDigit, Bool.and_eq_true, decide_eq_true_eq] at digit
  have low : '0'.toNat ≤ c.toNat := UInt32.le_iff_toNat_le.mp digit.1
  have high : c.toNat ≤ 57 := UInt32.le_iff_toNat_le.mp digit.2
  have zero : '0'.toNat = 48 := rfl
  refine ⟨by omega, Char.toNat_inj.mp ?_⟩
  rw [Nat.toNat_digitChar_of_lt_ten (by omega)]
  omega

theorem digits_lengthen {cs : List Char} (ascii : ∀ c ∈ cs, c.isDigit = true) {n : Nat}
    (positive : 0 < n) : Nat.toDigits 10 n ++ cs = Nat.toDigits 10 (Nat.ofDigitChars 10 cs n) := by
  -- Each digit makes the number one digit longer, as long as the number is not zero.
  induction cs generalizing n with
  | nil => simp
  | cons c cs ih =>
    obtain ⟨small, shown⟩ := digit_char (ascii c List.mem_cons_self)
    have longer := Nat.toDigits_append_toDigits (b := 10) (by decide) positive small
    rw [Nat.toDigits_of_lt_base small, shown] at longer
    rw [Nat.ofDigitChars_cons, ← ih (fun d member => ascii d (List.mem_cons_of_mem _ member))
      (by omega), ← longer, List.append_assoc, List.singleton_append]

theorem plain_text {cs : List Char} (plain : PlainNumeral cs) :
    (toString (decimalFold cs)).toList = cs := by
  rw [ascii_fold plain.ascii, nat_text]
  obtain ⟨some, ascii, needed⟩ := plain
  cases cs with
  | nil => exact absurd rfl some
  | cons c cs =>
    obtain ⟨small, shown⟩ := digit_char (ascii c List.mem_cons_self)
    by_cases zero : c = '0'
    · subst zero
      rw [needed rfl]
      rfl
    · have positive : 0 < c.toNat - '0'.toNat := by
        rw [Nat.pos_iff_ne_zero]
        intro none
        rw [none] at shown
        exact zero shown.symm
      rw [Nat.ofDigitChars_cons, Nat.mul_zero, Nat.zero_add,
        ← digits_lengthen (fun d member => ascii d (List.mem_cons_of_mem _ member)) positive,
        Nat.toDigits_of_lt_base small, shown, List.singleton_append]

theorem leading_zero {n : Nat} (zero : (Nat.toDigits 10 n).head? = some '0') : n = 0 := by
  induction n using Nat.strongRecOn with
  | ind n ih =>
    by_cases small : n < 10
    · rw [Nat.toDigits_of_lt_base small, List.head?_cons, Option.some.injEq] at zero
      have code := congrArg Char.toNat zero
      rw [Nat.toNat_digitChar_of_lt_ten small] at code
      have none : '0'.toNat = 48 := rfl
      omega
    · have positive : 0 < n / 10 := by omega
      have split := Nat.toDigits_append_toDigits (b := 10) (by decide) positive
        (Nat.mod_lt n (by decide))
      rw [Nat.div_add_mod] at split
      rw [← split, List.head?_append_of_ne_nil _ Nat.toDigits_ne_nil] at zero
      have none := ih (n / 10) (by omega) zero
      omega

theorem nat_text_plain (n : Nat) : PlainNumeral (toString n).toList := by
  refine ⟨nat_text_nonempty n, nat_text_digits n, ?_⟩
  intro zero
  rw [nat_text] at zero ⊢
  rw [leading_zero zero, Nat.toDigits_zero]

end Caret.Text
