import Caret.Log.Level
import Caret.Proofs.Text.Numerals

namespace Caret.Log

inductive Names (text : String) : Int → Prop
  | number (some : Text.strip text.toList ≠ [])
      (decimal : (Text.strip text.toList).all Text.isDecimal = true)
      (short : (Text.strip text.toList).length ≤ Text.maxDigits) :
      Names text (Text.decimalFold (Text.strip text.toList))
  | word {name : String} {n : Int} (known : (name, n) ∈ namedLevels)
      (spelled : Text.upper (Text.strip text.toList) = name.toList) : Names text n

theorem name_not_digits : ∀ l ∈ namedLevels, Text.allDigits l.1.toList = false := by
  decide +kernel

theorem names_apart : namedLevels.Pairwise fun l m => l.1.toList ≠ m.1.toList := by
  decide +kernel

theorem find_apart {ls : List (String × Int)} {l : String × Int}
    (apart : ls.Pairwise fun l m => l.1.toList ≠ m.1.toList) (known : l ∈ ls) :
    ls.find? (fun m => m.1.toList == l.1.toList) = some l := by
  induction apart with
  | nil => cases known
  | cons others _ ih =>
    rcases List.mem_cons.mp known with rfl | later
    · exact List.find?_cons_of_pos (beq_self_eq_true l.1.toList)
    · rw [List.find?_cons_of_neg]
      · exact ih later
      · rw [beq_iff_eq]
        exact others l later

theorem names_iff {text : String} {n : Int} : parseLevel text = .ok (some n) ↔ Names text n := by
  constructor
  · intro parsed
    simp only [parseLevel] at parsed
    split at parsed
    · rename_i digits
      have kept := Text.digits_of_upper (Bool.and_eq_true_iff.mp digits).2
      rw [kept] at parsed
      split at parsed
      · rename_i m read
        obtain ⟨some, decimal, short, rfl⟩ := Text.read_numeral.mp read
        cases parsed
        exact .number some decimal short
      · cases parsed
    · simp only [Except.ok.injEq, Option.map_eq_some_iff] at parsed
      obtain ⟨⟨name, m⟩, found, rfl⟩ := parsed
      have spelled := List.find?_some found
      rw [beq_iff_eq] at spelled
      exact .word (List.mem_of_find?_eq_some found) spelled.symm
  · intro names
    cases names with
    | number some decimal short =>
      have digits : (Text.strip text.toList).all Text.isDigit = true :=
        List.all_eq_true.mpr fun c member =>
          Text.decimal_digit (List.all_eq_true.mp decimal c member)
      have all : Text.allDigits (Text.strip text.toList) = true := by
        rw [Text.allDigits, digits, Bool.and_true, Bool.not_eq_true', List.isEmpty_eq_false_iff]
        exact some
      have read := Text.read_numeral.mpr ⟨some, decimal, short, rfl⟩
      simp only [parseLevel, Text.upper_digits digits, if_pos all, read]
    | word known spelled =>
      rename_i name
      have wordy : Text.allDigits name.toList = false := name_not_digits (name, n) known
      simp only [parseLevel, spelled, wordy, Bool.false_eq_true, if_false,
        find_apart names_apart known, Option.map_some]

/-- The text consists of digits, but of too many or not of decimal ones alone. -/
structure Unreadable (text : String) : Prop where
  digits : Text.allDigits (Text.strip text.toList) = true
  unnumbered : ¬ Text.Numeral (Text.strip text.toList)

theorem unreadable_iff {text : String} : (∃ e, parseLevel text = .error e) ↔ Unreadable text := by
  constructor
  · rintro ⟨e, parsed⟩
    simp only [parseLevel] at parsed
    split at parsed
    · rename_i digits
      have kept := Text.digits_of_upper (Bool.and_eq_true_iff.mp digits).2
      rw [kept] at digits parsed
      refine ⟨digits, ?_⟩
      intro numeral
      rw [Text.read_numeral_iff.mpr ⟨numeral, rfl⟩] at parsed
      cases parsed
    · cases parsed
  · rintro ⟨digits, unnumbered⟩
    have kept := Text.upper_digits (Bool.and_eq_true_iff.mp digits).2
    simp only [parseLevel, kept, if_pos digits]
    cases read : Text.readNumeral (Text.strip text.toList) with
    | error e => exact ⟨e, rfl⟩
    | ok n => exact absurd (Text.read_numeral_iff.mp read).1 unnumbered

theorem unnamed_iff {text : String} :
    parseLevel text = .ok none ↔ ¬ Unreadable text ∧ ∀ n, ¬ Names text n := by
  rw [← unreadable_iff]
  simp only [← names_iff]
  cases parseLevel text with
  | error e => simp
  | ok asked => cases asked <;> simp

/-- The variable is there and names a level. -/
def Asks (setting : Option String) (n : Int) : Prop := ∃ text, setting = some text ∧ Names text n

theorem environment_text (text : String) : environmentLevel (some text) = parseLevel text := by
  by_cases bare : text.isEmpty = true
  · rw [String.isEmpty_iff.mp bare]
    rfl
  · rw [environmentLevel, if_neg bare]

theorem asks_iff {setting : Option String} {n : Int} :
    environmentLevel setting = .ok (some n) ↔ Asks setting n := by
  cases setting with
  | none =>
    constructor
    · exact nofun
    · rintro ⟨text, none, -⟩
      cases none
  | some text =>
    rw [environment_text, names_iff]
    constructor
    · exact fun names => ⟨text, rfl, names⟩
    · rintro ⟨_, ⟨⟩, names⟩
      exact names

end Caret.Log
