import Caret.Text.Break
import Mathlib.Data.List.Basic

namespace Caret.Text

def Broken (s : String) : Prop := '\n' ∈ s.toList ∨ '\r' ∈ s.toList

theorem has_break_iff (s : String) : hasBreak s = true ↔ Broken s := by
  simp only [hasBreak, List.any_eq_true, isBreak, Bool.or_eq_true, beq_iff_eq, Broken]
  constructor
  · rintro ⟨c, member, rfl | rfl⟩
    · exact .inl member
    · exact .inr member
  · rintro (feed | carriage)
    · exact ⟨_, feed, .inl rfl⟩
    · exact ⟨_, carriage, .inr rfl⟩

theorem toList_escapeBreaks (s : String) :
    (escapeBreaks s).toList = s.toList.flatMap escapeBreak := by
  simp [escapeBreaks]

def spellOut (c : Char) (spelling cs : List Char) : List Char :=
  cs.flatMap fun d => if d = c then spelling else [d]

/-- Escaping is two passes over the text, and the second one finds nothing that the first one has
written. -/
theorem escapeBreaks_passes (s : String) : (escapeBreaks s).toList =
    spellOut '\n' ['\\', 'n'] (spellOut '\r' ['\\', 'r'] s.toList) := by
  rw [toList_escapeBreaks, spellOut, spellOut, List.flatMap_assoc]
  congr 1
  funext c
  unfold escapeBreak
  split
  · rfl
  · rw [List.flatMap_singleton]

theorem escapeBreaks_append (s t : String) :
    escapeBreaks (s ++ t) = escapeBreaks s ++ escapeBreaks t := by
  simp [escapeBreaks]

theorem escapeBreak_of_unbroken {c : Char} (unbroken : isBreak c = false) :
    escapeBreak c = [c] := by
  have feed : c ≠ '\n' := by
    rintro rfl
    simp [isBreak] at unbroken
  have carriage : c ≠ '\r' := by
    rintro rfl
    simp [isBreak] at unbroken
  simp [escapeBreak, feed, carriage]

theorem escapeBreaks_of_unbroken {s : String} (unbroken : hasBreak s = false) :
    escapeBreaks s = s := by
  have single : ∀ cs : List Char, cs.any isBreak = false → cs.flatMap escapeBreak = cs := by
    intro cs
    induction cs with
    | nil => simp
    | cons c cs ih =>
      intro h
      simp only [List.any_cons, Bool.or_eq_false_iff] at h
      rw [List.flatMap_cons, escapeBreak_of_unbroken h.1, ih h.2]
      rfl
  rw [← String.toList_inj, toList_escapeBreaks]
  exact single s.toList unbroken

theorem escapeBreaks_twice (s : String) : escapeBreaks (escapeBreaks s) = escapeBreaks s :=
  escapeBreaks_of_unbroken (hasBreak_escapeBreaks s)

theorem escapeBreaks_eq_self_iff {s : String} : escapeBreaks s = s ↔ ¬ Broken s := by
  rw [← has_break_iff, Bool.not_eq_true]
  constructor
  · intro same
    rw [← same]
    exact hasBreak_escapeBreaks s
  · exact escapeBreaks_of_unbroken

theorem escapeBreak_length (c : Char) : (escapeBreak c).length =
    1 + (if c == '\n' then 1 else 0) + if c == '\r' then 1 else 0 := by
  unfold escapeBreak
  split
  · rename_i carriage
    subst carriage
    rfl
  · rename_i other
    split
    · rename_i feed
      subst feed
      rfl
    · rename_i plain
      simp [other, plain]

theorem escapeBreaks_length (s : String) :
    (escapeBreaks s).length = s.length + s.toList.count '\n' + s.toList.count '\r' := by
  have chars (cs : List Char) : (cs.flatMap escapeBreak).length =
      cs.length + cs.count '\n' + cs.count '\r' := by
    induction cs with
    | nil => rfl
    | cons c cs ih =>
      rw [List.flatMap_cons, List.length_append, escapeBreak_length, ih, List.length_cons,
        List.count_cons, List.count_cons]
      omega
  rw [← String.length_toList, toList_escapeBreaks, chars, String.length_toList]

theorem escapeBreaks_eq_empty {s : String} (empty : escapeBreaks s = "") : s = "" := by
  have none := congrArg String.toList empty
  rw [toList_escapeBreaks, String.toList_empty, List.flatMap_eq_nil_iff] at none
  rw [← String.toList_inj, String.toList_empty, List.eq_nil_iff_forall_not_mem]
  intro c member
  have gone := none c member
  unfold escapeBreak at gone
  split at gone
  · simp at gone
  · split at gone <;> simp at gone

end Caret.Text
