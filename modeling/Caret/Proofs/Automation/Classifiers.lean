import Caret.Automation.Versions
import Caret.Proofs.Text.Numerals

namespace Caret.Automation
open Document Text

structure Dotted (classifier : String) (major minor : List Char) : Prop where
  text : ∃ rest, classifier.toList = classifierStart.toList ++ rest ∧
    strip rest = major ++ '.' :: minor
  major : allDigits major = true
  minor : allDigits minor = true

def Stating (classifier : String) : Prop := ∃ major minor, Dotted classifier major minor

/-- The classifier states a version that can be read. -/
inductive States (classifier : String) : Version → Prop
  | intro {major minor : List Char} (dotted : Dotted classifier major minor)
      (first : Numeral major) (second : Numeral minor) :
      States classifier ⟨decimalFold major, decimalFold minor⟩

/-- The classifier states a version, but digits are not enough for it to be read. -/
inductive Garbled (classifier : String) : Prop
  | intro {major minor : List Char} (dotted : Dotted classifier major minor)
      (unread : ¬ (Numeral major ∧ Numeral minor))

section
variable {c : String} {major minor : List Char} {v : Version}

theorem digits_undotted {cs : List Char} (digits : allDigits cs = true) : '.' ∉ cs := by
  intro member
  have all := (Bool.and_eq_true_iff.mp digits).2
  exact absurd (List.all_eq_true.mp all '.' member) (by decide)

theorem dot_cut (first : allDigits major = true) (second : allDigits minor = true) :
    (major ++ '.' :: minor).splitOn '.' = [major, minor] := by
  rw [List.splitOn_append_cons_self_of_not_mem (digits_undotted first),
    List.splitOn_eq_singleton (digits_undotted second)]

theorem version_of_dotted (d : Dotted c major minor) : versionOf c = do
    let a ← readNumeral major
    let b ← readNumeral minor
    return some ⟨a, b⟩ := by
  obtain ⟨⟨rest, joined, core⟩, first, second⟩ := d
  have begins : classifierStart.toList.isPrefixOf c.toList = true :=
    List.isPrefixOf_iff_prefix.mpr ⟨rest, joined.symm⟩
  have behind : c.toList.drop classifierStart.length = rest := by
    rw [joined, ← String.length_toList, List.drop_left]
  simp only [versionOf, begins, behind, core, dot_cut first second, first, second, Bool.and_self,
    if_true]
  cases readNumeral major with
  | error e => rfl
  | ok a => cases readNumeral minor <;> rfl

theorem version_of_plain (plain : ¬ Stating c) : versionOf c = .ok none := by
  unfold versionOf
  split
  · rename_i begins
    obtain ⟨rest, joined⟩ := List.isPrefixOf_iff_prefix.mp begins
    have behind : c.toList.drop classifierStart.length = rest := by
      rw [← joined, ← String.length_toList, List.drop_left]
    rw [behind]
    split
    · rename_i major minor cut
      have core : strip rest = major ++ '.' :: minor := by
        have whole := @List.intercalate_splitOn _ (strip rest) _ _ '.'
        rw [cut] at whole
        simpa using whole.symm
      split
      · rename_i digits
        obtain ⟨first, second⟩ := Bool.and_eq_true_iff.mp digits
        exact absurd ⟨major, minor, ⟨rest, joined.symm, core⟩, first, second⟩ plain
      · rfl
    · rfl
  · rfl

theorem version_of_states (states : States c v) : versionOf c = .ok (some v) := by
  obtain ⟨dotted, first, second⟩ := states
  rw [version_of_dotted dotted, read_numeral_iff.mpr ⟨first, rfl⟩,
    read_numeral_iff.mpr ⟨second, rfl⟩]
  rfl

theorem version_of_garbled (garbled : Garbled c) : ∃ e, versionOf c = .error e := by
  obtain ⟨dotted, unread⟩ := garbled
  rename_i major minor
  rw [version_of_dotted dotted]
  cases first : readNumeral major with
  | error e => exact ⟨e, rfl⟩
  | ok a =>
    cases second : readNumeral minor with
    | error e => exact ⟨e, rfl⟩
    | ok b => exact absurd ⟨(read_numeral_iff.mp first).1, (read_numeral_iff.mp second).1⟩ unread

inductive Reading (c : String) : Prop
  | plain (other : ¬ Stating c)
  | states {v : Version} (states : States c v)
  | garbled (garbled : Garbled c)

theorem reading (c : String) : Reading c := by
  by_cases stating : Stating c
  · obtain ⟨major, minor, dotted⟩ := stating
    by_cases numerals : Numeral major ∧ Numeral minor
    · exact .states (.intro dotted numerals.1 numerals.2)
    · exact .garbled (.intro dotted numerals)
  · exact .plain stating

theorem plain_iff : versionOf c = .ok none ↔ ¬ Stating c := by
  refine ⟨fun nothing => ?_, version_of_plain⟩
  cases reading c with
  | plain other => exact other
  | states states =>
    rw [version_of_states states] at nothing
    cases nothing
  | garbled garbled =>
    obtain ⟨e, failed⟩ := version_of_garbled garbled
    rw [failed] at nothing
    cases nothing

theorem unread_garbled {e : NumeralError} (unread : versionOf c = .error e) : Garbled c := by
  cases reading c with
  | plain other =>
    rw [version_of_plain other] at unread
    cases unread
  | states states =>
    rw [version_of_states states] at unread
    cases unread
  | garbled garbled => exact garbled

theorem states_stating (states : States c v) : Stating c := by
  obtain ⟨dotted, -, -⟩ := states
  exact ⟨_, _, dotted⟩

theorem garbled_stating (garbled : Garbled c) : Stating c := by
  obtain ⟨dotted, -⟩ := garbled
  exact ⟨_, _, dotted⟩

theorem states_not_garbled (states : States c v) : ¬ Garbled c := by
  intro garbled
  obtain ⟨e, failed⟩ := version_of_garbled garbled
  rw [version_of_states states] at failed
  cases failed

theorem states_unique {w : Version} (states : States c v) (other : States c w) : v = w := by
  have same := (version_of_states states).symm.trans (version_of_states other)
  exact Option.some.inj (Except.ok.inj same)

end

def texts (cs : List String) : List Value := cs.map .text

section
variable {c : String} {cs : List String} {v : Version}

theorem versions_plain (plain : ¬ Stating c) (cs : List String) :
    versionsOf (texts (c :: cs)) = versionsOf (texts cs) := by
  rw [texts, List.map_cons, versionsOf, version_of_plain plain]
  rfl

theorem versions_states (states : States c v) (cs : List String) :
    versionsOf (texts (c :: cs)) = (versionsOf (texts cs)).map (v :: ·) := by
  rw [texts, List.map_cons, versionsOf, version_of_states states]
  rfl

theorem versions_failed {e : NumeralError} (failed : versionOf c = .error e) (cs : List String) :
    versionsOf (texts (c :: cs)) = .error (.numeral e) := by
  rw [texts, List.map_cons, versionsOf, failed]

theorem versions_without (plain : ¬ Stating c) (front back : List String) :
    versionsOf (texts (front ++ c :: back)) = versionsOf (texts (front ++ back)) := by
  induction front with
  | nil => exact versions_plain plain back
  | cons d front ih =>
    rw [List.cons_append, List.cons_append]
    cases reading d with
    | plain other => rw [versions_plain other, versions_plain other, ih]
    | states states => rw [versions_states states, versions_states states, ih]
    | garbled garbled =>
      obtain ⟨e, failed⟩ := version_of_garbled garbled
      rw [versions_failed failed, versions_failed failed]

theorem versions_read (legible : ∀ c ∈ cs, ¬ Garbled c) :
    ∃ vs, versionsOf (texts cs) = .ok vs ∧ ∀ v, v ∈ vs ↔ ∃ c ∈ cs, States c v := by
  induction cs with
  | nil => exact ⟨[], rfl, by simp⟩
  | cons c cs ih =>
    obtain ⟨here, later⟩ := List.forall_mem_cons.mp legible
    obtain ⟨vs, read, members⟩ := ih later
    cases reading c with
    | plain other =>
      refine ⟨vs, (versions_plain other cs).trans read, ?_⟩
      intro v
      rw [members, List.exists_mem_cons_iff]
      exact ⟨.inr, fun stated => stated.resolve_left fun states => other (states_stating states)⟩
    | states states =>
      rename_i w
      refine ⟨w :: vs, by rw [versions_states states, read]; rfl, ?_⟩
      intro v
      rw [List.mem_cons, members, List.exists_mem_cons_iff]
      refine or_congr_left ⟨?_, fun other => states_unique other states⟩
      rintro rfl
      exact states
    | garbled garbled => exact absurd garbled here

/-- The first classifier that cannot be read decides how the reading fails. -/
theorem versions_first_garbled (illegible : ∃ c ∈ cs, Garbled c) :
    ∃ front c back e, cs = front ++ c :: back ∧ (∀ d ∈ front, ¬ Garbled d) ∧ Garbled c ∧
      versionOf c = .error e ∧ versionsOf (texts cs) = .error (.numeral e) := by
  induction cs with
  | nil => simp at illegible
  | cons c cs ih =>
    by_cases here : Garbled c
    · obtain ⟨e, failed⟩ := version_of_garbled here
      exact ⟨[], c, cs, e, rfl, by simp, here, failed, versions_failed failed cs⟩
    · have later := ((List.exists_mem_cons_iff _ _ _).mp illegible).resolve_left here
      obtain ⟨front, d, back, e, rfl, legible, garbled, failed, whole⟩ := ih later
      refine ⟨c :: front, d, back, e, rfl, List.forall_mem_cons.mpr ⟨here, legible⟩, garbled,
        failed, ?_⟩
      cases reading c with
      | plain other => rw [versions_plain other, whole]
      | states states =>
        rw [versions_states states, whole]
        rfl
      | garbled garbled => exact absurd garbled here

end
end Caret.Automation
