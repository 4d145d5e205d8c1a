import Caret.Proofs.CommandLine.Live
import Caret.Proofs.Log.Level

namespace Caret.CommandLine
open Log (Asks Session environmentLevel critical)

variable {setting : Option String} {asked : Option Int}

theorem set_up_bare (s : Session) (heard : environmentLevel setting = .ok asked) :
    s.setup none setting =
      .ok (Session.ofLevel (asked.elim critical fun n => if n = 0 then critical else n)) := by
  cases asked <;> simp only [Session.setup, Session.resolve, heard] <;> rfl

theorem start_unasked (heard : environmentLevel setting = .ok asked) :
    startLevel 0 setting = .ok (asked.getD critical) := by
  have requested : Log.requestedLevel 0 setting = .ok asked := heard
  rw [startLevel, requested]
  cases asked with
  | some n => rfl
  | none => simp only [Session.resolve, heard, Option.getD_none]

theorem set_up_unasked (heard : environmentLevel setting = .ok asked) (p : Progress) :
    Live.setUp 0 setting p = .ok () { p with session := Session.ofLevel (asked.getD critical) } := by
  rw [Live.set_up_started, start_unasked heard]

/-- The two ways agree on a variable. -/
def Agreed (setting : Option String) (s : Session) (p : Progress) : Prop :=
  ∃ after, s.setup none setting = .ok after ∧
    Live.setUp 0 setting p = .ok () { p with session := after }

/-- For a variable that can be read. What it asks for is done both ways, but for zero; where it asks
for nothing only critical records are written; and zero is all that they disagree on. -/
theorem environment_honored (s : Session) (p : Progress)
    (heard : ∃ asked, environmentLevel setting = .ok asked) :
    (∀ n, Asks setting n → n ≠ 0 → s.setup none setting = .ok (Session.ofLevel n) ∧
      Live.setUp 0 setting p = .ok () { p with session := Session.ofLevel n }) ∧
    ((∀ n, ¬ Asks setting n) → s.setup none setting = .ok (Session.ofLevel critical) ∧
      Live.setUp 0 setting p = .ok () { p with session := Session.ofLevel critical }) ∧
    (Asks setting 0 → s.setup none setting = .ok (Session.ofLevel critical) ∧
      Live.setUp 0 setting p = .ok () { p with session := Session.ofLevel 0 }) ∧
    (Agreed setting s p ↔ ¬ Asks setting 0) := by
  obtain ⟨asked, heard⟩ := heard
  have bare := set_up_bare s heard
  have run := set_up_unasked heard p
  have named : ∀ n, Asks setting n ↔ asked = some n := by
    intro n
    rw [← Log.asks_iff, heard, Except.ok.injEq]
  simp only [named]
  refine ⟨?nonzero, ?nothing, ?zero, ?agreed⟩
  case nonzero =>
    rintro n rfl nonzero
    rw [Option.elim_some, if_neg nonzero] at bare
    exact ⟨bare, run⟩
  case nothing =>
    intro nothing
    obtain rfl := Option.eq_none_iff_forall_ne_some.mpr nothing
    exact ⟨bare, run⟩
  case zero =>
    rintro rfl
    exact ⟨bare, run⟩
  case agreed =>
    constructor
    · rintro ⟨after, first, second⟩ rfl
      rw [bare] at first
      rw [run] at second
      cases first
      cases second
    · intro nonzero
      refine ⟨_, bare, run.trans ?_⟩
      cases asked with
      | none => rfl
      | some n =>
        rw [Option.elim_some, if_neg fun zero => nonzero (by rw [zero]), Option.getD_some]

theorem blanks_honored :
    (∃ asked, environmentLevel (some " \u0131nfo\u3000") = .ok asked) ∧
      mute.setup none (some " \u0131nfo\u3000") = .ok (Session.ofLevel Log.info) ∧
      Live.setUp 0 (some " \u0131nfo\u3000") {} =
        .ok () { ({} : Progress) with session := Session.ofLevel Log.info } := by
  have heard : environmentLevel (some " \u0131nfo\u3000") = .ok (some Log.info) := by
    decide +kernel
  have honored := environment_honored mute {} ⟨_, heard⟩
  exact ⟨⟨_, heard⟩, honored.1 Log.info (Log.asks_iff.mp heard) (by decide)⟩

/-- Zero is a level with a name and a number, and setting up the log without a level takes neither. -/
theorem zero_unheard :
    Asks (some "0") 0 ∧ Asks (some "notset") 0 ∧
      mute.setup none (some "0") = .ok (Session.ofLevel critical) ∧
      Live.setUp 0 (some "0") {} = .ok () { ({} : Progress) with session := Session.ofLevel 0 } ∧
      Session.ofLevel critical ≠ Session.ofLevel 0 := by
  have number : environmentLevel (some "0") = .ok (some 0) := by decide +kernel
  have name : environmentLevel (some "notset") = .ok (some 0) := by decide +kernel
  exact ⟨Log.asks_iff.mp number, Log.asks_iff.mp name, set_up_bare mute number,
    set_up_unasked number {}, by decide⟩

end Caret.CommandLine
