import Caret.Proofs.CommandLine.Live
import Caret.Proofs.CommandLine.Quiet

namespace Caret.CommandLine
open Log

def crashed (c : Crash) : Ending := { exitCode := 1, escaped := some (.crash c) }

def reporting (f : Fault) : Ending :=
  match f.shown.value with
  | .ok text => { exitCode := f.exitCode, console := { err := text ++ "\n" } }
  | .error o => crashed (.drawing o)

/-- The end of a run that logs nothing. -/
def closing : Except Stop String → Ending
  | .ok out => { exitCode := 0, console := { out } }
  | .error (.fault f) => reporting f
  | .error (.refused page) => { exitCode := 2, console := { err := page } }
  | .error (.crash c) => crashed c

/-- All records of a run whose last stage has given a result: those of the report come last. -/
def said (t : Traced (Except Stop String)) : List Record :=
  t.records ++ match t.value with
    | .error (.fault f) => f.shown.records
    | _ => []

def Ending.behind (look : Look) (s : Session) (rs : List Record) (e : Ending) : Ending :=
  { e with console := { e.console with err := s.writtenAll look rs ++ e.console.err } }

section
variable (look : Look) (s : Session)

theorem mute_writes (rs : List Record) : mute.writtenAll look rs = "" := by
  induction rs with
  | nil => rfl
  | cons r rs ih =>
    have first : mute.written look r = "" := by
      unfold Session.written
      split <;> rfl
    rw [Session.writtenAll] at ih
    rw [Session.writtenAll, List.map_cons, String.join_cons, first, ih]
    rfl

theorem written_append (rs qs : List Record) :
    s.writtenAll look (rs ++ qs) = s.writtenAll look rs ++ s.writtenAll look qs := by
  simp [Session.writtenAll]

variable {look s}

theorem behind_nothing {rs : List Record} (nothing : s.writtenAll look rs = "") (e : Ending) :
    e.behind look s rs = e := by
  simp [Ending.behind, nothing]

theorem conclude_behind (t : Traced (Except Stop String)) :
    (conclude look s t).ending = (closing t.value).behind look s (said t) := by
  cases value : t.value with
  | ok out => simp [conclude, value, said, Outcome.ending, Ending.behind, closing]
  | error stop =>
    cases stop with
    | fault f =>
      cases shown : f.shown.value <;>
        simp [conclude, value, said, Outcome.ending, Ending.behind, closing, reporting, crashed,
          shown, written_append, String.append_assoc]
    | refused page => simp [conclude, value, said, Outcome.ending, Ending.behind, closing]
    | crash c => simp [conclude, value, said, Outcome.ending, Ending.behind, closing, crashed]

theorem said_below {t : Traced (Except Stop String)} (below : t.Below critical) :
    ∀ r ∈ said t, r.level < critical := by
  intro r member
  rcases List.mem_append.mp member with earlier | later
  · exact below r earlier
  · split at later
    · rename_i f _
      cases f with
      | usage d => exact Drawing.drawn_below {} d r later
      | general m => cases later
      | settings m => cases later
    · cases later

end

section
variable {lib : Libraries} {around : Surroundings} {argv : List String} {o : Options}
  {command : Option Command} {level : Int}

/-- A run that ends before logging is set up. -/
theorem perform_muted (documented : lib.kit.Documented) {t : Traced (Except Stop String)}
    (ends : stages lib around argv = (mute, t)) : perform lib around argv = closing t.value := by
  rw [perform_run documented, run, ends, conclude_behind, behind_nothing (mute_writes _ _)]

theorem perform_reaches (documented : lib.kit.Documented)
    (reaches : Reaches lib around argv o command level) : perform lib around argv =
      (closing (serve lib around.files o command).value).behind lib.look (.ofLevel level)
        (said (serve lib around.files o command)) := by
  rw [perform_run documented, run, stages_reaches reaches, conclude_behind]

theorem perform_quiet (documented : lib.kit.Documented)
    (reaches : Reaches lib around argv o command critical) :
    perform lib around argv = closing (serve lib around.files o command).value := by
  rw [perform_reaches documented reaches]
  exact behind_nothing (written_all_below _ (said_below (serve_below _ _ _ _))) _

/-- What a run logs stands in front of what it writes where nothing is logged. -/
theorem reaches_behind (documented : lib.kit.Documented)
    (reaches : Reaches lib around argv o command level) : perform lib around argv =
      (Live.finish lib.look (Live.serve lib around o command {})).behind lib.look (.ofLevel level)
        (said (serve lib around.files o command)) := by
  have printed : Live.serve lib around o command {} = _ := Live.serve_prints {}
  rw [perform_reaches documented reaches, printed, Live.finish_after, conclude_behind,
    behind_nothing (mute_writes _ _)]

theorem serve_loaded {files : Files.System} {s : Settings}
    (loaded : (loadSettings lib.reader files o.config).value = .ok s) :
    (serve lib files o command).value = (command.elim (complain Usage.missingCommand)
      fun c => c.take ⟨s, o.place, o.number⟩ (lib.kit.reading c (o.rest.drop 1))).value := by
  simp only [serve, Traced.bind_value, loaded]
  cases command <;> rfl

theorem serve_failed {files : Files.System} {e : Settings.LoadError}
    (failed : (loadSettings lib.reader files o.config).value = .error e) :
    (serve lib files o command).value = .error (stopLoading e) := by
  simp only [serve, Traced.bind_value, failed, Traced.pure_value]

end

theorem start_louder {count : Nat} (louder : 0 < count) (setting : Option String) :
    ∃ level, startLevel count setting = .ok level := by
  obtain ⟨level, requested⟩ : ∃ level, requestedLevel count setting = .ok (some level) := by
    unfold requestedLevel
    split
    · exact ⟨_, rfl⟩
    split
    · exact ⟨_, rfl⟩
    split
    · exact ⟨_, rfl⟩
    · omega
  exact ⟨level, by rw [startLevel, requested]; rfl⟩

theorem start_quiet : startLevel 0 none = .ok critical := rfl

theorem start_unset (count : Nat) : ∃ level, startLevel count none = .ok level := by
  rcases Nat.eq_zero_or_pos count with rfl | louder
  · exact ⟨critical, start_quiet⟩
  · exact start_louder louder none

def nowhere : Surroundings := { files := ⟨.ok {}, fun _ => .error .missing⟩ }

end Caret.CommandLine
