import Caret.Proofs.CommandLine.Endings

namespace Caret.CommandLine
open Log Usage

section
variable (lib : Libraries) (around : Surroundings) (argv : List String)

structure Settled : Prop where
  unset : around.logLevel = none
  silent : ∀ o, lib.kit.opening argv = .opened o → o.verbose = 0
  loads : ∀ o, lib.kit.opening argv = .opened o →
    ∃ s, (loadSettings lib.reader around.files o.config).value = .ok s

/-- A command is called with words that the toolkit turns down. -/
inductive Refused (c : Command) (page : String) : Prop
  | intro {o : Options} {words : List String} (options : lib.kit.opening argv = .opened o)
      (rest : o.rest = c.word :: words) (strange : lib.kit.reading c words = .refused page)

/-- A diagnostic that the run comes to draw, and its colours: what the words of a command describe,
or the report that the run gives up with. -/
inductive Shown : Palette → Diagnostic → Prop
  | described {isError : Bool} {o : Options} {words args : List String} {s : Settings}
      {d : Diagnostic} (options : lib.kit.opening argv = .opened o)
      (rest : o.rest = (generator isError).word :: words)
      (given : lib.kit.reading (generator isError) words = .given args)
      (loaded : (loadSettings lib.reader around.files o.config).value = .ok s)
      (accepted : (parse isError o.place o.number s.markers args).value = .ok d) :
      Shown s.palette d
  | reported {d : Diagnostic} {p : Progress} (halted :
      lib.kit.main (Live.hooks lib around) argv {} = .error (.stop (.fault (.usage d))) p) :
      Shown {} d

end

/-- A run ends properly if it succeeds, or prints nothing but one report. -/
inductive Orderly : Ending → Prop
  | printed (out : String) : Orderly { exitCode := 0, console := { out } }
  | reported {d : Diagnostic} {text : String} (report : Report d)
      (drawn : (d.drawn {}).value = .ok text) :
      Orderly { exitCode := 1, console := { err := text ++ "\n" } }

section
variable {lib : Libraries} {around : Surroundings} {argv : List String}

theorem settled_level (settled : Settled lib around argv) {o : Options}
    (options : lib.kit.opening argv = .opened o) :
    startLevel o.verbose around.logLevel = .ok critical := by
  rw [settled.silent o options, settled.unset]
  exact start_quiet

theorem settled_closing (documented : lib.kit.Documented) (settled : Settled lib around argv) :
    perform lib around argv = closing (stages lib around argv).2.value := by
  have ended := perform_run documented around argv
  have course := stages_course lib around argv
  rw [ended, run]
  generalize (stages lib around argv).1 = session at course ⊢
  generalize (stages lib around argv).2 = t at course ⊢
  rw [conclude_behind]
  cases course with
  | mistaken | answered | unknown | unlogged => exact behind_nothing (mute_writes _ _) _
  | served reaches =>
    obtain rfl := Except.ok.inj ((settled_level settled reaches.options).symm.trans reaches.logging)
    exact behind_nothing (written_all_below _ (said_below (serve_below _ _ _ _))) _

theorem called_value (settled : Settled lib around argv) {o : Options} {c : Command}
    {words : List String} (options : lib.kit.opening argv = .opened o)
    (rest : o.rest = c.word :: words) : ∃ s,
      (loadSettings lib.reader around.files o.config).value = .ok s ∧
      (stages lib around argv).2.value =
        (c.take ⟨s, o.place, o.number⟩ (lib.kit.reading c words)).value := by
  obtain ⟨s, loaded⟩ := settled.loads o options
  have word : commandWord o.rest = .ok (some c) := by rw [rest, command_word_called]
  have behind : o.rest.drop 1 = words := by rw [rest, List.drop_one, List.tail_cons]
  refine ⟨s, loaded, ?_⟩
  rw [stages_reaches ⟨options, word, settled_level settled options⟩, serve_loaded loaded,
    Option.elim_some, behind]

theorem refused_command (documented : lib.kit.Documented) {c : Command} {page : String}
    (refused : Refused lib argv c page) : c = .help ∨ c = .example := by
  obtain ⟨options, rest, strange⟩ := refused
  rename_i o words
  -- The commands that draw are given their words, with a double dash among them or without one.
  have taken : c.draws = true → ∃ given, lib.kit.reading c words = .given given := by
    intro draws
    by_cases dashes : "--" ∈ words
    · obtain ⟨before, after, split, undashed⟩ := List.eq_append_cons_of_mem dashes
      exact ⟨_, by rw [split, documented.dashed draws undashed]⟩
    · exact ⟨_, documented.raw draws dashes⟩
  cases c with
  | help => exact .inl rfl
  | «example» => exact .inr rfl
  | error =>
    obtain ⟨given, read⟩ := taken rfl
    cases strange.symm.trans read
  | warning =>
    obtain ⟨given, read⟩ := taken rfl
    cases strange.symm.trans read

theorem refused_ends (documented : lib.kit.Documented) (settled : Settled lib around argv)
    {c : Command} {page : String} (refused : Refused lib argv c page) :
    perform lib around argv = { exitCode := 2, console := { err := page } } := by
  obtain ⟨options, rest, strange⟩ := refused
  obtain ⟨s, -, value⟩ := called_value settled options rest
  rw [settled_closing documented settled, value, strange]
  rfl

theorem shown_stopped (documented : lib.kit.Documented) (settled : Settled lib around argv)
    {p : Palette} {d : Diagnostic} {o : Drawing.Obstacle} (shown : Shown lib around argv p d)
    (stopped : (d.drawn p).value = .error o) :
    perform lib around argv = crashed (.drawing o) := by
  rw [settled_closing documented settled]
  cases shown with
  | @described isError _ _ _ _ _ options rest given loaded accepted =>
    obtain ⟨s', loaded', value⟩ := called_value settled options rest
    obtain rfl := Except.ok.inj (loaded.symm.trans loaded')
    rw [value, given, Command.take, generator_run, generate_stopped accepted stopped]
    rfl
  | reported halted =>
    rw [Live.halted_main documented halted, closing, reporting_stopped stopped]

theorem reported_orderly (documented : lib.kit.Documented) {d : Diagnostic} (report : Report d)
    (clear : ∀ p d, Shown lib around argv p d → ∃ text, (d.drawn p).value = .ok text)
    (value : (stages lib around argv).2.value = .error (.fault (.usage d))) :
    Orderly (closing (stages lib around argv).2.value) := by
  obtain ⟨p, halted⟩ := Live.main_halted documented value
  obtain ⟨text, drawn⟩ := clear {} d (.reported halted)
  rw [value, closing, reporting_drawn drawn]
  exact .reported report drawn

theorem complaint_orderly (documented : lib.kit.Documented) {c : Complaint}
    (unbroken : Text.hasBreak c.echo = false)
    (clear : ∀ p d, Shown lib around argv p d → ∃ text, (d.drawn p).value = .ok text)
    (value : (stages lib around argv).2.value = (complain c).value) :
    Orderly (closing (stages lib around argv).2.value) := by
  obtain ⟨d, report, complained⟩ := complain_reported unbroken
  exact reported_orderly documented report clear (value.trans complained)

theorem called_orderly (documented : lib.kit.Documented) (settled : Settled lib around argv)
    (accepted : ∀ c page, ¬ Refused lib argv c page)
    (clear : ∀ p d, Shown lib around argv p d → ∃ text, (d.drawn p).value = .ok text)
    {o : Options} {c : Command} {words : List String}
    (options : lib.kit.opening argv = .opened o) (rest : o.rest = c.word :: words) :
    Orderly (closing (stages lib around argv).2.value) := by
  obtain ⟨s, loaded, value⟩ := called_value settled options rest
  cases reading : lib.kit.reading c words with
  | refused page => exact absurd (.intro options rest reading) (accepted c page)
  | listed text =>
    rw [value, reading]
    exact .printed text
  | given given =>
    rw [reading, Command.take] at value
    by_cases draws : c.draws = true
    · obtain ⟨isError, rfl⟩ := drawing_generator draws
      rw [generator_run] at value
      rcases parse_ends isError o.place s.markers given (number_positive documented options) with
        ⟨d, taken⟩ | ⟨d, report, rejected⟩
      · obtain ⟨text, drawn⟩ := clear s.palette d (.described options rest reading loaded taken)
        rw [value, generate_drawn taken drawn]
        exact .printed _
      · exact reported_orderly documented report clear (value.trans (generate_reported rejected))
    · obtain ⟨out, printed⟩ : ∃ out, (c.run ⟨s, o.place, o.number⟩ given).value = .ok out := by
        cases c with
        | help => exact ⟨_, rfl⟩
        | «example» => exact example_printed s
        | error => exact absurd rfl draws
        | warning => exact absurd rfl draws
      rw [value, printed]
      exact .printed out

theorem accepted_ends (documented : lib.kit.Documented) (settled : Settled lib around argv)
    (accepted : ∀ c page, ¬ Refused lib argv c page)
    (clear : ∀ p d, Shown lib around argv p d → ∃ text, (d.drawn p).value = .ok text) :
    Orderly (perform lib around argv) := by
  rw [settled_closing documented settled]
  cases opening : lib.kit.opening argv with
  | mistaken message =>
    exact complaint_orderly (c := invalidInvocation message argv) documented
      (Text.hasBreak_escapeBreaks _) clear (congrArg (fun s => s.2.value) (stages_mistaken opening))
  | answered text =>
    rw [stages_answered opening]
    exact .printed text
  | opened o =>
    cases word : commandWord o.rest with
    | error stranger =>
      exact complaint_orderly (c := invalidCommand stranger) documented
        (Text.hasBreak_escapeBreaks _) clear
        (congrArg (fun s => s.2.value) (stages_unknown opening word))
    | ok command =>
      cases command with
      | some c =>
        exact called_orderly documented settled accepted clear opening (command_word_some word)
      | none =>
        obtain ⟨s, loaded⟩ := settled.loads o opening
        have reaches : Reaches lib around argv o none critical :=
          ⟨opening, word, settled_level settled opening⟩
        have value := congrArg (fun s => s.2.value) (stages_reaches reaches)
        exact complaint_orderly (c := missingCommand) documented
          (Text.hasBreak_escapeBreaks _) clear (value.trans (serve_loaded loaded))

end

/-- A command that takes no words is the only one to have them turned down, and then the run ends with
the page of the toolkit. Where there is an obstacle to what a run is to draw, that escapes. Every
other run is orderly. -/
theorem settled_run_ends {lib : Libraries} (documented : lib.kit.Documented)
    (around : Surroundings) (argv : List String) (settled : Settled lib around argv) :
    (∀ c page, Refused lib argv c page → (c = .help ∨ c = .example) ∧
      perform lib around argv = { exitCode := 2, console := { err := page } }) ∧
    (∀ p d o, Shown lib around argv p d → (d.drawn p).value = .error o →
      perform lib around argv =
        { exitCode := 1, escaped := some (.crash (.drawing o)) }) ∧
    ((∀ c page, ¬ Refused lib argv c page) →
      (∀ p d, Shown lib around argv p d → ∃ text, (d.drawn p).value = .ok text) →
        Orderly (perform lib around argv)) := by
  refine ⟨?_, ?_, accepted_ends documented settled⟩
  · intro c page refused
    exact ⟨refused_command documented refused, refused_ends documented settled refused⟩
  · intro p d o shown stopped
    exact shown_stopped documented settled shown stopped

theorem settled_nowhere {argv : List String} {o : Options}
    (options : Standard.terse.kit.opening argv = .opened o) (silent : o.verbose = 0)
    (unnamed : o.config = none) : Settled Standard.terse nowhere argv := by
  refine ⟨rfl, ?_, ?_⟩
  · intro o' options'
    obtain rfl : o = o' := Opening.opened.inj (options.symm.trans options')
    exact silent
  · intro o' options'
    obtain rfl : o = o' := Opening.opened.inj (options.symm.trans options')
    rw [unnamed]
    exact ⟨{}, rfl⟩

theorem inverted_span_ends :
    let argv := ["--path", "-", "warning", "-", "let x", "5-4"]
    Standard.terse.kit.Documented ∧ Settled Standard.terse nowhere argv ∧
      (∀ c page, ¬ Refused Standard.terse argv c page) ∧
      (∀ p d, Shown Standard.terse nowhere argv p d → ∃ text, (d.drawn p).value = .ok text) ∧
      Orderly (perform Standard.terse nowhere argv) := by
  intro argv
  have options : Standard.terse.kit.opening argv =
    .opened { path := some "-", rest := ["warning", "-", "let x", "5-4"] } := rfl
  have settled : Settled Standard.terse nowhere argv := settled_nowhere options rfl rfl
  have accepted : ∀ c page, ¬ Refused Standard.terse argv c page := by
    intro c page refused
    have plain := refused_command Standard.documented refused
    obtain ⟨options', rest, -⟩ := refused
    obtain rfl := Opening.opened.inj (options.symm.trans options')
    obtain ⟨word, -⟩ := List.cons.inj rest
    rcases plain with rfl | rfl <;> exact absurd word (by decide)
  have rejected : (stages Standard.terse nowhere argv).2.value = .error (.fault (.usage _)) := rfl
  have clear : ∀ p d, Shown Standard.terse nowhere argv p d →
      ∃ text, (d.drawn p).value = .ok text := by
    intro p d shown
    cases shown with
    | @described isError o words args s d options' rest given loaded parsed =>
      obtain rfl := Opening.opened.inj (options.symm.trans options')
      obtain ⟨word, rfl⟩ := List.cons.inj rest
      obtain rfl : isError = false := by
        cases isError with
        | false => rfl
        | true => exact absurd word (by decide)
      obtain rfl : ["-", "let x", "5-4"] = args := Reading.given.inj given
      cases loaded
      cases parsed
    | reported halted =>
      have same := rejected.symm.trans (Live.halted_main Standard.documented halted)
      cases same
      exact ⟨_, rfl⟩
  exact ⟨Standard.documented, settled, accepted, clear,
    (settled_run_ends Standard.documented nowhere argv settled).2.2 accepted clear⟩

/-- A word behind `help` is refused without a report. -/
theorem extra_argument_unreported :
    Settled Standard.terse nowhere ["help", "x"] ∧
      ¬ Orderly (perform Standard.terse nowhere ["help", "x"]) := by
  have options : Standard.terse.kit.opening ["help", "x"] = .opened { rest := ["help", "x"] } := rfl
  have settled : Settled Standard.terse nowhere ["help", "x"] := settled_nowhere options rfl rfl
  have refused : Refused Standard.terse ["help", "x"] .help _ := .intro options rfl rfl
  have ends := refused_ends Standard.documented settled refused
  refine ⟨settled, ?_⟩
  rw [ends]
  intro orderly
  cases orderly

end Caret.CommandLine
