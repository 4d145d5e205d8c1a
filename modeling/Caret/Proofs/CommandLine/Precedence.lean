import Caret.Proofs.CommandLine.Configuration
import Caret.Proofs.CommandLine.Endings
import Mathlib.Order.WellFounded

/-!
Which fault is reported. A command line may have several faults at once, and what a stage finds is
said here for each stage by itself, whatever the others find. Nothing is said about command lines
that ask for help or the version among the options.
-/
namespace Caret.CommandLine
open Log Files Settings

inductive Stage where
  | options
  | word
  | settings
  | absence
  | command
  deriving DecidableEq, Repr

def Stage.rank : Stage → Nat
  | .options => 0
  | .word => 1
  | .settings => 2
  | .absence => 3
  | .command => 4

section
variable (lib : Libraries) (files : System) (argv : List String)

/-- What a stage finds in a command line, and how the run ends if it is up to this stage. The last
stage is the command, which finds its own arguments and does its work. -/
inductive Finds : Stage → Ending → Prop
  | options {message : String} {d : Diagnostic} (wrong : lib.kit.opening argv = .mistaken message)
      (built : ((Usage.invalidInvocation message argv).report 1).value = .ok d) :
      Finds .options (reporting (.usage d))
  | word {o : Options} {w : String} {words : List String} {d : Diagnostic}
      (options : lib.kit.opening argv = .opened o) (given : o.rest = w :: words)
      (unknown : ∀ c : Command, w ≠ c.word)
      (built : ((Usage.invalidCommand w).report 1).value = .ok d) :
      Finds .word (reporting (.usage d))
  | settings {o : Options} {e : LoadError} (options : lib.kit.opening argv = .opened o)
      (failed : (loadSettings lib.reader files o.config).value = .error e)
      (reported : e.Reported) : Finds .settings (misconfigured e)
  | unreported {o : Options} {e : LoadError} (options : lib.kit.opening argv = .opened o)
      (failed : (loadSettings lib.reader files o.config).value = .error e)
      (silent : ¬ e.Reported) : Finds .settings (crashed (.load e))
  | absence {o : Options} {d : Diagnostic} (options : lib.kit.opening argv = .opened o)
      (bare : o.rest = []) (built : (Usage.missingCommand.report 1).value = .ok d) :
      Finds .absence (reporting (.usage d))
  | command {o : Options} {c : Command} {words : List String} {s : Settings}
      (options : lib.kit.opening argv = .opened o) (given : o.rest = c.word :: words)
      (loaded : (loadSettings lib.reader files o.config).value = .ok s) :
      Finds .command (Live.finish lib.look ((Live.hooks lib { files }).hand c
        ⟨s, o.place, o.number⟩ (lib.kit.reading c words) {}))

/-- The run ends so, behind what it may have logged. Without a request for more nothing is logged. -/
structure Ends (ending : Ending) : Prop where
  behind : ∃ s rs, perform lib { files } argv = ending.behind lib.look s rs
  silent : (∀ o, lib.kit.opening argv = .opened o → o.verbose = 0) →
    perform lib { files } argv = ending

def First (stage : Stage) : Prop :=
  ∀ earlier : Stage, earlier.rank < stage.rank → ∀ ending, ¬ Finds lib files argv earlier ending

end

section
variable {lib : Libraries} {files : System} {argv : List String} {o : Options}
  {command : Option Command} {ending : Ending}

theorem unlogged_ends (same : perform lib { files } argv = ending) :
    Ends lib files argv ending :=
  ⟨⟨mute, [], by rw [same, behind_nothing (mute_writes _ [])]⟩, fun _ => same⟩

theorem complaint_ends (documented : lib.kit.Documented) {c : Usage.Complaint} {d : Diagnostic}
    (built : (c.report 1).value = .ok d)
    (ends : stages lib { files } argv = (mute, complain c)) :
    Ends lib files argv (reporting (.usage d)) := by
  apply unlogged_ends
  rw [perform_muted documented ends, complain_value built, closing]

theorem served_ends (documented : lib.kit.Documented) {level : Int}
    (reaches : Reaches lib { files } argv o command level) :
    Ends lib files argv (closing (serve lib files o command).value) := by
  refine ⟨⟨_, _, perform_reaches documented reaches⟩, ?_⟩
  intro quiet
  have starts := reaches.logging
  rw [quiet o reaches.options] at starts
  obtain rfl : critical = level := Except.ok.inj starts
  exact perform_quiet documented reaches

theorem hand_closing (c : Command) (common : Common) (r : Reading) :
    Live.finish lib.look ((Live.hooks lib { files }).hand c common r {}) =
      closing (c.take common r).value := by
  have printed : (Live.hooks lib { files }).hand c common r {} = _ :=
    Live.hand_prints lib { files } c common r {}
  rw [printed, Live.finish_after, conclude_behind, behind_nothing (mute_writes _ _)]

theorem first_known {stage : Stage} (first : First lib files argv stage) (later : 1 < stage.rank)
    (options : lib.kit.opening argv = .opened o) :
    ∃ command, commandWord o.rest = .ok command := by
  cases word : commandWord o.rest with
  | ok command => exact ⟨command, rfl⟩
  | error w =>
    obtain ⟨words, given, stranger⟩ := command_word_error word
    have unknown : ∀ c : Command, w ≠ c.word := by
      rintro c rfl
      cases (of_word c).symm.trans stranger
    obtain ⟨d, built⟩ := Usage.report_built (c := Usage.invalidCommand w)
      (Text.hasBreak_escapeBreaks _) (by decide : (0 : Int) < 1)
    exact absurd (.word options given unknown built) (first .word later _)

theorem first_loaded {stage : Stage} (first : First lib files argv stage) (later : 2 < stage.rank)
    (options : lib.kit.opening argv = .opened o) :
    ∃ s, (loadSettings lib.reader files o.config).value = .ok s := by
  cases loaded : (loadSettings lib.reader files o.config).value with
  | ok s => exact ⟨s, rfl⟩
  | error e =>
    by_cases reported : e.Reported
    · exact absurd (.settings options loaded reported) (first .settings later _)
    · exact absurd (.unreported options loaded reported) (first .settings later _)

theorem first_reaches {stage : Stage} (first : First lib files argv stage) (later : 1 < stage.rank)
    (options : lib.kit.opening argv = .opened o) :
    ∃ command level, Reaches lib { files } argv o command level := by
  obtain ⟨command, word⟩ := first_known first later options
  obtain ⟨level, logging⟩ := start_unset o.verbose
  exact ⟨command, level, options, word, logging⟩

theorem first_failed {stage : Stage} {e : LoadError} (documented : lib.kit.Documented)
    (first : First lib files argv stage) (later : 1 < stage.rank)
    (options : lib.kit.opening argv = .opened o)
    (failed : (loadSettings lib.reader files o.config).value = .error e) :
    Ends lib files argv (closing (.error (stopLoading e))) := by
  obtain ⟨command, level, reaches⟩ := first_reaches first later options
  have ends := served_ends documented reaches
  rw [serve_failed failed] at ends
  exact ends

theorem finds_ends (documented : lib.kit.Documented) {stage : Stage}
    (finds : Finds lib files argv stage ending) (first : First lib files argv stage) :
    Ends lib files argv ending := by
  cases finds with
  | options wrong built => exact complaint_ends documented built (stages_mistaken wrong)
  | @word o w words d options given unknown built =>
    have stranger : commandWord o.rest = .error w := by
      cases known : Command.ofWord? w with
      | none => rw [given, commandWord, known]
      | some c => exact absurd (of_word_some known) (unknown c)
    exact complaint_ends documented built (stages_unknown options stranger)
  | settings options failed reported =>
    rw [← stop_reported reported]
    exact first_failed documented first (by decide) options failed
  | unreported options failed silent =>
    rw [← stop_silent silent]
    exact first_failed documented first (by decide) options failed
  | @absence o d options bare built =>
    obtain ⟨command, level, reaches⟩ := first_reaches first (by decide) options
    obtain ⟨s, loaded⟩ := first_loaded first (by decide) options
    have word := reaches.word
    rw [bare] at word
    cases word
    have ends := served_ends documented reaches
    rw [serve_loaded loaded, Option.elim_none, complain_value built,
      closing] at ends
    exact ends
  | @command o c words s options given loaded =>
    obtain ⟨level, logging⟩ := start_unset o.verbose
    have word : commandWord o.rest = .ok (some c) := by rw [given, command_word_called]
    have reaches : Reaches lib { files } argv o (some c) level := ⟨options, word, logging⟩
    have ends := served_ends documented reaches
    rw [serve_loaded loaded, Option.elim_some, given, List.drop_one,
      List.tail_cons] at ends
    rw [hand_closing]
    exact ends

theorem some_finds (unasked : ∀ text, lib.kit.opening argv ≠ .answered text) :
    ∃ stage ending, Finds lib files argv stage ending := by
  cases opening : lib.kit.opening argv with
  | answered text => exact absurd opening (unasked text)
  | mistaken message =>
    obtain ⟨d, built⟩ := Usage.report_built (c := Usage.invalidInvocation message argv)
      (Text.hasBreak_escapeBreaks _) (by decide : (0 : Int) < 1)
    exact ⟨_, _, .options opening built⟩
  | opened o =>
    cases loaded : (loadSettings lib.reader files o.config).value with
    | error e =>
      by_cases reported : e.Reported
      · exact ⟨_, _, .settings opening loaded reported⟩
      · exact ⟨_, _, .unreported opening loaded reported⟩
    | ok s =>
      cases given : o.rest with
      | nil =>
        obtain ⟨d, built⟩ := Usage.report_built (c := Usage.missingCommand) rfl
          (by decide : (0 : Int) < 1)
        exact ⟨_, _, .absence opening given built⟩
      | cons w words =>
        by_cases known : ∃ c : Command, w = c.word
        · obtain ⟨c, rfl⟩ := known
          exact ⟨_, _, .command opening given loaded⟩
        · obtain ⟨d, built⟩ := Usage.report_built (c := Usage.invalidCommand w)
            (Text.hasBreak_escapeBreaks _) (by decide : (0 : Int) < 1)
          exact ⟨_, _, .word opening given (not_exists.mp known) built⟩

theorem first_exists (unasked : ∀ text, lib.kit.opening argv ≠ .answered text) :
    ∃ stage ending, Finds lib files argv stage ending ∧ First lib files argv stage := by
  -- Of the stages that find anything one has the least rank.
  obtain ⟨stage, ⟨ending, finds⟩, least⟩ := (measure Stage.rank).wf.has_min
    { stage | ∃ ending, Finds lib files argv stage ending } (some_finds unasked)
  refine ⟨stage, ending, finds, ?_⟩
  intro earlier less other found
  exact least earlier ⟨other, found⟩ less

theorem bare_first (options : lib.kit.opening argv = .opened o) (bare : o.rest = []) :
    First lib files argv .settings := by
  intro earlier less ending finds
  cases finds with
  | options wrong built => cases options.symm.trans wrong
  | word read given unknown built =>
    obtain rfl := Opening.opened.inj (options.symm.trans read)
    cases bare.symm.trans given
  | settings | unreported | absence | command => exact absurd less (by decide)

end

/-- The run ends as the first stage says that finds anything, whatever later ones would find, and
some stage always does. Reports say what the stage complains about, and one that is drawn is all
that the run then writes. -/
theorem earliest_find_decides {lib : Libraries} (documented : lib.kit.Documented) (files : System)
    (argv : List String) (unasked : ∀ text, lib.kit.opening argv ≠ .answered text) :
    (∀ stage ending, Finds lib files argv stage ending → First lib files argv stage →
      Ends lib files argv ending) ∧
    (∃ stage ending, Finds lib files argv stage ending ∧ First lib files argv stage) ∧
    ∀ (c : Usage.Complaint) (d : Diagnostic), (c.report 1).value = .ok d →
      (Usage.Reports d 1 c ∧ d.message = c.message) ∧
      ∀ text, (d.drawn {}).value = .ok text →
        reporting (.usage d) = { exitCode := 1, console := { err := text ++ "\n" } } := by
  refine ⟨fun stage ending => finds_ends documented, first_exists unasked, ?_⟩
  intro c d built
  exact ⟨⟨Usage.report_reports built, draft_build_message built⟩, fun text => reporting_drawn⟩

theorem misconfiguration_before_absence :
    ∃ files : System, Standard.terse.kit.Documented ∧
      (∀ text, Standard.terse.kit.opening ["-v", "--config", "d"] ≠ .answered text) ∧
      (∃ ending, Finds Standard.terse files ["-v", "--config", "d"] .absence ending) ∧
      Ends Standard.terse files ["-v", "--config", "d"]
        (misconfigured (.unreadable (Path.ofText "d") .isDirectory)) := by
  let files : System := ⟨.ok {}, fun _ => .ok .directory⟩
  have options : Standard.terse.kit.opening ["-v", "--config", "d"] =
    .opened { verbose := 1, config := some "d" } := rfl
  have unasked : ∀ text, Standard.terse.kit.opening ["-v", "--config", "d"] ≠ .answered text := by
    intro text asked
    cases options.symm.trans asked
  obtain ⟨d, built⟩ := Usage.report_built (c := Usage.missingCommand) rfl
    (by decide : (0 : Int) < 1)
  refine ⟨files, Standard.documented, unasked, ⟨_, .absence options rfl built⟩, ?_⟩
  exact (earliest_find_decides Standard.terse_documented files
    ["-v", "--config", "d"] unasked).1 _ _ (.settings options rfl trivial) (bare_first options rfl)

def repeatedKey : String := "[palette]\nhelp = 1\nhelp = 2\n"

def clashes {α : Type} : Except Document.Loose.Trouble α → Bool
  | .error (.clash _) => true
  | _ => false

theorem repeated_key_turned : ∃ kind message,
    Standard.terse.reader (Text.unifyBreaks repeatedKey.toList) = .error (.other kind message) := by
  have twice : clashes (Document.Loose.parse (Text.unifyBreaks repeatedKey.toList)) = true := by
    decide +kernel
  have read (cs : List Char) : Standard.terse.reader cs =
      (Document.Loose.parse cs).mapError (Document.Loose.Trouble.rejection "") := rfl
  rw [read]
  generalize Document.Loose.parse (Text.unifyBreaks repeatedKey.toList) = parsed at twice ⊢
  cases parsed with
  | ok t => cases twice
  | error trouble =>
    cases trouble with
    | malformed => cases twice
    | clash cause => cases cause <;> exact ⟨_, _, rfl⟩

/-- Settings that define something twice are neither reported nor passed over: without a command
the run ends neither with the text of an error under its exit code nor with the report that a
command is missing. -/
theorem repeated_key_unanswered :
    ∃ files : System, (∀ path, files.find path = .ok (.file repeatedKey.toUTF8)) ∧
      (∀ e : LoadError, e.Reported → ¬ Ends Standard.terse files [] (misconfigured e)) ∧
      ∀ d, (Usage.missingCommand.report 1).value = .ok d →
        ¬ Ends Standard.terse files [] (reporting (.usage d)) := by
  let files : System := ⟨.ok {}, fun _ => .ok (.file repeatedKey.toUTF8)⟩
  obtain ⟨kind, message, turned⟩ := repeated_key_turned
  have options : Standard.terse.kit.opening [] = .opened {} := rfl
  have failed : (loadSettings Standard.terse.reader files none).value =
      .error (.rejected kind message) := by
    have chosen : Chosen files none (({} : Path).child ownFile) := .own rfl rfl
    rw [settings_chosen _ chosen]
    exact load_unreported (.rejected rfl (decode_text repeatedKey) turned)
  have quiet : ∀ o, Standard.terse.kit.opening [] = .opened o → o.verbose = 0 := by
    rintro o ⟨⟩
    rfl
  have ends := (finds_ends Standard.terse_documented
    (.unreported options failed id) (bare_first options rfl)).silent quiet
  refine ⟨files, fun _ => rfl, ?_, ?_⟩
  · intro e reported other
    cases congrArg Ending.exitCode (ends.symm.trans (other.silent quiet))
  · intro d built other
    obtain ⟨text, drawn⟩ :=
      Usage.report_drawn {} built one_writable one_writable (by decide) (by decide)
    have same := ends.symm.trans (other.silent quiet)
    rw [reporting_drawn drawn] at same
    cases congrArg Ending.escaped same

end Caret.CommandLine
