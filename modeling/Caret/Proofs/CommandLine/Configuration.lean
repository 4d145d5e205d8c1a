import Caret.Proofs.CommandLine.Logged
import Caret.Proofs.Settings.Loading

/-!
Settings that do not load. A run takes its settings from one file, the one that is named or the first
that is found; where that file does not load, the fault is reported under an exit code of its own, or
nobody reports it.
-/
namespace Caret.CommandLine
open Document Files Settings

/-- The file that the settings of a run come from. -/
inductive Chosen (files : System) : Option String → Path → Prop
  | named (text : String) : Chosen files (some text) (Path.ofText text)
  | own {base : Path} (here : files.workingDirectory = .ok base)
      (found : files.isFile (base.child ownFile) = .ok true) :
      Chosen files none (base.child ownFile)
  | project {base : Path} (here : files.workingDirectory = .ok base)
      (passed : files.isFile (base.child ownFile) = .ok false)
      (found : files.isFile (base.child projectFile) = .ok true) :
      Chosen files none (base.child projectFile)

theorem settings_chosen (reader : TableReader) {files : System} {config : Option String}
    {path : Path} (chosen : Chosen files config path) :
    loadSettings reader files config = load reader files path := by
  cases chosen with
  | named text => rfl
  | own here found =>
    simp only [loadSettings, discover, Option.elim_none, here, discoverAmong, found]
  | project here passed found =>
    simp only [loadSettings, discover, Option.elim_none, here, discoverAmong, passed, found]

def misconfigured (e : LoadError) : Ending :=
  { exitCode := 78
    console := { err := "\x1b[91m\x1b[1merror: " ++ e.message ++ "\x1b[0m" ++ "\n" } }

theorem stop_reported {e : LoadError} (reported : e.Reported) :
    closing (.error (stopLoading e)) = misconfigured e := by
  have settings : stopLoading e = .fault (.settings e.message) := by
    cases e with
    | unreadable | malformed | toolNotTable | settings => rfl
    | rejected | nulCharacter | notUtf8 | undiscoverable | nowhere => cases reported
  rw [settings]
  rfl

theorem stop_silent {e : LoadError} (silent : ¬ e.Reported) :
    closing (.error (stopLoading e)) = crashed (.load e) := by
  cases e with
  | unreadable | malformed | toolNotTable | settings => exact absurd trivial silent
  | rejected | nulCharacter | notUtf8 | undiscoverable | nowhere => rfl

theorem said_failed {e : LoadError} {t : Traced (Except Stop String)}
    (value : t.value = .error (stopLoading e)) : said t = t.records := by
  rw [said, value]
  cases e <;> exact List.append_nil _

section
variable {lib : Libraries} {around : Surroundings} {argv : List String} {o : Options}
  {command : Option Command} {level : Int} {e : LoadError}

theorem perform_failing (documented : lib.kit.Documented)
    (reaches : Reaches lib around argv o command level)
    (failed : (loadSettings lib.reader around.files o.config).value = .error e) :
    perform lib around argv = (closing (.error (stopLoading e))).behind lib.look (.ofLevel level)
      (loadSettings lib.reader around.files o.config).records := by
  have value : (serve lib around.files o command).value = _ := serve_failed failed
  have records : (serve lib around.files o command).records =
      (loadSettings lib.reader around.files o.config).records := by
    simp only [serve, Traced.bind_records, failed, Traced.pure_records, List.append_nil]
  rw [perform_reaches documented reaches, said_failed value, value, records]

end

/-- The reader signals every text that it turns down as malformed. -/
def Signals (reader : TableReader) : Prop :=
  ∀ cs kind message, reader cs ≠ .error (.other kind message)

/-- Loading a file gives settings or a fault that is reported, and then the run ends with the report
and its exit code, behind the log if there is one. The exceptions are a path that names nothing on
any system, bytes that are no text, and a reader that fails in a way of its own. -/
theorem load_failures {lib : Libraries} (documented : lib.kit.Documented) (around : Surroundings)
    (path : Path) :
    (((∃ s, (load lib.reader around.files path).value = .ok s) ∨
        ∃ e : LoadError, (load lib.reader around.files path).value = .error e ∧ e.Reported) ↔
      ¬ ∃ e, Unreported lib.reader around.files path e) ∧
    (∀ e, Unreported lib.reader around.files path e →
      (load lib.reader around.files path).value = .error e) ∧
    (Signals lib.reader → ∀ e, Unreported lib.reader around.files path e →
      e = .nulCharacter ∨ e = .notUtf8) ∧
    ∀ argv o command level, Reaches lib around argv o command level →
      Chosen around.files o.config path →
        ∀ e, (load lib.reader around.files path).value = .error e →
          (e.Reported → ∃ rs, perform lib around argv =
            (misconfigured e).behind lib.look (.ofLevel level) rs) ∧
          (Unreported lib.reader around.files path e → ∃ rs, perform lib around argv =
            (crashed (.load e)).behind lib.look (.ofLevel level) rs) := by
  refine ⟨load_reported_iff lib.reader around.files path, fun _ => load_unreported, ?_, ?_⟩
  · intro signals e unreported
    cases unreported with
    | nulCharacter => exact .inl rfl
    | notUtf8 => exact .inr rfl
    | rejected found text turned => exact absurd turned (signals _ _ _)
  · intro argv o command level reaches chosen e failed
    rw [← settings_chosen lib.reader chosen] at failed
    have ends := perform_failing documented reaches failed
    constructor
    · intro reported
      rw [stop_reported reported] at ends
      exact ⟨_, ends⟩
    · intro unreported
      rw [stop_silent (unreported_silent unreported)] at ends
      exact ⟨_, ends⟩

theorem directory_misconfigured :
    ∃ around : Surroundings, ∃ rs, Standard.terse.kit.Documented ∧
      Reaches Standard.terse around ["-vvv", "--config", "d", "help"]
        { verbose := 3, config := some "d", rest := ["help"] } (some .help) Log.trace ∧
      perform Standard.terse around ["-vvv", "--config", "d", "help"] =
        (misconfigured (.unreadable ⟨"", ["d"]⟩ .isDirectory)).behind Standard.terse.look
          (.ofLevel Log.trace) rs := by
  let around : Surroundings := { files := ⟨.ok {}, fun _ => .ok .directory⟩ }
  have reaches : Reaches Standard.terse around ["-vvv", "--config", "d", "help"]
      { verbose := 3, config := some "d", rest := ["help"] } (some .help) Log.trace :=
    ⟨rfl, rfl, rfl⟩
  obtain ⟨-, -, -, runs⟩ :=
    load_failures Standard.terse_documented around (Path.ofText "d")
  obtain ⟨rs, ends⟩ := (runs _ _ _ _ reaches (.named "d")
    (.unreadable (Path.ofText "d") .isDirectory) rfl).1 trivial
  exact ⟨around, rs, Standard.documented, reaches, ends⟩

/-- For every reader, a byte that begins no character is neither settings nor a fault that is
reported. -/
theorem stray_byte_unreported :
    ∃ files : System, files.find (Path.ofText ownFile) = .ok (.file ⟨#[0xff]⟩) ∧
      ∀ reader, (¬ ∃ s, (load reader files (Path.ofText ownFile)).value = .ok s) ∧
        ¬ ∃ e : LoadError, (load reader files (Path.ofText ownFile)).value = .error e ∧
          e.Reported := by
  let files : System := ⟨.ok {}, fun _ => .ok (.file ⟨#[0xff]⟩)⟩
  refine ⟨files, rfl, ?_⟩
  intro reader
  have unreported : Unreported reader files (Path.ofText ownFile) .notUtf8 :=
    .notUtf8 rfl ((decode_none _).mp rfl)
  have failed := load_unreported unreported
  refine ⟨?_, ?_⟩
  · rintro ⟨s, loaded⟩
    rw [failed] at loaded
    cases loaded
  · rintro ⟨e, failed', reported⟩
    rw [failed] at failed'
    cases failed'
    exact unreported_silent unreported reported

end Caret.CommandLine
