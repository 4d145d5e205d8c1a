import Caret.CommandLine.Run

namespace Caret.CommandLine

section
variable (lib : Libraries) (around : Surroundings) (argv : List String)

structure Reaches (o : Options) (command : Option Command) (level : Int) : Prop where
  options : lib.kit.opening argv = .opened o
  word : commandWord o.rest = .ok command
  logging : startLevel o.verbose around.logLevel = .ok level

/-- Every way that the stages can go. -/
inductive Course : Log.Session → Traced (Except Stop String) → Prop
  | mistaken {message : String} (wrong : lib.kit.opening argv = .mistaken message) :
      Course mute (complain (Usage.invalidInvocation message argv))
  | answered {text : String} (asked : lib.kit.opening argv = .answered text) :
      Course mute (pure (.ok text))
  | unknown {o : Options} {word : String} (options : lib.kit.opening argv = .opened o)
      (stranger : commandWord o.rest = .error word) :
      Course mute (complain (Usage.invalidCommand word))
  | unlogged {o : Options} {command : Option Command} {e : Text.NumeralError}
      (options : lib.kit.opening argv = .opened o) (word : commandWord o.rest = .ok command)
      (logging : startLevel o.verbose around.logLevel = .error e) :
      Course mute (pure (.error (.crash (.level e))))
  | served {o : Options} {command : Option Command} {level : Int}
      (reaches : Reaches lib around argv o command level) :
      Course (.ofLevel level) (serve lib around.files o command)

end

section
variable {lib : Libraries} {around : Surroundings} {argv : List String} {o : Options}
  {command : Option Command} {level : Int}

theorem stages_mistaken {message : String} (wrong : lib.kit.opening argv = .mistaken message) :
    stages lib around argv = (mute, complain (Usage.invalidInvocation message argv)) := by
  simp only [stages, wrong]

theorem stages_answered {text : String} (asked : lib.kit.opening argv = .answered text) :
    stages lib around argv = (mute, pure (.ok text)) := by
  simp only [stages, asked]

theorem stages_unknown {word : String} (options : lib.kit.opening argv = .opened o)
    (stranger : commandWord o.rest = .error word) :
    stages lib around argv = (mute, complain (Usage.invalidCommand word)) := by
  simp only [stages, options, stranger]

theorem stages_unlogged {e : Text.NumeralError} (options : lib.kit.opening argv = .opened o)
    (word : commandWord o.rest = .ok command)
    (logging : startLevel o.verbose around.logLevel = .error e) :
    stages lib around argv = (mute, pure (.error (.crash (.level e)))) := by
  simp only [stages, options, word, logging]

theorem stages_reaches (reaches : Reaches lib around argv o command level) :
    stages lib around argv = (.ofLevel level, serve lib around.files o command) := by
  obtain ⟨options, word, logging⟩ := reaches
  simp only [stages, options, word, logging]

theorem stages_course (lib : Libraries) (around : Surroundings) (argv : List String) :
    Course lib around argv (stages lib around argv).1 (stages lib around argv).2 := by
  cases opening : lib.kit.opening argv with
  | mistaken message =>
    rw [stages_mistaken opening]
    exact .mistaken opening
  | answered text =>
    rw [stages_answered opening]
    exact .answered opening
  | opened o =>
    cases word : commandWord o.rest with
    | error stranger =>
      rw [stages_unknown opening word]
      exact .unknown opening word
    | ok command =>
      cases logging : startLevel o.verbose around.logLevel with
      | error e =>
        rw [stages_unlogged opening word logging]
        exact .unlogged opening word logging
      | ok level =>
        have reaches : Reaches lib around argv o command level := ⟨opening, word, logging⟩
        rw [stages_reaches reaches]
        exact .served reaches

theorem number_positive (documented : lib.kit.Documented)
    (options : lib.kit.opening argv = .opened o) : 1 ≤ o.number := by
  unfold Options.number
  cases line : o.line with
  | none => decide
  | some n => exact documented.positive options line

end

theorem of_word (c : Command) : Command.ofWord? c.word = some c := by
  cases c <;> rfl

theorem of_word_some {w : String} {c : Command} (known : Command.ofWord? w = some c) :
    w = c.word := by
  rw [Command.ofWord?] at known
  have same := List.find?_some known
  exact (beq_iff_eq.mp same).symm

theorem command_word_called (c : Command) (words : List String) :
    commandWord (c.word :: words) = .ok (some c) := by
  simp only [commandWord, of_word]

theorem command_word_error {words : List String} {w : String}
    (stranger : commandWord words = .error w) :
    ∃ later, words = w :: later ∧ Command.ofWord? w = none := by
  cases words with
  | nil => cases stranger
  | cons w' later =>
    cases known : Command.ofWord? w' with
    | some c =>
      rw [commandWord, known] at stranger
      cases stranger
    | none =>
      rw [commandWord, known] at stranger
      cases stranger
      exact ⟨later, rfl, known⟩

theorem command_word_some {words : List String} {c : Command}
    (word : commandWord words = .ok (some c)) : words = c.word :: words.drop 1 := by
  cases words with
  | nil => cases word
  | cons w rest =>
    cases known : Command.ofWord? w with
    | none =>
      rw [commandWord, known] at word
      cases word
    | some c' =>
      rw [commandWord, known] at word
      cases word
      rw [of_word_some known]
      rfl

end Caret.CommandLine
