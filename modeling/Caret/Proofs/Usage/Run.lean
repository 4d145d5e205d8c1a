import Caret.Proofs.Usage.Slots

namespace Caret.Usage

theorem read_from_cases (level : Level) (command : String) (position : Int) (words : Words) :
    (∃ c, Request.readFrom level command position words = .error (0, c) ∧
        fault position command (tripleSlots "message" "code") words = some c) ∨
      ∃ message code span rest,
        words = message :: LineText.text code :: SpanText.text span :: rest := by
  cases triple words with
  | noMessage => exact .inl ⟨_, rfl, rfl⟩
  | noLine message => exact .inl ⟨_, rfl, rfl⟩
  | badLine message code rest broken =>
    refine .inl ⟨Reading.brokenLine "code" (position + 1)
      (command ++ " " ++ Reading.inQuotes message) code, ?_, ?_⟩
    · simp [Request.readFrom, Reading.message, Reading.codeLine, broken]
    · simp [tripleSlots, fault, Slot.refusal, Slot.spelled, broken]
  | noSpan message code =>
    refine .inl ⟨Slot.span.absence (position + 1 + 1) (command ++ " " ++ Reading.inQuotes message ++
      " " ++ Reading.inQuotes code.text), ?_, ?_⟩
    · simp [Request.readFrom, Reading.message, Reading.codeLine, Reading.span, Slot.absence,
        code.unbroken, Int.add_assoc]
    · simp [tripleSlots, fault, Slot.refusal, Slot.spelled, code.unbroken]
  | badSpan message code text cause rest bad =>
    refine .inl ⟨Reading.badSpan (position + 1 + 1) (command ++ " " ++ Reading.inQuotes message ++
      " " ++ Reading.inQuotes code.text) text cause, ?_, ?_⟩
    · simp [Request.readFrom, Reading.message, Reading.codeLine, Reading.span, code.unbroken, bad,
        Int.add_assoc]
    · simp [tripleSlots, fault, Slot.refusal, Slot.spelled, code.unbroken, bad]
  | whole message code span rest => exact .inr ⟨message, code, span, rest, rfl⟩

def commandFault (isError : Bool) (words : Words) : Option Complaint :=
  fault 2 (commandWord isError) (commandSlots isError) words

theorem command_cases (isError : Bool) (words : Words) :
    (∃ c, Request.read isError words = .error (0, c) ∧ commandFault isError words = some c) ∨
      ∃ o rest, Level.isError (Opening.level o) = isError ∧ words = o.words ++ rest := by
  cases isError with
  | false =>
    rcases read_from_cases .warning "warning" 2 words with
      ⟨c, failed, found⟩ | ⟨message, code, span, rest, rfl⟩
    · exact .inl ⟨c, failed, found⟩
    · exact .inr ⟨⟨.warning, message, code, span⟩, rest, rfl, rfl⟩
  | true =>
    cases words with
    | nil => exact .inl ⟨_, rfl, rfl⟩
    | cons code words =>
      rcases read_from_cases (.error code) ("error " ++ Reading.inQuotes code) 3 words with
        ⟨c, failed, found⟩ | ⟨message, line, span, rest, rfl⟩
      · exact .inl ⟨c, failed, found⟩
      · exact .inr ⟨⟨.error code, message, line, span⟩, rest, rfl, rfl⟩

theorem phrase_words_length (p : Phrase) : 2 ≤ p.words.length := by
  cases p with
  | note message => simp [Phrase.words]
  | help message => simp [Phrase.words]
  | fix message code span tip => cases tip <;> simp [Phrase.words]

theorem read_group_rest {keyword : String} {words rest : Words} {g : Group}
    (run : Request.readGroup keyword words = (.ok g, rest)) : rest.length ≤ words.length := by
  rcases group_cases keyword words with ⟨c, other, failed, _⟩ | ⟨p, other, ends, split⟩
  · rw [failed] at run
    cases run
  · obtain ⟨keyword', words', split', whole, _⟩ := read_phrase p other ends
    obtain ⟨rfl, rfl⟩ := List.cons.inj (split.trans split')
    rw [whole] at run
    cases run
    have lengths := congrArg List.length split
    have long := phrase_words_length p
    simp only [List.length_cons, List.length_append] at lengths
    omega

/-- More fuel than words changes nothing. -/
theorem groups_within_fuel {fuel other before : Nat} {words : Words}
    (enough : words.length ≤ fuel) (enough' : words.length ≤ other) :
    Request.groupsWithin fuel before words = Request.groupsWithin other before words := by
  induction fuel generalizing other before words with
  | zero =>
    obtain rfl : words = [] := List.length_eq_zero_iff.mp (by omega)
    cases other <;> rfl
  | succ fuel ih =>
    cases words with
    | nil => cases other <;> rfl
    | cons keyword words =>
      cases other with
      | zero => simp at enough'
      | succ other =>
        simp only [List.length_cons, Nat.add_le_add_iff_right] at enough enough'
        simp only [Request.groupsWithin]
        split
        · rfl
        · rename_i g rest run
          have shorter := read_group_rest run
          rw [ih (by omega) (by omega : rest.length ≤ other)]

def groupsFrom (before : Nat) (words : Words) : Except Request.Mistake (List Group) :=
  Request.groupsWithin words.length before words

theorem groups_from_stuck {keyword : String} {words : Words} {c : Complaint}
    (found : groupFault keyword words = some c) (before : Nat) :
    groupsFrom before (keyword :: words) = .error (before, c) := by
  obtain ⟨rest, failed⟩ := read_stuck found
  simp [groupsFrom, Request.groupsWithin, failed]

theorem groups_from_phrase {p : Phrase} {rest : Words} (ends : p.Ends rest) (before : Nat) :
    groupsFrom before (p.words ++ rest) = (groupsFrom (before + 1) rest).map (p.group :: ·) := by
  obtain ⟨keyword, words, split, run, _⟩ := read_phrase p rest ends
  have shorter := read_group_rest run
  rw [split]
  simp only [groupsFrom, List.length_cons, Request.groupsWithin, run]
  rw [groups_within_fuel shorter (Nat.le_refl _)]

theorem groups_induction {motive : Words → Prop} (nil : motive [])
    (stuck : ∀ keyword words c, groupFault keyword words = some c → motive (keyword :: words))
    (phrase : ∀ (p : Phrase) rest, p.Ends rest → motive rest → motive (p.words ++ rest))
    (words : Words) : motive words := by
  induction h : words.length using Nat.strongRecOn generalizing words with
  | ind n ih =>
    cases words with
    | nil => exact nil
    | cons keyword words =>
      rcases group_cases keyword words with ⟨c, _, _, found⟩ | ⟨p, rest, ends, split⟩
      · exact stuck keyword words c found
      · rw [split] at h ⊢
        have long := phrase_words_length p
        simp only [List.length_append] at h
        exact phrase p rest ends (ih rest.length (by omega) rest rfl)

theorem groups_from_phrases (ps : List Phrase) (before : Nat) :
    groupsFrom before (ps.flatMap Phrase.words) = .ok (ps.map Phrase.group) := by
  induction ps generalizing before with
  | nil => rfl
  | cons p ps ih =>
    have ends := phrase_ends_of_closed p (phrases_words_head ps)
    rw [List.flatMap_cons, groups_from_phrase ends, ih]
    rfl

theorem groups_from_ok {before : Nat} {words : Words} {groups : List Group}
    (run : groupsFrom before words = .ok groups) :
    ∃ ps : List Phrase, words = ps.flatMap Phrase.words ∧ groups = ps.map Phrase.group := by
  induction words using groups_induction generalizing before groups with
  | nil =>
    cases run
    exact ⟨[], rfl, rfl⟩
  | stuck keyword words c found =>
    rw [groups_from_stuck found] at run
    cases run
  | phrase p rest ends ih =>
    rw [groups_from_phrase ends] at run
    cases tail : groupsFrom (before + 1) rest with
    | error e =>
      rw [tail] at run
      cases run
    | ok gs =>
      rw [tail] at run
      cases run
      obtain ⟨ps, rfl, rfl⟩ := ih tail
      exact ⟨p :: ps, rfl, rfl⟩

theorem read_opening (o : Opening) (rest : Words) :
    Request.read o.level.isError (o.words ++ rest) = (groupsFrom 1 rest).map fun groups =>
      ⟨o.level, o.message, o.code.text, o.span.span, groups⟩ := by
  obtain ⟨level, message, code, span⟩ := o
  cases level <;>
    simp [Request.read, Request.readFrom, Request.readGroups, groupsFrom, Level.isError,
      Opening.words, Level.words, Reading.message, Reading.codeLine, Reading.span, code.unbroken,
      span.read]

/-- What is not accepted is stuck in the arguments of the command or in a group behind them. -/
theorem read_failed_cases {isError : Bool} {words : Words} {n : Nat} {c : Complaint}
    (run : Request.read isError words = .error (n, c)) :
    n = 0 ∧ commandFault isError words = some c ∨
      ∃ o rest, Level.isError (Opening.level o) = isError ∧ words = o.words ++ rest ∧
        groupsFrom 1 rest = .error (n, c) := by
  rcases command_cases isError words with ⟨d, failed, found⟩ | ⟨o, rest, rfl, rfl⟩
  · rw [failed] at run
    cases run
    exact .inl ⟨rfl, found⟩
  · rw [read_opening] at run
    cases tail : groupsFrom 1 rest with
    | ok groups =>
      rw [tail] at run
      cases run
    | error e =>
      rw [tail] at run
      cases run
      exact .inr ⟨o, rest, rfl, rfl, tail⟩

theorem opening_filled (o : Opening) (rest : Words) :
    commandFault o.level.isError (o.words ++ rest) = none := by
  obtain ⟨level, message, code, span⟩ := o
  cases level with
  | warning => exact triple_filled _ _ _ _ _ _ _ _
  | error text => exact triple_filled _ _ _ _ _ _ _ _

theorem read_command_stuck {isError : Bool} {words : Words} {c : Complaint}
    (found : commandFault isError words = some c) : Request.read isError words = .error (0, c) := by
  rcases command_cases isError words with ⟨c', failed, found'⟩ | ⟨o, rest, rfl, rfl⟩
  · obtain rfl : c' = c := Option.some.inj (found'.symm.trans found)
    exact failed
  · rw [opening_filled] at found
    contradiction

theorem read_sentence (s : Sentence) : Request.read s.isError s.words = .ok s.request := by
  unfold Sentence.isError Sentence.words
  rw [read_opening, groups_from_phrases]
  rfl

theorem read_ok {isError : Bool} {words : Words} {r : Request}
    (run : Request.read isError words = .ok r) :
    ∃ s : Sentence, s.isError = isError ∧ s.words = words ∧ s.request = r := by
  rcases command_cases isError words with ⟨c, failed, _⟩ | ⟨o, rest, rfl, rfl⟩
  · rw [failed] at run
    cases run
  · rw [read_opening] at run
    cases tail : groupsFrom 1 rest with
    | error e =>
      rw [tail] at run
      cases run
    | ok groups =>
      rw [tail] at run
      cases run
      obtain ⟨ps, rfl, rfl⟩ := groups_from_ok tail
      exact ⟨⟨o, ps⟩, rfl, rfl, rfl⟩

end Caret.Usage
