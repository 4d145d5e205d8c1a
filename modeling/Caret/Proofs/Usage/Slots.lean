import Caret.Proofs.Usage.Sentence

namespace Caret.Usage

/-- What an argument has to be, under the name that a report gives it. -/
inductive Slot where
  | text (what : String)
  | line (what : String)
  | span
  deriving DecidableEq, Repr

namespace Slot

def absence (position : Int) (echo : String) : Slot → Complaint
  | text what => .missing ("must provide " ++ what) what position echo []
  | line what => .missing ("must provide " ++ what) what position echo []
  | span => .missing "must provide span" "span" position echo []

def refusal (position : Int) (echo word : String) : Slot → Option Complaint
  | text _ => none
  | line what =>
    if Text.hasBreak word then some (Reading.brokenLine what position echo word) else none
  | span =>
    match Span.parse word with
    | .ok _ => none
    | .error cause => some (Reading.badSpan position echo word cause)

def spelled (word : String) : Slot → String
  | text _ => Reading.inQuotes word
  | line _ => Reading.inQuotes word
  | span => word

end Slot

/-- The complaint of a row of slots about the words given to it. -/
def fault (position : Int) (echo : String) : List Slot → Words → Option Complaint
  | [], _ => none
  | s :: _, [] => some (s.absence position echo)
  | s :: slots, w :: words =>
    match s.refusal position echo w with
    | some c => some c
    | none => fault (position + 1) (echo ++ " " ++ s.spelled w) slots words

def tripleSlots (message code : String) : List Slot := [.text message, .line code, .span]

def commandWord (isError : Bool) : String := if isError then "error" else "warning"

def commandSlots (isError : Bool) : List Slot :=
  if isError then .text "error code" :: tripleSlots "message" "code"
  else tripleSlots "message" "code"

/-- The slots of a sub-command, apart from the tip that may follow a `fix`. -/
def groupSlots? (keyword : String) : Option (List Slot) :=
  if keyword = "note" then some [.text "note message"]
  else if keyword = "help" then some [.text "help message"]
  else if keyword = "fix" then some (tripleSlots "help message" "help code")
  else none

theorem group_slots_cases {keyword : String} {slots : List Slot}
    (known : groupSlots? keyword = some slots) :
    keyword = "note" ∧ slots = [.text "note message"] ∨
      keyword = "help" ∧ slots = [.text "help message"] ∨
      keyword = "fix" ∧ slots = tripleSlots "help message" "help code" := by
  unfold groupSlots? at known
  split at known
  · exact .inl ⟨‹_›, (Option.some.inj known).symm⟩
  split at known
  · exact .inr (.inl ⟨‹_›, (Option.some.inj known).symm⟩)
  split at known
  · exact .inr (.inr ⟨‹_›, (Option.some.inj known).symm⟩)
  · cases known

def tipFault : Words → Option Complaint
  | [message, code, text, "span"] =>
    match Span.parse text with
    | .ok span => some (Reading.missingTip ("fix " ++ Reading.inQuotes message ++ " " ++
        Reading.inQuotes code ++ " " ++ span.toText ++ " span"))
    | .error _ => none
  | _ => none

def groupFault (keyword : String) (words : Words) : Option Complaint :=
  match groupSlots? keyword with
  | none => some (invalidSubcommand keyword)
  | some slots =>
    match fault 2 keyword slots words with
    | some c => some c
    | none => if keyword = "fix" then tipFault words else none

/-- A `fix` without a tip ends only where no tip begins; the other phrases end anywhere. -/
def Phrase.Ends : Phrase → Words → Prop
  | .fix _ _ _ none, rest => Closed rest
  | _, _ => True

theorem phrase_ends_of_closed (p : Phrase) {rest : Words} (closed : Closed rest) :
    p.Ends rest := by
  unfold Phrase.Ends
  split
  · exact closed
  · trivial

theorem phrase_ends_of_head {p : Phrase} {rest other : Words} (ends : p.Ends rest)
    (same : other.head? = rest.head?) : p.Ends other := by
  unfold Phrase.Ends at ends ⊢
  split
  · simpa [Closed, same] using ends
  · trivial

theorem tip_none {echo : String} {words : Words} (closed : Closed words) :
    Reading.tip echo words = (.ok none, words) := by
  unfold Reading.tip
  split
  · simp [Closed] at closed
  · simp [Closed] at closed
  · rfl

theorem triple_filled (first second : String) (position : Int) (echo message : String)
    (code : LineText) (span : SpanText) (rest : Words) :
    fault position echo (tripleSlots first second) (message :: code.text :: span.text :: rest) =
      none := by
  simp [tripleSlots, fault, Slot.refusal, code.unbroken, span.read]

theorem fix_fault (words : Words) :
    groupFault "fix" words =
      match fault 2 "fix" (tripleSlots "help message" "help code") words with
      | some c => some c
      | none => tipFault words := rfl

theorem read_phrase (p : Phrase) (rest : Words) (ends : p.Ends rest) :
    ∃ keyword words, p.words ++ rest = keyword :: words ∧
      Request.readGroup keyword words = (.ok p.group, rest) ∧ groupFault keyword words = none := by
  cases p with
  | note message => exact ⟨_, _, rfl, rfl, rfl⟩
  | help message => exact ⟨_, _, rfl, rfl, rfl⟩
  | fix message code span tip =>
    cases tip with
    | none =>
      refine ⟨"fix", message :: code.text :: span.text :: rest, rfl, ?_, ?_⟩
      · simp [Request.readGroup, Reading.fix, Reading.message, Reading.codeLine, Reading.span,
          code.unbroken, span.read, tip_none ends, Phrase.group]
      · rw [fix_fault, triple_filled]
        simp only [tipFault]
        split <;> simp_all [Phrase.Ends, Closed]
    | some tip =>
      refine ⟨"fix", message :: code.text :: span.text :: "span" :: tip :: rest, rfl, ?_, ?_⟩
      · simp [Request.readGroup, Reading.fix, Reading.message, Reading.codeLine, Reading.span,
          code.unbroken, span.read, Reading.tip, Phrase.group]
      · rw [fix_fault, triple_filled]
        rfl

/-- How far a list of words goes as a message, a code line and a span. -/
inductive Triple : Words → Prop where
  | noMessage : Triple []
  | noLine (message : String) : Triple [message]
  | badLine (message code : String) (rest : Words) (broken : Text.hasBreak code = true) :
      Triple (message :: code :: rest)
  | noSpan (message : String) (code : LineText) : Triple [message, code.text]
  | badSpan (message : String) (code : LineText) (text : String) (cause : Span.ReadError)
      (rest : Words) (bad : Span.parse text = .error cause) :
      Triple (message :: code.text :: text :: rest)
  | whole (message : String) (code : LineText) (span : SpanText) (rest : Words) :
      Triple (message :: code.text :: span.text :: rest)

theorem triple (words : Words) : Triple words := by
  rcases words with _ | ⟨message, _ | ⟨code, rest⟩⟩
  · exact .noMessage
  · exact .noLine message
  · cases unbroken : Text.hasBreak code with
    | true => exact .badLine message code rest unbroken
    | false =>
      rcases rest with _ | ⟨text, rest⟩
      · exact .noSpan message ⟨code, unbroken⟩
      · cases read : Span.parse text with
        | error cause => exact .badSpan message ⟨code, unbroken⟩ text cause rest read
        | ok span => exact .whole message ⟨code, unbroken⟩ ⟨text, span, read⟩ rest

theorem fix_cases (words : Words) :
    (∃ c rest, Reading.fix words = (.error c, rest) ∧ groupFault "fix" words = some c) ∨
      ∃ p rest, Phrase.Ends p rest ∧ "fix" :: words = p.words ++ rest := by
  rw [fix_fault]
  cases triple words with
  | noMessage => exact .inl ⟨_, _, rfl, rfl⟩
  | noLine message => exact .inl ⟨_, _, rfl, rfl⟩
  | badLine message code rest broken =>
    refine .inl ⟨Reading.brokenLine "help code" 3 ("fix " ++ Reading.inQuotes message) code, rest,
      ?_, ?_⟩
    · simp [Reading.fix, Reading.message, Reading.codeLine, broken]
    · simp only [tripleSlots, fault, Slot.refusal, broken, if_true]
      rfl
  | noSpan message code =>
    refine .inl ⟨Slot.span.absence 4 ("fix " ++ Reading.inQuotes message ++ " " ++
      Reading.inQuotes code.text), [], ?_, ?_⟩
    · simp [Reading.fix, Reading.message, Reading.codeLine, Reading.span, Slot.absence,
        code.unbroken]
    · simp only [tripleSlots, fault, Slot.refusal, code.unbroken]
      rfl
  | badSpan message code text cause rest bad =>
    refine .inl ⟨Reading.badSpan 4 ("fix " ++ Reading.inQuotes message ++ " " ++
      Reading.inQuotes code.text) text cause, rest, ?_, ?_⟩
    · simp [Reading.fix, Reading.message, Reading.codeLine, Reading.span, code.unbroken, bad]
    · simp only [tripleSlots, fault, Slot.refusal, code.unbroken, bad]
      rfl
  | whole message code span rest =>
    rw [triple_filled]
    -- The word after the span decides whether a tip follows, and then whether it is there.
    by_cases closed : Closed rest
    · exact .inr ⟨.fix message code span none, rest, closed, rfl⟩
    · obtain ⟨tail, rfl⟩ := unclosed_tail closed
      cases tail with
      | nil =>
        refine .inl ⟨Reading.missingTip ("fix " ++ Reading.inQuotes message ++ " " ++
          Reading.inQuotes code.text ++ " " ++ span.span.toText ++ " span"), [], ?_, ?_⟩
        · simp [Reading.fix, Reading.message, Reading.codeLine, Reading.span, Reading.tip,
            code.unbroken, span.read]
        · simp only [tipFault, span.read]
      | cons tip tail => exact .inr ⟨.fix message code span (some tip), tail, trivial, rfl⟩

theorem group_cases (keyword : String) (words : Words) :
    (∃ c rest, Request.readGroup keyword words = (.error c, rest) ∧
        groupFault keyword words = some c) ∨
      ∃ p rest, Phrase.Ends p rest ∧ keyword :: words = p.words ++ rest := by
  by_cases note : keyword = "note"
  · subst note
    cases words with
    | nil => exact .inl ⟨_, _, rfl, rfl⟩
    | cons message rest => exact .inr ⟨.note message, rest, trivial, rfl⟩
  by_cases help : keyword = "help"
  · subst help
    cases words with
    | nil => exact .inl ⟨_, _, rfl, rfl⟩
    | cons message rest => exact .inr ⟨.help message, rest, trivial, rfl⟩
  by_cases fix : keyword = "fix"
  · subst fix
    rcases fix_cases words with ⟨c, rest, failed, found⟩ | whole
    · exact .inl ⟨c, rest, by simp [Request.readGroup, failed], found⟩
    · exact .inr whole
  · refine .inl ⟨invalidSubcommand keyword, words, ?_, ?_⟩
    · unfold Request.readGroup
      split <;> first | contradiction | rfl
    · simp [groupFault, groupSlots?, note, help, fix]

theorem read_stuck {keyword : String} {words : Words} {c : Complaint}
    (found : groupFault keyword words = some c) :
    ∃ rest, Request.readGroup keyword words = (.error c, rest) := by
  rcases group_cases keyword words with ⟨c', rest, failed, found'⟩ | ⟨p, rest, ends, split⟩
  · obtain rfl : c' = c := Option.some.inj (found'.symm.trans found)
    exact ⟨rest, failed⟩
  · obtain ⟨keyword', words', split', _, nothing⟩ := read_phrase p rest ends
    obtain ⟨rfl, rfl⟩ := List.cons.inj (split.trans split')
    rw [nothing] at found
    contradiction

end Caret.Usage
