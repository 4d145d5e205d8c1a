import Caret.Proofs.Text.Break
import Caret.Proofs.Usage.Run

/-!
What a complaint is about. A complaint about something missing stands behind the last argument, and
some continuation of the arguments is accepted. A complaint about something invalid stands at one
argument: what comes before it can be continued to something accepted, and with it the outcome is
settled, whatever follows. Both are proved for one row of slots first and then carried outwards,
through the group, the groups before it and the command.
-/
namespace Caret.Usage

structure Beyond (span : Span) (text : String) : Prop where
  first : span.first = text.length + 1
  last : span.last = text.length + 4

/-- The escaped word stands in the text exactly under the span. An empty word has one column, where
it would start. -/
structure Under (span : Span) (text word : String) : Prop where
  shown : (text.toList.drop span.first).take span.width = (Text.escapeBreaks word).toList
  width : span.width = max 1 (Text.escapeBreaks word).length
  empty : word = "" → span.first = text.length

namespace Complaint

structure AtEnd (c : Complaint) : Prop where
  verdict : c.verdict = .missing
  unbroken : Text.hasBreak c.echo = false
  beyond : Beyond c.span c.echo

structure Shows (c : Complaint) (word : String) : Prop where
  verdict : c.verdict = .invalid
  unbroken : Text.hasBreak c.echo = false
  under : Under c.span c.echo word

end Complaint

theorem missing_at_end (message what : String) (position : Int) (echo : String)
    (hints : List String) : (Complaint.missing message what position echo hints).AtEnd :=
  ⟨rfl, Text.hasBreak_escapeBreaks echo, rfl, rfl⟩

theorem under_between {span : Span} {text word : String} (before after : String)
    (split : text = before ++ Text.escapeBreaks word ++ after)
    (place : span = Span.ofWord before.length (Text.escapeBreaks word).length)
    (empty : word = "" → after = "") : Under span text word := by
  have width : span.width = max 1 (Text.escapeBreaks word).length := by
    simp only [place, Span.width, Span.ofWord]
    omega
  refine ⟨?_, width, ?_⟩
  · rw [width, place, split]
    simp only [Span.ofWord, String.toList_append, List.append_assoc, ← String.length_toList,
      List.drop_left]
    by_cases none : word = ""
    · subst none
      rw [empty rfl]
      rfl
    · have some : 0 < (Text.escapeBreaks word).toList.length := by
        rw [List.length_pos_iff]
        intro nil
        exact none (Text.escapeBreaks_eq_empty (String.toList_eq_nil_iff.mp nil))
      rw [Nat.max_eq_right some, List.take_left]
  · intro none
    subst none
    rw [split, place, empty rfl]
    simp [Span.ofWord, Text.escapeBreaks]

theorem broken_line_shows (what : String) (position : Int) (echo word : String)
    (broken : Text.hasBreak word = true) :
    (Reading.brokenLine what position echo word).Shows word := by
  refine ⟨rfl, Text.hasBreak_escapeBreaks _,
    under_between (Text.escapeBreaks echo ++ " '") "'" ?_ ?_ ?_⟩
  · simp only [Reading.brokenLine, Complaint.invalid, Reading.inQuotes, Text.escapeBreaks_append,
      Text.escapeBreaks_twice, String.append_assoc]
    rfl
  · simp only [Reading.brokenLine, Complaint.invalid, String.length_append]
    rfl
  · rintro rfl
    contradiction

theorem bad_span_shows (position : Int) (echo word : String) (cause : Span.ReadError) :
    (Reading.badSpan position echo word cause).Shows word := by
  refine ⟨rfl, Text.hasBreak_escapeBreaks _,
    under_between (Text.escapeBreaks echo ++ " ") "" ?_ ?_ fun _ => rfl⟩
  · simp only [Reading.badSpan, Complaint.invalid, Text.escapeBreaks_append,
      Text.escapeBreaks_twice, String.append_empty]
    rfl
  · simp only [Reading.badSpan, Complaint.invalid, String.length_append]
    rfl

theorem invalid_subcommand_shows (word : String) : (invalidSubcommand word).Shows word := by
  refine ⟨rfl, Text.hasBreak_escapeBreaks _, under_between "" "" ?_ ?_ fun _ => rfl⟩
  · simp [invalidSubcommand, Complaint.invalid, Text.escapeBreaks_twice]
  · simp [invalidSubcommand, Complaint.invalid]

/-- A complaint about some words, its place counted from one, where `accepts` says which words are
accepted and `fails` which ones lead to this complaint. -/
inductive Explains (accepts fails : Words → Prop) (words : Words) (c : Complaint) (place : Int) :
    Prop where
  | atEnd (shown : c.AtEnd) (placed : place = words.length + 1) (more : Words) (some : more ≠ [])
      (accepted : accepts (words ++ more))
  | atWord (front : Words) (word : String) (rest : Words) (shown : c.Shows word)
      (split : words = front ++ word :: rest) (placed : place = front.length + 1)
      (settled : ∀ tail, fails (front ++ word :: tail)) (more : Words)
      (reachable : accepts (front ++ more))

theorem explains_after {accepts fails : Words → Prop} (accepts' fails' : Words → Prop)
    {words : Words} {c : Complaint} {place : Int} (before : Words)
    (h : Explains accepts fails words c place)
    (keep : ∀ xs, accepts xs → accepts' (before ++ xs))
    (carry : ∀ xs, xs.head? = words.head? → fails xs → fails' (before ++ xs)) :
    Explains accepts' fails' (before ++ words) c (place + before.length) := by
  cases h with
  | atEnd shown placed more some accepted =>
    refine .atEnd shown ?_ more some ?_
    · rw [placed, List.length_append]
      omega
    · rw [List.append_assoc]
      exact keep _ accepted
  | atWord front word rest shown split placed settled more reachable =>
    refine .atWord (before ++ front) word rest shown ?_ ?_ ?_ more ?_
    · rw [split, List.append_assoc]
    · rw [placed, List.length_append]
      omega
    · intro tail
      rw [List.append_assoc]
      refine carry _ ?_ (settled tail)
      rw [split]
      cases front <;> rfl
    · rw [List.append_assoc]
      exact keep _ reachable

def Slot.sample : Slot → String
  | .text _ => ""
  | .line _ => ""
  | .span => "0-0"

theorem sample_taken (s : Slot) (position : Int) (echo : String) :
    s.refusal position echo s.sample = none := by
  cases s with
  | text what => rfl
  | line what => rfl
  | span => rfl

theorem fault_samples (slots : List Slot) (position : Int) (echo : String) (tail : Words) :
    fault position echo slots (slots.map Slot.sample ++ tail) = none := by
  induction slots generalizing position echo with
  | nil => rfl
  | cons s slots ih =>
    rw [List.map_cons, List.cons_append, fault, sample_taken]
    exact ih _ _

theorem absence_at_end (s : Slot) (position : Int) (echo : String) :
    (s.absence position echo).AtEnd := by
  cases s <;> exact missing_at_end _ _ _ _ _

theorem absence_position (s : Slot) (position : Int) (echo : String) :
    (s.absence position echo).position = position := by
  cases s <;> rfl

theorem refusal_shows {s : Slot} {position : Int} {echo word : String} {c : Complaint}
    (found : s.refusal position echo word = some c) : c.Shows word ∧ c.position = position := by
  cases s with
  | text what => cases found
  | line what =>
    simp only [Slot.refusal] at found
    split at found
    · rename_i broken
      cases found
      exact ⟨broken_line_shows what position echo word broken, rfl⟩
    · cases found
  | span =>
    simp only [Slot.refusal] at found
    split at found
    · cases found
    · rename_i cause bad
      cases found
      exact ⟨bad_span_shows position echo word cause, rfl⟩

def Fills (position : Int) (echo : String) (slots : List Slot) (words : Words) : Prop :=
  words.length = slots.length ∧ ∀ tail, fault position echo slots (words ++ tail) = none

theorem samples_fill (slots : List Slot) (position : Int) (echo : String) :
    Fills position echo slots (slots.map Slot.sample) :=
  ⟨List.length_map _, fault_samples slots position echo⟩

theorem fault_explained {position : Int} {echo : String} {slots : List Slot} {words : Words}
    {c : Complaint} (found : fault position echo slots words = some c) :
    Explains (Fills position echo slots) (fun xs => fault position echo slots xs = some c) words c
      (c.position - position + 1) := by
  induction slots generalizing position echo words with
  | nil => cases found
  | cons s slots ih =>
    have whole := samples_fill (s :: slots) position echo
    cases words with
    | nil =>
      cases found
      refine .atEnd (absence_at_end s position echo) ?_ _ (List.cons_ne_nil _ _) whole
      rw [absence_position]
      simp
    | cons word words =>
      cases refused : s.refusal position echo word with
      | some d =>
        simp only [fault, refused, Option.some.injEq] at found
        subst found
        obtain ⟨shows, placed⟩ := refusal_shows refused
        refine .atWord [] word words shows rfl ?_ ?_ _ whole
        · rw [placed]
          simp
        · intro tail
          simp [fault, refused]
      | none =>
        simp only [fault, refused] at found
        have inner := explains_after (Fills position echo (s :: slots))
          (fun xs => fault position echo (s :: slots) xs = some c) [word] (ih found)
          (fun xs filled => ⟨by simp [filled.1], fun tail => by
            simpa [fault, refused] using filled.2 tail⟩)
          (fun xs _ failed => by simpa [fault, refused] using failed)
        have place : c.position - (position + 1) + 1 + (([word] : Words).length : Int) =
            c.position - position + 1 := by
          simp only [List.length_cons, List.length_nil]
          omega
        rw [place] at inner
        exact inner

theorem triple_filled_exactly {first second : String} {position : Int} {echo : String}
    {words : Words} (length : words.length = 3)
    (filled : fault position echo (tripleSlots first second) words = none) :
    ∃ message code span, words = [message, LineText.text code, SpanText.text span] := by
  cases triple words with
  | noMessage => cases length
  | noLine message => cases length
  | badLine message code rest broken => simp [tripleSlots, fault, Slot.refusal, broken] at filled
  | noSpan message code => cases length
  | badSpan message code text cause rest bad =>
    simp [tripleSlots, fault, Slot.refusal, code.unbroken, bad] at filled
  | whole message code span rest =>
    obtain rfl : rest = [] := List.length_eq_zero_iff.mp (by simpa using length)
    exact ⟨message, code, span, rfl⟩

theorem slots_fill_phrase {keyword : String} {slots : List Slot} {words : Words}
    (known : groupSlots? keyword = some slots) (filled : Fills 2 keyword slots words) :
    ∃ p : Phrase, p.words = keyword :: words := by
  obtain ⟨length, taken⟩ := filled
  rcases group_slots_cases known with ⟨rfl, rfl⟩ | ⟨rfl, rfl⟩ | ⟨rfl, rfl⟩
  · obtain ⟨message, rfl⟩ := List.length_eq_one_iff.mp length
    exact ⟨.note message, rfl⟩
  · obtain ⟨message, rfl⟩ := List.length_eq_one_iff.mp length
    exact ⟨.help message, rfl⟩
  · have nothing := taken []
    rw [List.append_nil] at nothing
    obtain ⟨message, code, span, rfl⟩ := triple_filled_exactly length nothing
    exact ⟨.fix message code span none, rfl⟩

theorem group_fault_cases {keyword : String} {words : Words} {c : Complaint}
    (found : groupFault keyword words = some c) :
    (groupSlots? keyword = none ∧ c = invalidSubcommand keyword) ∨
      (∃ slots, groupSlots? keyword = some slots ∧ fault 2 keyword slots words = some c) ∨
      (keyword = "fix" ∧ fault 2 "fix" (tripleSlots "help message" "help code") words = none ∧
        tipFault words = some c) := by
  unfold groupFault at found
  split at found
  · rename_i unknown
    cases found
    exact .inl ⟨unknown, rfl⟩
  · rename_i slots known
    split at found
    · rename_i d first
      cases found
      exact .inr (.inl ⟨slots, known, first⟩)
    · rename_i nothing
      split at found
      · rename_i fix
        subst fix
        cases known
        exact .inr (.inr ⟨rfl, nothing, found⟩)
      · cases found

theorem group_fault_of_slots {keyword : String} {slots : List Slot} {words : Words} {c : Complaint}
    (known : groupSlots? keyword = some slots) (found : fault 2 keyword slots words = some c) :
    groupFault keyword words = some c := by
  simp [groupFault, known, found]

def IsPhrase (words : Words) : Prop := ∃ p : Phrase, p.words = words

/-- Words that begin with a group that cannot be read, for the given reason. -/
def StuckOn (c : Complaint) (words : Words) : Prop :=
  ∃ keyword rest, words = keyword :: rest ∧ groupFault keyword rest = some c

theorem tip_explained {words : Words} {c : Complaint}
    (filled : fault 2 "fix" (tripleSlots "help message" "help code") words = none)
    (found : tipFault words = some c) :
    Explains IsPhrase (StuckOn c) ("fix" :: words) c c.position := by
  unfold tipFault at found
  split at found
  · rename_i message code text
    split at found
    · rename_i span read
      cases found
      refine .atEnd (missing_at_end _ _ _ _ _) rfl [""] (List.cons_ne_nil _ _) ?_
      cases unbroken : Text.hasBreak code with
      | false =>
        exact ⟨.fix message ⟨code, unbroken⟩ ⟨text, span, read⟩ (some ""), rfl⟩
      | true => simp [tripleSlots, fault, Slot.refusal, unbroken] at filled
    · cases found
  · cases found

theorem group_explained {keyword : String} {words : Words} {c : Complaint}
    (found : groupFault keyword words = some c) :
    Explains IsPhrase (StuckOn c) (keyword :: words) c c.position := by
  rcases group_fault_cases found with ⟨unknown, rfl⟩ | ⟨slots, known, first⟩ | ⟨rfl, filled, last⟩
  · refine .atWord [] keyword words (invalid_subcommand_shows keyword) rfl rfl ?_ ["note", ""]
      ⟨.note "", rfl⟩
    intro tail
    exact ⟨keyword, tail, rfl, by simp [groupFault, unknown]⟩
  · have inner := explains_after IsPhrase (StuckOn c) [keyword]
      (fault_explained first) (fun xs filled => slots_fill_phrase known filled)
      (fun xs _ failed => ⟨keyword, xs, rfl, group_fault_of_slots known failed⟩)
    have place : c.position - 2 + 1 + (([keyword] : Words).length : Int) = c.position := by
      simp only [List.length_cons, List.length_nil]
      omega
    rw [place] at inner
    exact inner
  · exact tip_explained filled last

def extent : Words → Nat
  | "note" :: _ => 2
  | "help" :: _ => 2
  | "fix" :: _ :: _ :: _ :: "span" :: _ => 6
  | "fix" :: _ => 4
  | _ => 1

theorem extent_pos (words : Words) : 0 < extent words := by
  unfold extent
  split <;> simp

/-- The groups of a list of arguments, complete or not. -/
def cut : Words → List Words
  | [] => []
  | word :: words =>
    (word :: words).take (extent (word :: words)) ::
      cut ((word :: words).drop (extent (word :: words)))
termination_by words => words.length
decreasing_by
  have := extent_pos (word :: words)
  simp only [List.length_drop, List.length_cons]
  omega

theorem extent_phrase {p : Phrase} {rest : Words} (ends : p.Ends rest) :
    extent (p.words ++ rest) = p.words.length := by
  cases p with
  | note message => rfl
  | help message => rfl
  | fix message code span tip =>
    cases tip with
    | none =>
      unfold extent
      split <;> simp_all [Phrase.words, Phrase.Ends, Closed]
    | some tip => rfl

theorem cut_phrase {p : Phrase} {rest : Words} (ends : p.Ends rest) :
    cut (p.words ++ rest) = p.words :: cut rest := by
  obtain ⟨keyword, words, split, _⟩ := read_phrase p rest ends
  have long := extent_phrase ends
  rw [split] at long ⊢
  rw [cut, long, ← split, List.take_left, List.drop_left]

/-- The group at which the groups cannot be read on. -/
theorem groups_stuck_at {before n : Nat} {words : Words} {c : Complaint}
    (run : groupsFrom before words = .error (n, c)) :
    ∃ k keyword rest, n = before + k ∧ groupFault keyword rest = some c ∧
      (cut words)[k]? = some (keyword :: rest.take (extent (keyword :: rest) - 1)) := by
  induction words using groups_induction generalizing before with
  | nil => cases run
  | stuck keyword words d found =>
    rw [groups_from_stuck found] at run
    cases run
    refine ⟨0, keyword, words, rfl, found, ?_⟩
    obtain ⟨k, size⟩ : ∃ k, extent (keyword :: words) = k + 1 :=
      ⟨extent (keyword :: words) - 1, by have := extent_pos (keyword :: words); omega⟩
    simp [cut, size]
  | phrase p rest ends ih =>
    rw [groups_from_phrase ends] at run
    cases tail : groupsFrom (before + 1) rest with
    | ok groups =>
      rw [tail] at run
      cases run
    | error e =>
      rw [tail] at run
      cases run
      -- A phrase in front moves the group by one, both among the groups and in the cut.
      obtain ⟨k, keyword, words, place, found, group⟩ := ih tail
      refine ⟨k + 1, keyword, words, by omega, found, ?_⟩
      rw [cut_phrase ends, List.getElem?_cons_succ, group]

theorem groups_explained {before n : Nat} {words : Words} {c : Complaint}
    (run : groupsFrom before words = .error (n, c)) :
    before ≤ n ∧
      Explains (fun xs => ∃ groups, groupsFrom before xs = .ok groups)
        (fun xs => groupsFrom before xs = .error (n, c)) words c
        (((cut words).take (n - before)).flatten.length + c.position) := by
  induction words using groups_induction generalizing before with
  | nil => cases run
  | stuck keyword words d found =>
    rw [groups_from_stuck found] at run
    obtain ⟨rfl, rfl⟩ : before = n ∧ d = c := by simpa using run
    have inner := explains_after (fun xs => ∃ groups, groupsFrom before xs = .ok groups)
      (fun xs => groupsFrom before xs = .error (before, d)) [] (group_explained found)
      (by
        rintro xs ⟨p, rfl⟩
        have whole := groups_from_phrases [p] before
        rw [List.flatMap_cons, List.flatMap_nil, List.append_nil] at whole
        exact ⟨_, whole⟩)
      (by
        rintro xs - ⟨keyword, rest, rfl, found⟩
        exact groups_from_stuck found before)
    have place : ((((cut (keyword :: words)).take (before - before)).flatten.length : Nat) : Int) +
        d.position = d.position + (([] : Words).length : Int) := by
      simp
    rw [place]
    exact ⟨Nat.le_refl _, inner⟩
  | phrase p rest ends ih =>
    rw [groups_from_phrase ends] at run
    cases tail : groupsFrom (before + 1) rest with
    | ok groups =>
      rw [tail] at run
      cases run
    | error e =>
      rw [tail] at run
      cases run
      obtain ⟨later, inner⟩ := ih tail
      refine ⟨by omega, ?_⟩
      -- The phrase is one group of the cut, so the number of groups and the place move together.
      have outer := explains_after
        (fun xs => ∃ groups, groupsFrom before xs = .ok groups)
        (fun xs => groupsFrom before xs = .error (n, c)) p.words inner
        (by
          rintro xs ⟨groups, run⟩
          obtain ⟨ps, rfl, _⟩ := groups_from_ok run
          have whole := groups_from_phrases (p :: ps) before
          rw [List.flatMap_cons] at whole
          exact ⟨_, whole⟩)
        (by
          intro xs same failed
          rw [groups_from_phrase (phrase_ends_of_head ends same), failed]
          rfl)
      have place : ((((cut (p.words ++ rest)).take (n - before)).flatten.length : Nat) : Int) +
          c.position = (((cut rest).take (n - (before + 1))).flatten.length : Nat) + c.position +
          (p.words.length : Int) := by
        obtain ⟨k, rfl⟩ : ∃ k, n = before + 1 + k := ⟨n - (before + 1), by omega⟩
        rw [cut_phrase ends, show before + 1 + k - before = k + 1 by omega,
          show before + 1 + k - (before + 1) = k by omega, List.take_succ_cons,
          List.flatten_cons, List.length_append]
        omega
      rw [place]
      exact outer

/-- A whole command line, with the word of the command itself, in groups. -/
def lineGroups (isError : Bool) (words : Words) : List Words :=
  let own := (commandSlots isError).length
  (commandWord isError :: words.take own) :: cut (words.drop own)

theorem opening_words_length (o : Opening) :
    o.words.length = (commandSlots o.level.isError).length := by
  obtain ⟨level, message, code, span⟩ := o
  cases level <;> rfl

theorem line_groups_opening (o : Opening) (rest : Words) :
    lineGroups o.level.isError (o.words ++ rest) =
      (commandWord o.level.isError :: o.words) :: cut rest := by
  simp only [lineGroups, ← opening_words_length, List.take_left, List.drop_left]

theorem command_explained {isError : Bool} {words : Words} {c : Complaint}
    (found : commandFault isError words = some c) :
    Explains (fun xs => ∃ r, Request.read isError xs = .ok r)
      (fun xs => Request.read isError xs = .error (0, c)) words c (c.position - 1) := by
  have inner := explains_after (fun xs => ∃ r, Request.read isError xs = .ok r)
    (fun xs => Request.read isError xs = .error (0, c)) [] (fault_explained found)
    (by
      rintro xs ⟨length, taken⟩
      rcases command_cases isError xs with ⟨d, _, stuck⟩ | ⟨o, rest, rfl, rfl⟩
      · have nothing := taken []
        rw [List.append_nil] at nothing
        exact absurd (nothing.symm.trans stuck) (by simp)
      · obtain rfl : rest = [] := by
          rw [List.length_append, opening_words_length] at length
          exact List.length_eq_zero_iff.mp (by omega)
        exact ⟨_, read_opening o []⟩)
    (fun xs _ failed => read_command_stuck failed)
  have place : c.position - 2 + 1 + (([] : Words).length : Int) = c.position - 1 := by
    simp only [List.length_nil]
    omega
  rw [place] at inner
  exact inner

theorem read_explained {isError : Bool} {words : Words} {n : Nat} {c : Complaint}
    (run : Request.read isError words = .error (n, c)) :
    Explains (fun xs => ∃ r, Request.read isError xs = .ok r)
      (fun xs => Request.read isError xs = .error (n, c)) words c
      (((lineGroups isError words).take n).flatten.length + c.position - 1) := by
  rcases read_failed_cases run with ⟨rfl, found⟩ | ⟨o, rest, rfl, rfl, tail⟩
  · have inner := command_explained found
    simpa using inner
  · obtain ⟨later, inner⟩ := groups_explained tail
    have outer := explains_after
      (fun xs => ∃ r, Request.read o.level.isError xs = .ok r)
      (fun xs => Request.read o.level.isError xs = .error (n, c)) o.words inner
      (by
        rintro xs ⟨groups, run⟩
        exact ⟨_, by rw [read_opening, run]; rfl⟩)
      (by
        intro xs _ failed
        rw [read_opening, failed]
        rfl)
    have place :
        ((((lineGroups o.level.isError (o.words ++ rest)).take n).flatten.length : Nat) : Int) +
            c.position - 1 =
          (((cut rest).take (n - 1)).flatten.length : Nat) + c.position +
            (o.words.length : Int) := by
      obtain ⟨k, rfl⟩ : ∃ k, n = k + 1 := ⟨n - 1, by omega⟩
      rw [line_groups_opening, List.take_succ_cons, List.flatten_cons, List.length_append,
        Nat.add_sub_cancel, List.length_cons]
      omega
    rw [place]
    exact outer

end Caret.Usage
