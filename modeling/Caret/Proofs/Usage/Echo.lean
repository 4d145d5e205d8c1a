import Caret.Proofs.Span
import Caret.Proofs.Usage.Acceptance

/-!
What a report shows of the arguments. Its code line is the group of the offending argument as far
as it was read: the word of the group and the arguments behind it, each spelled as it was typed.
There is one exception. The complaint about a tip that is missing behind `span` is written from
the span that was read and not from its text, so a span that is not spelled plainly changes its
spelling there. The line of an unknown word is that word alone.
-/
namespace Caret.Usage

/-- How an argument stands in the echo of its group. -/
inductive Manner where
  | quoted
  | bare
  deriving DecidableEq, Repr

def Manner.spell (word : String) : Manner → String
  | quoted => Reading.inQuotes word
  | bare => word

/-- The arguments behind a word: messages, codes and lines in quotes, spans and keywords bare. -/
def manners : String → List Manner
  | "error" => [.quoted, .quoted, .quoted, .bare]
  | "warning" => [.quoted, .quoted, .bare]
  | "note" => [.quoted]
  | "help" => [.quoted]
  | "fix" => [.quoted, .quoted, .bare, .bare, .quoted]
  | _ => []

def spellings : List Manner → Words → List String
  | m :: ms, w :: ws => m.spell w :: spellings ms ws
  | _, ws => ws

def typed (front : String) (ms : List Manner) (args : Words) : String :=
  String.intercalate " " (front :: spellings ms args)

theorem typed_nil (front : String) (ms : List Manner) : typed front ms [] = front := by
  cases ms <;> rfl

theorem typed_cons (front word : String) (m : Manner) (ms : List Manner) (args : Words) :
    typed front (m :: ms) (word :: args) = typed (front ++ " " ++ m.spell word) ms args := rfl

/-- A mistake among some arguments, the first of them at the place `first`: either they have come
to an end, and all of them are shown, or one of them is at fault, and it is the last one shown. -/
inductive Echoed (front : String) (ms : List Manner) (args : Words) (first place : Int)
    (verdict : Verdict) (shown : String) : Prop where
  | missing (kind : verdict = .missing) (placed : place = first + args.length)
      (echo : shown = Text.escapeBreaks (typed front ms args))
  | invalid (before : Words) (word : String) (after : Words) (kind : verdict = .invalid)
      (split : args = before ++ word :: after) (placed : place = first + before.length)
      (echo : shown = Text.escapeBreaks (typed front ms (before ++ [word])))

/-- A `fix` that breaks off where a tip is announced, with a span that is not spelled plainly; the
other arguments are those with the span as it is written. -/
inductive Respelt (word : String) (args other : Words) : Prop where
  | intro (message : String) (code : LineText) (span : SpanText) (keyword : word = "fix")
      (whole : args = [message, code.text, span.text, "span"])
      (unplain : ¬ Span.PlainlySpelled span.text)
      (written : other = [message, code.text, span.span.toText, "span"])

structure ShowsGroup (word : String) (args : Words) (place : Int) (verdict : Verdict)
    (shown : String) : Prop where
  asTyped : (¬ ∃ other, Respelt word args other) →
    Echoed word (manners word) args 2 place verdict shown
  respelt : ∀ other, Respelt word args other →
    Echoed word (manners word) other 2 place verdict shown ∧
      ¬ Echoed word (manners word) args 2 place verdict shown

def Slot.manner : Slot → Manner
  | .text _ => .quoted
  | .line _ => .quoted
  | .span => .bare

theorem slot_spelled (s : Slot) (word : String) : s.spelled word = s.manner.spell word := by
  cases s <;> rfl

theorem absence_echo (s : Slot) (position : Int) (echo : String) :
    (s.absence position echo).verdict = .missing ∧
      (s.absence position echo).echo = Text.escapeBreaks echo := by
  cases s <;> exact ⟨rfl, rfl⟩

theorem refusal_echo {s : Slot} {position : Int} {echo word : String} {c : Complaint}
    (found : s.refusal position echo word = some c) :
    c.echo = Text.escapeBreaks (echo ++ " " ++ s.manner.spell word) := by
  cases s with
  | text what => cases found
  | line what =>
    simp only [Slot.refusal] at found
    split at found
    · cases found
      simp only [Reading.brokenLine, Complaint.invalid, Slot.manner, Manner.spell,
        Reading.inQuotes, Text.escapeBreaks_append, Text.escapeBreaks_twice]
    · cases found
  | span =>
    simp only [Slot.refusal] at found
    split at found
    · cases found
    · cases found
      simp only [Reading.badSpan, Complaint.invalid, Slot.manner, Manner.spell,
        Text.escapeBreaks_append, Text.escapeBreaks_twice]

/-- One more argument that was read moves from the arguments to the text in front of them. -/
theorem echoed_behind {front word shown : String} {m : Manner} {ms : List Manner} {args : Words}
    {first place : Int} {verdict : Verdict}
    (inner : Echoed (front ++ " " ++ m.spell word) ms args (first + 1) place verdict shown) :
    Echoed front (m :: ms) (word :: args) first place verdict shown := by
  cases inner with
  | missing kind placed echo =>
    refine .missing kind ?_ ?_
    · rw [placed, List.length_cons]
      omega
    · rw [typed_cons, echo]
  | invalid before w after kind split placed echo =>
    refine .invalid (word :: before) w after kind ?_ ?_ ?_
    · rw [split, List.cons_append]
    · rw [placed, List.length_cons]
      omega
    · rw [List.cons_append, typed_cons, echo]

/-- A row of slots looks at no more arguments than there are slots, so what comes behind the group
does not matter. -/
theorem fault_echoed {position : Int} {echo : String} {slots : List Slot} {words : Words}
    {c : Complaint} {own : Nat} (more : List Manner) (within : slots.length ≤ own)
    (found : fault position echo slots words = some c) :
    Echoed echo (slots.map Slot.manner ++ more) (words.take own) position c.position c.verdict
      c.echo := by
  induction slots generalizing position echo words own with
  | nil => cases found
  | cons s slots ih =>
    obtain ⟨own, rfl⟩ : ∃ k, own = k + 1 := ⟨own - 1, by simp at within; omega⟩
    cases words with
    | nil =>
      cases found
      obtain ⟨verdict, shown⟩ := absence_echo s position echo
      refine .missing verdict ?_ ?_
      · rw [absence_position]
        simp
      · rw [List.take_nil, typed_nil, shown]
    | cons word words =>
      cases refused : s.refusal position echo word with
      | some d =>
        simp only [fault, refused, Option.some.injEq] at found
        subst found
        obtain ⟨shows, placed⟩ := refusal_shows refused
        refine .invalid [] word (words.take own) shows.verdict rfl ?_ ?_
        · rw [placed]
          simp
        · rw [List.nil_append, List.map_cons, List.cons_append, typed_cons, typed_nil,
            refusal_echo refused]
      | none =>
        simp only [fault, refused, slot_spelled] at found
        simp only [List.length_cons, Nat.add_le_add_iff_right] at within
        exact echoed_behind (ih within found)

theorem group_manners {keyword : String} {slots : List Slot}
    (known : groupSlots? keyword = some slots) :
    keyword ∈ subcommands ∧ ∃ more, manners keyword = slots.map Slot.manner ++ more := by
  rcases group_slots_cases known with ⟨rfl, rfl⟩ | ⟨rfl, rfl⟩ | ⟨rfl, rfl⟩
  · exact ⟨by decide, [], rfl⟩
  · exact ⟨by decide, [], rfl⟩
  · exact ⟨by decide, [.bare, .quoted], rfl⟩

theorem group_unknown {keyword : String} (unknown : groupSlots? keyword = none) :
    keyword ∉ subcommands := by
  intro member
  simp only [subcommands, List.mem_cons, List.not_mem_nil, or_false] at member
  rcases member with rfl | rfl | rfl <;> cases unknown

theorem slots_within_group {keyword : String} {slots : List Slot} (words : Words)
    (known : groupSlots? keyword = some slots) :
    slots.length ≤ extent (keyword :: words) - 1 := by
  rcases group_slots_cases known with ⟨rfl, rfl⟩ | ⟨rfl, rfl⟩ | ⟨rfl, rfl⟩
  · exact Nat.le_refl _
  · exact Nat.le_refl _
  · unfold extent
    split <;> simp_all [tripleSlots]

theorem command_manners (isError : Bool) :
    manners (commandWord isError) = (commandSlots isError).map Slot.manner := by
  cases isError <;> rfl

theorem respelt_filled {word : String} {args other : Words} (respelt : Respelt word args other)
    (rest : Words) (position : Int) (echo first second : String) :
    fault position echo (tripleSlots first second) (args ++ rest) = none := by
  obtain ⟨message, code, span, _, rfl, _, _⟩ := respelt
  exact triple_filled first second position echo message code span ("span" :: rest)

theorem typed_tip (message code span : String) :
    typed "fix" (manners "fix") [message, code, span, "span"] =
      "fix " ++ Reading.inQuotes message ++ " " ++ Reading.inQuotes code ++ " " ++ span ++
        " span" := by
  simp only [manners, typed_cons, Manner.spell]
  exact String.append_assoc

theorem span_text_unbroken {text : String} {a b : Nat} (spells : Span.Spells text a b) :
    Text.hasBreak text = false := by
  obtain ⟨front, back, joined, first, last, _, _⟩ := spells
  have plain : ∀ {cs : List Char}, Text.Numeral cs → cs.any Text.isBreak = false := by
    intro cs numeral
    rw [List.any_eq_false]
    intro c member broken
    have decimal := numeral.decimal c member
    simp only [Text.isBreak, Bool.or_eq_true, beq_iff_eq] at broken
    rcases broken with rfl | rfl <;> exact absurd decimal (by decide)
  simp only [Text.hasBreak, joined, List.any_append, List.any_cons, plain first, plain last]
  decide

theorem tip_respelt {message code : String} {span : SpanText}
    (same : Text.escapeBreaks (typed "fix" (manners "fix") [message, code, span.text, "span"]) =
      Text.escapeBreaks (typed "fix" (manners "fix")
        [message, code, span.span.toText, "span"])) : Span.PlainlySpelled span.text := by
  have spelled := Span.parse_ok_iff.mp span.read
  have written : Span.Spells span.span.toText span.span.first span.span.last :=
    Span.parse_ok_iff.mp (Span.parse_text (Span.spelled_writable spelled))
  have texts : span.text = span.span.toText := by
    rw [typed_tip, typed_tip] at same
    simp only [Text.escapeBreaks_append, String.append_left_inj, String.append_right_inj,
      Text.escapeBreaks_of_unbroken (span_text_unbroken spelled),
      Text.escapeBreaks_of_unbroken (span_text_unbroken written)] at same
    exact same
  rw [texts]
  exact span.span.text_plain

def tipEcho (message code span : String) : String :=
  typed "fix" (manners "fix") [message, code, span, "span"]

theorem tip_fault_cases {words : Words} {c : Complaint}
    (filled : fault 2 "fix" (tripleSlots "help message" "help code") words = none)
    (found : tipFault words = some c) :
    ∃ (message : String) (code : LineText) (span : SpanText),
      words = [message, code.text, span.text, "span"] ∧
        c = Reading.missingTip (tipEcho message code.text span.span.toText) := by
  unfold tipFault at found
  split at found
  · rename_i message code text
    split at found
    · rename_i span read
      have whole : Text.hasBreak code = false := by
        cases unbroken : Text.hasBreak code with
        | false => rfl
        | true => simp [tripleSlots, fault, Slot.refusal, unbroken] at filled
      refine ⟨message, ⟨code, whole⟩, ⟨text, span, read⟩, rfl, ?_⟩
      rw [tipEcho, typed_tip]
      exact (Option.some.inj found).symm
    · cases found
  · cases found

theorem missing_tip_echoed (message code span : String) :
    Echoed "fix" (manners "fix") [message, code, span, "span"] 2 6 .missing
      (Text.escapeBreaks (tipEcho message code span)) :=
  .missing rfl rfl rfl

theorem respelt_other {message : String} {code : LineText} {span : SpanText} {other : Words}
    (respelt : Respelt "fix" [message, code.text, span.text, "span"] other) :
    other = [message, code.text, span.span.toText, "span"] ∧ ¬ Span.PlainlySpelled span.text := by
  obtain ⟨message', code', span', _, whole, unplain, written⟩ := respelt
  simp only [List.cons.injEq, and_true] at whole
  obtain ⟨rfl, codes, spans⟩ := whole
  obtain rfl := line_text_unique codes
  obtain rfl := span_text_unique spans
  exact ⟨written, unplain⟩

theorem missing_tip_shown (message : String) (code : LineText) (span : SpanText) :
    ShowsGroup "fix" [message, code.text, span.text, "span"] 6 .missing
      (Text.escapeBreaks (tipEcho message code.text span.span.toText)) := by
  have written := missing_tip_echoed message code.text span.span.toText
  refine ⟨?asTyped, ?respelt⟩
  case asTyped =>
    intro usual
    by_cases plain : Span.PlainlySpelled span.text
    · have same := Span.plain_unique (Span.parse_ok_iff.mp span.read) plain
      rw [← same] at written ⊢
      exact written
    · exact absurd ⟨_, .intro message code span rfl rfl plain rfl⟩ usual
  case respelt =>
    intro other respelt
    obtain ⟨rfl, unplain⟩ := respelt_other respelt
    refine ⟨written, ?_⟩
    intro echoed
    cases echoed with
    | missing _ _ echo => exact unplain (tip_respelt echo.symm)
    | invalid _ _ _ kind _ _ _ => cases kind

theorem slots_shown {keyword : String} {slots : List Slot} {words : Words} {c : Complaint}
    (known : groupSlots? keyword = some slots) (found : fault 2 keyword slots words = some c) :
    ShowsGroup keyword (words.take (extent (keyword :: words) - 1)) c.position c.verdict
      c.echo := by
  obtain ⟨_, more, spelled⟩ := group_manners known
  have echoed := fault_echoed more (slots_within_group words known) found
  rw [← spelled] at echoed
  refine ⟨fun _ => echoed, ?respelt⟩
  case respelt =>
    intro other respelt
    obtain rfl : keyword = "fix" := by
      obtain ⟨_, _, _, fix, _, _, _⟩ := respelt
      exact fix
    cases known
    have filled := respelt_filled respelt (words.drop (extent ("fix" :: words) - 1)) 2 "fix"
      "help message" "help code"
    rw [List.take_append_drop, found] at filled
    cases filled

theorem group_shown {keyword : String} {words : Words} {c : Complaint}
    (found : groupFault keyword words = some c) :
    (keyword ∈ subcommands ∧ ShowsGroup keyword (words.take (extent (keyword :: words) - 1))
        c.position c.verdict c.echo) ∨
      keyword ∉ subcommands ∧ c = invalidSubcommand keyword := by
  rcases group_fault_cases found with ⟨unknown, rfl⟩ | ⟨slots, known, first⟩ | ⟨rfl, filled, last⟩
  · exact .inr ⟨group_unknown unknown, rfl⟩
  · exact .inl ⟨(group_manners known).1, slots_shown known first⟩
  · obtain ⟨message, code, span, rfl, rfl⟩ := tip_fault_cases filled last
    exact .inl ⟨by decide, missing_tip_shown message code span⟩

theorem command_shown {isError : Bool} {words : Words} {c : Complaint}
    (found : commandFault isError words = some c) :
    ShowsGroup (commandWord isError) (words.take (commandSlots isError).length) c.position
      c.verdict c.echo := by
  have echoed := fault_echoed [] (Nat.le_refl _) found
  rw [List.append_nil, ← command_manners] at echoed
  refine ⟨fun _ => echoed, ?respelt⟩
  case respelt =>
    rintro other ⟨_, _, _, keyword, _⟩
    cases isError <;> exact absurd keyword (by decide)

theorem read_shown {isError : Bool} {words : Words} {n : Nat} {c : Complaint}
    (run : Request.read isError words = .error (n, c)) :
    ∃ word args, (lineGroups isError words)[n]? = some (word :: args) ∧
      (n = 0 ∨ word ∈ subcommands → ShowsGroup word args c.position c.verdict c.echo) ∧
      (0 < n → word ∉ subcommands → c = invalidSubcommand word) := by
  rcases read_failed_cases run with ⟨rfl, found⟩ | ⟨o, rest, rfl, rfl, tail⟩
  · exact ⟨_, _, rfl, fun _ => command_shown found, fun later => absurd later (Nat.lt_irrefl 0)⟩
  · obtain ⟨k, keyword, words, rfl, found, group⟩ := groups_stuck_at tail
    refine ⟨keyword, words.take (extent (keyword :: words) - 1), ?_, ?_, ?_⟩
    · rw [line_groups_opening, Nat.add_comm, List.getElem?_cons_succ, group]
    · rintro (first | known)
      · omega
      · rcases group_shown found with ⟨_, shows⟩ | ⟨unknown, _⟩
        · exact shows
        · exact absurd known unknown
    · intro _ unknown
      rcases group_shown found with ⟨known, _⟩ | ⟨_, same⟩
      · exact absurd known unknown
      · exact same

/-- A report shows the group of the offending argument as it was typed: all of it where an
argument is missing, and up to the offending argument otherwise. Only the span of a `fix` whose
tip is missing is shown as it is written, and so not as it was typed unless it was typed plainly. -/
theorem report_echoes_arguments (isError : Bool) (path : String) (line : Int) (style : MarkerStyle)
    (words : Words) (d : Diagnostic)
    (rejected : (parse isError path line style words).value = .error (.usage d)) :
    ∃ (n : Nat) (verdict : Verdict) (l : Line) (word : String) (args : Words),
      d.level = .error verdict.code ∧ d.excerpt.lines = [l] ∧ d.location.line = n + 1 ∧
      (lineGroups isError words)[n]? = some (word :: args) ∧
      (n = 0 ∨ word ∈ subcommands → ShowsGroup word args d.location.col verdict l.text) ∧
      (0 < n → word ∉ subcommands →
        verdict = .invalid ∧ d.location.col = 1 ∧ l.text = Text.escapeBreaks word) := by
  obtain ⟨n, c, run, reports⟩ := usage_mistake path line style rejected
  obtain ⟨word, args, group, known, unknown⟩ := read_shown run
  obtain ⟨level, location, l, _, lines, text, _, _, _⟩ := reports
  refine ⟨n, c.verdict, l, word, args, level, lines, by rw [location], group, ?_, ?_⟩
  · intro recognized
    rw [location, text]
    exact known recognized
  · intro later strange
    rw [location, text, unknown later strange]
    exact ⟨rfl, rfl, Text.escapeBreaks_twice word⟩

theorem inverted_span_echoed :
    ∃ (d : Diagnostic) (l : Line),
      (parse true "main.rs" 7 {} ["E1", "a\nb", "let x", "5-04", "note"]).value =
        .error (.usage d) ∧
      d.excerpt.lines = [l] ∧ l.text = "error 'E1' 'a\\nb' 'let x' 5-04" ∧
      Echoed "error" (manners "error") ["E1", "a\nb", "let x", "5-04"] 2 5 .invalid l.text := by
  refine ⟨_, _, rfl, rfl, rfl, ?_⟩
  obtain ⟨n, verdict, l, word, args, level, lines, place, group, known, _⟩ :=
    report_echoes_arguments true "main.rs" 7 {} ["E1", "a\nb", "let x", "5-04", "note"] _ rfl
  obtain rfl : n = 0 := by
    have first : (1 : Int) = n + 1 := place
    omega
  obtain ⟨rfl, rfl⟩ : "error" = word ∧ ["E1", "a\nb", "let x", "5-04"] = args :=
    List.cons.inj (Option.some.inj group)
  obtain rfl : l = _ := (List.cons.inj lines).1.symm
  have usual : ¬ ∃ other, Respelt "error" ["E1", "a\nb", "let x", "5-04"] other := by
    rintro ⟨_, _, _, _, keyword, _⟩
    exact absurd keyword (by decide)
  cases verdict with
  | missing => exact absurd level (by decide)
  | invalid => exact (known (.inl rfl)).asTyped usual

/-- The zero in front of the span is gone. -/
theorem tip_report_respells :
    ∃ (d : Diagnostic) (l : Line),
      (parse false "main.rs" 7 {}
        ["m", "let x", "4-4", "fix", "h", "let _x", "04-4", "span"]).value = .error (.usage d) ∧
      (lineGroups false ["m", "let x", "4-4", "fix", "h", "let _x", "04-4", "span"])[1]? =
        some ["fix", "h", "let _x", "04-4", "span"] ∧
      d.location = ⟨"arg", 2, 6⟩ ∧ d.excerpt.lines = [l] ∧
      l.text = "fix 'h' 'let _x' 4-4 span" ∧
      ∀ verdict, ¬ Echoed "fix" (manners "fix") ["h", "let _x", "04-4", "span"] 2 6 verdict
        l.text := by
  refine ⟨_, _, rfl, ?_, rfl, rfl, rfl, ?_⟩
  · simp [lineGroups, commandSlots, tripleSlots, cut, extent]
  · intro verdict echoed
    cases echoed with
    | missing _ _ echo => exact absurd echo (by decide)
    | invalid before word after _ split placed _ =>
      have lengths := congrArg List.length split
      simp at lengths placed
      omega

end Caret.Usage
