import Caret.Proofs.Usage.Passes
import Caret.Proofs.Usage.Verdict

/-!
What a sequence of moves does to the words. Each move has one of three fates: it gets the words that
it asks for, or it comes to their end without having all of them, or it turns down the last word that
it has consumed. Main statement: whatever is asked of a cursor, and whatever fails of it, the words
are consumed in order, none of them twice and none left out.
-/
namespace Caret.Usage

/-- A move gets what it asks for out of the words that it takes. -/
inductive Reads : Move → Words → Words → Answer → Prop where
  | word (w : String) (rest : Words) : Reads .next [w] rest (.word (some w))
  | ended : Reads .next [] [] (.word none)
  | peek (rest : Words) : Reads .peek [] rest (.word rest.head?)
  | message (what : String) (group position : Int) (echo w : String) (rest : Words) :
      Reads (.message what group position echo) [w] rest (.text w)
  | codeLine (what : String) (group position : Int) (echo : String) (line : LineText)
      (rest : Words) : Reads (.codeLine what group position echo) [line.text] rest (.text line.text)
  | span (group position : Int) (echo : String) (s : SpanText) (rest : Words) :
      Reads (.span group position echo) [s.text] rest (.span s.span)
  | fix (group : Int) (message : String) (code : LineText) (s : SpanText) (rest : Words)
      (closed : Closed rest) :
      Reads (.fix group) [message, code.text, s.text] rest
        (.help ⟨message, some ⟨code.text, some s.span, none⟩⟩)
  | fixTip (group : Int) (message : String) (code : LineText) (s : SpanText) (tip : String)
      (rest : Words) :
      Reads (.fix group) [message, code.text, s.text, "span", tip] rest
        (.help ⟨message, some ⟨code.text, some s.span, some tip⟩⟩)

/-- A word that a move cannot take, behind the words that it has taken already. -/
inductive Refuses : Move → Words → String → Prop where
  | codeLine (what : String) (group position : Int) (echo : String) {w : String}
      (broken : Text.hasBreak w = true) : Refuses (.codeLine what group position echo) [] w
  | span (group position : Int) (echo : String) {w : String} {cause : Span.ReadError}
      (bad : Span.parse w = .error cause) : Refuses (.span group position echo) [] w
  | fixLine (group : Int) (message : String) {w : String} (broken : Text.hasBreak w = true) :
      Refuses (.fix group) [message] w
  | fixSpan (group : Int) (message : String) (code : LineText) {w : String}
      {cause : Span.ReadError} (bad : Span.parse w = .error cause) :
      Refuses (.fix group) [message, code.text] w

/-- The three ways in which a move can end. -/
inductive Fate (m : Move) : Words → Words → Except Failure Answer → Prop where
  | read {taken rest : Words} {answer : Answer} (reads : Reads m taken rest answer) :
      Fate m taken rest (.ok answer)
  | missing {taken : Words} {group : Int} {c : Complaint} (reported : m.group? = some group)
      (shown : c.AtEnd) (first : m.Single → taken = []) :
      Fate m taken [] (.error (c.fail group).value)
  | invalid {front rest : Words} {w : String} {group : Int} {c : Complaint}
      (reported : m.group? = some group) (shown : c.Shows w) (refuses : Refuses m front w) :
      Fate m (front ++ [w]) rest (.error (c.fail group).value)

def Move.Decided (m : Move) (words : Words) : Prop :=
  ∃ taken rest outcome,
    words = taken ++ rest ∧ m.reading words = (outcome, rest) ∧ Fate m taken rest outcome

theorem next_fate (words : Words) : Move.next.Decided words := by
  cases words with
  | nil => exact ⟨[], [], _, rfl, rfl, .read .ended⟩
  | cons w rest => exact ⟨[w], rest, _, rfl, rfl, .read (.word w rest)⟩

theorem message_fate (what : String) (group position : Int) (echo : String) (words : Words) :
    (Move.message what group position echo).Decided words := by
  cases words with
  | nil =>
    refine ⟨[], [], _, rfl, rfl, .missing rfl ?_ fun _ => rfl⟩
    exact missing_at_end _ _ _ _ _
  | cons w rest => exact ⟨[w], rest, _, rfl, rfl, .read (.message what group position echo w rest)⟩

theorem line_fate (what : String) (group position : Int) (echo : String) (words : Words) :
    (Move.codeLine what group position echo).Decided words := by
  cases words with
  | nil =>
    refine ⟨[], [], _, rfl, rfl, .missing rfl ?_ fun _ => rfl⟩
    exact missing_at_end _ _ _ _ _
  | cons w rest =>
    cases broken : Text.hasBreak w with
    | true =>
      have shown := broken_line_shows what position echo w broken
      refine ⟨[] ++ [w], rest, _, rfl, ?_, .invalid rfl shown (.codeLine _ _ _ _ broken)⟩
      simp [Move.reading, Reading.codeLine, broken, settled]
    | false =>
      refine ⟨[w], rest, _, rfl, ?_, .read (.codeLine what group position echo ⟨w, broken⟩ rest)⟩
      simp [Move.reading, Reading.codeLine, broken, settled]

theorem span_fate (group position : Int) (echo : String) (words : Words) :
    (Move.span group position echo).Decided words := by
  cases words with
  | nil =>
    refine ⟨[], [], _, rfl, rfl, .missing rfl ?_ fun _ => rfl⟩
    exact missing_at_end _ _ _ _ _
  | cons w rest =>
    cases parsed : Span.parse w with
    | error cause =>
      have shown := bad_span_shows position echo w cause
      refine ⟨[] ++ [w], rest, _, rfl, ?_, .invalid rfl shown (.span _ _ _ parsed)⟩
      simp [Move.reading, Reading.span, parsed, settled]
    | ok s =>
      refine ⟨[w], rest, _, rfl, ?_, .read (.span group position echo ⟨w, s, parsed⟩ rest)⟩
      simp [Move.reading, Reading.span, parsed, settled]

theorem fix_fate (group : Int) (words : Words) : (Move.fix group).Decided words := by
  have many {taken : Words} (single : (Move.fix group).Single) : taken = [] := single.elim
  cases triple words with
  | noMessage =>
    refine ⟨[], [], _, rfl, rfl, .missing rfl ?_ many⟩
    exact missing_at_end _ _ _ _ _
  | noLine message =>
    refine ⟨[message], [], _, rfl, rfl, .missing rfl ?_ many⟩
    exact missing_at_end _ _ _ _ _
  | badLine message code rest broken =>
    have shown := broken_line_shows "help code" 3 ("fix " ++ Reading.inQuotes message) code broken
    refine ⟨[message] ++ [code], rest, _, rfl, ?_,
      .invalid rfl shown (.fixLine group message broken)⟩
    simp [Move.reading, Reading.fix, Reading.message, Reading.codeLine, broken, settled]
  | noSpan message code =>
    refine ⟨[message, code.text], [], _, rfl, ?_,
      .missing rfl (missing_at_end "must provide span" "span" 4 ("fix " ++
        Reading.inQuotes message ++ " " ++ Reading.inQuotes code.text) [])
        many⟩
    simp [Move.reading, Reading.fix, Reading.message, Reading.codeLine, Reading.span,
      code.unbroken, settled]
  | badSpan message code text cause rest bad =>
    have shown := bad_span_shows 4 ("fix " ++ Reading.inQuotes message ++ " " ++
      Reading.inQuotes code.text) text cause
    refine ⟨[message, code.text] ++ [text], rest, _, rfl, ?_,
      .invalid rfl shown (.fixSpan group message code bad)⟩
    simp [Move.reading, Reading.fix, Reading.message, Reading.codeLine, Reading.span,
      code.unbroken, bad, settled]
  | whole message code span rest =>
    by_cases closed : Closed rest
    · refine ⟨[message, code.text, span.text], rest, _, rfl, ?_,
        .read (.fix group message code span rest closed)⟩
      simp [Move.reading, Reading.fix, Reading.message, Reading.codeLine, Reading.span,
        code.unbroken, span.read, tip_none closed, settled]
    · obtain ⟨tail, rfl⟩ := unclosed_tail closed
      cases tail with
      | nil =>
        have shown : (Reading.missingTip ("fix " ++ Reading.inQuotes message ++ " " ++
            Reading.inQuotes code.text ++ " " ++ span.span.toText ++ " span")).AtEnd :=
          missing_at_end _ _ _ _ _
        refine ⟨[message, code.text, span.text, "span"], [], _, rfl, ?_,
          .missing rfl shown many⟩
        simp [Move.reading, Reading.fix, Reading.message, Reading.codeLine, Reading.span,
          Reading.tip, code.unbroken, span.read, settled]
      | cons tip tail =>
        refine ⟨[message, code.text, span.text, "span", tip], tail, _, rfl, ?_,
          .read (.fixTip group message code span tip tail)⟩
        simp [Move.reading, Reading.fix, Reading.message, Reading.codeLine, Reading.span,
          Reading.tip, code.unbroken, span.read, settled]

/-- What becomes of a move on a cursor is what becomes of it on the words that are left. -/
theorem move_fate (m : Move) (words : Words) : ∃ taken rest outcome,
    words = taken ++ rest ∧ m.Goes taken rest outcome ∧ Fate m taken rest outcome := by
  obtain ⟨taken, rest, outcome, rfl, goes⟩ := move_goes m words
  have decided : m.Decided (taken ++ rest) := by
    cases m with
    | next => exact next_fate _
    | peek => exact ⟨[], _, _, rfl, rfl, .read (.peek _)⟩
    | message what group position echo => exact message_fate what group position echo _
    | codeLine what group position echo => exact line_fate what group position echo _
    | span group position echo => exact span_fate group position echo _
    | fix group => exact fix_fate group _
  obtain ⟨taken', rest', outcome', split, reading, fate⟩ := decided
  rw [goes.reading] at reading
  cases reading
  obtain rfl := List.append_cancel_right split
  exact ⟨taken, rest, outcome, rfl, goes, fate⟩

def Tells (d : Diagnostic) (verdict : Verdict) : Prop := d.level = .error verdict.code

def PointsAt (d : Diagnostic) (word : String) : Prop :=
  ∃ l m, d.excerpt.lines = [l] ∧ l.marker = some m ∧ Under m.span l.text word

/-- One attempt of a sequence that was begun with the given words. -/
structure Attempt.Lawful (words : Words) (a : Attempt) : Prop where
  shared : a.before.words = words ∧ a.after.words = words
  forward : a.before.position ≤ a.after.position
  within : a.after.position ≤ words.length
  reading : a.move.reading a.before.left = (a.outcome, a.after.left)
  peek : a.move = .peek → a.consumed = [] ∧ a.outcome = .ok (.word a.before.left.head?)
  single : a.move.Single → a.consumed = a.before.left.take 1
  fix : ∀ group d, a.move = .fix group → a.outcome = .ok (.help d) →
    ∃ s, d.suggestion = some s ∧ a.consumed.length = if s.tip = none then 3 else 5
  reads : ∀ answer, a.outcome = .ok answer → Reads a.move a.consumed a.after.left answer
  reports : ∀ failure, a.outcome = .error failure → ∃ group, a.move.group? = some group ∧
    (1 ≤ group → ∃ d, failure = .usage d ∧ (Tells d .missing ∨ Tells d .invalid))
  missing : ∀ d, a.outcome = .error (.usage d) → Tells d .missing →
    a.after.position = words.length
  invalid : ∀ d, a.outcome = .error (.usage d) → Tells d .invalid →
    ∃ front word, a.consumed = front ++ [word] ∧ Refuses a.move front word ∧ PointsAt d word

theorem verdict_told {d : Diagnostic} {group : Int} {c : Complaint}
    (failed : (c.fail group).value = .usage d) {verdict : Verdict} (told : Tells d verdict) :
    c.verdict = verdict := by
  have level := (report_reports (fail_built failed)).level
  have codes : Level.error c.verdict.code = .error verdict.code := level.symm.trans told
  exact verdict_code_unique (Level.error.inj codes)

section
variable {m : Move} {taken rest : Words} {outcome : Except Failure Answer}

theorem peek_taken (fate : Fate .peek taken rest outcome) :
    taken = [] ∧ outcome = .ok (.word rest.head?) := by
  cases fate with
  | read reads =>
    cases reads
    exact ⟨rfl, rfl⟩
  | missing reported _ _ => cases reported
  | invalid reported _ _ => cases reported

theorem single_taken (single : m.Single) (fate : Fate m taken rest outcome) :
    taken = (taken ++ rest).take 1 := by
  cases fate with
  | read reads =>
    cases reads with
    | peek => exact single.elim
    | fix => exact single.elim
    | fixTip => exact single.elim
    | _ => rfl
  | missing _ _ first =>
    rw [first single]
    rfl
  | invalid _ _ refuses =>
    cases refuses with
    | fixLine => exact single.elim
    | fixSpan => exact single.elim
    | _ => rfl

theorem fix_taken {group : Int} {d : HelpDraft}
    (fate : Fate (.fix group) taken rest (.ok (.help d))) :
    ∃ s, d.suggestion = some s ∧ taken.length = if s.tip = none then 3 else 5 := by
  cases fate with
  | read reads =>
    cases reads with
    | fix => exact ⟨_, rfl, rfl⟩
    | fixTip => exact ⟨_, rfl, rfl⟩

theorem head_taken (consuming : m ≠ .peek) (fate : Fate m taken rest outcome) :
    taken.head? = (taken ++ rest).head? := by
  cases fate with
  | read reads =>
    cases reads with
    | peek => exact absurd rfl consuming
    | _ => rfl
  | missing _ _ _ => rw [List.append_nil]
  | invalid _ _ refuses => cases refuses <;> rfl

theorem fate_reported {failure : Failure} (fate : Fate m taken rest (.error failure)) :
    ∃ group, m.group? = some group ∧
      (1 ≤ group → ∃ d, failure = .usage d ∧ (Tells d .missing ∨ Tells d .invalid)) := by
  cases fate with
  | missing reported shown _ =>
    refine ⟨_, reported, ?_⟩
    intro positive
    obtain ⟨d, failed, reports⟩ := fail_reports _ shown.unbroken positive
    refine ⟨d, failed, .inl ?_⟩
    rw [Tells, reports.level, shown.verdict]
  | invalid reported shown _ =>
    refine ⟨_, reported, ?_⟩
    intro positive
    obtain ⟨d, failed, reports⟩ := fail_reports _ shown.unbroken positive
    refine ⟨d, failed, .inr ?_⟩
    rw [Tells, reports.level, shown.verdict]

theorem missing_ends {d : Diagnostic} (fate : Fate m taken rest (.error (.usage d)))
    (told : Tells d .missing) : rest = [] := by
  generalize ended : Except.error (Failure.usage d) = outcome at fate
  cases fate with
  | read _ => cases ended
  | missing _ _ _ => rfl
  | invalid _ shown _ =>
    have verdict := verdict_told (Except.error.inj ended).symm told
    rw [shown.verdict] at verdict
    cases verdict

theorem invalid_last {d : Diagnostic} (fate : Fate m taken rest (.error (.usage d)))
    (told : Tells d .invalid) :
    ∃ front word, taken = front ++ [word] ∧ Refuses m front word ∧ PointsAt d word := by
  generalize ended : Except.error (Failure.usage d) = outcome at fate
  cases fate with
  | read _ => cases ended
  | missing _ shown _ =>
    have verdict := verdict_told (Except.error.inj ended).symm told
    rw [shown.verdict] at verdict
    cases verdict
  | invalid _ shown refuses =>
    refine ⟨_, _, rfl, refuses, ?_⟩
    have failed := (Except.error.inj ended).symm
    obtain ⟨l, mark, lines, text, _, marked, span⟩ := (report_reports (fail_built failed)).lines
    refine ⟨l, mark, lines, marked, ?_⟩
    rw [text, span]
    exact shown.under

end

theorem attempt_lawful (m : Move) (front words : Words) (records : List Log.Record) :
    ∃ taken rest after, words = taken ++ rest ∧
      (m.attempt (.between front words records)).Lawful (front ++ words) ∧
      (m.attempt (.between front words records)).consumed = taken ∧
      (m.attempt (.between front words records)).after = .between (front ++ taken) rest after ∧
      (m ≠ .peek → taken.head? = words.head?) := by
  obtain ⟨taken, rest, outcome, rfl, goes, fate⟩ := move_fate m words
  obtain ⟨logged, attempt⟩ := goes.attempt front records
  have before := between_left front (taken ++ rest) records
  have after := between_left (front ++ taken) rest (records ++ logged)
  have consumed : (m.attempt (.between front (taken ++ rest) records)).consumed = taken := by
    rw [attempt, Attempt.consumed, before]
    simp [Cursor.between]
  refine ⟨taken, rest, records ++ logged, rfl, ?_, consumed, by rw [attempt],
    fun consuming => head_taken consuming fate⟩
  rw [attempt] at consumed ⊢
  constructor
  case shared => simp [Cursor.between]
  case forward => simp [Cursor.between]
  case within => simp [Cursor.between]
  case reading => rw [before, after, goes.reading]
  case peek =>
    rintro rfl
    obtain ⟨rfl, ended⟩ := peek_taken fate
    exact ⟨consumed, by rw [before, ended]; rfl⟩
  case single =>
    intro single
    rw [consumed, before]
    exact single_taken single fate
  case fix =>
    intro group d same ended
    rw [consumed]
    cases same
    cases ended
    exact fix_taken fate
  case reads =>
    intro answer ended
    rw [consumed, after]
    cases ended
    cases fate with
    | read reads => exact reads
  case reports =>
    intro failure ended
    cases ended
    exact fate_reported fate
  case missing =>
    intro d ended told
    cases ended
    obtain rfl := missing_ends fate told
    simp [Cursor.between]
  case invalid =>
    intro d ended told
    rw [consumed]
    cases ended
    exact invalid_last fate told

theorem attempt_move (m : Move) (c : Cursor) : (m.attempt c).move = m := by
  unfold Move.attempt
  split <;> rfl

theorem play_moves (c : Cursor) (moves : List Move) :
    (c.play moves).map Attempt.move = moves := by
  induction moves generalizing c with
  | nil => rfl
  | cons m moves ih =>
    rw [Cursor.play, List.map_cons, attempt_move, ih]

theorem play_lawful (front words : Words) (records : List Log.Record) (moves : List Move) :
    (∀ a ∈ (Cursor.between front words records).play moves, a.Lawful (front ++ words)) ∧
      ((Cursor.between front words records).play moves).flatMap Attempt.consumed <+: words := by
  induction moves generalizing front words records with
  | nil => exact ⟨List.forall_mem_nil _, List.nil_prefix⟩
  | cons m moves ih =>
    -- What a move consumes goes to the words in front, and the others go on from there.
    obtain ⟨taken, rest, after, rfl, lawful, consumed, next, _⟩ :=
      attempt_lawful m front words records
    obtain ⟨later, order⟩ := ih (front ++ taken) rest after
    rw [Cursor.play, next]
    constructor
    · intro a member
      rcases List.mem_cons.mp member with rfl | behind
      · exact lawful
      · rw [← List.append_assoc]
        exact later a behind
    · rw [List.flatMap_cons, consumed]
      exact (List.prefix_append_right_inj taken).mpr order

theorem play_rest {front words : Words} {records : List Log.Record} {moves : List Move}
    {first last : List Attempt}
    (split : (Cursor.between front words records).play moves = first ++ last) :
    ∃ front' words' records' moves', last = (Cursor.between front' words' records').play moves' := by
  induction first generalizing front words records moves with
  | nil => exact ⟨front, words, records, moves, split.symm⟩
  | cons a first ih =>
    cases moves with
    | nil => cases split
    | cons m moves =>
      obtain ⟨taken, rest, after, -, -, -, next, -⟩ := attempt_lawful m front words records
      rw [Cursor.play, next, List.cons_append] at split
      exact ih (List.cons.inj split).2

theorem play_head {front words : Words} {records : List Log.Record} {moves : List Move}
    {between last : List Attempt} {b : Attempt}
    (split : (Cursor.between front words records).play moves = between ++ b :: last)
    (looks : ∀ a ∈ between, a.move = .peek) (consuming : b.move ≠ .peek) :
    b.consumed.head? = words.head? := by
  induction between generalizing front words records moves with
  | nil =>
    cases moves with
    | nil => cases split
    | cons m moves =>
      obtain ⟨taken, rest, after, -, -, consumed, -, head⟩ := attempt_lawful m front words records
      obtain ⟨rfl, -⟩ := List.cons.inj split
      rw [attempt_move] at consuming
      rw [consumed, head consuming]
  | cons a between ih =>
    cases moves with
    | nil => cases split
    | cons m moves =>
      obtain ⟨taken, rest, after, rfl, lawful, consumed, next, -⟩ :=
        attempt_lawful m front words records
      rw [Cursor.play, next, List.cons_append] at split
      obtain ⟨rfl, later⟩ := List.cons.inj split
      have looked := lawful.peek (looks _ List.mem_cons_self)
      rw [consumed] at looked
      obtain rfl := looked.1
      exact ih later fun x member => looks x (List.mem_cons_of_mem _ member)

/-- Whatever is asked of a cursor, and whatever fails: all moves are made, each of them is lawful,
the words that they consume are the first ones in order, and what is looked at is what the next move
that consumes anything begins with. -/
theorem cursor_keeps_order (words : Words) (moves : List Move) :
    (Cursor.play { words } moves).map Attempt.move = moves ∧
    (∀ a ∈ Cursor.play { words } moves, a.Lawful words) ∧
    (Cursor.play { words } moves).flatMap Attempt.consumed <+: words ∧
    ∀ first a between b last,
      Cursor.play { words } moves = first ++ a :: (between ++ b :: last) → a.move = .peek →
      (∀ x ∈ between, x.move = .peek) → b.move ≠ .peek →
        a.outcome = .ok (.word b.consumed.head?) := by
  have start : ({ words } : Cursor) = .between [] words [] := rfl
  obtain ⟨lawful, order⟩ := play_lawful [] words [] moves
  rw [start]
  refine ⟨play_moves _ _, lawful, order, ?_⟩
  intro first a between b last split look looks consuming
  have member : a ∈ (Cursor.between [] words []).play moves := by
    rw [split]
    simp
  obtain ⟨nothing, ended⟩ := (lawful a member).peek look
  obtain ⟨front, left, records, moves', tail⟩ := play_rest split
  cases moves' with
  | nil => cases tail
  | cons m moves' =>
    obtain ⟨taken, rest, after, rfl, -, consumed, next, -⟩ :=
      attempt_lawful m front left records
    rw [Cursor.play, next] at tail
    obtain ⟨rfl, later⟩ := List.cons.inj tail
    rw [consumed] at nothing
    obtain rfl := nothing
    have head := play_head later.symm looks consuming
    have before : (m.attempt (.between front ([] ++ rest) records)).before.left = rest := by
      unfold Move.attempt
      split <;> exact between_left _ _ _
    rw [ended, before, head]

theorem cursor_keeps_order_turned_down :
    ∃ failed seen again span, Cursor.play { words := ["m", "x\n", "2-1", "b"] }
        [.fix 1, .peek, .peek, .span 2 4 "fix"] = [failed, seen, again, span] ∧
      failed.consumed = ["m", "x\n"] ∧ seen.outcome = .ok (.word (some "2-1")) ∧
      span.consumed = ["2-1"] := by
  have order := cursor_keeps_order ["m", "x\n", "2-1", "b"] [.fix 1, .peek, .peek, .span 2 4 "fix"]
  refine ⟨_, _, _, _, rfl, by decide, ?_, by decide⟩
  exact order.2.2.2 [_] _ [_] _ [] rfl rfl (by simp; rfl) (by decide)

end Caret.Usage
