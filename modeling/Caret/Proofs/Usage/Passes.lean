import Caret.Proofs.Programs
import Caret.Proofs.Usage.Slots
import Caret.Usage.Cursor

/-!
Passes over the words and readers of words. A pass moves a cursor through all the words that there
are; a reader is given the words that are left and hands on what it leaves. Main statement: a move
of a cursor does what the reader of the same name does to the words that are left, stands then at
what that reader leaves, and fails with the report on its complaint.
-/
namespace Caret.Usage

def Cursor.between (front rest : Words) (records : List Log.Record) : Cursor :=
  ⟨front ++ rest, front.length, records⟩

theorem between_left (front rest : Words) (records : List Log.Record) :
    (Cursor.between front rest records).left = rest :=
  List.drop_left

def Reading.andThen {α β : Type} (first : Reading α) (later : α → Reading β) : Reading β :=
  fun words =>
    match first words with
    | (.error c, rest) => (.error c, rest)
    | (.ok a, rest) => later a rest

/-- Where a pass comes to stand, and how it ends, when a reader has given this. -/
def landed {α : Type} (group : Int) (front : Words) (records : List Log.Record) :
    Except Complaint α × Words → EStateM.Result Failure Cursor α
  | (.ok a, rest) => .ok a (.between front rest records)
  | (.error c, rest) =>
    .error (c.fail group).value (.between front rest (records ++ (c.fail group).records))

/-- A pass does what a reader does to the words that are left, and moves over what it consumes. -/
def Follows {α : Type} (group : Int) (pass : Pass α) (read : Reading α) : Prop :=
  ∀ words, ∃ taken, words = taken ++ (read words).2 ∧ ∀ front records,
    pass (.between front words records) = landed group (front ++ taken) records (read words)

section
variable {α β : Type} {group : Int}

theorem get_cursor (c : Cursor) : (get : Pass Cursor) c = .ok c c := rfl

theorem head_left (c : Cursor) : c.words[c.position]? = c.left.head? := by
  rw [Cursor.left, List.head?_drop]

theorem next_taken {c : Cursor} {w : String} {rest : Words} (left : c.left = w :: rest) :
    Pass.next c = .ok (some w) { c with position := c.position + 1 } := by
  have here : c.words[c.position]? = some w := by rw [head_left, left, List.head?_cons]
  rw [Pass.next, bind_ran (get_cursor _)]
  simp only [here]
  rfl

theorem next_empty {c : Cursor} (nothing : c.left = []) : Pass.next c = .ok none c := by
  have here : c.words[c.position]? = none := by rw [head_left, nothing, List.head?_nil]
  rw [Pass.next, bind_ran (get_cursor _)]
  simp only [here]
  rfl

theorem next_word (front : Words) (w : String) (rest : Words) (records : List Log.Record) :
    Pass.next (.between front (w :: rest) records) =
      .ok (some w) (.between (front ++ [w]) rest records) := by
  have moved : Cursor.between (front ++ [w]) rest records =
      ⟨front ++ w :: rest, front.length + 1, records⟩ := by
    simp [Cursor.between]
  rw [moved]
  exact next_taken (between_left front (w :: rest) records)

theorem next_end (front : Words) (records : List Log.Record) :
    Pass.next (.between front [] records) = .ok none (.between front [] records) :=
  next_empty (between_left front [] records)

theorem peek_head (front rest : Words) (records : List Log.Record) :
    Pass.peek (.between front rest records) = .ok rest.head? (.between front rest records) := by
  have here : (front ++ rest)[front.length]? = rest.head? := by
    rw [List.getElem?_append_right (Nat.le_refl _), Nat.sub_self, List.head?_eq_getElem?]
  rw [← here]
  rfl

theorem follows_next (group : Int) : Follows group Pass.next fun words =>
    (.ok (Reading.next words).1, (Reading.next words).2) := by
  intro words
  cases words with
  | nil =>
    refine ⟨[], rfl, ?_⟩
    intro front records
    rw [next_end, List.append_nil]
    rfl
  | cons w rest =>
    refine ⟨[w], rfl, ?_⟩
    intro front records
    rw [next_word]
    rfl

theorem follows_peek (group : Int) : Follows group Pass.peek fun words =>
    (.ok (Reading.peek words), words) := by
  intro words
  refine ⟨[], rfl, ?_⟩
  intro front records
  rw [peek_head, List.append_nil]
  rfl

theorem follows_message (what : String) (group position : Int) (echo : String) :
    Follows group (Pass.message what group position echo) (Reading.message what position echo) := by
  intro words
  cases words with
  | nil =>
    refine ⟨[], rfl, ?_⟩
    intro front records
    rw [Pass.message, bind_ran (next_end front records), List.append_nil]
    rfl
  | cons w rest =>
    refine ⟨[w], rfl, ?_⟩
    intro front records
    rw [Pass.message, bind_ran (next_word front w rest records)]
    rfl

theorem follows_line (what : String) (group position : Int) (echo : String) :
    Follows group (Pass.codeLine what group position echo)
      (Reading.codeLine what position echo) := by
  intro words
  cases words with
  | nil =>
    refine ⟨[], rfl, ?_⟩
    intro front records
    rw [Pass.codeLine, bind_ran (next_end front records), List.append_nil]
    rfl
  | cons w rest =>
    refine ⟨[w], rfl, ?_⟩
    intro front records
    rw [Pass.codeLine, bind_ran (next_word front w rest records), Reading.codeLine]
    dsimp only
    cases Text.hasBreak w with
    | true => rfl
    | false => rfl

theorem follows_span (group position : Int) (echo : String) :
    Follows group (Pass.span group position echo) (Reading.span position echo) := by
  intro words
  cases words with
  | nil =>
    refine ⟨[], rfl, ?_⟩
    intro front records
    rw [Pass.span, bind_ran (next_end front records), List.append_nil]
    rfl
  | cons w rest =>
    have left : (Reading.span position echo (w :: rest)).2 = rest := by
      rw [Reading.span]
      cases Span.parse w <;> rfl
    refine ⟨[w], by rw [left, List.singleton_append], ?_⟩
    intro front records
    rw [Pass.span, bind_ran (next_word front w rest records), Reading.span]
    dsimp only
    cases Span.parse w with
    | ok s => rfl
    | error cause => rfl

theorem follows_tip (group : Int) (echo : String) :
    Follows group (Pass.tip group echo) (Reading.tip echo) := by
  intro words
  by_cases closed : Closed words
  · refine ⟨[], by rw [tip_none closed, List.nil_append], ?_⟩
    intro front records
    rw [Pass.tip, bind_ran (peek_head front words records), if_neg closed, tip_none closed,
      List.append_nil]
    rfl
  · obtain ⟨tail, rfl⟩ := unclosed_tail closed
    cases tail with
    | nil =>
      refine ⟨["span"], rfl, ?_⟩
      intro front records
      rw [Pass.tip, bind_ran (peek_head front _ records), List.head?_cons, if_pos rfl,
        bind_ran (next_word front "span" [] records), bind_ran (next_end _ records)]
      rfl
    | cons w rest =>
      refine ⟨["span", w], rfl, ?_⟩
      intro front records
      have twice : front ++ ["span", w] = front ++ ["span"] ++ [w] := by simp
      rw [Pass.tip, bind_ran (peek_head front _ records), List.head?_cons, if_pos rfl,
        bind_ran (next_word front "span" _ records), bind_ran (next_word _ w rest records), twice]
      rfl

theorem follows_pure (a : α) : Follows group (pure a) fun words => (.ok a, words) := by
  intro words
  refine ⟨[], rfl, ?_⟩
  intro front records
  rw [List.append_nil]
  rfl

theorem follows_bind {x : Pass α} {f : α → Pass β} {r : Reading α} {g : α → Reading β}
    (first : Follows group x r) (later : ∀ a, Follows group (f a) (g a)) :
    Follows group (x >>= f) (r.andThen g) := by
  intro words
  obtain ⟨taken, split, run⟩ := first words
  rw [Reading.andThen]
  rcases given : r words with ⟨c | a, rest⟩
  · rw [given] at split run
    refine ⟨taken, split, ?_⟩
    intro front records
    exact bind_halted (run front records)
  · rw [given] at split run
    obtain ⟨more, split', run'⟩ := later a rest
    refine ⟨taken ++ more, ?_, ?_⟩
    · rw [List.append_assoc, ← split', split]
    · intro front records
      rw [bind_ran (run front records), run', List.append_assoc]

theorem fix_readers : Reading.fix =
    (Reading.message "help message" 2 "fix").andThen fun m =>
      (Reading.codeLine "help code" 3 ("fix " ++ Reading.inQuotes m)).andThen fun code =>
        (Reading.span 4 ("fix " ++ Reading.inQuotes m ++ " " ++ Reading.inQuotes code)).andThen
          fun s =>
            (Reading.tip ("fix " ++ Reading.inQuotes m ++ " " ++ Reading.inQuotes code ++ " " ++
              s.toText)).andThen fun t words => (.ok ⟨m, some ⟨code, some s, t⟩⟩, words) := by
  funext words
  simp only [Reading.fix, Reading.andThen]
  rcases Reading.message "help message" 2 "fix" words with ⟨_ | m, rest⟩
  · rfl
  dsimp only
  rcases Reading.codeLine "help code" 3 ("fix " ++ Reading.inQuotes m) rest with ⟨_ | code, rest⟩
  · rfl
  dsimp only
  rcases Reading.span 4 ("fix " ++ Reading.inQuotes m ++ " " ++ Reading.inQuotes code) rest with
    ⟨_ | s, rest⟩
  · rfl
  dsimp only
  rcases Reading.tip ("fix " ++ Reading.inQuotes m ++ " " ++ Reading.inQuotes code ++ " " ++
    s.toText) rest with ⟨_ | t, rest⟩ <;> rfl

theorem follows_fix (group : Int) : Follows group (Pass.fix group) Reading.fix := by
  rw [fix_readers]
  apply follows_bind (follows_message _ _ _ _)
  intro m
  apply follows_bind (follows_line _ _ _ _)
  intro code
  apply follows_bind (follows_span _ _ _)
  intro s
  apply follows_bind (follows_tip _ _)
  intro t
  exact follows_pure _

end

def settled {α : Type} (group : Int) (convert : α → Answer) :
    Except Complaint α × Words → Except Failure Answer × Words
  | (.ok a, rest) => (.ok (convert a), rest)
  | (.error c, rest) => (.error (c.fail group).value, rest)

namespace Move

def reading : Move → Words → Except Failure Answer × Words
  | next, words => (.ok (.word (Reading.next words).1), (Reading.next words).2)
  | peek, words => (.ok (.word (Reading.peek words)), words)
  | message what group position echo, words =>
    settled group .text (Reading.message what position echo words)
  | codeLine what group position echo, words =>
    settled group .text (Reading.codeLine what position echo words)
  | span group position echo, words => settled group .span (Reading.span position echo words)
  | fix group, words => settled group .help (Reading.fix words)

def group? : Move → Option Int
  | next => none
  | peek => none
  | message _ group _ _ => some group
  | codeLine _ group _ _ => some group
  | span group _ _ => some group
  | fix group => some group

def Single : Move → Prop
  | peek => False
  | fix _ => False
  | _ => True

end Move

/-- The move takes some words, leaves the others, and ends like that. -/
structure Move.Goes (m : Move) (taken rest : Words) (outcome : Except Failure Answer) : Prop where
  reading : m.reading (taken ++ rest) = (outcome, rest)
  attempt : ∀ front records, ∃ logged, m.attempt (.between front (taken ++ rest) records) =
    ⟨m, .between front (taken ++ rest) records, outcome,
      .between (front ++ taken) rest (records ++ logged)⟩

theorem attempt_follows {α : Type} {m : Move} {pass : Pass α} {read : Reading α} {group : Int}
    {convert : α → Answer} (program : m.program = convert <$> pass)
    (readers : ∀ words, m.reading words = settled group convert (read words))
    (follows : Follows group pass read) (words : Words) :
    ∃ taken rest outcome, words = taken ++ rest ∧ m.Goes taken rest outcome := by
  obtain ⟨taken, split, run⟩ := follows words
  have same := readers words
  rcases given : read words with ⟨c | a, rest⟩
  · rw [given] at split run same
    subst split
    refine ⟨taken, rest, _, rfl, same, ?_⟩
    intro front records
    refine ⟨(c.fail group).records, ?_⟩
    rw [Move.attempt, program, ← bind_pure_comp, bind_halted (run front records)]
  · rw [given] at split run same
    subst split
    refine ⟨taken, rest, _, rfl, same, ?_⟩
    intro front records
    refine ⟨[], ?_⟩
    rw [Move.attempt, program, ← bind_pure_comp, bind_ran (run front records), List.append_nil]
    rfl

theorem move_goes (m : Move) (words : Words) :
    ∃ taken rest outcome, words = taken ++ rest ∧ m.Goes taken rest outcome := by
  cases m with
  | next => exact attempt_follows rfl (fun _ => rfl) (follows_next 1) words
  | peek => exact attempt_follows rfl (fun _ => rfl) (follows_peek 1) words
  | message what group position echo =>
    exact attempt_follows rfl (fun _ => rfl) (follows_message what group position echo) words
  | codeLine what group position echo =>
    exact attempt_follows rfl (fun _ => rfl) (follows_line what group position echo) words
  | span group position echo =>
    exact attempt_follows rfl (fun _ => rfl) (follows_span group position echo) words
  | fix group => exact attempt_follows rfl (fun _ => rfl) (follows_fix group) words

end Caret.Usage
