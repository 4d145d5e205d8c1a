import Caret.Usage.Reading

namespace Caret.Usage

structure Cursor where
  words : Words
  position : Nat := 0
  records : List Log.Record := []
  deriving DecidableEq, Repr

def Cursor.left (c : Cursor) : Words := c.words.drop c.position

abbrev Pass (α : Type) := EStateM Failure Cursor α

namespace Pass

def next : Pass (Option String) := do
  let c ← get
  match c.words[c.position]? with
  | none => return none
  | some w =>
    set { c with position := c.position + 1 }
    return some w

def peek : Pass (Option String) := do
  let c ← get
  return c.words[c.position]?

def refuse {α : Type} (c : Complaint) (group : Int) : Pass α := do
  let failed := c.fail group
  modify fun cursor => { cursor with records := cursor.records ++ failed.records }
  throw failed.value

def message (what : String) (group position : Int) (echo : String) : Pass String := do
  match ← next with
  | none => refuse (.missing ("must provide " ++ what) what position echo []) group
  | some w => return w

def codeLine (what : String) (group position : Int) (echo : String) : Pass String := do
  match ← next with
  | none => refuse (.missing ("must provide " ++ what) what position echo []) group
  | some w =>
    if Text.hasBreak w then refuse (Reading.brokenLine what position echo w) group else return w

def span (group position : Int) (echo : String) : Pass Span := do
  match ← next with
  | none => refuse (.missing "must provide span" "span" position echo []) group
  | some w =>
    match Span.parse w with
    | .ok s => return s
    | .error cause => refuse (Reading.badSpan position echo w cause) group

/-- The word that announces a tip is looked at before it is consumed. -/
def tip (group : Int) (echo : String) : Pass (Option String) := do
  if (← peek) = some "span" then
    let _ ← next
    match ← next with
    | none => refuse (Reading.missingTip (echo ++ " span")) group
    | some w => return some w
  else return none

def fix (group : Int) : Pass HelpDraft := do
  let m ← message "help message" group 2 "fix"
  let code ← codeLine "help code" group 3 ("fix " ++ Reading.inQuotes m)
  let echo := "fix " ++ Reading.inQuotes m ++ " " ++ Reading.inQuotes code
  let s ← span group 4 echo
  let t ← tip group (echo ++ " " ++ s.toText)
  return ⟨m, some ⟨code, some s, t⟩⟩

end Pass

inductive Move where
  | next
  | peek
  | message (what : String) (group position : Int) (echo : String)
  | codeLine (what : String) (group position : Int) (echo : String)
  | span (group position : Int) (echo : String)
  | fix (group : Int)
  deriving DecidableEq, Repr

inductive Answer where
  | word (w : Option String)
  | text (s : String)
  | span (s : Span)
  | help (d : HelpDraft)
  deriving DecidableEq, Repr

def Move.program : Move → Pass Answer
  | .next => .word <$> Pass.next
  | .peek => .word <$> Pass.peek
  | .message what group position echo => .text <$> Pass.message what group position echo
  | .codeLine what group position echo => .text <$> Pass.codeLine what group position echo
  | .span group position echo => .span <$> Pass.span group position echo
  | .fix group => .help <$> Pass.fix group

structure Attempt where
  move : Move
  before : Cursor
  outcome : Except Failure Answer
  after : Cursor

def Move.attempt (m : Move) (c : Cursor) : Attempt :=
  match m.program c with
  | .ok answer after => ⟨m, c, .ok answer, after⟩
  | .error failure after => ⟨m, c, .error failure, after⟩

def Attempt.consumed (a : Attempt) : Words :=
  a.before.left.take (a.after.position - a.before.position)

/-- One move after another; a failure does not end the sequence. -/
def Cursor.play : Cursor → List Move → List Attempt
  | _, [] => []
  | c, m :: rest => m.attempt c :: Cursor.play (m.attempt c).after rest

end Caret.Usage
