import Caret.Log.Session

/-!
The root of the log, one step after another. Records come to it from loggers below it, which have no
handlers and take their level from the nearest logger on the way up that has one. Handlers are told
apart by identity: one handler may be attached twice, and others may have attached handlers that
write what they like.
What a step has changed stays changed when it fails, so a set-up that cannot tell its level has to
find out before it touches anything.
-/
namespace Caret.Log

inductive Output where
  | painted (layout : Layout)
  | foreign (write : Record → String)

def Output.text (paint : Tint → String → String) (place : Place) (r : Record) : Output → String
  | .painted layout => format paint layout place r ++ "\n"
  | .foreign write => write r

structure Attached where
  identity : Nat
  output : Output

structure Root where
  level : Int
  handlers : List Attached
  made : Nat := 0
  err : String := ""

abbrev Logging := EStateM Text.NumeralError Root

namespace Root

def setLevel (level : Int) : Logging Unit := modify fun root => { root with level }

def remove (h : Attached) : Logging Unit :=
  modify fun root =>
    { root with handlers := root.handlers.eraseP fun g => g.identity == h.identity }

/-- A handler that is attached already is not attached again. -/
def attach (h : Attached) : Logging Unit :=
  modify fun root =>
    if root.handlers.any fun g => g.identity == h.identity then root
    else { root with handlers := root.handlers ++ [h] }

def make (layout : Layout) : Logging Attached := do
  let root ← get
  set { root with made := root.made + 1 }
  return ⟨root.made, .painted layout⟩

/-- All handlers are replaced by one of our own. The handlers to remove are listed beforehand. -/
def setUp (level : Option Int) (setting : Option String) : Logging Unit :=
  match Session.resolve level setting with
  | .error e => throw e
  | .ok level => do
    setLevel level
    let old := (← get).handlers
    forM old remove
    attach (← make (Session.layoutFor level))

def emit (text : String) : Logging Unit := modify fun root => { root with err := root.err ++ text }

/-- Every handler gets the record. Where there is none, a warning or worse is written as it is. -/
def deliver (paint : Tint → String → String) (place : Place) (r : Record) : Logging Unit := do
  match (← get).handlers with
  | [] => if warning ≤ r.level then emit (r.message ++ "\n")
  | handlers => forM handlers fun h => emit (h.output.text paint place r)

def effective (root : Int) : List Int → Int
  | [] => root
  | level :: above => if level = unset then effective root above else level

/-- A logger is told something at a level. The levels are its own and those of the loggers between
it and the root. Levels of zero and below are never written. -/
def tell (paint : Tint → String → String) (levels : List Int) (place : Place) (r : Record) :
    Logging Unit := do
  if 0 < r.level ∧ effective (← get).level levels ≤ r.level then deliver paint place r

end Root

/-- What can happen to the log. The text of a record that is told is what its message and arguments
give; arguments that do not fit their message give none. -/
inductive Event where
  | setUp (level : Option Int) (setting : Option String)
  | tell (levels : List Int) (place : Place) (r : Record)

section
variable (paint : Tint → String → String)

def Event.act : Event → Logging Unit
  | .setUp level setting => Root.setUp level setting
  | .tell levels place r => Root.tell paint levels place r

namespace Root

def step (root : Root) (e : Event) : Root :=
  match (e.act paint).run root with
  | .ok _ root => root
  | .error _ root => root

def play (root : Root) (events : List Event) : Root := events.foldl (step paint) root

end Root
end
end Caret.Log
