import Caret.Log.Layout

namespace Caret.Log

inductive Handler where
  | silent
  | stream (layout : Layout)
  deriving DecidableEq, Repr

structure Session where
  level : Int
  handlers : List Handler
  deriving DecidableEq, Repr

namespace Session

def layoutFor (level : Int) : Layout := if info ≤ level then .short else .detailed

def ofLevel (level : Int) : Session := ⟨level, [.stream (layoutFor level)]⟩

/-- Without a level the environment is asked; where it names none, or zero, only critical records
are written. -/
def resolve (level : Option Int) (setting : Option String) : Except Text.NumeralError Int :=
  match level with
  | some n => .ok n
  | none =>
    match environmentLevel setting with
    | .error e => .error e
    | .ok (some n) => .ok (if n = 0 then critical else n)
    | .ok none => .ok critical

def setup (_ : Session) (level : Option Int) (setting : Option String) :
    Except Text.NumeralError Session :=
  (resolve level setting).map Session.ofLevel

/-- Records of level zero and below are never written. -/
def accepts (s : Session) (level : Int) : Bool := 0 < level && s.level ≤ level

section
variable (look : Look)

def Handler.write (r : Record) : Handler → String
  | .silent => ""
  | .stream layout => format look.paint layout (look.place r) r ++ "\n"

def written (s : Session) (r : Record) : String :=
  if s.accepts r.level then String.join (s.handlers.map (Handler.write look r)) else ""

def writtenAll (s : Session) (rs : List Record) : String := String.join (rs.map (s.written look))

end

end Session
end Caret.Log
