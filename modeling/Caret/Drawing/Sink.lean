import Caret.Drawing.Obstacle
import Caret.Log.Record
import Caret.Style

/-!
Programs that draw. A program hands texts to a sink one after another, and a sink may refuse one; it
asks for the escape sequences of colours by number, and not every number is one; and it may not be
able to put a text together. Each ends the program at once. The desk keeps what has been asked for
and logged until then.
-/
namespace Caret.Drawing

abbrev Sink (σ ε : Type) := String → EStateM ε σ Unit

structure Desk (σ : Type) where
  sink : σ
  colors : List Int := []
  records : List Log.Record := []
  deriving DecidableEq, Repr

inductive Stop (ε : Type) where
  | sink (cause : ε)
  | color (cause : Style.ColorError)
  | obstacle (cause : Obstacle)
  deriving DecidableEq, Repr

abbrev Press (σ ε : Type) := EStateM (Stop ε) (Desk σ)

namespace Press
variable {σ ε : Type}

def ask (indices : List Int) : Press σ ε Unit :=
  modify fun desk => { desk with colors := desk.colors ++ indices }

def record (r : Log.Record) : Press σ ε Unit :=
  modify fun desk => { desk with records := desk.records ++ [r] }

/-- The sequence that selects a colour; a number is kept also when it is none. -/
def color (index : Int) : Press σ ε String := do
  ask [index]
  match Style.select index with
  | .ok sequence => return sequence
  | .error cause => throw (.color cause)

def need {α : Type} (o : Obstacle) : Option α → Press σ ε α
  | some a => pure a
  | none => throw (.obstacle o)

def write (sink : Sink σ ε) (s : String) : Press σ ε Unit := fun desk =>
  match sink s desk.sink with
  | .ok _ after => .ok () { desk with sink := after }
  | .error cause after => .error (.sink cause) { desk with sink := after }

end Press

def left {σ ε : Type} : EStateM.Result (Stop ε) (Desk σ) Unit → σ × Option (Stop ε)
  | .ok _ desk => (desk.sink, none)
  | .error stop desk => (desk.sink, some stop)

def outcome {σ ε : Type} (program : Press σ ε Unit) (before : σ) : σ × Option (Stop ε) :=
  left (program { sink := before })

def buffer : Sink String Empty := fun s => modify (· ++ s)

/-- What a sink has been given: the writes that it took, and the number of all of them. -/
structure Tape where
  accepted : List String := []
  attempts : Nat := 0
  deriving DecidableEq, Repr

def tape {ε : Type} (room : Option Nat) (cause : ε) : Sink Tape ε := fun s t =>
  if room.all (t.accepted.length < ·) then .ok () ⟨t.accepted ++ [s], t.attempts + 1⟩
  else .error cause ⟨t.accepted, t.attempts + 1⟩

end Caret.Drawing
