import Caret.Drawing.Sink
import Caret.Drawing.Subject
import Caret.Log.Session

namespace Caret.Drawing

structure Bench (σ : Type) where
  sink : σ
  session : Log.Session
  emitted : List Log.Record := []
  deriving DecidableEq, Repr

section
variable {σ ε : Type}

def Bench.tell (b : Bench σ) (r : Log.Record) : Bench σ :=
  if b.session.accepts r.level then { b with emitted := b.emitted ++ [r] } else b

def Step.perform (sink : Sink σ ε) : Step → EStateM ε (Bench σ) Unit
  | .write w => fun b =>
    match sink w.toText b.sink with
    | .ok _ after => .ok () { b with sink := after }
    | .error cause after => .error cause { b with sink := after }
  | .log r => modify fun b => b.tell r

def perform (sink : Sink σ ε) (steps : List Step) : EStateM ε (Bench σ) Unit :=
  steps.forM (Step.perform sink)

end
end Caret.Drawing
