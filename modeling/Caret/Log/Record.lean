namespace Caret

namespace Log

def trace : Int := 5
def debug : Int := 10
def info : Int := 20
def warning : Int := 30
def error : Int := 40
def critical : Int := 50
def unset : Int := 0

structure Record where
  level : Int
  message : String
  deriving DecidableEq, Repr

end Log

structure Traced (α : Type) where
  records : List Log.Record
  value : α
  deriving Repr

namespace Traced

instance : Monad Traced where
  pure a := ⟨[], a⟩
  bind t f := ⟨t.records ++ (f t.value).records, (f t.value).value⟩

@[simp] theorem pure_value {α : Type} (a : α) : (pure a : Traced α).value = a := rfl

@[simp] theorem bind_value {α β : Type} (t : Traced α) (f : α → Traced β) :
    (t >>= f).value = (f t.value).value := rfl

def emit (level : Int) (message : String) : Traced Unit := ⟨[⟨level, message⟩], ()⟩

@[simp] theorem pure_records {α : Type} (a : α) : (pure a : Traced α).records = [] := rfl

@[simp] theorem bind_records {α β : Type} (t : Traced α) (f : α → Traced β) :
    (t >>= f).records = t.records ++ (f t.value).records := rfl

@[simp] theorem emit_records (level : Int) (message : String) :
    (emit level message).records = [⟨level, message⟩] := rfl

end Traced
end Caret
