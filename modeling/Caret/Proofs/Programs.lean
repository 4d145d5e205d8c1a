namespace Caret

section
variable {ε σ α β : Type} {x : EStateM ε σ α} {before after : σ}

theorem bind_ran {f : α → EStateM ε σ β} {a : α} (ran : x before = .ok a after) :
    (x >>= f) before = f a after := by
  show EStateM.bind x f before = f a after
  simp only [EStateM.bind, ran]

theorem bind_halted {f : α → EStateM ε σ β} {halt : ε} (halted : x before = .error halt after) :
    (x >>= f) before = .error halt after := by
  show EStateM.bind x f before = .error halt after
  simp only [EStateM.bind, halted]

end
end Caret
