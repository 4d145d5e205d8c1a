import Caret.Automation.Tasks

namespace Caret.Automation

namespace Chore

inductive RunsWith (running : Version) (s : Supported) (c : Chore) : Interpreter → Prop
  | listed {items : List Interpreter} {i : Interpreter}
      (registered : c.interpreter running s = .list items) (member : i ∈ items) :
      RunsWith running s c i
  | only {i : Interpreter} (registered : c.interpreter running s = i)
      (single : ∀ items, i ≠ .list items) : RunsWith running s c i

theorem of_name (c : Chore) : ofName? c.name = some c := by
  cases c <;> decide

theorem of_name_iff {text : String} {c : Chore} : ofName? text = some c ↔ text = c.name := by
  constructor
  · intro found
    rw [ofName?] at found
    have same := List.find?_some found
    exact (beq_iff_eq.mp same).symm
  · rintro rfl
    exact of_name c

variable {running : Version} {s : Supported} {given : Interpreter}

theorem text_filled (v : Version) : v.toText.isEmpty = false := by
  rw [Bool.eq_false_iff, ne_eq, String.isEmpty_iff]
  intro empty
  have dotted := congrArg String.length empty
  simp only [Version.toText, String.length_append, String.length_empty] at dotted
  have dot : ".".length = 1 := by decide
  omega

theorem qa_runs_with (runs : RunsWith running s .qa given) :
    ∃ v ∈ s.versions, given = .name v.toText := by
  cases runs with
  | listed registered member =>
    obtain rfl := Interpreter.list.inj registered
    obtain ⟨text, named, rfl⟩ := List.mem_map.mp member
    obtain ⟨v, supported, rfl⟩ := List.mem_map.mp named
    exact ⟨v, supported, rfl⟩
  | only registered single => exact absurd registered.symm (single _)

/-- The full check stops at an interpreter without a name; nothing else stops a chore. -/
theorem calls_stop_iff (c : Chore) (given : Interpreter) (extra : List String) :
    (c.calls s given extra).2 = none ↔
      (c = .qa → ∃ text : String, given = .name text ∧ text.isEmpty = false) := by
  cases c with
  | qa =>
    cases given with
    | name text =>
      by_cases empty : text = ""
      · simp [calls, empty]
      · simp [calls, String.isEmpty_iff, empty]
    | none | flag | number | list => simp [calls]
  | lint | formatCheck | format | propertyTest | packageCheck => simp [calls]

/-- With an interpreter that it is registered for a chore comes to its end. The full check is then
about a supported version, and checks the types for that version last. -/
theorem registered_calls_end (c : Chore) (runs : RunsWith running s c given)
    (extra : List String) :
    (c.calls s given extra).2 = none ∧
      (c = .qa → ∃ v ∈ s.versions, given = .name v.toText ∧
        (c.calls s given extra).1.getLast? =
          some (.run ["pyright", "--pythonversion", v.toText])) := by
  constructor
  · rw [calls_stop_iff]
    rintro rfl
    obtain ⟨v, -, rfl⟩ := qa_runs_with runs
    exact ⟨v.toText, rfl, text_filled v⟩
  · rintro rfl
    obtain ⟨v, supported, rfl⟩ := qa_runs_with runs
    refine ⟨v, supported, rfl, ?_⟩
    simp [calls, text_filled]

end Chore
end Caret.Automation
