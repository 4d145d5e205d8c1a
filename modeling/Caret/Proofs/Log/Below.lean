import Caret.Log.Session

namespace Caret

/-- Every record is less severe than a level. -/
def Traced.Below {α : Type} (level : Int) (t : Traced α) : Prop := ∀ r ∈ t.records, r.level < level

namespace Log
section
variable {α β : Type} {level : Int}

theorem below_pure (a : α) : (pure a : Traced α).Below level := nofun

theorem below_bind {t : Traced α} {f : α → Traced β} (first : t.Below level)
    (rest : (f t.value).Below level) : (t >>= f).Below level := by
  intro r member
  rw [Traced.bind_records] at member
  rcases List.mem_append.mp member with earlier | later
  · exact first r earlier
  · exact rest r later

theorem below_emit {own : Int} (message : String) (less : own < level) :
    (Traced.emit own message).Below level := by
  intro r member
  rw [Traced.emit_records, List.mem_singleton] at member
  subst member
  exact less

end

theorem written_below (look : Look) {s : Session} {r : Record} (below : r.level < s.level) :
    s.written look r = "" := by
  have refused : s.accepts r.level = false := by
    simp only [Session.accepts, Bool.and_eq_false_iff, decide_eq_false_iff_not]
    omega
  rw [Session.written, refused]
  rfl

theorem written_all_below (look : Look) {s : Session} {rs : List Record}
    (below : ∀ r ∈ rs, r.level < s.level) : s.writtenAll look rs = "" := by
  induction rs with
  | nil => rfl
  | cons r rs ih =>
    have first := written_below look (below r List.mem_cons_self)
    have rest := ih fun r member => below r (List.mem_cons_of_mem _ member)
    rw [Session.writtenAll] at rest
    rw [Session.writtenAll, List.map_cons, String.join_cons, first, rest]
    rfl

end Log

end Caret
