import Caret.Document.Value
import Mathlib.Data.List.Nodup

namespace Caret.Document

/-- No key stands twice, neither in the table nor in the tables that are its values. Deeper tables
are not looked at. -/
structure Keyed (t : Table) : Prop where
  top : t.keys.Nodup
  inner : ∀ (key : String) (entries : Table), t.get? key = some (.table entries) →
    entries.keys.Nodup

/-- The same document up to the order of keys in tables. -/
inductive Reordered : Value → Value → Prop
  | refl (v : Value) : Reordered v v
  | keys {a b : Table} (same : a.Perm b) : Reordered (.table a) (.table b)
  | entry (front back : Table) (key : String) {v w : Value} (inside : Reordered v w) :
      Reordered (.table (front ++ (key, v) :: back)) (.table (front ++ (key, w) :: back))
  | item (front back : List Value) {v w : Value} (inside : Reordered v w) :
      Reordered (.list (front ++ v :: back)) (.list (front ++ w :: back))
  | trans {u v w : Value} (first : Reordered u v) (second : Reordered v w) : Reordered u w

@[simp] theorem get_nil (key : String) : Table.get? [] key = none := rfl

theorem get_cons (k : String) (v : Value) (t : Table) (key : String) :
    Table.get? ((k, v) :: t) key = if k = key then some v else Table.get? t key := by
  by_cases same : k = key
  · simp [Table.get?, same]
  · simp [Table.get?, same]

theorem get_append (a b : Table) (key : String) :
    Table.get? (a ++ b) key = (Table.get? a key).or (Table.get? b key) := by
  induction a with
  | nil => rfl
  | cons e a ih =>
    obtain ⟨k, v⟩ := e
    by_cases same : k = key
    · simp [get_cons, same]
    · simp [get_cons, same, ih]

theorem member_of_get {t : Table} {key : String} {v : Value} (found : t.get? key = some v) :
    (key, v) ∈ t := by
  induction t with
  | nil => cases found
  | cons e t ih =>
    obtain ⟨k, w⟩ := e
    rw [get_cons] at found
    by_cases same : k = key
    · rw [if_pos same] at found
      cases found
      subst same
      exact List.mem_cons_self
    · rw [if_neg same] at found
      exact List.mem_cons_of_mem _ (ih found)

theorem get_of_member {t : Table} (distinct : t.keys.Nodup) {key : String} {v : Value}
    (member : (key, v) ∈ t) : t.get? key = some v := by
  induction t with
  | nil => cases member
  | cons e t ih =>
    obtain ⟨k, w⟩ := e
    obtain ⟨fresh, rest⟩ := List.nodup_cons.mp distinct
    rw [get_cons]
    rcases List.mem_cons.mp member with first | later
    · cases first
      rw [if_pos rfl]
    · have other : k ≠ key := by
        intro same
        subst same
        exact fresh (List.mem_map.mpr ⟨(k, v), later, rfl⟩)
      rw [if_neg other]
      exact ih rest later

theorem get_iff_member {t : Table} (distinct : t.keys.Nodup) (key : String) (v : Value) :
    t.get? key = some v ↔ (key, v) ∈ t :=
  ⟨member_of_get, get_of_member distinct⟩

theorem get_perm {a b : Table} (same : a.Perm b) (distinct : a.keys.Nodup) (key : String) :
    a.get? key = b.get? key := by
  have distinct' : b.keys.Nodup := (same.map Prod.fst).nodup_iff.mp distinct
  apply Option.ext
  intro v
  rw [get_iff_member distinct, get_iff_member distinct', same.mem_iff]

theorem reordered_symm {v w : Value} (order : Reordered v w) : Reordered w v := by
  induction order with
  | refl v => exact .refl v
  | keys same => exact .keys same.symm
  | entry front back key _ ih => exact .entry front back key ih
  | item front back _ ih => exact .item front back ih
  | trans _ _ first second => exact .trans second first

theorem reordered_single {v w : Value} (order : Reordered v w) (table : ∀ t, v ≠ .table t)
    (list : ∀ vs, v ≠ .list vs) : w = v := by
  induction order with
  | refl v => rfl
  | keys _ => exact absurd rfl (table _)
  | entry _ _ _ _ _ => exact absurd rfl (table _)
  | item _ _ _ _ => exact absurd rfl (list _)
  | trans _ _ first second =>
    have same := first table list
    subst same
    exact second table list

theorem entry_keys (front back : Table) (key : String) (v w : Value) :
    Table.keys (front ++ (key, w) :: back) = Table.keys (front ++ (key, v) :: back) := by
  simp [Table.keys]

theorem entry_get (front back : Table) (key : String) {v w : Value} (inside : Reordered v w)
    (other : String) :
    Option.Rel Reordered (Table.get? (front ++ (key, v) :: back) other)
      (Table.get? (front ++ (key, w) :: back) other) := by
  rw [get_append, get_append, get_cons, get_cons]
  cases Table.get? front other with
  | some u => exact .some (.refl u)
  | none =>
    by_cases same : key = other
    · rw [if_pos same, if_pos same]
      exact .some inside
    · rw [if_neg same, if_neg same]
      cases Table.get? back other with
      | some u => exact .some (.refl u)
      | none => exact .none

theorem rel_trans {a b c : Option Value} (first : Option.Rel Reordered a b)
    (second : Option.Rel Reordered b c) : Option.Rel Reordered a c := by
  cases first with
  | none => exact second
  | some first =>
    cases second with
    | some second => exact .some (.trans first second)

theorem rel_refl (a : Option Value) : Option.Rel Reordered a a := by
  cases a with
  | none => exact .none
  | some v => exact .some (.refl v)

theorem reordered_table {v w : Value} (order : Reordered v w) :
    ∀ {a : Table}, v = .table a → a.keys.Nodup →
      ∃ b : Table, w = .table b ∧ b.keys.Nodup ∧
        ∀ key, Option.Rel Reordered (a.get? key) (b.get? key) := by
  -- A step inside an entry does not touch the keys, so they stay distinct along the whole way.
  induction order with
  | refl v =>
    intro a table distinct
    exact ⟨a, table, distinct, fun key => rel_refl _⟩
  | @keys a' b same =>
    intro a table distinct
    cases table
    refine ⟨b, rfl, (same.map Prod.fst).nodup_iff.mp distinct, ?_⟩
    intro key
    rw [get_perm same distinct key]
    exact rel_refl _
  | @entry front back key v w inside _ =>
    intro a table distinct
    cases table
    refine ⟨_, rfl, ?_, entry_get front back key inside⟩
    rw [entry_keys front back key v w]
    exact distinct
  | item front back inside _ =>
    intro a table _
    cases table
  | trans _ _ first second =>
    intro a table distinct
    obtain ⟨b, middle, distinct', near⟩ := first table distinct
    obtain ⟨c, last, distinct'', far⟩ := second middle distinct'
    exact ⟨c, last, distinct'', fun key => rel_trans (near key) (far key)⟩

theorem reordered_is_table {v w : Value} (order : Reordered v w) :
    ∀ {a : Table}, v = .table a → ∃ b, w = .table b := by
  induction order with
  | refl v => exact fun table => ⟨_, table⟩
  | keys _ => exact fun _ => ⟨_, rfl⟩
  | entry _ _ _ _ _ => exact fun _ => ⟨_, rfl⟩
  | item _ _ _ _ => exact nofun
  | trans _ _ first second =>
    intro a table
    obtain ⟨b, middle⟩ := first table
    exact second middle

theorem keyed_reordered {a : Table} {w : Value} (keyed : Keyed a) (order : Reordered (.table a) w) :
    ∃ b : Table, w = .table b ∧ Keyed b ∧ ∀ key, Option.Rel Reordered (a.get? key) (b.get? key) := by
  obtain ⟨b, table, distinct, related⟩ := reordered_table order rfl keyed.top
  refine ⟨b, table, ⟨distinct, ?_⟩, related⟩
  intro key entries found
  have near := related key
  rw [found] at near
  generalize held : a.get? key = before at near
  cases near with
  | some inside =>
    obtain ⟨old, rfl⟩ := reordered_is_table (reordered_symm inside) rfl
    obtain ⟨new, same, distinct', _⟩ := reordered_table inside rfl (keyed.inner key old held)
    cases same
    exact distinct'

end Caret.Document
