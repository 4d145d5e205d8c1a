import Caret.Automation.Tasks
import Caret.Proofs.Automation.Classifiers
import Mathlib.Data.List.Perm.Basic

namespace Caret.Automation
open Document Text

section
variable {α : Type} {r : α → α → Prop} (asymm : ∀ a b, r a b → ¬ r b a) {xs ys : List α}
include asymm

theorem arranged_distinct (arranged : xs.Pairwise r) : xs.Nodup := by
  refine arranged.imp ?_
  rintro a b ahead rfl
  exact asymm a a ahead ahead

theorem arranged_unique (first : xs.Pairwise r) (second : ys.Pairwise r)
    (same : ∀ a, a ∈ xs ↔ a ∈ ys) : xs = ys := by
  have perm : xs.Perm ys := (List.perm_ext_iff_of_nodup (arranged_distinct asymm first)
    (arranged_distinct asymm second)).mpr same
  refine List.Perm.eq_of_pairwise ?_ first second perm
  intro a b _ _ ahead behind
  exact absurd behind (asymm a b ahead)

end

namespace Version

def Earlier (v w : Version) : Prop := v.major < w.major ∨ v.major = w.major ∧ v.minor < w.minor

section
variable {u v w : Version} {vs : List Version}

theorem before_iff : v.before w = true ↔ Earlier v w := by
  simp only [before, Earlier, Bool.or_eq_true, Bool.and_eq_true, decide_eq_true_eq, beq_iff_eq]

theorem earlier_trans (first : Earlier u v) (second : Earlier v w) : Earlier u w := by
  unfold Earlier at *
  omega

theorem earlier_asymm (v w : Version) (first : Earlier v w) : ¬ Earlier w v := by
  unfold Earlier at *
  omega

theorem earlier_total (other : v ≠ w) (late : ¬ Earlier v w) : Earlier w v := by
  have numbers : v.major ≠ w.major ∨ v.minor ≠ w.minor := by
    rw [← not_and_or]
    rintro ⟨major, minor⟩
    refine other ?_
    cases v
    cases w
    cases major
    cases minor
    rfl
  unfold Earlier at *
  omega

theorem mem_insert (v w : Version) (vs : List Version) : w ∈ insert v vs ↔ w = v ∨ w ∈ vs := by
  induction vs with
  | nil => simp [insert]
  | cons x vs ih =>
    simp only [insert]
    split
    · rename_i same
      subst same
      simp
    · split
      · exact List.mem_cons
      · rw [List.mem_cons, ih, List.mem_cons, or_left_comm]

theorem insert_ascending (v : Version) (ascending : vs.Pairwise Earlier) :
    (insert v vs).Pairwise Earlier := by
  induction vs with
  | nil => simp [insert]
  | cons w vs ih =>
    obtain ⟨first, rest⟩ := List.pairwise_cons.mp ascending
    simp only [insert]
    split
    · exact ascending
    · rename_i other
      split
      · rename_i before
        have below := before_iff.mp before
        refine List.pairwise_cons.mpr ⟨?_, ascending⟩
        rintro x member
        rcases List.mem_cons.mp member with rfl | later
        · exact below
        · exact earlier_trans below (first x later)
      · rename_i late
        rw [before_iff] at late
        refine List.pairwise_cons.mpr ⟨?_, ih rest⟩
        intro x member
        rcases (mem_insert v x vs).mp member with rfl | later
        · exact earlier_total other late
        · exact first x later

theorem mem_sorted (v : Version) (vs : List Version) : v ∈ sorted vs ↔ v ∈ vs := by
  induction vs with
  | nil => rfl
  | cons w vs ih =>
    have step : sorted (w :: vs) = insert w (sorted vs) := rfl
    rw [step, mem_insert, ih, List.mem_cons]

theorem sorted_ascending (vs : List Version) : (sorted vs).Pairwise Earlier := by
  induction vs with
  | nil => exact List.Pairwise.nil
  | cons w vs ih => exact insert_ascending w ih

end

def reread (text : String) : Option Version :=
  match text.toList.splitOn '.' with
  | [major, minor] =>
    match readNumeral major, readNumeral minor with
    | .ok a, .ok b => some ⟨a, b⟩
    | _, _ => none
  | _ => none

structure Writable (v : Version) : Prop where
  major : (toString v.major).length ≤ maxDigits
  minor : (toString v.minor).length ≤ maxDigits

theorem text_joined (v : Version) :
    v.toText.toList = (toString v.major).toList ++ '.' :: (toString v.minor).toList := by
  simp only [toText, String.toList_append, List.append_assoc]
  rfl

theorem text_reread {v : Version} (writable : v.Writable) : reread v.toText = some v := by
  have first := nat_text_numeral writable.major
  have second := nat_text_numeral writable.minor
  have a := read_numeral_iff.mpr ⟨first, nat_text_value v.major⟩
  have b := read_numeral_iff.mpr ⟨second, nat_text_value v.minor⟩
  have cut := dot_cut (numeral_digits first) (numeral_digits second)
  simp only [reread, text_joined, cut, a, b]

end Version

def Ascends (s t : String) : Prop :=
  ∃ v w, Version.reread s = some v ∧ Version.reread t = some w ∧ Version.Earlier v w

/-- The text is made of the plain numerals of the two numbers that the classifier states. -/
inductive Spells (classifier text : String) : Prop
  | intro {major minor front back : List Char} (dotted : Dotted classifier major minor)
      (joined : text.toList = front ++ '.' :: back) (first : PlainNumeral front)
      (second : PlainNumeral back) (majors : decimalFold front = decimalFold major)
      (minors : decimalFold back = decimalFold minor)

/-- What is shown for some classifiers. -/
structure Lineup (running : Version) (cs shown : List String) : Prop where
  stated : (∃ c ∈ cs, Stating c) → ∀ text, text ∈ shown ↔ ∃ c ∈ cs, Spells c text
  unstated : (¬ ∃ c ∈ cs, Stating c) →
    shown = [toString running.major ++ "." ++ toString running.minor]
  ascending : shown.Pairwise Ascends
  distinct : shown.Nodup
  nonempty : shown ≠ []

section
variable {c : String} {v : Version}

theorem states_writable (states : States c v) : v.Writable := by
  obtain ⟨-, first, second⟩ := states
  exact ⟨numeral_text_short first, numeral_text_short second⟩

theorem spells_iff (legible : ¬ Garbled c) (text : String) :
    Spells c text ↔ ∃ v, States c v ∧ text = v.toText := by
  constructor
  · rintro ⟨dotted, joined, first, second, majors, minors⟩
    rename_i major minor front back
    have numerals : Numeral major ∧ Numeral minor := by
      by_contra unread
      exact legible (.intro dotted unread)
    refine ⟨_, .intro dotted numerals.1 numerals.2, ?_⟩
    rw [← String.toList_inj, Version.text_joined, joined, ← majors, ← minors, plain_text first,
      plain_text second]
  · rintro ⟨v, ⟨dotted, first, second⟩, rfl⟩
    exact .intro dotted (Version.text_joined _) (nat_text_plain _) (nat_text_plain _)
      (nat_text_value _) (nat_text_value _)

theorem ascends_asymm (s t : String) (first : Ascends s t) : ¬ Ascends t s := by
  obtain ⟨v, w, here, there, earlier⟩ := first
  rintro ⟨w', v', there', here', later⟩
  rw [there] at there'
  rw [here] at here'
  cases there'
  cases here'
  exact Version.earlier_asymm v w earlier later

theorem lineup_unique {running : Version} {cs ss ts : List String}
    (first : Lineup running cs ss) (second : Lineup running cs ts) : ss = ts := by
  by_cases stated : ∃ c ∈ cs, Stating c
  · refine arranged_unique ascends_asymm first.ascending second.ascending fun text => ?_
    rw [first.stated stated, second.stated stated]
  · rw [first.unstated stated, second.unstated stated]

end

inductive Lists (document : Table) (cs : List String) : Prop
  | intro {table : Table} (project : document.get? "project" = some (.table table))
      (classifiers : table.get? "classifiers" = some (.list (texts cs)))

def textOf? : Value → Option String
  | .text s => some s
  | _ => none

def classifiers? (document : Table) : Option (List String) :=
  match document.get? "project" with
  | some (.table table) =>
    match Table.get? table "classifiers" with
    | some (.list items) => items.mapM textOf?
    | _ => none
  | _ => none

def listing (cs : List String) : Table :=
  [("project", .table [("classifiers", .list (texts cs))])]

theorem listing_lists (cs : List String) : Lists (listing cs) cs := .intro rfl rfl

theorem texts_of_items {items : List Value} {cs : List String}
    (read : items.mapM textOf? = some cs) : items = texts cs := by
  induction items generalizing cs with
  | nil =>
    cases read
    rfl
  | cons item items ih =>
    rw [List.mapM_cons] at read
    cases item with
    | text s =>
      cases rest : items.mapM textOf? with
      | none =>
        rw [textOf?, rest] at read
        cases read
      | some cs' =>
        rw [textOf?, rest] at read
        cases read
        rw [ih rest]
        rfl
    | _ => cases read

theorem classifiers_listed {document : Table} {cs : List String}
    (read : classifiers? document = some cs) : Lists document cs := by
  unfold classifiers? at read
  split at read
  · rename_i table project
    split at read
    · rename_i items classifiers
      rw [texts_of_items read] at classifiers
      exact .intro project classifiers
    · cases read
  · cases read

def settle (running : Version) : List Version → Supported
  | [] => ⟨[running], some .noVersions⟩
  | v :: vs => ⟨Version.sorted (v :: vs), none⟩

section
variable {running : Version} {document : Table} {cs : List String} {vs ws : List Version}
  {s : Supported}

theorem supported_listed (lists : Lists document cs) :
    supported running document = (versionsOf (texts cs)).map (settle running) := by
  obtain ⟨project, classifiers⟩ := lists
  have items : itemsOf (.list (texts cs)) = .ok (texts cs) := by
    cases cs <;> rfl
  simp only [supported, project, classifiers, Option.getD_some, items]
  cases versionsOf (texts cs) with
  | error e => rfl
  | ok vs => cases vs <;> rfl

theorem settle_cons (some : vs ≠ []) : settle running vs = ⟨Version.sorted vs, none⟩ := by
  cases vs with
  | nil => exact absurd rfl some
  | cons v vs => rfl

theorem settle_same (same : ∀ v, v ∈ vs ↔ v ∈ ws) : settle running vs = settle running ws := by
  by_cases none : vs = []
  · subst none
    have none' : ws = [] := by
      refine List.eq_nil_iff_forall_not_mem.mpr fun v member => ?_
      simpa using (same v).mpr member
    rw [none']
  · have none' : ws ≠ [] := by
      rintro rfl
      obtain ⟨v, member⟩ := List.exists_mem_of_ne_nil vs none
      simpa using (same v).mp member
    rw [settle_cons none, settle_cons none']
    congr 1
    refine arranged_unique Version.earlier_asymm (Version.sorted_ascending vs)
      (Version.sorted_ascending ws) fun v => ?_
    rw [Version.mem_sorted, Version.mem_sorted, same]

theorem found_iff_stating (legible : ∀ c ∈ cs, ¬ Garbled c)
    (members : ∀ v, v ∈ vs ↔ ∃ c ∈ cs, States c v) : vs ≠ [] ↔ ∃ c ∈ cs, Stating c := by
  constructor
  · intro some
    obtain ⟨v, member⟩ := List.exists_mem_of_ne_nil vs some
    obtain ⟨c, listed, states⟩ := (members v).mp member
    exact ⟨c, listed, states_stating states⟩
  · rintro ⟨c, listed, stating⟩ rfl
    cases reading c with
    | plain other => exact other stating
    | states states => simpa using (members _).mpr ⟨c, listed, states⟩
    | garbled garbled => exact legible c listed garbled

theorem settle_lineup (running : Version) (legible : ∀ c ∈ cs, ¬ Garbled c)
    (members : ∀ v, v ∈ vs ↔ ∃ c ∈ cs, States c v) :
    Lineup running cs (Chore.versionTexts (settle running vs)) := by
  have found := found_iff_stating legible members
  by_cases none : vs = []
  · subst none
    have unstated : ¬ ∃ c ∈ cs, Stating c := by
      rw [← found]
      exact not_not.mpr rfl
    exact ⟨fun stated => absurd stated unstated, fun _ => rfl, List.pairwise_singleton _ _,
      List.pairwise_singleton _ _, List.cons_ne_nil _ _⟩
  · have ascending : ((Version.sorted vs).map Version.toText).Pairwise Ascends := by
      rw [List.pairwise_map]
      refine (Version.sorted_ascending vs).imp_of_mem ?_
      intro v w first second earlier
      obtain ⟨_, _, here⟩ := (members v).mp ((Version.mem_sorted v vs).mp first)
      obtain ⟨_, _, there⟩ := (members w).mp ((Version.mem_sorted w vs).mp second)
      exact ⟨v, w, Version.text_reread (states_writable here),
        Version.text_reread (states_writable there), earlier⟩
    rw [settle_cons none]
    refine ⟨fun _ text => ?_, fun unstated => absurd (found.mp none) unstated, ascending,
      arranged_distinct ascends_asymm ascending, ?_⟩
    · simp only [Chore.versionTexts, List.mem_map, Version.mem_sorted, members]
      constructor
      · rintro ⟨v, ⟨c, listed, states⟩, rfl⟩
        exact ⟨c, listed, (spells_iff (legible c listed) _).mpr ⟨v, states, rfl⟩⟩
      · rintro ⟨c, listed, spells⟩
        obtain ⟨v, states, rfl⟩ := (spells_iff (legible c listed) text).mp spells
        exact ⟨v, ⟨c, listed, states⟩, rfl⟩
    · obtain ⟨v, member⟩ := List.exists_mem_of_ne_nil vs none
      exact List.ne_nil_of_mem (List.mem_map_of_mem ((Version.mem_sorted v vs).mpr member))

theorem versions_legible (read : versionsOf (texts cs) = .ok vs) :
    (∀ c ∈ cs, ¬ Garbled c) ∧ ∀ v, v ∈ vs ↔ ∃ c ∈ cs, States c v := by
  have legible : ∀ c ∈ cs, ¬ Garbled c := by
    intro c listed garbled
    obtain ⟨_, _, _, e, _, _, _, _, failed⟩ := versions_first_garbled ⟨c, listed, garbled⟩
    rw [read] at failed
    cases failed
  obtain ⟨vs', read', members⟩ := versions_read legible
  rw [read] at read'
  cases read'
  exact ⟨legible, members⟩

/-- The versions that classifiers state are shown in their plain spellings, in order and each once,
and in no other way, or else the running version is shown. How the classifiers are arranged, how
often each is listed and which others stand between them does not matter. -/
theorem versions_lined_up (lists : Lists document cs)
    (returned : supported running document = .ok s) :
    Lineup running cs (Chore.versionTexts s) ∧
    (∀ shown, Lineup running cs shown → shown = Chore.versionTexts s) ∧
    ∀ document' cs', Lists document' cs' → (∀ c, Stating c → (c ∈ cs' ↔ c ∈ cs)) →
      supported running document' = .ok s := by
  rw [supported_listed lists] at returned
  cases read : versionsOf (texts cs) with
  | error e =>
    rw [read] at returned
    cases returned
  | ok vs =>
    rw [read] at returned
    cases returned
    obtain ⟨legible, members⟩ := versions_legible read
    have lineup := settle_lineup running legible members
    refine ⟨lineup, fun shown other => lineup_unique other lineup, ?_⟩
    intro document' cs' lists' same
    have legible' : ∀ c ∈ cs', ¬ Garbled c := by
      intro c listed garbled
      exact legible c ((same c (garbled_stating garbled)).mp listed) garbled
    obtain ⟨ws, read', members'⟩ := versions_read legible'
    have versions : ∀ v, v ∈ ws ↔ v ∈ vs := by
      intro v
      rw [members, members']
      refine exists_congr fun c => and_congr_left fun states => ?_
      exact same c (states_stating states)
    rw [supported_listed lists', read']
    exact congrArg Except.ok (settle_same versions)

end

theorem versions_lined_up_respelt :
    let cs := [classifierStart ++ "3.10", classifierStart ++ " 3.09", classifierStart ++ "3"]
    let cs' := [classifierStart ++ " 3.09", "Topic", classifierStart ++ "3.10",
      classifierStart ++ " 3.09"]
    Lists (listing cs) cs ∧ supported ⟨3, 12⟩ (listing cs) = .ok ⟨[⟨3, 9⟩, ⟨3, 10⟩], none⟩ ∧
      Lineup ⟨3, 12⟩ cs ["3.9", "3.10"] ∧ Lists (listing cs') cs' ∧
      (∀ c, Stating c → (c ∈ cs' ↔ c ∈ cs)) ∧
      supported ⟨3, 12⟩ (listing cs') = .ok ⟨[⟨3, 9⟩, ⟨3, 10⟩], none⟩ := by
  intro cs cs'
  have returned : supported ⟨3, 12⟩ (listing cs) = .ok ⟨[⟨3, 9⟩, ⟨3, 10⟩], none⟩ := by decide +kernel
  have shown : Chore.versionTexts ⟨[⟨3, 9⟩, ⟨3, 10⟩], none⟩ = ["3.9", "3.10"] := by decide
  obtain ⟨lineup, -, rearranged⟩ := versions_lined_up (listing_lists cs) returned
  rw [shown] at lineup
  have short : ¬ Stating (classifierStart ++ "3") := plain_iff.mp (by decide +kernel)
  have topic : ¬ Stating "Topic" := plain_iff.mp (by decide +kernel)
  have same : ∀ c, Stating c → (c ∈ cs' ↔ c ∈ cs) := by
    intro c stating
    have other : c ≠ classifierStart ++ "3" ∧ c ≠ "Topic" := by
      constructor
      · rintro rfl
        exact short stating
      · rintro rfl
        exact topic stating
    simp only [cs, cs', List.mem_cons, List.not_mem_nil, or_false, other.1, other.2, false_or]
    tauto
  exact ⟨listing_lists cs, returned, lineup, listing_lists cs', same,
    rearranged _ cs' (listing_lists cs') same⟩

end Caret.Automation
