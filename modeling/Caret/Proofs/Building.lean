import Caret.Proofs.Draft
import Caret.Proofs.Text.Break
import Caret.Proofs.Unchecked

namespace Caret

inductive Faulty (number : Int) (text : String) : Line.Error → Prop
  | lineBreak (broken : Text.Broken text) : Faulty number text .lineBreak
  | number (whole : ¬ Text.Broken text) (low : number < 1) : Faulty number text (.number number)

/-- What is wrong with the first wrong line of several that have the same number. -/
inductive FirstFaulty (number : Int) : List String → Line.Error → Prop
  | here {text : String} {e : Line.Error} (rest : List String) (wrong : Faulty number text e) :
      FirstFaulty number (text :: rest) e
  | later {text : String} {rest : List String} {e : Line.Error}
      (sound : ∀ e, ¬ Faulty number text e) (wrong : FirstFaulty number rest e) :
      FirstFaulty number (text :: rest) e

def HelpItem.code? : HelpItem → Option String
  | .message _ => none
  | .draft d => d.suggestion.map SuggestionDraft.code

def Draft.texts (d : Draft) (items : List HelpItem) : List String :=
  d.code :: items.filterMap HelpItem.code?

structure SuggestionDraft.Marks (s : SuggestionDraft) (span : Span) (m : Marker) : Prop where
  span : m.span = span
  message : m.message = s.tip
  inline : m.inline = true

/-- A suggestion of one line, which has a marker exactly if the draft has a difference to mark. -/
structure SuggestionDraft.Copied (number : Int) (s : SuggestionDraft) (l : Line) : Prop where
  text : l.text = s.code
  number : (l.number : Int) = number
  marker : Option.Rel s.Marks s.diff l.marker

inductive HelpItem.Copied (number : Int) : HelpItem → Help → Prop
  | message (text : String) : Copied number (.message text) ⟨text, none⟩
  | plain (text : String) : Copied number (.draft ⟨text, none⟩) ⟨text, none⟩
  | suggestion (text : String) {s : SuggestionDraft} {l : Line} (line : s.Copied number l) :
      Copied number (.draft ⟨text, some s⟩) ⟨text, some ⟨[l]⟩⟩

structure Draft.Primary (d : Draft) (l : Line) (m : Marker) : Prop where
  text : l.text = d.code
  number : (l.number : Int) = d.location.line
  marker : l.marker = some m
  span : m.span = d.span
  message : m.message = d.spanMessage
  inline : m.inline = false

structure Draft.Copied (d : Draft) (items : List HelpItem) (r : Diagnostic) : Prop where
  level : r.level = d.level
  message : r.message = d.message
  location : r.location = d.location
  primary : ∃ l m, r.excerpt.lines = [l] ∧ d.Primary l m
  helps : List.Forall₂ (HelpItem.Copied d.location.line) items r.helps
  notes : r.notes = d.notes

section
variable {number : Int} {text : String} {e : Line.Error}

theorem faulty_exists : (∃ e, Faulty number text e) ↔ number < 1 ∨ Text.Broken text := by
  constructor
  · rintro ⟨e, broken | ⟨_, low⟩⟩
    · exact .inr broken
    · exact .inl low
  · intro wrong
    by_cases broken : Text.Broken text
    · exact ⟨_, .lineBreak broken⟩
    · exact ⟨_, .number broken (wrong.resolve_right broken)⟩

theorem faulty_unique {e' : Line.Error} (wrong : Faulty number text e)
    (other : Faulty number text e') : e = e' := by
  cases wrong with
  | lineBreak broken =>
    cases other with
    | lineBreak _ => rfl
    | number whole _ => exact absurd broken whole
  | number whole _ =>
    cases other with
    | lineBreak broken => exact absurd broken whole
    | number _ _ => rfl

theorem first_faulty_wrong {e' : Line.Error} (rest : List String)
    (wrong : Faulty number text e') : FirstFaulty number (text :: rest) e ↔ e' = e := by
  constructor
  · rintro (⟨_, other⟩ | ⟨sound, _⟩)
    · exact faulty_unique wrong other
    · exact absurd wrong (sound e')
  · rintro rfl
    exact .here rest wrong

theorem first_faulty_sound {rest : List String} (sound : ∀ e, ¬ Faulty number text e) :
    FirstFaulty number (text :: rest) e ↔ FirstFaulty number rest e := by
  constructor
  · rintro (⟨_, wrong⟩ | ⟨_, later⟩)
    · exact absurd wrong (sound e)
    · exact later
  · exact .later sound

theorem first_faulty_exists {texts : List String} :
    (∃ e, FirstFaulty number texts e) ↔ ∃ text ∈ texts, ∃ e, Faulty number text e := by
  induction texts with
  | nil => exact ⟨nofun, nofun⟩
  | cons text texts ih =>
    constructor
    · rintro ⟨e, ⟨_, wrong⟩ | ⟨_, wrong⟩⟩
      · exact ⟨text, List.mem_cons_self, e, wrong⟩
      · obtain ⟨other, member, wrong⟩ := ih.mp ⟨e, wrong⟩
        exact ⟨other, List.mem_cons_of_mem _ member, wrong⟩
    · rintro ⟨other, member, wrong⟩
      by_cases first : ∃ e, Faulty number text e
      · obtain ⟨e, wrong⟩ := first
        exact ⟨e, .here texts wrong⟩
      · rcases List.mem_cons.mp member with rfl | later
        · exact absurd wrong first
        · obtain ⟨e, wrong⟩ := ih.mpr ⟨other, later, wrong⟩
          exact ⟨e, .later (not_exists.mp first) wrong⟩

theorem single_error {marker : Option Marker} :
    Excerpt.single text number marker = .error e ↔ Faulty number text e := by
  unfold Excerpt.single Line.make
  by_cases broken : Text.hasBreak text = true
  · rw [dif_pos broken]
    constructor
    · rintro ⟨⟩
      exact .lineBreak ((Text.has_break_iff text).mp broken)
    · rintro (_ | ⟨whole, _⟩)
      · rfl
      · exact absurd ((Text.has_break_iff text).mp broken) whole
  · have whole : ¬ Text.Broken text := fun b => broken ((Text.has_break_iff text).mpr b)
    rw [dif_neg broken]
    by_cases positive : 0 < number
    · rw [dif_pos positive]
      refine ⟨nofun, ?_⟩
      rintro (broken | ⟨_, low⟩)
      · exact absurd broken whole
      · omega
    · rw [dif_neg positive]
      constructor
      · rintro ⟨⟩
        exact .number whole (by omega)
      · rintro (broken | _)
        · exact absurd broken whole
        · rfl

variable (style : MarkerStyle)

theorem help_error {item : HelpItem} :
    item.toDraft.build style number = .error e ↔
      ∃ text, item.code? = some text ∧ Faulty number text e := by
  obtain text | ⟨message, suggestion⟩ := item
  · refine ⟨nofun, ?_⟩
    rintro ⟨text, given, _⟩
    cases given
  · cases suggestion with
    | none =>
      refine ⟨nofun, ?_⟩
      rintro ⟨text, given, _⟩
      cases given
    | some s =>
      have code : HelpItem.code? (.draft ⟨message, some s⟩) = some s.code := rfl
      rw [code, HelpItem.toDraft, HelpDraft.build, map_failed, SuggestionDraft.build, single_error]
      simp

theorem helps_error {items : List HelpItem} :
    HelpDraft.buildAll style number (items.map HelpItem.toDraft) = .error e ↔
      FirstFaulty number (items.filterMap HelpItem.code?) e := by
  induction items with
  | nil => exact ⟨nofun, nofun⟩
  | cons item items ih =>
    rw [List.map_cons, HelpDraft.buildAll]
    cases first : item.toDraft.build style number with
    | error e' =>
      obtain ⟨text, given, wrong⟩ := (help_error style).mp first
      rw [List.filterMap_cons_some given, first_faulty_wrong _ wrong, Except.error.injEq]
    | ok h =>
      rw [map_failed, ih]
      cases given : item.code? with
      | none => rw [List.filterMap_cons_none given]
      | some text =>
        have sound : ∀ e, ¬ Faulty number text e := by
          intro e wrong
          rw [(help_error style).mpr ⟨text, given, wrong⟩] at first
          cases first
        rw [List.filterMap_cons_some given, first_faulty_sound sound]

theorem assemble_error {d : Draft} {items : List HelpItem} :
    (d.withHelps items).assemble style = .error e ↔
      FirstFaulty d.location.line (d.texts items) e := by
  have marked : (d.withHelps items).marker style = d.marker style := rfl
  rw [Draft.assemble, marked, Draft.texts]
  dsimp only [Draft.withHelps]
  cases primary : Excerpt.single d.code d.location.line (some (d.marker style)) with
  | error e' => rw [first_faulty_wrong _ (single_error.mp primary), Except.error.injEq]
  | ok excerpt =>
    have sound : ∀ e, ¬ Faulty d.location.line d.code e := by
      intro e wrong
      rw [single_error.mpr wrong] at primary
      cases primary
    rw [first_faulty_sound sound, ← helps_error style]
    cases HelpDraft.buildAll style d.location.line (items.map HelpItem.toDraft) <;> simp

theorem suggestion_copied {s : SuggestionDraft} {x : Excerpt}
    (built : s.build style number = .ok x) : ∃ l, x = ⟨[l]⟩ ∧ s.Copied number l := by
  obtain ⟨l, rfl, text, numbered, marked⟩ := single_text built
  refine ⟨l, rfl, text, numbered, ?_⟩
  rw [marked, SuggestionDraft.marker]
  cases s.diff with
  | none => exact .none
  | some span => exact .some ⟨rfl, rfl, rfl⟩

theorem help_copied {item : HelpItem} {h : Help}
    (built : item.toDraft.build style number = .ok h) : item.Copied number h := by
  obtain text | ⟨message, suggestion⟩ := item
  · cases built
    exact .message text
  · cases suggestion with
    | none =>
      cases built
      exact .plain message
    | some s =>
      obtain ⟨x, made, rfl⟩ := map_ok.mp built
      obtain ⟨l, rfl, copied⟩ := suggestion_copied style made
      exact .suggestion message copied

theorem helps_copied {items : List HelpItem} {hs : List Help}
    (built : HelpDraft.buildAll style number (items.map HelpItem.toDraft) = .ok hs) :
    List.Forall₂ (HelpItem.Copied number) items hs := by
  induction items generalizing hs with
  | nil =>
    cases built
    exact .nil
  | cons item items ih =>
    rw [List.map_cons, HelpDraft.buildAll] at built
    cases first : item.toDraft.build style number with
    | error e =>
      rw [first] at built
      cases built
    | ok h =>
      rw [first] at built
      obtain ⟨later, rest, rfl⟩ := map_ok.mp built
      exact .cons (help_copied style first) (ih rest)

theorem assemble_copied {d : Draft} {items : List HelpItem} {r : Diagnostic}
    (built : (d.withHelps items).assemble style = .ok r) : d.Copied items r := by
  have traced : ((d.withHelps items).build style).value = .ok r := built
  obtain ⟨level, location, l, excerpt, text, numbered, marked⟩ := draft_build_parts traced
  obtain ⟨helps, notes⟩ := draft_build_tail traced
  have message := draft_build_message traced
  have primary : d.Primary l (d.marker style) := ⟨text, numbered, marked, rfl, rfl, rfl⟩
  exact ⟨level, message, location, ⟨l, _, by rw [excerpt], primary⟩, helps_copied style helps,
    notes⟩

end

/-- Building fails exactly if the location has no number for a line or one of the texts breaks its
line, and then the first line that is wrong decides. Otherwise everything in the draft is copied. To
check all that the draft stands for, markers included, comes to the same. -/
theorem building_copies (styles : MarkerStyleDraft) (style : MarkerStyle) (d : Draft)
    (items : List HelpItem) (accepted : styles.check = .ok style) :
    ((∃ e, ((d.withHelps items).build style).value = .error e) ↔
      d.location.line < 1 ∨ ∃ text ∈ d.texts items, Text.Broken text) ∧
    (∀ e, ((d.withHelps items).build style).value = .error e ↔
      FirstFaulty d.location.line (d.texts items) e) ∧
    (¬ (d.location.line < 1 ∨ ∃ text ∈ d.texts items, Text.Broken text) →
      ∃ r, ((d.withHelps items).build style).value = .ok r ∧ d.Copied items r) ∧
    (Unchecked.Diagnostic.ofDraft styles (d.withHelps items)).check =
      ((d.withHelps items).build style).value.mapError .line := by
  obtain rfl := (marker_style_check styles style).mp accepted
  have first : ∀ e, ((d.withHelps items).build style).value = .error e ↔
      FirstFaulty d.location.line (d.texts items) e := fun e => assemble_error style
  have fails : (∃ e, ((d.withHelps items).build style).value = .error e) ↔
      d.location.line < 1 ∨ ∃ text ∈ d.texts items, Text.Broken text := by
    simp only [first, first_faulty_exists, faulty_exists]
    constructor
    · rintro ⟨text, member, low | broken⟩
      · exact .inl low
      · exact .inr ⟨text, member, broken⟩
    · rintro (low | ⟨text, member, broken⟩)
      · exact ⟨d.code, List.mem_cons_self, .inl low⟩
      · exact ⟨text, member, .inr broken⟩
  refine ⟨fails, first, ?_, Unchecked.draft_check style _⟩
  intro sound
  cases built : ((d.withHelps items).build style).value with
  | error e => exact absurd (fails.mp ⟨e, built⟩) sound
  | ok r => exact ⟨r, rfl, assemble_copied style built⟩

def unusedVariable : Draft :=
  { level := .warning, message := "unused", location := ⟨"x.rs", 9, 0⟩, code := "let x",
    span := ⟨4, 90, by decide⟩ }

def underscored : List HelpItem :=
  [.message "n", .draft ⟨"prefix it", some ⟨"let _x", some ⟨4, 5, by decide⟩, none⟩⟩]

def brokenItem : HelpItem := .draft ⟨"h", some ⟨"let\r", none, none⟩⟩

theorem building_copies_until_broken :
    ∃ (styles : MarkerStyleDraft) (style : MarkerStyle),
      styles.symbol = "é" ∧ styles.check = .ok style ∧
      (∃ r, ((unusedVariable.withHelps underscored).build style).value = .ok r ∧
        unusedVariable.Copied underscored r) ∧
      FirstFaulty 9 (unusedVariable.texts (underscored ++ [brokenItem])) .lineBreak := by
  have accepted : ({ symbol := "é" } : MarkerStyleDraft).check = .ok { symbol := 'é' } := rfl
  obtain ⟨fails, -, copies, -⟩ := building_copies _ _ unusedVariable underscored accepted
  obtain ⟨-, first, -, -⟩ :=
    building_copies _ _ unusedVariable (underscored ++ [brokenItem]) accepted
  have sound : ¬ (unusedVariable.location.line < 1 ∨
      ∃ text ∈ unusedVariable.texts underscored, Text.Broken text) := by
    intro wrong
    obtain ⟨e, failed⟩ := fails.mpr wrong
    cases failed
  exact ⟨_, _, rfl, accepted, copies sound, (first .lineBreak).mp rfl⟩

end Caret
