import Caret.Draft
import Mathlib.Data.List.Basic

namespace Caret

theorem single_ok {text : String} {number : Int} (marker : Option Marker)
    (unbroken : Text.hasBreak text = false) (positive : 0 < number) :
    ∃ e, Excerpt.single text number marker = .ok e := by
  simp [Excerpt.single, Line.make, Except.map, unbroken, positive]

theorem single_text {text : String} {number : Int} {marker : Option Marker} {e : Excerpt}
    (built : Excerpt.single text number marker = .ok e) :
    ∃ l : Line, e = ⟨[l]⟩ ∧ l.text = text ∧ (l.number : Int) = number ∧ l.marker = marker := by
  simp only [Excerpt.single, Line.make] at built
  split at built
  · cases built
  split at built
  · cases built
    exact ⟨_, rfl, rfl, by simp only; omega, rfl⟩
  · cases built

/-- No suggestion has a line break in its code. -/
def HelpDraft.Unbroken (d : HelpDraft) : Prop :=
  ∀ s, d.suggestion = some s → Text.hasBreak s.code = false

theorem help_build_ok (style : MarkerStyle) {number : Int} {d : HelpDraft}
    (unbroken : d.Unbroken) (positive : 0 < number) : ∃ h, d.build style number = .ok h := by
  obtain ⟨message, suggestion⟩ := d
  cases suggestion with
  | none => exact ⟨_, rfl⟩
  | some s =>
    obtain ⟨e, single⟩ := single_ok (s.marker style) (unbroken s rfl) positive
    exact ⟨⟨message, some e⟩, by simp [HelpDraft.build, SuggestionDraft.build, single, Except.map]⟩

theorem helps_build_ok (style : MarkerStyle) {number : Int} {ds : List HelpDraft}
    (unbroken : ∀ d ∈ ds, d.Unbroken) (positive : 0 < number) :
    ∃ hs, HelpDraft.buildAll style number ds = .ok hs := by
  induction ds with
  | nil => exact ⟨[], rfl⟩
  | cons d ds ih =>
    obtain ⟨h, first⟩ := help_build_ok style (unbroken d List.mem_cons_self) positive
    obtain ⟨hs, later⟩ := ih fun d member => unbroken d (List.mem_cons_of_mem _ member)
    exact ⟨h :: hs, by simp [HelpDraft.buildAll, first, later, Except.map]⟩

theorem draft_build_ok (style : MarkerStyle) {d : Draft} (code : Text.hasBreak d.code = false)
    (helps : ∀ h ∈ d.helps, h.Unbroken) (positive : 0 < d.location.line) :
    ∃ diagnostic, (d.build style).value = .ok diagnostic := by
  obtain ⟨e, single⟩ := single_ok (some (d.marker style)) code positive
  obtain ⟨hs, built⟩ := helps_build_ok style helps positive
  exact ⟨⟨d.level, d.message, d.location, e, hs, d.notes⟩, by
    simp [Draft.build, Draft.assemble, single, built]⟩

theorem draft_build_parts {style : MarkerStyle} {d : Draft} {diagnostic : Diagnostic}
    (built : (d.build style).value = .ok diagnostic) :
    diagnostic.level = d.level ∧ diagnostic.location = d.location ∧
      ∃ l : Line, diagnostic.excerpt = ⟨[l]⟩ ∧ l.text = d.code ∧
        (l.number : Int) = d.location.line ∧ l.marker = some (d.marker style) := by
  simp only [Draft.build, Draft.assemble] at built
  split at built
  · cases built
  · rename_i excerpt primary
    split at built
    · cases built
    · cases built
      exact ⟨rfl, rfl, single_text primary⟩

theorem bare_helps_build (style : MarkerStyle) (number : Int) (texts : List String) :
    HelpDraft.buildAll style number (texts.map fun t => ⟨t, none⟩) =
      .ok (texts.map fun t => ⟨t, none⟩) := by
  induction texts with
  | nil => rfl
  | cons t texts ih => simp [HelpDraft.buildAll, HelpDraft.build, ih, Except.map]

theorem draft_build_tail {style : MarkerStyle} {d : Draft} {diagnostic : Diagnostic}
    (built : (d.build style).value = .ok diagnostic) :
    HelpDraft.buildAll style d.location.line d.helps = .ok diagnostic.helps ∧
      diagnostic.notes = d.notes := by
  simp only [Draft.build, Draft.assemble] at built
  split at built
  · cases built
  · split at built
    · cases built
    · rename_i helps
      cases built
      exact ⟨helps, rfl⟩

theorem draft_build_message {style : MarkerStyle} {d : Draft} {diagnostic : Diagnostic}
    (built : (d.build style).value = .ok diagnostic) : diagnostic.message = d.message := by
  simp only [Draft.build, Draft.assemble] at built
  split at built
  · cases built
  · split at built
    · cases built
    · cases built
      rfl

theorem help_build_parts {style : MarkerStyle} {number : Int} {d : HelpDraft} {h : Help}
    (built : d.build style number = .ok h) :
    h.message = d.message ∧ ∀ e, h.suggestion = some e → ∃ (s : SuggestionDraft) (l : Line),
      d.suggestion = some s ∧ e = ⟨[l]⟩ ∧ l.text = s.code ∧ (l.number : Int) = number ∧
        l.marker = s.marker style := by
  obtain ⟨message, suggestion⟩ := d
  cases suggestion with
  | none =>
    cases built
    exact ⟨rfl, nofun⟩
  | some s =>
    cases single : s.build style number with
    | error e => simp [HelpDraft.build, single, Except.map] at built
    | ok e =>
      simp only [HelpDraft.build, single, Except.map, Except.ok.injEq] at built
      subst built
      refine ⟨rfl, ?_⟩
      rintro _ ⟨⟩
      obtain ⟨l, one, text, numbered, marked⟩ := single_text single
      exact ⟨s, l, rfl, one, text, numbered, marked⟩

theorem helps_build_member {style : MarkerStyle} {number : Int} {ds : List HelpDraft}
    {hs : List Help} (built : HelpDraft.buildAll style number ds = .ok hs) :
    ∀ h ∈ hs, ∃ d ∈ ds, d.build style number = .ok h := by
  induction ds generalizing hs with
  | nil =>
    cases built
    exact List.forall_mem_nil _
  | cons d ds ih =>
    cases first : d.build style number with
    | error e => simp [HelpDraft.buildAll, first] at built
    | ok h =>
      cases rest : HelpDraft.buildAll style number ds with
      | error e => simp [HelpDraft.buildAll, first, rest, Except.map] at built
      | ok later =>
        simp only [HelpDraft.buildAll, first, rest, Except.map, Except.ok.injEq] at built
        subst built
        intro x member
        rcases List.mem_cons.mp member with rfl | behind
        · exact ⟨d, List.mem_cons_self, first⟩
        · obtain ⟨own, given, made⟩ := ih rest x behind
          exact ⟨own, List.mem_cons_of_mem _ given, made⟩

end Caret
