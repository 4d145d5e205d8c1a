import Caret.Proofs.Document.Order
import Caret.Proofs.Unchecked
import Caret.Settings.Basic

/-!
What a section gives. A draft can be looked at key by key, as if it were a table itself; reading a
section puts the section's values in place of those that the draft had. Main statement: a draft is
what a section gives exactly when it holds, under each key that it knows, the value of the section,
and its old value where the section is silent. The values of a draft have the right types, so a
section with a wrong type gives none.
-/
namespace Caret.Settings
open Document

/-- A way to look at drafts that agrees with how fields are put into them. -/
structure Pictures {δ : Type} (field : String → Option (Field δ))
    (look : δ → String → Option Value) : Prop where
  known : ∀ d key, (look d key).isSome = (field key).isSome
  typed : ∀ d key f v, field key = some f → look d key = some v → (f.set? v).isSome
  put : ∀ d key f v set, field key = some f → f.set? v = some set →
    ∀ other, look (set d) other = if key = other then some v else look d other
  faithful : ∀ d d', (∀ key, look d key = look d' key) → d = d'

section
variable {δ : Type} {field : String → Option (Field δ)} {look : δ → String → Option Value}
  (name : String) (source : Option Files.Path)

def overlay (look : δ → String → Option Value) (d : δ) (entries : Table) (key : String) :
    Option Value :=
  (look d key).map fun v => (entries.get? key).getD v

theorem overlay_stranger (pictures : Pictures field look) (d : δ) {key : String}
    (stranger : field key = none) (v : Value) (rest : Table) :
    overlay look d ((key, v) :: rest) = overlay look d rest := by
  funext other
  unfold overlay
  rw [get_cons]
  by_cases same : key = other
  · have blank : look d other = none := by
      have known := pictures.known d other
      rw [← same, stranger] at known
      rw [← same]
      simpa using known
    rw [blank]
    rfl
  · rw [if_neg same]

theorem overlay_put (pictures : Pictures field look) (d : δ) {key : String} {f : Field δ}
    {v : Value} {set : δ → δ} (known : field key = some f) (fits : f.set? v = some set)
    {rest : Table} (fresh : key ∉ rest.keys) :
    overlay look d ((key, v) :: rest) = overlay look (set d) rest := by
  funext other
  unfold overlay
  rw [get_cons, pictures.put d key f v set known fits other]
  by_cases same : key = other
  · subst same
    have silent : rest.get? key = none := by
      cases found : rest.get? key with
      | none => rfl
      | some w => exact absurd (List.mem_map_of_mem (member_of_get found)) fresh
    have there := pictures.known d key
    rw [known, Option.isSome_some, Option.isSome_iff_exists] at there
    obtain ⟨old, there⟩ := there
    rw [if_pos rfl, if_pos rfl, there, silent]
    rfl
  · rw [if_neg same, if_neg same]

theorem section_gives (pictures : Pictures field look) {entries : Table}
    (distinct : entries.keys.Nodup) (d d' : δ) :
    (readSection field name source d entries).value = .ok d' ↔
      ∀ key, look d' key = overlay look d entries key := by
  induction entries generalizing d with
  | nil =>
    have bare : overlay look d [] = look d := by
      funext key
      simp [overlay]
    rw [bare]
    constructor
    · intro run
      cases run
      intro key
      rfl
    · intro same
      exact congrArg Except.ok (pictures.faithful d d' fun key => (same key).symm)
  | cons e rest ih =>
    obtain ⟨key, v⟩ := e
    obtain ⟨fresh, distinct⟩ := List.nodup_cons.mp distinct
    cases known : field key with
    | none =>
      rw [overlay_stranger pictures d known]
      simp only [readSection, known]
      exact ih distinct d
    | some f =>
      cases fits : f.set? v with
      | some set =>
        rw [overlay_put pictures d known fits fresh]
        simp only [readSection, known, fits]
        exact ih distinct (set d)
      | none =>
        simp only [readSection, known, fits]
        refine ⟨nofun, ?_⟩
        intro same
        have there := pictures.known d key
        rw [known, Option.isSome_some, Option.isSome_iff_exists] at there
        obtain ⟨old, there⟩ := there
        have shown : look d' key = some v := by
          rw [same key, overlay, there, get_cons, if_pos rfl]
          rfl
        have fit := pictures.typed d' key f v known shown
        rw [fits] at fit
        cases fit

end

def paletteLook (d : PaletteDraft) : String → Option Value
  | "error" => some (.integer d.error)
  | "warning" => some (.integer d.warning)
  | "location" => some (.integer d.location)
  | "help" => some (.integer d.help)
  | _ => none

def markerLook (d : MarkerStyleDraft) : String → Option Value
  | "symbol" => some (.text d.symbol)
  | "suggestion_symbol" => some (.text d.suggestionSymbol)
  | "error_marker" => some (.integer d.error)
  | "warning_marker" => some (.integer d.warning)
  | "suggestion" => some (.integer d.suggestion)
  | _ => none

theorem palette_pictures : Pictures paletteField paletteLook := by
  refine ⟨?_, ?_, ?_, ?_⟩
  · intro d key
    unfold paletteLook paletteField
    split <;> simp_all
  · intro d key f v known shown
    unfold paletteLook at shown
    unfold paletteField at known
    split at known <;> cases known <;> cases shown <;> rfl
  · intro d key f v set known fits other
    by_cases same : key = other
    · subst same
      unfold paletteField at known
      split at known <;> cases known <;> cases v <;> cases fits <;> rfl
    · rw [if_neg same]
      unfold paletteField at known
      split at known <;> cases known <;> cases v <;> cases fits <;> unfold paletteLook <;>
        split <;> simp_all
  · intro d d' same
    obtain ⟨error, warning, location, help⟩ := d
    have first := same "error"
    have second := same "warning"
    have third := same "location"
    have fourth := same "help"
    simp_all [paletteLook]

theorem marker_pictures : Pictures markerField markerLook := by
  refine ⟨?_, ?_, ?_, ?_⟩
  · intro d key
    unfold markerLook markerField
    split <;> simp_all
  · intro d key f v known shown
    unfold markerLook at shown
    unfold markerField at known
    split at known <;> cases known <;> cases shown <;> rfl
  · intro d key f v set known fits other
    by_cases same : key = other
    · subst same
      unfold markerField at known
      split at known <;> cases known <;> cases v <;> cases fits <;> rfl
    · rw [if_neg same]
      unfold markerField at known
      split at known <;> cases known <;> cases v <;> cases fits <;> unfold markerLook <;>
        split <;> simp_all
  · intro d d' same
    obtain ⟨symbol, suggestionSymbol, error, warning, suggestion⟩ := d
    have first := same "symbol"
    have second := same "suggestion_symbol"
    have third := same "error_marker"
    have fourth := same "warning_marker"
    have fifth := same "suggestion"
    simp_all [markerLook]

theorem check_palette {d : PaletteDraft} {p : Palette} : checkPalette d = .ok p ↔ d = p.draft := by
  rw [← palette_check d p]
  unfold checkPalette
  cases d.check <;> simp

theorem check_markers {d : MarkerStyleDraft} {s : MarkerStyle} :
    checkMarkers d = .ok s ↔ d = s.draft := by
  rw [← marker_style_check d s]
  unfold checkMarkers
  cases d.check <;> simp

theorem table_accepted {t : Table} {source : Option Files.Path} {s : Settings} :
    (ofTable t source).value = .ok s ↔
      (∃ entries, sectionOf t paletteName = .ok entries ∧
        (readSection paletteField paletteName source {} entries).value = .ok s.palette.draft) ∧
      (∃ entries, sectionOf t markersName = .ok entries ∧
        (readSection markerField markersName source {} entries).value = .ok s.markers.draft) ∧
      s.source = source := by
  obtain ⟨palette, markers, from_⟩ := s
  unfold ofTable
  cases colors : sectionOf t paletteName with
  | error e => simp
  | ok paletteTable =>
    cases styles : sectionOf t markersName with
    | error e => simp
    | ok markersTable =>
      simp only [Except.ok.injEq, exists_eq_left']
      constructor
      · intro run
        split at run
        · cases run
        rename_i p colored
        split at run
        · cases run
        rename_i m styled
        cases run
        obtain ⟨numbers, given, checked⟩ := bind_ok.mp colored
        obtain ⟨texts, given', checked'⟩ := bind_ok.mp styled
        rw [check_palette.mp checked] at given
        rw [check_markers.mp checked'] at given'
        exact ⟨given, given', rfl⟩
      · rintro ⟨given, given', rfl⟩
        have colored : (readSection paletteField paletteName from_ {} paletteTable).value.bind
            checkPalette = .ok palette :=
          bind_ok.mpr ⟨_, given, check_palette.mpr rfl⟩
        have styled : (readSection markerField markersName from_ {} markersTable).value.bind
            checkMarkers = .ok markers :=
          bind_ok.mpr ⟨_, given', check_markers.mpr rfl⟩
        simp only [colored, styled]

end Caret.Settings
