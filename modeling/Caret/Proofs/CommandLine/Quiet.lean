import Caret.CommandLine.Run
import Caret.Proofs.Drawing.Drawn

namespace Caret
open Log

theorem draft_below (style : MarkerStyle) (d : Draft) : (d.build style).Below critical := by
  have announced : trace < critical := by decide
  intro r member
  obtain ⟨place, _, rfl⟩ := Option.map_eq_some_iff.mp (Option.mem_toList.mp member)
  exact announced

namespace Usage

theorem fail_below (c : Complaint) (group : Int) : (c.fail group).Below critical := by
  refine below_bind (draft_below {} (c.draft group)) ?_
  split <;> exact below_pure _

theorem parse_below (isError : Bool) (path : String) (line : Int) (style : MarkerStyle)
    (words : Words) : (parse isError path line style words).Below critical := by
  unfold parse
  split
  · exact below_bind (fail_below _ _) (below_pure _)
  · have announced : debug < critical := by decide
    refine below_bind (below_emit _ announced) (below_bind (draft_below style _) ?_)
    split <;> exact below_pure _

end Usage

namespace Settings
open Document

theorem section_below {δ : Type} (field : String → Option (Field δ)) (name : String)
    (source : Option Files.Path) (entries : Table) :
    ∀ d, (readSection field name source d entries).Below critical := by
  induction entries with
  | nil => exact fun _ => nofun
  | cons e rest ih =>
    obtain ⟨key, v⟩ := e
    intro d
    unfold readSection
    split
    · have ignored : warning < critical := by decide
      exact List.forall_mem_cons.mpr ⟨ignored, ih d⟩
    · split
      · exact nofun
      · exact ih _

theorem table_below (t : Table) (source : Option Files.Path) :
    (ofTable t source).Below critical := by
  have strangers : ∀ r ∈ (t.keys.filter fun k => !isSection k).map fun k => unknownSection k source,
      r.level < critical := by
    intro r member
    obtain ⟨k, _, rfl⟩ := List.mem_map.mp member
    change warning < critical
    decide
  unfold ofTable
  cases sectionOf t paletteName with
  | error e => exact nofun
  | ok paletteTable =>
    cases sectionOf t markersName with
    | error e => exact nofun
    | ok markersTable =>
      have colors := List.forall_mem_append.mpr
        ⟨strangers, section_below paletteField paletteName source paletteTable {}⟩
      have styles := List.forall_mem_append.mpr
        ⟨colors, section_below markerField markersName source markersTable {}⟩
      dsimp only
      split
      · exact colors
      · split <;> exact styles

section
variable (reader : TableReader) (files : Files.System)

theorem load_below (path : Files.Path) : (load reader files path).Below critical := by
  unfold load
  split
  · exact nofun
  · have loaded : debug < critical := by decide
    exact List.forall_mem_cons.mpr ⟨loaded, table_below _ _⟩

theorem among_below (base : Files.Path) (names : List String) :
    (discoverAmong reader files base names).Below critical := by
  induction names with
  | nil =>
    have absent : debug < critical := by decide
    exact List.forall_mem_singleton.mpr absent
  | cons name rest ih =>
    unfold discoverAmong
    split
    · exact nofun
    · exact load_below reader files _
    · exact ih

theorem discover_below (directory : Option Files.Path) :
    (discover reader files directory).Below critical := by
  unfold discover
  split
  · exact nofun
  · exact among_below reader files _ _

end
end Settings

namespace CommandLine

theorem complain_below (c : Usage.Complaint) : (complain c).Below critical :=
  below_bind (Usage.fail_below c 1) (below_pure _)

theorem load_settings_below (reader : Document.TableReader) (files : Files.System)
    (config : Option String) : (loadSettings reader files config).Below critical := by
  cases config with
  | some path => exact Settings.load_below reader files _
  | none => exact Settings.discover_below reader files none

theorem generate_below (isError : Bool) (common : Common) (words : List String) :
    (generate isError common words).Below critical := by
  refine below_bind (Usage.parse_below isError _ _ _ words) ?_
  split
  · exact below_pure _
  · refine below_bind (Drawing.drawn_below _ _) ?_
    split <;> exact below_pure _

theorem example_below (s : Settings) : (showExample s).Below critical := by
  refine below_bind (generate_below true _ _) ?_
  split <;> exact below_pure _

theorem command_below (c : Command) (common : Common) (words : List String) :
    (c.run common words).Below critical := by
  cases c with
  | help => exact below_pure _
  | «example» => exact example_below _
  | error => exact generate_below true common words
  | warning => exact generate_below false common words

theorem take_below (c : Command) (common : Common) (r : Reading) :
    (c.take common r).Below critical := by
  cases r with
  | given words => exact command_below c common words
  | listed text => exact below_pure _
  | refused page => exact below_pure _

theorem serve_below (lib : Libraries) (files : Files.System) (o : Options)
    (command : Option Command) : (serve lib files o command).Below critical := by
  refine below_bind (load_settings_below lib.reader files o.config) ?_
  split
  · exact below_pure _
  · refine below_bind (below_emit _ (by decide)) ?_
    split
    · exact complain_below _
    · exact take_below _ _ _

end CommandLine
end Caret
