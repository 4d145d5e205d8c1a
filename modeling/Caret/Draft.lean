import Caret.Diagnostic
import Caret.Log.Record
import Caret.Palette

namespace Caret

structure SuggestionDraft where
  code : String
  /-- The changed characters; without them the line is shown unmarked and the tip is not used. -/
  diff : Option Span := none
  tip : Option String := none
  deriving DecidableEq, Repr

structure HelpDraft where
  message : String
  suggestion : Option SuggestionDraft := none
  deriving DecidableEq, Repr

inductive HelpItem where
  | message (text : String)
  | draft (d : HelpDraft)
  deriving DecidableEq, Repr

def HelpItem.toDraft : HelpItem → HelpDraft
  | .message text => ⟨text, none⟩
  | .draft d => d

structure Draft where
  level : Level
  message : String
  location : Location
  code : String
  span : Span
  spanMessage : Option String := none
  helps : List HelpDraft := []
  notes : List String := []
  deriving DecidableEq, Repr

def Excerpt.single (text : String) (number : Int) (marker : Option Marker) :
    Except Line.Error Excerpt :=
  (Line.make text number marker).map fun l => ⟨[l]⟩

namespace SuggestionDraft

def marker (style : MarkerStyle) (d : SuggestionDraft) : Option Marker :=
  d.diff.map fun span => ⟨span, style.suggestionSymbol, style.suggestion, d.tip, true⟩

def build (style : MarkerStyle) (number : Int) (d : SuggestionDraft) : Except Line.Error Excerpt :=
  Excerpt.single d.code number (d.marker style)

end SuggestionDraft

namespace HelpDraft

def build (style : MarkerStyle) (number : Int) (d : HelpDraft) : Except Line.Error Help :=
  match d.suggestion with
  | none => .ok ⟨d.message, none⟩
  | some s => (s.build style number).map fun e => ⟨d.message, some e⟩

/-- The first suggestion that fails decides. -/
def buildAll (style : MarkerStyle) (number : Int) : List HelpDraft → Except Line.Error (List Help)
  | [] => .ok []
  | d :: rest =>
    match d.build style number with
    | .error e => .error e
    | .ok h => (buildAll style number rest).map (h :: ·)

end HelpDraft

namespace Draft

def withHelps (d : Draft) (items : List HelpItem) : Draft :=
  { d with helps := items.map HelpItem.toDraft }

def marker (style : MarkerStyle) (d : Draft) : Marker :=
  let color := match d.level with
    | .error _ => style.error
    | .warning => style.warning
  ⟨d.span, style.symbol, color, d.spanMessage, false⟩

/-- A place that cannot be written is not announced. -/
def announcement (d : Draft) : Option Log.Record :=
  d.location.toText.map fun place =>
    ⟨Log.trace, "Building " ++ d.level.label ++ " at " ++ place⟩

def assemble (style : MarkerStyle) (d : Draft) : Except Line.Error Diagnostic :=
  match Excerpt.single d.code d.location.line (some (d.marker style)) with
  | .error e => .error e
  | .ok excerpt =>
    match HelpDraft.buildAll style d.location.line d.helps with
    | .error e => .error e
    | .ok helps => .ok ⟨d.level, d.message, d.location, excerpt, helps, d.notes⟩

def build (style : MarkerStyle) (d : Draft) : Traced (Except Line.Error Diagnostic) :=
  ⟨d.announcement.toList, d.assemble style⟩

end Draft
end Caret
