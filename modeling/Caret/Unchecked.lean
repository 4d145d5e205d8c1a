import Caret.Draft
import Caret.Drawing.Subject

/-!
Diagnostics whose numbers and texts have not been looked at. `check` makes the real thing of one, or
says what is wrong: inner parts are looked at before the parts that hold them, and parts in order.
What has been checked can be taken apart again.
-/
namespace Caret

namespace Unchecked

structure Span where
  first : Int
  last : Int
  deriving DecidableEq, Repr

structure Marker where
  span : Span
  symbol : String := "^"
  color : Int := 9
  message : Option String := none
  inline : Bool := false
  deriving DecidableEq, Repr

structure Line where
  text : String
  number : Int
  marker : Option Marker := none
  deriving DecidableEq, Repr

structure Excerpt where
  lines : List Line := []
  deriving DecidableEq, Repr

structure Help where
  message : String
  suggestion : Option Excerpt := none
  deriving DecidableEq, Repr

structure Diagnostic where
  level : Level
  message : String
  location : Location
  excerpt : Excerpt
  helps : List Help := []
  notes : List String := []
  deriving DecidableEq, Repr

inductive Part where
  | diagnostic (d : Diagnostic)
  | excerpt (e : Excerpt)
  | help (h : Help)
  | line (l : Line)
  | marker (m : Marker)
  | note (message : String)
  deriving DecidableEq, Repr

inductive Refusal where
  | span (cause : Span.RangeError)
  | marker (cause : Marker.Error)
  | line (cause : Line.Error)
  deriving DecidableEq, Repr

def Refusal.message : Refusal → String
  | .span cause => cause.message
  | .marker cause => cause.message
  | .line cause => cause.message

def Span.check (s : Span) : Except Refusal Caret.Span :=
  (Caret.Span.ofInts s.first s.last).mapError .span

def Marker.check (m : Marker) : Except Refusal Caret.Marker := do
  let span ← m.span.check
  (Caret.Marker.make span m.symbol m.color m.message m.inline).mapError .marker

def Line.check (l : Line) : Except Refusal Caret.Line := do
  let marker ← l.marker.mapM Marker.check
  (Caret.Line.make l.text l.number marker).mapError .line

def Excerpt.check (e : Excerpt) : Except Refusal Caret.Excerpt := do
  let lines ← e.lines.mapM Line.check
  return ⟨lines⟩

def Help.check (h : Help) : Except Refusal Caret.Help := do
  let suggestion ← h.suggestion.mapM Excerpt.check
  return ⟨h.message, suggestion⟩

def Diagnostic.check (d : Diagnostic) : Except Refusal Caret.Diagnostic := do
  let excerpt ← d.excerpt.check
  let helps ← d.helps.mapM Help.check
  return ⟨d.level, d.message, d.location, excerpt, helps, d.notes⟩

def Part.check : Part → Except Refusal Drawing.Part
  | .diagnostic d => d.check.map .diagnostic
  | .excerpt e => e.check.map .excerpt
  | .help h => h.check.map .help
  | .line l => l.check.map .line
  | .marker m => m.check.map .marker
  | .note message => .ok (.note message)

def single (text : String) (number : Int) (marker : Option Marker) : Excerpt :=
  ⟨[⟨text, number, marker⟩]⟩

def ofSpan (s : Caret.Span) : Span := ⟨s.first, s.last⟩

def suggestionMarker (style : MarkerStyleDraft) (d : SuggestionDraft) : Option Marker :=
  d.diff.map fun span => ⟨ofSpan span, style.suggestionSymbol, style.suggestion, d.tip, true⟩

def Help.ofDraft (style : MarkerStyleDraft) (number : Int) (d : HelpDraft) : Help :=
  ⟨d.message, d.suggestion.map fun s => single s.code number (suggestionMarker style s)⟩

def primaryMarker (style : MarkerStyleDraft) (d : Draft) : Marker :=
  let color := match d.level with
    | .error _ => style.error
    | .warning => style.warning
  ⟨ofSpan d.span, style.symbol, color, d.spanMessage, false⟩

def Diagnostic.ofDraft (style : MarkerStyleDraft) (d : Draft) : Diagnostic :=
  { level := d.level, message := d.message, location := d.location,
    excerpt := single d.code d.location.line (some (primaryMarker style d)),
    helps := d.helps.map (Help.ofDraft style d.location.line), notes := d.notes }

end Unchecked

def Span.unchecked (s : Span) : Unchecked.Span := Unchecked.ofSpan s

def Marker.unchecked (m : Marker) : Unchecked.Marker :=
  ⟨m.span.unchecked, String.singleton m.symbol, m.color.val, m.message, m.inline⟩

def Line.unchecked (l : Line) : Unchecked.Line :=
  ⟨l.text, l.number, l.marker.map Marker.unchecked⟩

def Excerpt.unchecked (e : Excerpt) : Unchecked.Excerpt := ⟨e.lines.map Line.unchecked⟩

def Help.unchecked (h : Help) : Unchecked.Help := ⟨h.message, h.suggestion.map Excerpt.unchecked⟩

def Diagnostic.unchecked (d : Diagnostic) : Unchecked.Diagnostic :=
  ⟨d.level, d.message, d.location, d.excerpt.unchecked, d.helps.map Help.unchecked, d.notes⟩

def Drawing.Part.unchecked : Drawing.Part → Unchecked.Part
  | .diagnostic d => .diagnostic d.unchecked
  | .excerpt e => .excerpt e.unchecked
  | .help h => .help h.unchecked
  | .line l => .line l.unchecked
  | .marker m => .marker m.unchecked
  | .note message => .note message

def Palette.draft (p : Palette) : PaletteDraft :=
  ⟨p.error.val, p.warning.val, p.location.val, p.help.val⟩

def MarkerStyle.draft (s : MarkerStyle) : MarkerStyleDraft :=
  ⟨String.singleton s.symbol, String.singleton s.suggestionSymbol, s.error.val, s.warning.val,
    s.suggestion.val⟩

end Caret
