import Caret.Drawing.Sink
import Caret.Unchecked

/-!
Drawing into a sink. The programs draw what has not been checked: they look at nothing, and numbers
that are no colours, cannot be written or are too high to count with come to light only when they
are needed.
-/
namespace Caret.Drawing

namespace Press

def bold : String := Style.Escape.bold.text
def reset : String := Style.Escape.reset.text

def spanWidth (s : Unchecked.Span) : Int := s.last - s.first + 1

def spanFits (s : Unchecked.Span) (length : Int) : Bool := s.last < length

def underlineText (m : Unchecked.Marker) : Option String := do
  let indent ← repeated? " " m.span.first
  let symbols ← repeated? m.symbol (spanWidth m.span)
  return indent ++ symbols ++
    match m.message with
    | some message => " " ++ message
    | none => ""

def misfit (m : Unchecked.Marker) (l : Unchecked.Line) : Log.Record :=
  ⟨Log.debug, "Span " ++ toString m.span.first ++ "-" ++ toString m.span.last ++
    " does not fit line " ++ toString l.number ++ " (" ++ toString l.text.length ++
    " chars); not coloring it inline"⟩

def blockWidth (e : Unchecked.Excerpt) : Option Nat :=
  Gutter.blockWidth (e.lines.map Unchecked.Line.number)

def endsMarked (e : Unchecked.Excerpt) : Bool := e.lines.getLast?.any fun l => l.marker.isSome

def announcement (d : Unchecked.Diagnostic) : Log.Record :=
  ⟨Log.trace, "Rendering " ++ d.level.name ++ " " ++ Text.quote d.message ++ " (" ++
    toString d.helps.length ++ " help(s), " ++ toString d.notes.length ++ " note(s))"⟩

section
variable {σ ε : Type} (sink : Sink σ ε) (p : PaletteDraft)

def rule (s : String) : Press σ ε Unit := do
  let tint ← color p.location
  write sink (bold ++ tint ++ s ++ reset)

def blankGutter (width : Nat) : Press σ ε Unit := do
  rule sink p (Gutter.spaces width ++ " |")
  write sink "\n"

def ellipsis : Press σ ε Unit := do
  rule sink p "..."
  write sink "\n"

def marker (m : Unchecked.Marker) : Press σ ε Unit := do
  let row ← need .tooWide (underlineText m)
  let tint ← color m.color
  write sink (bold ++ tint ++ row ++ reset ++ "\n")

def coloredText (m : Unchecked.Marker) (text : String) : Press σ ε Unit := do
  let cs := text.toList
  write sink (slice cs 0 m.span.first.toNat)
  let tint ← color m.color
  write sink (tint ++ slice cs m.span.first.toNat (spanWidth m.span).toNat ++ reset)
  write sink (String.ofList (cs.drop (m.span.last + 1).toNat) ++ "\n")

def codeText (l : Unchecked.Line) : Press σ ε Unit :=
  match l.marker with
  | none => write sink (l.text ++ "\n")
  | some m =>
    if m.inline && spanFits m.span l.text.length then coloredText sink m l.text
    else do
      if m.inline then record (misfit m l)
      write sink (l.text ++ "\n")

/-- The gutter has any integer width: a negative one pads the number to its magnitude and the
underline not at all. -/
def line (width : Int) (l : Unchecked.Line) : Press σ ε Unit := do
  let number ← need .tooLong (Text.writeInteger? l.number)
  rule sink p (Gutter.padRight width.natAbs number ++ " | ")
  codeText sink l
  if let some m := l.marker then
    rule sink p (Gutter.spaces width.toNat ++ " | ")
    marker sink m

def gap (previous : Option Int) (number : Int) : Press σ ε Unit :=
  if previous.any (· + 1 != number) then ellipsis sink p else pure ()

def linesAfter (width : Nat) : Option Int → List Unchecked.Line → Press σ ε Unit
  | _, [] => pure ()
  | previous, l :: rest => do
    gap sink p previous l.number
    line sink p width l
    linesAfter width (some l.number) rest

def excerpt (extend : Bool) (e : Unchecked.Excerpt) : Press σ ε Unit := do
  let width ← need .tooLong (blockWidth e)
  blankGutter sink p width
  linesAfter sink p width none e.lines
  if extend || !endsMarked e then blankGutter sink p width

def help (extend : Bool) (h : Unchecked.Help) : Press σ ε Unit := do
  let tint ← color p.help
  write sink (bold ++ tint ++ "help" ++ reset ++ ": " ++ h.message ++ "\n")
  if let some e := h.suggestion then excerpt sink p extend e

def indentation (indent : Option Int) : Press σ ε Unit :=
  match indent with
  | none => pure ()
  | some width => rule sink p (Gutter.spaces width.toNat ++ " = ")

def note (indent : Option Int) (message : String) : Press σ ε Unit := do
  indentation sink p indent
  write sink (bold ++ "note" ++ reset ++ ": " ++ message ++ "\n")

def levelColor : Level → Int
  | .error _ => p.error
  | .warning => p.warning

def head (d : Unchecked.Diagnostic) : Press σ ε Unit := do
  let labelTint ← color (levelColor p d.level)
  write sink (bold ++ labelTint ++ d.level.label ++ reset)
  write sink (bold ++ ": " ++ d.message ++ reset ++ "\n")
  let arrowTint ← color p.location
  let place ← need .tooLong d.location.toText
  write sink (arrowTint ++ " --> " ++ reset ++ place ++ "\n")

def noteIndent (d : Unchecked.Diagnostic) : Press σ ε (Option Int) :=
  match d.level with
  | .error _ => pure none
  | .warning => do
    let width ← need .tooLong (blockWidth d.excerpt)
    return some (width : Int)

def diagnostic (d : Unchecked.Diagnostic) : Press σ ε Unit := do
  record (announcement d)
  head sink p d
  excerpt sink p (d.helps.isEmpty && d.notes.isEmpty) d.excerpt
  d.helps.forM (help sink p false)
  let indent ← noteIndent d
  d.notes.forM (note sink p indent)

def part (extend : Bool) : Unchecked.Part → Press σ ε Unit
  | .diagnostic d => diagnostic sink p d
  | .excerpt e => excerpt sink p extend e
  | .help h => help sink p extend h
  | .line l => do
    let width ← need .tooLong (Gutter.width l.number)
    line sink p width l
  | .marker m => marker sink m
  | .note message => note sink p none message

def kind : Unchecked.Part → String
  | .diagnostic d => match d.level with
    | .error _ => "Error"
    | .warning => "Warning"
  | .excerpt _ => "Code"
  | .help _ => "Help"
  | .line _ => "Line"
  | .marker _ => "Marker"
  | .note _ => "Note"

def render (extend : Bool) (x : Unchecked.Part) : Press σ ε Unit := do
  record (request (kind x) extend)
  part sink p extend x

end

section
variable {σ ε : Type} (sink : Sink σ ε) (palette : Option PaletteDraft)

def writePart (extend : Bool) (x : Unchecked.Part) : Press σ ε Unit :=
  render sink (palette.getD {}) extend x

def writeDiagnostic (d : Unchecked.Diagnostic) : Press σ ε Unit :=
  render sink (palette.getD {}) false (.diagnostic d)

end

def toText (palette : Option PaletteDraft) (extend : Bool) (x : Unchecked.Part) :
    Except (Stop Empty) String :=
  match outcome (writePart buffer palette extend x) "" with
  | (text, none) => .ok text
  | (_, some stop) => .error stop

def diagnosticText (palette : Option PaletteDraft) (d : Unchecked.Diagnostic) :
    Except (Stop Empty) String :=
  toText palette false (.diagnostic d)

end Press

/-- The programs that write a part. Any part can be written by the renderer or by the function for
it; a diagnostic has a method of its own, and the renderer has an entry for its level. -/
inductive Entry : Unchecked.Part → Type where
  | renderer (x : Unchecked.Part) : Entry x
  | function (x : Unchecked.Part) : Entry x
  | method (d : Unchecked.Diagnostic) : Entry (.diagnostic d)
  | level (d : Unchecked.Diagnostic) : Entry (.diagnostic d)

def Entry.program (palette : Option PaletteDraft) (extend : Bool) {x : Unchecked.Part}
    (entry : Entry x) {σ ε : Type} (sink : Sink σ ε) : Press σ ε Unit :=
  match entry with
  | .renderer x => Press.render sink (palette.getD {}) extend x
  | .function x => Press.writePart sink palette extend x
  | .method d => Press.writeDiagnostic sink palette d
  | .level d => Press.diagnostic sink (palette.getD {}) d

inductive TextEntry : Unchecked.Part → Type where
  | function (x : Unchecked.Part) : TextEntry x
  | method (d : Unchecked.Diagnostic) : TextEntry (.diagnostic d)

def TextEntry.text (palette : Option PaletteDraft) (extend : Bool) {x : Unchecked.Part} :
    TextEntry x → Except (Stop Empty) String
  | .function x => Press.toText palette extend x
  | .method d => Press.diagnosticText palette d

end Caret.Drawing
