import Caret.Drawing.Course
import Caret.Drawing.Press
import Caret.Proofs.Gutter
import Caret.Proofs.Programs

/-!
What the programs do. Drawing what has been checked is following the course of its drawing: the
numbers in it are colours, so every escape sequence that is asked for exists, and only the sink and
the obstacles on the course are left to stop a program.
-/
namespace Caret.Drawing

def Write.colors (w : Write) : List Int := w.filterMap fun
  | .escape (.color c) => some (c.val : Int)
  | _ => none

namespace Write
variable (w : Write)

@[simp] theorem text_nil : Write.toText [] = "" := rfl

@[simp] theorem text_cons (i : Ink) : Write.toText (i :: w) = i.toText ++ w.toText := by
  simp [Write.toText, String.join_cons]

@[simp] theorem colors_nil : Write.colors [] = [] := rfl

@[simp] theorem colors_text (s : String) : Write.colors (.text s :: w) = w.colors := rfl

@[simp] theorem colors_bold : Write.colors (.escape .bold :: w) = w.colors := rfl

@[simp] theorem colors_reset : Write.colors (.escape .reset :: w) = w.colors := rfl

@[simp] theorem colors_color (c : Color) :
    Write.colors (.escape (.color c) :: w) = (c.val : Int) :: w.colors := rfl

end Write

namespace Press

section
variable {σ ε : Type} (sink : Sink σ ε)

def step : Step → Press σ ε Unit
  | .write w => do
    ask (Write.colors w)
    write sink (Write.toText w)
  | .log r => record r

def feed (steps : List Step) : Press σ ε Unit := steps.forM (step sink)

theorem feed_nil : feed sink [] = pure () := rfl

theorem feed_cons (s : Step) (steps : List Step) :
    feed sink (s :: steps) = (do step sink s; feed sink steps) :=
  List.forM_cons

theorem feed_single (s : Step) : feed sink [s] = step sink s := by
  rw [feed_cons, feed_nil, bind_pure_unit]

theorem feed_append (a b : List Step) :
    feed sink (a ++ b) = (do feed sink a; feed sink b) :=
  List.forM_append

theorem feed_flatMap {α : Type} (steps : α → List Step) (xs : List α) :
    feed sink (xs.flatMap steps) = forM xs fun x => feed sink (steps x) := by
  induction xs with
  | nil => rfl
  | cons x xs ih => rw [List.flatMap_cons, feed_append, ih, List.forM_cons]

def follow (c : Course) : Press σ ε Unit := do
  feed sink c.steps
  match c.stop with
  | none => pure ()
  | some o => do
    ask (Write.colors c.begun)
    throw (.obstacle o)

theorem follow_of (steps : List Step) : follow sink (.of steps) = feed sink steps :=
  bind_pure_unit

theorem follow_empty : follow sink {} = pure () := rfl

theorem throw_bind {α β : Type} (stop : Stop ε) (f : α → Press σ ε β) :
    (throw stop >>= f) = throw stop := rfl

theorem follow_andThen (a b : Course) :
    follow sink (a.andThen b) = (do follow sink a; follow sink b) := by
  obtain ⟨steps, stop, begun⟩ := a
  cases stop with
  | none => simp only [Course.andThen, follow, feed_append, bind_assoc, pure_bind]
  | some o => simp only [Course.andThen, follow, bind_assoc, throw_bind]

theorem follow_all (cs : List Course) : follow sink (.all cs) = cs.forM (follow sink) := by
  induction cs with
  | nil => rfl
  | cons c cs ih =>
    have split : Course.all (c :: cs) = c.andThen (.all cs) := rfl
    rw [split, follow_andThen, ih]
    exact List.forM_cons.symm

@[simp] theorem ask_nothing : (ask [] : Press σ ε Unit) = pure () := by
  funext desk
  show EStateM.Result.ok () { desk with colors := desk.colors ++ [] } = .ok () desk
  rw [List.append_nil]

@[simp] theorem need_some {α : Type} (o : Obstacle) (a : α) :
    (need o (some a) : Press σ ε α) = pure a := rfl

theorem need_follow {α : Type} {o : Obstacle} {text : Option α} {rest : α → Press σ ε Unit}
    {course : Course} (same : ∀ a, text = some a → rest a = follow sink course) :
    (need o text >>= rest) = follow sink ((Course.need o text []).andThen course) := by
  rw [follow_andThen]
  cases text with
  | none => simp [Course.need, Course.halt, follow, need, feed_nil, throw_bind]
  | some a => simp [Course.need, follow_empty, need, same a rfl]

theorem feed_log (r : Log.Record) (steps : List Step) (desk : Desk σ) :
    feed sink (.log r :: steps) desk =
      feed sink steps { desk with records := desk.records ++ [r] } := by
  rw [feed_cons]
  rfl

variable {sink}

theorem feed_taken {w : Write} {desk : Desk σ} {after : σ}
    (taken : sink w.toText desk.sink = .ok () after) (steps : List Step) :
    feed sink (.write w :: steps) desk =
      feed sink steps { desk with sink := after, colors := desk.colors ++ w.colors } := by
  have stepped : step sink (.write w) desk =
      .ok () { desk with sink := after, colors := desk.colors ++ w.colors } := by
    show write sink w.toText { desk with colors := desk.colors ++ w.colors } = _
    simp only [write, taken]
  rw [feed_cons, bind_ran stepped]

theorem feed_refused {w : Write} {desk : Desk σ} {cause : ε} {after : σ}
    (refused : sink w.toText desk.sink = .error cause after) (steps : List Step) :
    feed sink (.write w :: steps) desk =
      .error (.sink cause) { desk with sink := after, colors := desk.colors ++ w.colors } := by
  have stepped : step sink (.write w) desk =
      .error (.sink cause) { desk with sink := after, colors := desk.colors ++ w.colors } := by
    show write sink w.toText { desk with colors := desk.colors ++ w.colors } = _
    simp only [write, refused]
  rw [feed_cons, bind_halted stepped]

variable (sink)

theorem select_color (c : Color) : Style.select (c.val : Int) = .ok (Style.Escape.color c).text := by
  have bound := c.isLt
  have known : Color.ofInt? (c.val : Int) = some c := by
    rw [Color.ofInt?, dif_pos (by omega)]
    rfl
  rw [Style.select, known]

@[simp] theorem color_known (c : Color) : (color (c.val : Int) : Press σ ε String) =
    (do ask [(c.val : Int)]; return (Style.Escape.color c).text) := by
  rw [color, select_color]

variable (p : Palette)

theorem rule_fed (s : String) : rule sink p.draft s = feed sink [Drawing.rule p s] := by
  rw [feed_single]
  simp [rule, Palette.draft, step, Drawing.rule, Ink.toText, bold, reset, String.append_assoc]

theorem plain_fed (s : String) : write sink s = feed sink [plain s] := by
  rw [feed_single]
  simp [step, plain, Ink.toText]

theorem blank_fed (width : Nat) :
    blankGutter sink p.draft width = feed sink (Drawing.blankGutter p width) := by
  rw [blankGutter, rule_fed, plain_fed, ← feed_append]
  rfl

theorem ellipsis_fed : ellipsis sink p.draft = feed sink (Drawing.ellipsis p) := by
  rw [ellipsis, rule_fed, plain_fed, ← feed_append]
  rfl

theorem span_width (s : Caret.Span) : spanWidth s.unchecked = s.width := by
  have ordered := s.ordered
  simp only [spanWidth, Span.unchecked, Unchecked.ofSpan, Span.width]
  omega

theorem repeated_symbol (n : Nat) (c : Char) :
    String.join (List.replicate n (String.singleton c)) = String.ofList (List.replicate n c) := by
  rw [← String.toList_inj, String.toList_join, String.toList_ofList]
  induction n with
  | zero => rfl
  | succ n ih => rw [List.replicate_succ, List.flatMap_cons, ih, String.toList_singleton]; rfl

theorem repeated_char (c : Char) (n : Nat) : repeated? (String.singleton c) n =
    if n < wordLimit then some (String.ofList (List.replicate n c)) else none := by
  have low : -(wordLimit : Int) ≤ n := by unfold wordLimit; omega
  have high : (n : Int) < wordLimit ↔ n < wordLimit := Int.ofNat_lt
  rw [repeated?, Int.toNat_natCast, repeated_symbol]
  simp only [low, true_and, high]

theorem underline_text (m : Marker) : underlineText m.unchecked =
    if m.isCountable then some (underlining m) else none := by
  have blanks : repeated? " " m.span.first = _ := repeated_char ' ' m.span.first
  have symbols := repeated_char m.symbol m.span.width
  rw [← span_width] at symbols
  unfold underlineText Marker.isCountable underlining Gutter.spaces
  simp only [Marker.unchecked, Span.unchecked, Unchecked.ofSpan] at blanks symbols ⊢
  rw [blanks, symbols]
  by_cases first : m.span.first < wordLimit <;> by_cases width : m.span.width < wordLimit <;>
    cases m.message <;> simp [first, width]

theorem marker_followed (m : Marker) :
    marker sink m.unchecked = follow sink (Course.marker m) := by
  have row : (do
      let tint ← color m.unchecked.color
      write sink (bold ++ tint ++ underlining m ++ reset ++ "\n")) =
      feed sink (Drawing.marker m) := by
    rw [Drawing.marker, feed_single]
    simp [Marker.unchecked, step, Ink.toText, bold, reset, String.append_assoc]
  rw [marker, underline_text, Course.marker]
  cases m.isCountable with
  | false => simp [Course.halt, follow, need, feed_nil, throw_bind]
  | true => simp only [if_true, need_some, pure_bind, follow_of, row]

theorem colored_fed (m : Marker) (s : String) :
    coloredText sink m.unchecked s = feed sink (Drawing.colored s.toList m) := by
  have width : spanWidth ⟨m.span.first, m.span.last⟩ = m.span.width := span_width m.span
  have behind : ((m.span.last : Int) + 1).toNat = m.span.last + 1 := by omega
  simp [coloredText, Drawing.colored, Marker.unchecked, Span.unchecked, Unchecked.ofSpan, width,
    behind, feed_cons, feed_nil, step, plain, Ink.toText, reset, String.append_assoc]

theorem misfit_record (m : Marker) (l : Line) :
    misfit m.unchecked l.unchecked = Drawing.misfit m l := by
  simp only [misfit, Drawing.misfit, Span.toText, ← String.append_assoc]
  rfl

theorem code_fed (l : Line) : codeText sink l.unchecked = feed sink (Drawing.codeText l) := by
  obtain ⟨text, number, marker, unbroken, positive⟩ := l
  cases marker with
  | none => exact plain_fed sink _
  | some m =>
    have logged := misfit_record m ⟨text, number, some m, unbroken, positive⟩
    have colored := colored_fed sink m text
    have plain := plain_fed sink (text ++ "\n")
    have asked : m.unchecked.inline = m.inline := rfl
    have fits : spanFits m.unchecked.span text.length = m.span.fits text.length := rfl
    simp only [Line.unchecked, Option.map_some] at logged
    simp only [codeText, Drawing.codeText, Line.unchecked, Option.map_some, asked, fits, logged]
    cases m.inline with
    | false => exact plain
    | true =>
      cases m.span.fits text.length with
      | true => exact colored
      | false =>
        rw [plain]
        rfl

theorem underline_followed (width : Nat) (m : Marker) :
    (rule sink p.draft (Gutter.spaces width ++ " | ") >>= fun _ => marker sink m.unchecked) =
      follow sink (Course.underline p width (some m)) := by
  rw [rule_fed, marker_followed, Course.underline, follow_andThen, follow_of]

theorem written_text {n : Nat} {text : String} (written : Text.writeInteger? n = some text) :
    text = toString n := by
  unfold Text.writeInteger? at written
  split at written <;> cases written
  rfl

theorem line_followed (width : Nat) (l : Line) :
    line sink p.draft width l.unchecked = follow sink (Course.line p width l) := by
  have marked : l.unchecked.marker = l.marker.map Marker.unchecked := rfl
  have number : l.unchecked.number = (l.number : Int) := rfl
  rw [line, Course.line, number, Int.natAbs_natCast, marked]
  refine need_follow sink ?_
  intro text written
  obtain rfl := written_text written
  have row : (rule sink p.draft (Gutter.padRight width (toString l.number) ++ " | ") >>=
      fun _ => codeText sink l.unchecked) = feed sink (codeRow p width l) := by
    rw [rule_fed, code_fed, ← feed_append]
    rfl
  rw [follow_andThen, follow_of, ← row, bind_assoc]
  cases l.marker with
  | none => rfl
  | some m =>
    rw [← underline_followed, Int.toNat_natCast]
    rfl

theorem between_fed (previous : Option Nat) (number : Nat) :
    gap sink p.draft (previous.map Int.ofNat) number = feed sink (between p previous number) := by
  cases previous with
  | none => rfl
  | some n =>
    rw [gap, Option.map_some, Option.any_some, between]
    by_cases next : n + 1 = number
    · have same : (Int.ofNat n + 1 != number) = false := by
        rw [bne_eq_false_iff_eq]
        exact congrArg Int.ofNat next
      rw [same, if_pos next]
      rfl
    · have apart : (Int.ofNat n + 1 != number) = true := by
        rw [bne_iff_ne]
        exact fun same => next (Int.ofNat.inj same)
      rw [apart, if_neg next]
      exact ellipsis_fed sink p

theorem lines_followed (width : Nat) (previous : Option Nat) (ls : List Line) :
    linesAfter sink p.draft width (previous.map Int.ofNat) (ls.map Line.unchecked) =
      follow sink (Course.linesAfter p width previous ls) := by
  induction ls generalizing previous with
  | nil => rfl
  | cons l ls ih =>
    have number : l.unchecked.number = (l.number : Int) := rfl
    have rest := ih (some l.number)
    rw [List.map_cons, linesAfter, Course.linesAfter, number, between_fed, line_followed,
      follow_andThen, follow_of, follow_andThen, ← rest]
    rfl

theorem block_width (e : Excerpt) : blockWidth e.unchecked = Gutter.blockWidth e.numbers := by
  have numbers : e.unchecked.lines.map Unchecked.Line.number = e.numbers := List.map_map
  rw [blockWidth, numbers]

theorem ends_marked (e : Excerpt) : endsMarked e.unchecked = e.endsMarked := by
  unfold endsMarked Excerpt.endsMarked Excerpt.unchecked
  rw [List.getLast?_map]
  cases e.lines.getLast? with
  | none => rfl
  | some l => exact Option.isSome_map

theorem excerpt_followed (extend : Bool) (e : Excerpt) :
    excerpt sink p.draft extend e.unchecked = follow sink (Course.excerpt p extend e) := by
  rw [excerpt, Course.excerpt, block_width, ends_marked]
  refine need_follow sink ?_
  intro width given
  obtain rfl : e.width = width := (Gutter.block_width_some_iff.mp given).2
  have lines := lines_followed sink p e.width none e.lines
  rw [follow_andThen, follow_of, follow_andThen, follow_of, ← blank_fed, ← lines]
  cases extend || !e.endsMarked with
  | true => rw [if_pos rfl, if_pos rfl, blank_fed]; rfl
  | false => rfl

theorem help_followed (extend : Bool) (h : Help) :
    help sink p.draft extend h.unchecked = follow sink (Course.help p extend h) := by
  have label : (color p.draft.help >>= fun tint =>
      write sink (bold ++ tint ++ "help" ++ reset ++ ": " ++ h.message ++ "\n")) =
      feed sink [helpLabel p h.message] := by
    rw [feed_single]
    simp [Palette.draft, step, helpLabel, Ink.toText, bold, reset, String.append_assoc]
  rw [Course.help, follow_andThen, follow_of, ← label, help, bind_assoc]
  obtain ⟨message, suggestion⟩ := h
  cases suggestion with
  | none => rfl
  | some e =>
    rw [← excerpt_followed]
    rfl

theorem note_fed (indent : Option Int) (message : String) :
    note sink p.draft indent message = feed sink (Drawing.note p indent message) := by
  have row : write sink (bold ++ "note" ++ reset ++ ": " ++ message ++ "\n") =
      step sink (noteRow message) := by
    simp [step, noteRow, Ink.toText, bold, reset, String.append_assoc]
  rw [note, row]
  cases indent with
  | none =>
    rw [Drawing.note, indentation, pure_bind, feed_single]
  | some width =>
    rw [Drawing.note, indentation, rule_fed, ← feed_single, ← feed_append]
    rfl

theorem spelled_text {l : Location} {text : String} (written : l.toText = some text) :
    text = l.spelling := by
  have spelled (n : Int) {s : String} (given : Text.writeInteger? n = some s) : s = toString n := by
    unfold Text.writeInteger? at given
    split at given <;> cases given
    rfl
  obtain ⟨line, first, rest⟩ := Option.bind_eq_some_iff.mp written
  obtain ⟨col, second, same⟩ := Option.bind_eq_some_iff.mp rest
  rw [spelled _ first, spelled _ second] at same
  exact (Option.some.inj same).symm

theorem head_followed (d : Diagnostic) :
    head sink p.draft d.unchecked = follow sink (Course.head p d) := by
  have tint : levelColor p.draft d.level = (Drawing.levelColor p d.level).val := by
    cases d.level <;> rfl
  have arrow : p.draft.location = (p.location.val : Int) := rfl
  have place : d.unchecked.location = d.location := rfl
  have labels : (do
      let labelTint ← color (levelColor p.draft d.unchecked.level)
      write sink (bold ++ labelTint ++ d.unchecked.level.label ++ reset)
      write sink (bold ++ ": " ++ d.unchecked.message ++ reset ++ "\n")) =
      feed sink (header p d) := by
    simp [Diagnostic.unchecked, tint, header, feed_cons, feed_nil, step, Ink.toText, bold, reset,
      String.append_assoc]
  have behind : (do
      let arrowTint ← color p.draft.location
      let text ← need .tooLong d.location.toText
      write sink (arrowTint ++ " --> " ++ reset ++ text ++ "\n")) =
      follow sink ((Course.need .tooLong d.location.toText
        [.escape (.color p.location), .text " --> ", .escape .reset]).andThen
          (.of [locationRow p d.location])) := by
    rw [arrow, color_known, follow_andThen]
    cases written : d.location.toText with
    | none => simp [Course.need, Course.halt, follow, need, feed_nil, throw_bind]
    | some text =>
      obtain rfl := spelled_text written
      simp [Course.need, follow_empty, follow_of, feed_single, step, locationRow, Ink.toText,
        reset, String.append_assoc]
  rw [Course.head, follow_andThen, follow_of, ← labels, ← behind]
  simp only [head, place, bind_assoc]

theorem announced (d : Diagnostic) : announcement d.unchecked = Drawing.announcement d := by
  simp [announcement, Drawing.announcement, Diagnostic.unchecked]

theorem notes_followed (d : Diagnostic) : (do
    let indent ← noteIndent d.unchecked
    d.unchecked.notes.forM (note sink p.draft indent)) = follow sink (Course.notes p d) := by
  have notes : d.unchecked.notes.forM (note sink p.draft (Drawing.noteIndent d)) =
      feed sink (d.notes.flatMap (Drawing.note p (Drawing.noteIndent d))) := by
    have each : note sink p.draft (Drawing.noteIndent d) =
        fun n => feed sink (Drawing.note p (Drawing.noteIndent d) n) :=
      funext fun n => note_fed sink p (Drawing.noteIndent d) n
    rw [feed_flatMap, ← each]
    rfl
  have block : blockWidth d.unchecked.excerpt = _ := block_width d.excerpt
  have level : d.unchecked.level = d.level := rfl
  unfold noteIndent Course.notes Course.indentation
  rw [level]
  cases kind : d.level with
  | error code =>
    have unindented : Drawing.noteIndent d = none := by rw [Drawing.noteIndent, kind]
    rw [unindented] at notes
    rw [pure_bind, notes, follow_andThen, follow_of, follow_empty, pure_bind, unindented]
  | warning =>
    rw [bind_assoc, block]
    refine need_follow sink ?_
    intro width given
    obtain rfl : d.excerpt.width = width := (Gutter.block_width_some_iff.mp given).2
    have indented : Drawing.noteIndent d = some (d.excerpt.width : Int) := by
      rw [Drawing.noteIndent, kind]
    rw [← indented, pure_bind, notes, follow_of]

theorem diagnostic_followed (d : Diagnostic) :
    diagnostic sink p.draft d.unchecked = follow sink (Course.diagnostic p d) := by
  have helps : d.unchecked.helps.forM (help sink p.draft false) =
      follow sink (.all (d.helps.map (Course.help p false))) := by
    have each : (fun h : Help => help sink p.draft false h.unchecked) =
        fun h => follow sink (Course.help p false h) :=
      funext fun h => help_followed sink p false h
    rw [follow_all]
    exact (List.forM_map.trans (congrArg d.helps.forM each)).trans List.forM_map.symm
  have last : (d.unchecked.helps.isEmpty && d.unchecked.notes.isEmpty) =
      (d.helps.isEmpty && d.notes.isEmpty) := by
    simp [Diagnostic.unchecked]
  have block : excerpt sink p.draft (d.helps.isEmpty && d.notes.isEmpty) d.unchecked.excerpt =
      _ := excerpt_followed sink p _ d.excerpt
  rw [diagnostic, last, announced, head_followed, block, helps, notes_followed, Course.diagnostic,
    follow_andThen, follow_andThen, follow_andThen, follow_andThen, follow_of, feed_single]
  rfl

theorem kind_name (x : Part) : kind x.unchecked = x.kind := by
  cases x with
  | diagnostic d => cases d; rfl
  | _ => rfl

theorem part_followed (extend : Bool) (x : Part) :
    part sink p.draft extend x.unchecked = follow sink (Course.part p extend x) := by
  cases x with
  | diagnostic d => exact diagnostic_followed sink p d
  | excerpt e => exact excerpt_followed sink p extend e
  | help h => exact help_followed sink p extend h
  | line l =>
    have number : l.unchecked.number = (l.number : Int) := rfl
    rw [Part.unchecked, part, Course.part, number]
    refine need_follow sink ?_
    intro width given
    obtain ⟨_, rfl⟩ := Gutter.width_some_iff.mp given
    exact line_followed sink p _ l
  | marker m => exact marker_followed sink m
  | note message => exact (note_fed sink p none message).trans (follow_of sink _).symm

theorem render_followed (extend : Bool) (x : Part) :
    render sink p.draft extend x.unchecked = follow sink (Course.render p extend x) := by
  rw [render, kind_name, part_followed, Course.render, follow_andThen, follow_of, feed_single]
  rfl

end
end Press

theorem chosen_palette (palette : Option Palette) :
    (palette.map Palette.draft).getD {} = (palette.getD {}).draft := by
  cases palette <;> rfl

/-- A course that makes the writes of a part, and ends as the part does. -/
structure Course.Draws (c : Course) (p : Palette) (extend : Bool) (x : Part) : Prop where
  writes : Drawing.writes c.steps = Drawing.writes (Course.part p extend x).steps
  stop : c.stop = (Course.part p extend x).stop

theorem rendering_draws (p : Palette) (extend : Bool) (x : Part) :
    (Course.render p extend x).Draws p extend x := ⟨rfl, rfl⟩

theorem diagnostic_draws (p : Palette) (extend : Bool) (d : Diagnostic) :
    (Course.diagnostic p d).Draws p extend (.diagnostic d) := by
  have same : Course.part p extend (.diagnostic d) = Course.diagnostic p d := rfl
  constructor
  · rw [same]
  · rw [same]

/-- Every way of writing a part follows a course with the writes of its drawing. -/
theorem entry_followed (palette : Option Palette) (extend : Bool) {x : Part}
    (entry : Entry x.unchecked) : ∃ c : Course, c.Draws (palette.getD {}) extend x ∧
      ∀ {σ ε : Type} (sink : Sink σ ε),
        entry.program (palette.map Palette.draft) extend sink = Press.follow sink c := by
  generalize same : x.unchecked = raw at entry
  -- A method ignores the flag and a level's entry is not announced; neither changes a write.
  cases entry with
  | renderer =>
    refine ⟨_, rendering_draws _ extend x, ?_⟩
    intro σ ε sink
    rw [Entry.program, chosen_palette, ← same, Press.render_followed]
  | function =>
    refine ⟨_, rendering_draws _ extend x, ?_⟩
    intro σ ε sink
    rw [Entry.program, Press.writePart, chosen_palette, ← same, Press.render_followed]
  | method d =>
    cases x with
    | diagnostic d' =>
      have draws := rendering_draws (palette.getD {}) false (.diagnostic d')
      refine ⟨Course.render (palette.getD {}) false (.diagnostic d'), ⟨draws.writes, draws.stop⟩, ?_⟩
      intro σ ε sink
      rw [Entry.program, Press.writeDiagnostic, chosen_palette, ← same, Press.render_followed]
    | _ => cases same
  | level d =>
    cases x with
    | diagnostic d' =>
      cases same
      refine ⟨Course.diagnostic (palette.getD {}) d', diagnostic_draws _ extend d', ?_⟩
      intro σ ε sink
      rw [Entry.program, chosen_palette, Press.diagnostic_followed]
    | _ => cases same

end Caret.Drawing
