import Caret.Log.Root
import Mathlib.Data.List.Induction

/-!
Sessions of the log, from any root with any handlers. A set-up that returns leaves one handler, of
our own making, at the level it has resolved; one that fails leaves everything as it was. Main
statement: at every point after the first set-up that returned there is one handler, the level is
that of the last such set-up, and the error stream receives the line of each record that is told
once and in order, or nothing where its level is too low. A session that stands for such a root
takes the same steps and writes the same text.
-/
namespace Caret.Log

/-- A record that is told to a logger without a level of its own, all the way up. -/
def Event.Unleveled : Event → Prop
  | .setUp _ _ => True
  | .tell levels _ _ => ∀ level ∈ levels, level = unset

def Event.resolved? : Event → Option Int
  | .setUp level setting => (Session.resolve level setting).toOption
  | .tell _ _ _ => none

/-- The level that the last set-up that returned has resolved. -/
def inForce (events : List Event) : Option Int := (events.filterMap Event.resolved?).getLast?

/-- One handler, which writes in the layout of the level in force. -/
structure Root.InForce (root : Root) (n : Int) : Prop where
  level : root.level = n
  single : ∃ identity, root.handlers =
    [⟨identity, .painted (if info ≤ n then .short else .detailed)⟩]

def shortText (r : Record) : String := "[" ++ levelName r.level ++ "] " ++ r.message

def detailedText (place : Place) (r : Record) : String :=
  "[" ++ levelName r.level ++ "] [" ++ place.file ++ ":" ++ toString place.line ++ "] [" ++
    place.function ++ "] " ++ r.message

section
variable (paint : Tint → String → String)

/-- The line of a record where a level is in force, if it has one. -/
def line (n : Int) (place : Place) (r : Record) : String :=
  if 0 < r.level ∧ n ≤ r.level then
    paint (tintOf r.level) (if info ≤ n then shortText r else detailedText place r) ++ "\n"
  else ""

def Event.line (n : Int) : Event → String
  | .setUp _ _ => ""
  | .tell _ place r => Log.line paint n place r

def lines (n : Int) : List Event → String
  | [] => ""
  | e :: later => e.line paint n ++ lines (e.resolved?.getD n) later

def Root.written (root : Root) (place : Place) (r : Record) : String :=
  match root.handlers with
  | [] => if warning ≤ r.level then r.message ++ "\n" else ""
  | handlers => String.join (handlers.map fun h => h.output.text paint place r)

end

def Output.ofHandler : Handler → Output
  | .silent => .foreign fun _ => ""
  | .stream layout => .painted layout

/-- A session that stands for a root that has handlers. -/
structure Root.StandsFor (root : Root) (s : Session) : Prop where
  level : root.level = s.level
  outputs : root.handlers.map Attached.output = s.handlers.map Output.ofHandler
  handled : s.handlers ≠ []

def Session.after (s : Session) : Event → Session
  | .setUp level setting => match s.setup level setting with
    | .ok s => s
    | .error _ => s
  | .tell _ _ _ => s

def Event.Placed (look : Look) : Event → Prop
  | .setUp _ _ => True
  | .tell _ place r => place = look.place r

def Session.line (look : Look) (s : Session) : Event → String
  | .setUp _ _ => ""
  | .tell _ _ r => s.written look r

def Session.lines (look : Look) (s : Session) : List Event → String
  | [] => ""
  | e :: later => s.line look e ++ (s.after e).lines look later

namespace Root

theorem removed_all (level : Int) (hs : List Attached) (made : Nat) (err : String) :
    (forM hs remove : Logging Unit).run ⟨level, hs, made, err⟩ =
      .ok () ⟨level, [], made, err⟩ := by
  induction hs with
  | nil => rfl
  | cons h hs ih =>
    have erased : (h :: hs).eraseP (fun g => g.identity == h.identity) = hs :=
      List.eraseP_cons_of_pos (beq_self_eq_true h.identity)
    have first : (remove h).run ⟨level, h :: hs, made, err⟩ = .ok () ⟨level, hs, made, err⟩ := by
      simp only [remove, EStateM.run_modify, erased]
    rw [List.forM_cons, EStateM.run_bind, first]
    exact ih

theorem set_up_returns {level : Option Int} {setting : Option String} {n : Int}
    (resolved : Session.resolve level setting = .ok n) (root : Root) :
    (setUp level setting).run root = .ok () { root with
      level := n, made := root.made + 1
      handlers := [⟨root.made, .painted (Session.layoutFor n)⟩] } := by
  have leveled : (setLevel n).run root = .ok () { root with level := n } := rfl
  have cleared := removed_all n root.handlers root.made root.err
  simp only [setUp, resolved, EStateM.run_bind, leveled, EStateM.run_get, cleared]
  rfl

theorem set_up_fails {level : Option Int} {setting : Option String} {e : Text.NumeralError}
    (failed : Session.resolve level setting = .error e) (root : Root) :
    (setUp level setting).run root = .error e root := by
  rw [setUp, failed]
  rfl

theorem emit_all (texts : Attached → String) (hs : List Attached) (root : Root) :
    (forM hs fun h => emit (texts h) : Logging Unit).run root =
      .ok () { root with err := root.err ++ String.join (hs.map texts) } := by
  induction hs generalizing root with
  | nil =>
    rw [List.map_nil, String.join_nil, String.append_empty]
    rfl
  | cons h hs ih =>
    have first : (emit (texts h)).run root =
        .ok () { root with err := root.err ++ texts h } := rfl
    rw [List.forM_cons, EStateM.run_bind, first]
    simp only [ih, List.map_cons, String.join_cons, String.append_assoc]

section
variable (paint : Tint → String → String)

theorem deliver_writes (place : Place) (r : Record) (root : Root) :
    (deliver paint place r).run root =
      .ok () { root with err := root.err ++ root.written paint place r } := by
  obtain ⟨level, handlers, made, err⟩ := root
  cases handlers with
  | nil =>
    simp only [deliver, EStateM.run_bind, EStateM.run_get, written]
    split
    · rfl
    · rw [String.append_empty]
      rfl
  | cons h hs =>
    exact emit_all (fun h => h.output.text paint place r) (h :: hs) ⟨level, h :: hs, made, err⟩

theorem effective_unset {n : Int} {levels : List Int} (own : ∀ level ∈ levels, level = unset) :
    effective n levels = n := by
  induction levels with
  | nil => rfl
  | cons level above ih =>
    rw [effective, if_pos (own level List.mem_cons_self)]
    exact ih fun level member => own level (List.mem_cons_of_mem _ member)

theorem tell_writes (levels : List Int) (place : Place) (r : Record) (root : Root) :
    (tell paint levels place r).run root = .ok () { root with
      err := root.err ++
        if 0 < r.level ∧ effective root.level levels ≤ r.level then root.written paint place r
        else "" } := by
  simp only [tell, EStateM.run_bind, EStateM.run_get]
  split
  · exact deliver_writes paint place r root
  · rw [String.append_empty]
    rfl

theorem step_put {level : Option Int} {setting : Option String} {n : Int}
    (resolved : Session.resolve level setting = .ok n) (root : Root) :
    root.step paint (.setUp level setting) = { root with
      level := n, made := root.made + 1
      handlers := [⟨root.made, .painted (Session.layoutFor n)⟩] } := by
  rw [step, Event.act, set_up_returns resolved]

theorem step_failed {level : Option Int} {setting : Option String} {e : Text.NumeralError}
    (failed : Session.resolve level setting = .error e) (root : Root) :
    root.step paint (.setUp level setting) = root := by
  rw [step, Event.act, set_up_fails failed]

theorem step_tell {levels : List Int} {place : Place} {r : Record}
    (unleveled : (Event.tell levels place r).Unleveled) (root : Root) :
    root.step paint (.tell levels place r) = { root with
      err := root.err ++
        if 0 < r.level ∧ root.level ≤ r.level then root.written paint place r else "" } := by
  rw [step, Event.act, tell_writes, effective_unset unleveled]

theorem step_resolved {e : Event} {n : Int} (resolved : e.resolved? = some n) (root : Root) :
    (root.step paint e).InForce n := by
  cases e with
  | tell levels place r => cases resolved
  | setUp level setting =>
    cases value : Session.resolve level setting with
    | error e =>
      rw [Event.resolved?, value] at resolved
      cases resolved
    | ok m =>
      rw [Event.resolved?, value] at resolved
      cases resolved
      rw [step_put paint value]
      exact ⟨rfl, root.made, rfl⟩

/-- Whatever else happens leaves the level and the handlers as they are. -/
theorem step_kept {e : Event} (unresolved : e.resolved? = none) (root : Root) :
    (root.step paint e).level = root.level ∧ (root.step paint e).handlers = root.handlers := by
  cases e with
  | tell levels place r =>
    rw [step, Event.act, tell_writes]
    exact ⟨rfl, rfl⟩
  | setUp level setting =>
    cases value : Session.resolve level setting with
    | error e =>
      rw [step_failed paint value]
      exact ⟨rfl, rfl⟩
    | ok n =>
      rw [Event.resolved?, value] at unresolved
      cases unresolved

theorem play_append (root : Root) (events later : List Event) :
    root.play paint (events ++ later) = (root.play paint events).play paint later :=
  List.foldl_append

end
end Root

theorem in_force_last (events : List Event) (e : Event) :
    inForce (events ++ [e]) = e.resolved?.or (inForce events) := by
  cases resolved : e.resolved? with
  | none => simp [inForce, List.filterMap_append, resolved]
  | some n => simp [inForce, List.filterMap_append, resolved]

/-- From the first set-up that returned on, there is always a level in force. -/
theorem in_force_set_up {events : List Event} {level : Option Int} {setting : Option String}
    {n : Int} (member : .setUp level setting ∈ events)
    (resolved : Session.resolve level setting = .ok n) : ∃ m, inForce events = some m := by
  have listed : n ∈ events.filterMap Event.resolved? := by
    refine List.mem_filterMap.mpr ⟨_, member, ?_⟩
    rw [Event.resolved?, resolved]
    rfl
  exact ⟨_, List.getLast?_eq_some_getLast (List.ne_nil_of_mem listed)⟩

namespace Root
section
variable (paint : Tint → String → String)

theorem play_kept {events : List Event} (root : Root) (unresolved : inForce events = none) :
    (root.play paint events).level = root.level ∧
      (root.play paint events).handlers = root.handlers := by
  induction events using List.reverseRecOn with
  | nil => exact ⟨rfl, rfl⟩
  | append_singleton events e ih =>
    rw [in_force_last, Option.or_eq_none_iff] at unresolved
    have earlier := ih unresolved.2
    have last := step_kept paint unresolved.1 (root.play paint events)
    rw [play_append]
    exact ⟨last.1.trans earlier.1, last.2.trans earlier.2⟩

theorem play_in_force {events : List Event} {n : Int} (root : Root)
    (resolved : inForce events = some n) : (root.play paint events).InForce n := by
  -- The last event decides if it is a set-up that returned; any other keeps what there was.
  induction events using List.reverseRecOn with
  | nil => cases resolved
  | append_singleton events e ih =>
    rw [in_force_last, Option.or_eq_some_iff] at resolved
    rw [play_append]
    rcases resolved with last | ⟨unresolved, earlier⟩
    · exact step_resolved paint last (root.play paint events)
    · have kept := step_kept paint unresolved (root.play paint events)
      have held := ih earlier
      obtain ⟨identity, own⟩ := held.single
      exact ⟨kept.1.trans held.level, identity, kept.2.trans own⟩

theorem written_in_force {root : Root} {n : Int} (held : root.InForce n) (place : Place)
    (r : Record) : root.written paint place r =
      paint (tintOf r.level) (if info ≤ n then shortText r else detailedText place r) ++ "\n" := by
  obtain ⟨identity, own⟩ := held.single
  simp only [written, own, List.map_cons, List.map_nil, String.join_cons, String.join_nil,
    String.append_empty, Output.text, format]
  by_cases terse : info ≤ n
  · rw [if_pos terse, if_pos terse]
    rfl
  · rw [if_neg terse, if_neg terse]
    rfl

theorem line_in_force {root : Root} {n : Int} (held : root.InForce n) (place : Place)
    (r : Record) : (if 0 < r.level ∧ root.level ≤ r.level then root.written paint place r else "") =
      line paint n place r := by
  rw [line, held.level, written_in_force paint held]

theorem tell_line {root : Root} {n : Int} (held : root.InForce n) {levels : List Int}
    {place : Place} {r : Record} (unleveled : (Event.tell levels place r).Unleveled) :
    (tell paint levels place r).run root =
      .ok () { root with err := root.err ++ line paint n place r } := by
  rw [tell_writes, effective_unset unleveled, line_in_force paint held]

theorem step_line {e : Event} (unleveled : e.Unleveled) {root : Root} {n : Int}
    (held : root.InForce n) :
    (root.step paint e).InForce (e.resolved?.getD n) ∧
      (root.step paint e).err = root.err ++ e.line paint n := by
  cases e with
  | tell levels place r =>
    rw [step_tell paint unleveled, line_in_force paint held]
    exact ⟨⟨held.level, held.single⟩, rfl⟩
  | setUp level setting =>
    cases value : Session.resolve level setting with
    | error e =>
      rw [step_failed paint value, Event.resolved?, value]
      exact ⟨held, String.append_empty.symm⟩
    | ok m =>
      have resolved : (Event.setUp level setting).resolved? = some m := by
        rw [Event.resolved?, value]
        rfl
      have put := step_resolved paint resolved root
      rw [resolved, Option.getD_some]
      refine ⟨put, ?_⟩
      rw [step_put paint value]
      exact String.append_empty.symm

theorem play_lines {later : List Event} (unleveled : ∀ e ∈ later, e.Unleveled) {root : Root}
    {n : Int} (held : root.InForce n) :
    (root.play paint later).err = root.err ++ lines paint n later := by
  -- The induction is on what is still to come, so the level in force at its start moves along.
  induction later generalizing root n with
  | nil => exact String.append_empty.symm
  | cons e later ih =>
    obtain ⟨first, written⟩ := step_line paint (unleveled e List.mem_cons_self) held
    have rest := ih (fun e member => unleveled e (List.mem_cons_of_mem _ member)) first
    calc (root.play paint (e :: later)).err
      _ = (root.step paint e).err ++ lines paint (e.resolved?.getD n) later := rest
      _ = root.err ++ lines paint n (e :: later) := by rw [written, lines, String.append_assoc]

end

section
variable (look : Look)

theorem written_for {root : Root} {s : Session} (same : root.StandsFor s) (r : Record) :
    (if 0 < r.level ∧ root.level ≤ r.level then root.written look.paint (look.place r) r else "") =
      s.written look r := by
  have texts : root.handlers.map (fun h => h.output.text look.paint (look.place r) r) =
      s.handlers.map (Session.Handler.write look r) := by
    have each : s.handlers.map (Output.text look.paint (look.place r) r ∘ Output.ofHandler) =
        s.handlers.map (Session.Handler.write look r) := by
      apply List.map_congr_left
      intro h _
      cases h <;> rfl
    rw [← each, ← List.map_map, ← same.outputs, List.map_map]
    rfl
  have handed : root.written look.paint (look.place r) r =
      String.join (s.handlers.map (Session.Handler.write look r)) := by
    rw [← texts, written]
    split
    · rename_i none
      have handled := same.handled
      rw [none] at texts
      exact absurd (List.map_eq_nil_iff.mp texts.symm) handled
    · rfl
  simp only [Session.written, Session.accepts, handed, same.level, Bool.and_eq_true,
    decide_eq_true_eq]

theorem step_session {e : Event} (unleveled : e.Unleveled) (placed : e.Placed look) {root : Root}
    {s : Session} (same : root.StandsFor s) :
    (root.step look.paint e).StandsFor (s.after e) ∧
      (root.step look.paint e).err = root.err ++ s.line look e := by
  cases e with
  | tell levels place r =>
    obtain rfl : place = look.place r := placed
    rw [step_tell look.paint unleveled, written_for look same]
    exact ⟨⟨same.level, same.outputs, same.handled⟩, rfl⟩
  | setUp level setting =>
    cases value : Session.resolve level setting with
    | error e =>
      rw [step_failed look.paint value, Session.after, Session.setup, value]
      exact ⟨same, String.append_empty.symm⟩
    | ok n =>
      rw [step_put look.paint value, Session.after, Session.setup, value]
      exact ⟨⟨rfl, rfl, List.cons_ne_nil _ _⟩, String.append_empty.symm⟩

theorem play_session {events : List Event} (unleveled : ∀ e ∈ events, e.Unleveled)
    (placed : ∀ e ∈ events, e.Placed look) {root : Root} {s : Session} (same : root.StandsFor s) :
    (root.play look.paint events).StandsFor (events.foldl Session.after s) ∧
      (root.play look.paint events).err = root.err ++ s.lines look events := by
  induction events generalizing root s with
  | nil => exact ⟨same, String.append_empty.symm⟩
  | cons e later ih =>
    obtain ⟨first, written⟩ := step_session look (unleveled e List.mem_cons_self)
      (placed e List.mem_cons_self) same
    obtain ⟨stands, rest⟩ := ih (fun e member => unleveled e (List.mem_cons_of_mem _ member))
      (fun e member => placed e (List.mem_cons_of_mem _ member)) first
    refine ⟨stands, ?_⟩
    calc (root.play look.paint (e :: later)).err
      _ = (root.step look.paint e).err ++ (s.after e).lines look later := rest
      _ = root.err ++ s.lines look (e :: later) := by
        rw [written, Session.lines, String.append_assoc]

end

theorem set_up_settled (level : Option Int) (setting : Option String) (root : Root) :
    match Session.resolve level setting with
    | .ok n => ∃ after, (setUp level setting).run root = .ok () after ∧
        after.InForce n ∧ after.err = root.err
    | .error e => (setUp level setting).run root = .error e root := by
  cases value : Session.resolve level setting with
  | error e => exact set_up_fails value root
  | ok n => exact ⟨_, set_up_returns value root, ⟨rfl, root.made, rfl⟩, rfl⟩

end Root

theorem texts_differ (place : Place) (r : Record) : shortText r ≠ detailedText place r := by
  intro same
  have lengths := congrArg String.length same
  simp only [shortText, detailedText, String.length_append] at lengths
  have opening : ("] [" : String).length = 3 := rfl
  have closing : ("] " : String).length = 2 := rfl
  have colon : (":" : String).length = 1 := rfl
  omega

/-- Whatever a session starts from. At every point after the first set-up that returned, there is a
level in force, that of the last of them; the root has it and one handler; a record that is told
adds its line, and all that is told later adds its lines in order. Up to then the level and the
handlers are those of the start. A set-up that fails changes nothing. -/
theorem one_handler_at_the_last_level (paint : Tint → String → String) (root : Root)
    (events : List Event) :
    (∀ level setting n, .setUp level setting ∈ events →
      Session.resolve level setting = .ok n → ∃ m, inForce events = some m) ∧
    (∀ n, inForce events = some n →
      (root.play paint events).InForce n ∧
      (∀ levels place r, (∀ level ∈ levels, level = unset) →
        (Root.tell paint levels place r).run (root.play paint events) =
          .ok () { root.play paint events with
            err := (root.play paint events).err ++
              if 0 < r.level ∧ n ≤ r.level then
                paint (tintOf r.level)
                  (if info ≤ n then "[" ++ levelName r.level ++ "] " ++ r.message
                  else "[" ++ levelName r.level ++ "] [" ++ place.file ++ ":" ++
                    toString place.line ++ "] [" ++ place.function ++ "] " ++ r.message) ++ "\n"
              else "" }) ∧
      ∀ later : List Event, (∀ e ∈ later, e.Unleveled) →
        (root.play paint (events ++ later)).err =
          (root.play paint events).err ++ lines paint n later) ∧
    (∀ place r, shortText r ≠ detailedText place r) ∧
    (inForce events = none → (root.play paint events).level = root.level ∧
      (root.play paint events).handlers = root.handlers) ∧
    (∀ level setting, match Session.resolve level setting with
      | .ok n => ∃ after, (Root.setUp level setting).run (root.play paint events) = .ok () after ∧
          after.InForce n ∧ after.err = (root.play paint events).err
      | .error e => (Root.setUp level setting).run (root.play paint events) =
          .error e (root.play paint events)) ∧
    ∀ look s, look.paint = paint → root.StandsFor s → (∀ e ∈ events, e.Unleveled) →
      (∀ e ∈ events, e.Placed look) →
      (root.play paint events).StandsFor (events.foldl Session.after s) ∧
      (root.play paint events).err = root.err ++ s.lines look events := by
  refine ⟨fun _ _ _ member resolved => in_force_set_up member resolved, ?later, texts_differ,
    root.play_kept paint, fun level setting => Root.set_up_settled level setting _, ?session⟩
  case later =>
    intro n resolved
    have held := root.play_in_force paint resolved
    refine ⟨held, fun _ _ _ unleveled => Root.tell_line paint held unleveled, ?_⟩
    intro later unleveled
    rw [Root.play_append]
    exact Root.play_lines paint unleveled held
  case session =>
    rintro look s rfl same unleveled placed
    exact Root.play_session look unleveled placed same

def crowded : Root := ⟨0, [⟨7, .foreign Record.message⟩, ⟨7, .foreign Record.message⟩], 3, ""⟩

def troubled : List Event :=
  [.tell [unset] ⟨"a.py", 1, "f"⟩ ⟨critical, "a"⟩, .setUp none (some "²"),
    .setUp (some debug) none, .setUp none (some "²")]

theorem one_line_after_trouble :
    inForce troubled = some debug ∧
      (crowded.play (fun _ s => s) troubled).InForce debug ∧
      (crowded.play (fun _ s => s) (troubled ++ [.tell [unset] ⟨"b.py", 2, "g"⟩ ⟨info, "b"⟩,
        .tell [unset] ⟨"c.py", 3, "h"⟩ ⟨trace, "c"⟩])).err =
        (crowded.play (fun _ s => s) troubled).err ++ "[INFO] [b.py:2] [g] b\n" ∧
      (Root.setUp none (some "²")).run (crowded.play (fun _ s => s) troubled) =
        .error (.notDecimal "²") (crowded.play (fun _ s => s) troubled) := by
  have resolved : inForce troubled = some debug := by decide +kernel
  have refused : Session.resolve none (some "²") = .error (.notDecimal "²") := by decide +kernel
  obtain ⟨-, later, -, -, settled, -⟩ :=
    one_handler_at_the_last_level (fun _ s => s) crowded troubled
  obtain ⟨held, -, written⟩ := later debug resolved
  have unchanged := settled none (some "²")
  rw [refused] at unchanged
  have added : lines (fun _ s => s) debug [.tell [unset] ⟨"b.py", 2, "g"⟩ ⟨info, "b"⟩,
      .tell [unset] ⟨"c.py", 3, "h"⟩ ⟨trace, "c"⟩] = "[INFO] [b.py:2] [g] b\n" := by
    decide +kernel
  refine ⟨resolved, held, ?_, unchanged⟩
  rw [written _ (by simp [Event.Unleveled]), added]

end Caret.Log
