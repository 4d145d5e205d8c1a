import Caret.Style

namespace Caret.Terminal
open Style

structure Pen where
  bold : Bool := false
  color : Option Color := none
  deriving DecidableEq, Repr

def Pen.turn (pen : Pen) : Escape → Pen
  | .bold => { pen with bold := true }
  | .color c => { pen with color := some c }
  | .reset => {}

def turning : List Escape := .bold :: .reset :: (List.finRange 256).map .color

def Pen.obey (pen : Pen) (sequence : List Char) : Pen :=
  match turning.find? fun e => e.text.toList == sequence with
  | some e => pen.turn e
  | none => pen

structure Glyph where
  char : Char
  pen : Pen
  deriving DecidableEq, Repr

structure Screen where
  glyphs : List Glyph
  pen : Pen
  deriving DecidableEq, Repr

def displayFrom : Nat → Pen → List Char → Screen
  | _, pen, [] => ⟨[], pen⟩
  | skip + 1, pen, _ :: rest => displayFrom skip pen rest
  | 0, pen, c :: rest =>
    match escapeLength? (c :: rest) with
    | some n => displayFrom (n - 1) (pen.obey ((c :: rest).take n)) rest
    | none =>
      let after := displayFrom 0 pen rest
      ⟨⟨c, pen⟩ :: after.glyphs, after.pen⟩

def display (s : String) : Screen := displayFrom 0 {} s.toList

example : display "\x1b[1ma\x1b[38;5;9mb\x1b[0m\nc" =
    ⟨[⟨'a', ⟨true, none⟩⟩, ⟨'b', ⟨true, some 9⟩⟩, ⟨'\n', {}⟩, ⟨'c', {}⟩], {}⟩ := by
  decide +kernel

end Caret.Terminal
