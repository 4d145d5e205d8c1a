import Caret.Span
import Caret.Style

namespace Caret

structure Marker where
  span : Span
  symbol : Char := '^'
  color : Color := .red
  message : Option String := none
  inline : Bool := false
  deriving DecidableEq, Repr

namespace Marker

inductive Error where
  | symbol (text : String)
  | color (value : Int)
  deriving DecidableEq, Repr

def Error.message : Error → String
  | .symbol text => "marker symbol must be a single character, got " ++ Text.quote text
  | .color value => "marker color must be in 0..255, got " ++ toString value

def symbol? (text : String) : Option Char :=
  match text.toList with
  | [c] => some c
  | _ => none

def make (span : Span) (symbol : String) (color : Int) (message : Option String) (inline : Bool) :
    Except Error Marker :=
  match symbol? symbol with
  | none => .error (.symbol symbol)
  | some s =>
    match Color.ofInt? color with
    | none => .error (.color color)
    | some c => .ok ⟨span, s, c, message, inline⟩

end Marker
end Caret
