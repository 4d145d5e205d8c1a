namespace Caret

abbrev Color := Fin 256

def Color.ofInt? (n : Int) : Option Color :=
  if h : 0 ≤ n ∧ n < 256 then some ⟨n.toNat, by omega⟩ else none

namespace Color

def yellow : Color := 3
def red : Color := 9
def green : Color := 10
def blue : Color := 12
def cyan : Color := 14

end Color

namespace Style

def esc : Char := '\x1b'

inductive Escape where
  | bold
  | color (c : Color)
  | reset
  deriving DecidableEq, Repr

def Escape.text : Escape → String
  | .bold => "\x1b[1m"
  | .color c => "\x1b[38;5;" ++ toString c.val ++ "m"
  | .reset => "\x1b[0m"

inductive ColorError where
  | outOfRange (index : Int)
  deriving DecidableEq, Repr

def ColorError.message : ColorError → String
  | .outOfRange index => "color index must be in 0..255, got " ++ toString index

def select (index : Int) : Except ColorError String :=
  match Color.ofInt? index with
  | some c => .ok (Escape.color c).text
  | none => .error (.outOfRange index)

def isParameter (c : Char) : Bool := '0' ≤ c && c ≤ '?'
def isIntermediate (c : Char) : Bool := ' ' ≤ c && c ≤ '/'
def isFinal (c : Char) : Bool := '@' ≤ c && c ≤ '~'

def escapeLength? : List Char → Option Nat
  | '\x1b' :: '[' :: rest =>
    let parameters := rest.takeWhile isParameter
    let rest := rest.dropWhile isParameter
    match rest.dropWhile isIntermediate with
    | c :: _ =>
      if isFinal c then some (3 + parameters.length + (rest.takeWhile isIntermediate).length)
      else none
    | [] => none
  | _ => none

/-- `skip` counts the characters of a sequence that are still to be passed over. -/
def stripFrom : Nat → List Char → List Char
  | _, [] => []
  | skip + 1, _ :: rest => stripFrom skip rest
  | 0, c :: rest =>
    match escapeLength? (c :: rest) with
    | some n => stripFrom (n - 1) rest
    | none => c :: stripFrom 0 rest

def strip (s : String) : String := String.ofList (stripFrom 0 s.toList)

example : strip "\x1b[1m\x1b[38;5;9merror\x1b[0m: x\x1b[" = "error: x\x1b[" := by decide +kernel

example : strip "\x1b\x1b[2~a\x1b[?1$pb\x1b[1 2m" = "\x1bab\x1b[1 2m" := by decide +kernel

end Style
end Caret
