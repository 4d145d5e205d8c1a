import Caret.Log.Layout
import Caret.Style

namespace Caret.Log

structure Paint where
  opening : Nat
  closing : Nat
  deriving DecidableEq, Repr

def code (n : Nat) : List Char := '\x1b' :: '[' :: (toString n).toList ++ ['m']

def Tint.paints : Tint → List Paint
  | .brightRed => [⟨91, 39⟩]
  | .red => [⟨31, 39⟩]
  | .yellow => [⟨33, 39⟩]
  | .green => [⟨32, 39⟩]
  | .gray => [⟨90, 39⟩]
  | .blue => [⟨34, 39⟩]
  | .dimRed => [⟨2, 22⟩, ⟨31, 39⟩]

def openings (paints : List Paint) : List Char := paints.flatMap fun p => code p.opening

def closings (paints : List Paint) : List Char := paints.flatMap fun p => code p.closing

def replaceFrom (old new : List Char) : Nat → List Char → List Char
  | _, [] => []
  | skip + 1, _ :: rest => replaceFrom old new skip rest
  | 0, c :: rest =>
    if old.isPrefixOf (c :: rest) then new ++ replaceFrom old new (old.length - 1) rest
    else c :: replaceFrom old new 0 rest

def replace (old new cs : List Char) : List Char := replaceFrom old new 0 cs

def reopen (cs : List Char) (p : Paint) : List Char :=
  replace (code p.closing) (code p.closing ++ code p.opening) cs

def reset : List Char := code 0

def toReset? : List Char → Option Nat
  | [] => none
  | c :: rest =>
    if reset.isPrefixOf (c :: rest) then some reset.length
    else if c = '\n' then none
    else (toReset? rest).map (· + 1)

/-- A stretch between two resets is set apart from the paint around it. -/
def setApartFrom (off on : List Char) : Nat → List Char → List Char
  | _, [] => []
  | 1, c :: rest => c :: on ++ setApartFrom off on 0 rest
  | skip + 2, c :: rest => c :: setApartFrom off on (skip + 1) rest
  | 0, c :: rest =>
    if reset.isPrefixOf (c :: rest) then
      match toReset? ((c :: rest).drop reset.length) with
      | some n => off ++ c :: setApartFrom off on (reset.length + n - 1) rest
      | none => c :: setApartFrom off on 0 rest
    else c :: setApartFrom off on 0 rest

def breakPaint (off on : List Char) : List Char → List Char
  | [] => []
  | '\r' :: '\n' :: rest => off ++ '\r' :: '\n' :: on ++ breakPaint off on rest
  | c :: rest =>
    if c = '\n' then off ++ '\n' :: on ++ breakPaint off on rest else c :: breakPaint off on rest

def Tint.paint (tint : Tint) (s : String) : String :=
  let cs := s.toList
  let paints := tint.paints
  let on := openings paints
  let off := closings paints
  let reopened := if cs.contains Style.esc then paints.foldl reopen cs else cs
  String.ofList (on ++ breakPaint off on (setApartFrom off on 0 reopened) ++ off)

end Caret.Log
