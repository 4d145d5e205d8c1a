import Caret.Document.Value
import Caret.Text.Numeral

namespace Caret.Document

namespace Scalar

def isDigit (c : Char) : Bool := c.isDigit

def grouped? (digit : Char → Bool) : List Char → Option (List Char)
  | [] => none
  | [c] => if digit c then some [c] else none
  | c :: '_' :: d :: rest =>
    if digit c && digit d then (grouped? digit (d :: rest)).map (c :: ·) else none
  | c :: rest => if digit c then (grouped? digit rest).map (c :: ·) else none

def digitValue (c : Char) : Nat :=
  if c.isDigit then c.toNat - 48 else c.toLower.toNat - 87

def positional (base : Nat) (ds : List Char) : Nat :=
  ds.foldl (fun n c => base * n + digitValue c) 0

def dropSign : List Char → List Char
  | '+' :: rest => rest
  | '-' :: rest => rest
  | cs => cs

def decimal? (cs : List Char) : Option (List Char) :=
  match grouped? isDigit cs with
  | some ('0' :: _ :: _) => none
  | r => r

/-- Decimal integers have a bound on their digits, as floats and other bases have not. -/
def bounded? (cs : List Char) : Option (List Char) :=
  (decimal? cs).filter fun ds => ds.length ≤ Text.maxDigits

def isHexDigit (c : Char) : Bool := c.isDigit || ('a' ≤ c && c ≤ 'f') || ('A' ≤ c && c ≤ 'F')
def isOctalDigit (c : Char) : Bool := '0' ≤ c && c ≤ '7'
def isBinaryDigit (c : Char) : Bool := c == '0' || c == '1'

def integer? (cs : List Char) : Option Int :=
  match cs with
  | '0' :: 'x' :: ds => (grouped? isHexDigit ds).map fun ds => (positional 16 ds : Int)
  | '0' :: 'o' :: ds => (grouped? isOctalDigit ds).map fun ds => (positional 8 ds : Int)
  | '0' :: 'b' :: ds => (grouped? isBinaryDigit ds).map fun ds => (positional 2 ds : Int)
  | '-' :: ds => (bounded? ds).map fun ds => -(positional 10 ds : Int)
  | cs => (bounded? (dropSign cs)).map fun ds => (positional 10 ds : Int)

def isExponentMark (c : Char) : Bool := c == 'e' || c == 'E'

def isExponent (cs : List Char) : Bool := (grouped? isDigit (dropSign cs)).isSome

def isFloat (cs : List Char) : Bool :=
  let body := dropSign cs
  if body == ['i', 'n', 'f'] || body == ['n', 'a', 'n'] then true
  else
    let mantissa := body.takeWhile fun c => !isExponentMark c
    let exponent := body.dropWhile fun c => !isExponentMark c
    let whole := mantissa.takeWhile (· != '.')
    let fraction := mantissa.dropWhile (· != '.')
    (decimal? whole).isSome &&
      match fraction, exponent with
      | [], _ :: e => isExponent e
      | _ :: f, [] => (grouped? isDigit f).isSome
      | _ :: f, _ :: e => (grouped? isDigit f).isSome && isExponent e
      | [], [] => false

/-- Whether the double nearest to a float is zero: its value is at most half of the smallest
positive double, `2 ^ -1075`. An exponent far below that range settles it without the power. -/
def isNearZero (cs : List Char) : Bool :=
  let body := (dropSign cs).filter (· != '_')
  let mantissa := body.takeWhile fun c => !isExponentMark c
  let exponent := (body.dropWhile fun c => !isExponentMark c).drop 1
  let ds := mantissa.filter isDigit
  let m := positional 10 ds
  let places := (mantissa.dropWhile (· != '.')).length - 1
  let size : Int := positional 10 (dropSign exponent)
  let e := (if exponent.head? == some '-' then -size else size) - places
  !ds.isEmpty &&
    (m == 0 || (e < 0 && (e < -400 - (ds.length : Int) || m * Nat.pow 2 1075 ≤ Nat.pow 10 e.natAbs)))

def two? : List Char → Option (Nat × List Char)
  | a :: b :: rest =>
    if a.isDigit && b.isDigit then some (10 * digitValue a + digitValue b, rest) else none
  | _ => none

def isLeap (year : Nat) : Bool := year % 4 == 0 && (year % 100 != 0 || year % 400 == 0)

def daysIn (year month : Nat) : Nat :=
  if month == 2 then (if isLeap year then 29 else 28)
  else if month == 4 || month == 6 || month == 9 || month == 11 then 30
  else 31

def date? (cs : List Char) : Option (List Char) := do
  let (century, cs) ← two? cs
  let (decade, cs) ← two? cs
  let year := 100 * century + decade
  match cs with
  | '-' :: cs => do
    let (month, cs) ← two? cs
    match cs with
    | '-' :: cs => do
      let (day, cs) ← two? cs
      if 1 ≤ year ∧ 1 ≤ month ∧ month ≤ 12 ∧ 1 ≤ day ∧ day ≤ daysIn year month then some cs
      else none
    | _ => none
  | _ => none

def time? (cs : List Char) : Option (List Char) := do
  let (hour, cs) ← two? cs
  match cs with
  | ':' :: cs => do
    let (minute, cs) ← two? cs
    match cs with
    | ':' :: cs => do
      let (second, cs) ← two? cs
      if hour < 24 ∧ minute < 60 ∧ second < 60 then
        match cs with
        | '.' :: c :: rest => if c.isDigit then some (rest.dropWhile isDigit) else none
        | '.' :: [] => none
        | cs => some cs
      else none
    | _ => none
  | _ => none

def isOffset (cs : List Char) : Bool :=
  match cs with
  | ['Z'] => true
  | ['z'] => true
  | sign :: cs =>
    (sign == '+' || sign == '-') &&
      match two? cs with
      | some (hour, ':' :: cs) =>
        match two? cs with
        | some (minute, []) => hour < 24 && minute < 60
        | _ => false
      | _ => false
  | [] => false

def moment? (cs : List Char) : Option Value :=
  match date? cs with
  | some [] => some .date
  | some (mark :: rest) =>
    if mark == 'T' || mark == 't' then
      match time? rest with
      | some offset => if offset.isEmpty || isOffset offset then some .dateTime else none
      | none => none
    else none
  | none =>
    match time? cs with
    | some [] => some .time
    | _ => none

def classify (cs : List Char) : Option Value :=
  if cs == ['t', 'r', 'u', 'e'] then some (.boolean true)
  else if cs == ['f', 'a', 'l', 's', 'e'] then some (.boolean false)
  else
    match integer? cs with
    | some n => some (.integer n)
    | none => if isFloat cs then some (.float (String.ofList cs)) else moment? cs

def isWordChar (c : Char) : Bool :=
  c.isAlphanum || c == '+' || c == '-' || c == '_' || c == '.' || c == ':'

/-- The word at the head. A space may stand between a date and a time of day. -/
def word (cs : List Char) : List Char × List Char :=
  let first := cs.takeWhile isWordChar
  let rest := cs.dropWhile isWordChar
  match date? first, rest with
  | some [], ' ' :: d :: more =>
    if d.isDigit then
      (first ++ 'T' :: (d :: more).takeWhile isWordChar, (d :: more).dropWhile isWordChar)
    else (first, rest)
  | _, _ => (first, rest)

end Scalar

example : Scalar.integer? "0xdead_beef".toList = some 0xdeadbeef ∧
    Scalar.integer? "-1_0".toList = some (-10) ∧ Scalar.integer? "01".toList = none ∧
    Scalar.integer? "+0x1".toList = none := by decide

example : Scalar.isFloat "6.02e+2_3".toList = true ∧ Scalar.isFloat "1.".toList = false ∧
    Scalar.isFloat "-nan".toList = true ∧ Scalar.isFloat ".5".toList = false := by decide

example : Scalar.isNearZero "-0.0e9".toList = true ∧ Scalar.isNearZero "2.4e-324".toList = true ∧
    Scalar.isNearZero "2.5e-324".toList = false ∧ Scalar.isNearZero "1e-99999999".toList = true ∧
    Scalar.isNearZero "inf".toList = false := by decide +kernel

end Caret.Document
