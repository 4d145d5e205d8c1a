import Caret.Document.Scalar
import Caret.Text.Numeral

namespace Caret.Document.Loose

def isWordEnd (c : Char) : Bool := " \t\n\r#,]\x7d".toList.contains c

def isLongWordEnd (c : Char) : Bool := c != ' ' && isWordEnd c

inductive Radix where
  | two
  | eight
  | ten
  | sixteen
  deriving DecidableEq, Repr

namespace Radix

def ofDigits : List Char → Radix
  | '0' :: 'b' :: _ => .two
  | '0' :: 'o' :: _ => .eight
  | '0' :: 'x' :: _ => .sixteen
  | _ => .ten

def isDigit : Radix → Char → Bool
  | .two, c => Scalar.isBinaryDigit c
  | .eight, c => Scalar.isOctalDigit c
  | .ten, c => c.isDigit
  | .sixteen, c => Scalar.isHexDigit c

def read? : Radix → List Char → Option Int
  | .two, cs => Text.readBased? 2 'b' cs
  | .eight, cs => Text.readBased? 8 'o' cs
  | .ten, cs => Text.readInteger? cs
  | .sixteen, cs => Text.readBased? 16 'x' cs

end Radix

def dropGrouping (digit : Char → Bool) : Bool → List Char → List Char
  | _, [] => []
  | afterDigit, '_' :: d :: rest =>
    if afterDigit && digit d then d :: dropGrouping digit true rest
    else '_' :: dropGrouping digit false (d :: rest)
  | _, c :: rest => c :: dropGrouping digit (digit c) rest

def isMantissa (cs : List Char) : Bool :=
  match cs.dropWhile Text.isDecimal with
  | [] => !cs.isEmpty
  | '.' :: rest => rest.all Text.isDecimal && (Text.isDecimal (cs.headD '.') || !rest.isEmpty)
  | _ => false

def isExponent (cs : List Char) : Bool :=
  let ds := (Text.splitSign cs).2
  !ds.isEmpty && ds.all Text.isDecimal

def isFloat (cs : List Char) : Bool :=
  let body := (Text.splitSign (Text.trimNumber cs)).2
  if body == "inf".toList || body == "infinity".toList || body == "nan".toList then true
  else
    match body.dropWhile (· != 'e') with
    | [] => isMantissa body
    | _ :: exponent => isMantissa (body.takeWhile (· != 'e')) && isExponent exponent

def isZeroSuffix (c : Char) : Bool := ".oxbe".toList.contains c

def badStart (isSigned : Bool) : List Char → Bool
  | '0' :: c :: _ => !isZeroSuffix c || (isSigned && c != '.' && c != 'e')
  | '.' :: _ :: _ => isSigned
  | _ => false

def endsInPoint (cs : List Char) : Bool := cs.getLast? == some '.'

def hasBarePoint (cs : List Char) : Bool :=
  endsInPoint cs || (Radix.ofDigits cs != .sixteen && endsInPoint (cs.takeWhile (· != 'e')))

def number? (word : List Char) : Option Value :=
  let (sign, body) := match word with
    | '+' :: rest => (['+'], rest)
    | '-' :: rest => (['-'], rest)
    | rest => ([], rest)
  if badStart (!sign.isEmpty) body then none
  else
    let radix := Radix.ofDigits body
    let clean := (dropGrouping radix.isDigit false body).map Char.toLower
    if clean.contains '_' || hasBarePoint clean then none
    else
      match radix.read? (sign ++ clean) with
      | some n => some (.integer n)
      | none =>
        if clean.all Text.isDecimal then none
        else if isFloat (sign ++ clean) then some (.float (String.ofList word))
        else none

/-- A date, which may go on with a space and a time of day, with the rest after it. -/
def dated (word rest : List Char) : Option (Value × List Char) :=
  match Scalar.moment? word with
  | some .date =>
    let more := rest.takeWhile fun c => !isLongWordEnd c
    let rest := rest.dropWhile fun c => !isLongWordEnd c
    match Text.stripEnd more with
    | [] => some (.date, rest)
    | ' ' :: time => (Scalar.moment? (word ++ 'T' :: time)).map fun v => (v, rest)
    | _ => none
  | some v => some (v, rest)
  | none => none

def isNamedFloat (word : List Char) : Bool :=
  word == "inf".toList || word == "nan".toList

def scalar (cs : List Char) : Option (Option (Value × List Char)) :=
  let word := cs.takeWhile fun c => !isWordEnd c
  let rest := cs.dropWhile fun c => !isWordEnd c
  match word with
  | [] => none
  | c :: _ =>
    if c == '+' || c == '-' || isNamedFloat word then some ((number? word).map fun v => (v, rest))
    else if c.isDigit then
      some (match dated word rest with
        | some r => some r
        | none => (number? word).map fun v => (v, rest))
    else none

example : (number? "1_3\u00a0".toList).map Value.typeName = some "int" ∧
    (number? "+Infinity".toList).map Value.typeName = some "float" ∧
    (number? "1.5e\u0663".toList).map Value.typeName = some "float" ∧
    (number? "1_\u0663".toList).isNone ∧ (number? "00".toList).isNone ∧
    (number? "+0x1".toList).isNone ∧ (number? "1.e5".toList).isNone := by decide +kernel

end Caret.Document.Loose
