import Caret.Document.Fragment
import Caret.Document.Loose.Scalar
import Caret.Document.Scan

/-!
Reading loosely, statement by statement. Keys and values may nest up to a fixed depth. An item of a
list that breaks off right before a closing bracket is dropped, and the bracket closes the list.
Inline tables define their keys like other tables, so a clash can come out of the middle of a value.
-/
namespace Caret.Document.Loose

inductive Trouble where
  | malformed
  | clash (cause : Clash)
  deriving DecidableEq, Repr

inductive Halt where
  | trouble (t : Trouble)
  /-- A closing bracket stood where something else was due; this follows it. -/
  | bracket (rest : List Char)

abbrev ValueReader (α : Type) := List Char → Except Halt (α × List Char)

def malformed : Halt := .trouble .malformed

def Halt.toTrouble : Halt → Trouble
  | .trouble t => t
  | .bracket _ => .malformed

def unexpected : List Char → Halt
  | ']' :: rest => .bracket rest
  | _ => malformed

def required (r : Option (α × List Char)) : Except Halt (α × List Char) :=
  match r with
  | some p => .ok p
  | none => .error malformed

def maxDepth : Nat := 100

/-- A code point as any number in base sixteen, except that a surrogate may not be spelled by its
own four digits. A surrogate that comes in by another spelling is replaced. -/
def spelling : Scan.Spelling := fun cs =>
  match cs with
  | first :: second :: _ =>
    if first.toLower == 'd' && !Scalar.isOctalDigit second then none
    else
      match Text.readBased? 16 'x' cs with
      | none => none
      | some n =>
        if n < 0 || 0x10FFFF < n then none
        else if n.toNat.isValidChar then some (Char.ofNat n.toNat)
        else some '\ufffd'
  | _ => none

def isBarePart (c : Char) : Bool := Scan.isBare c || Scan.isSpace c

def keyPart (cs : List Char) : Option (String × List Char) :=
  let cs := Scan.skipSpace cs
  match cs with
  | '"' :: _ => (Scan.lineText spelling cs).map fun p => (p.1, Scan.skipSpace p.2)
  | '\'' :: _ => (Scan.lineText spelling cs).map fun p => (p.1, Scan.skipSpace p.2)
  | _ =>
    let name := ((cs.takeWhile isBarePart).reverse.dropWhile Scan.isSpace).reverse
    if name.isEmpty || name.contains ' ' then none
    else some (String.ofList name, cs.dropWhile isBarePart)

def keyWithin : Nat → List Char → Option ((String × List String) × List Char)
  | 0, _ => none
  | room + 1, cs =>
    match keyPart cs with
    | none => none
    | some (name, '.' :: rest) =>
      (keyWithin room rest).map fun p => ((name, p.1.1 :: p.1.2), p.2)
    | some (name, rest) => some ((name, []), rest)

def key (cs : List Char) : Option ((String × List String) × List Char) := keyWithin maxDepth cs

def equals (cs : List Char) : Except Halt (List Char) :=
  match cs with
  | '=' :: rest =>
    match Scan.skipSpace rest with
    | '=' :: _ => .error malformed
    | rest => .ok rest
  | cs => .error (unexpected cs)

def expect (v : Value) : List Char → ValueReader Value
  | [], cs => .ok (v, cs)
  | c :: word, d :: rest => if c = d then expect v word rest else .error (unexpected (d :: rest))
  | _ :: _, [] => .error malformed

mutual

/-- A value. The second argument is how many more lists and inline tables may be opened. -/
def valueWithin : Nat → Nat → ValueReader Value
  | 0, _, _ => .error malformed
  | fuel + 1, room, cs =>
    match cs, room with
    | '"' :: _, _ => required ((Scan.text spelling cs).map fun p => (.text p.1, p.2))
    | '\'' :: _, _ => required ((Scan.text spelling cs).map fun p => (.text p.1, p.2))
    | 't' :: _, _ => expect (.boolean true) "true".toList cs
    | 'f' :: _, _ => expect (.boolean false) "false".toList cs
    | '[' :: rest, room + 1 =>
      (itemsWithin fuel room false rest).map fun p => (.list p.1, p.2)
    | '[' :: _, 0 => .error malformed
    | '\x7b' :: rest, room + 1 =>
      match Scan.skipSpace rest with
      | '\x7d' :: rest => .ok (.table [], rest)
      | ',' :: _ => .error malformed
      | rest => pairsWithin fuel room [] rest
    | '\x7b' :: _, 0 => .error malformed
    | cs, _ =>
      match scalar cs with
      | none => .error (unexpected cs)
      | some r => required r

def itemsWithin : Nat → Nat → Bool → ValueReader (List Value)
  | 0, _, _, _ => .error malformed
  | fuel + 1, room, afterItem, cs =>
    match Scan.skipLines cs with
    | none => .error malformed
    | some cs =>
      if afterItem then
        match cs with
        | ',' :: rest => itemsWithin fuel room false rest
        | ']' :: rest => .ok ([], rest)
        | _ => .error malformed
      else
        match valueWithin fuel room cs with
        | .error (.bracket rest) => .ok ([], rest)
        | .error h => .error h
        | .ok (v, rest) => (itemsWithin fuel room true rest).map fun p => (v :: p.1, p.2)

def pairsWithin : Nat → Nat → Body → ValueReader Value
  | 0, _, _, _ => .error malformed
  | fuel + 1, room, body, cs => do
    let ((name, path), rest) ← required (key cs)
    let (v, rest) ← valueWithin fuel room (← equals rest)
    let (k, i) := Item.under (.value v) name path
    match Body.append fuel true k i body with
    | .error c => .error (.trouble (.clash c))
    | .ok body =>
      match Scan.skipSpace rest with
      | ',' :: rest =>
        match Scan.skipSpace rest with
        | '\x7d' :: _ => .error malformed
        | ',' :: _ => .error malformed
        | rest => pairsWithin fuel room body rest
      | '\x7d' :: rest =>
        match Body.toTable fuel body with
        | .error c => .error (.trouble (.clash c))
        | .ok t => .ok (.table t, rest)
      | rest => .error (unexpected rest)

end

def value (cs : List Char) : Except Trouble (Value × List Char) :=
  (valueWithin (8 * cs.length + 8) maxDepth cs).mapError Halt.toTrouble

inductive Statement where
  | header (isList : Bool) (name : String) (path : List String)
  | pair (name : String) (path : List String) (v : Value)

/-- The statements of a document as far as it can be read, and the trouble that ends it. A header
whose key can be read is a statement even if its line is malformed. -/
abbrev Script := List Statement × Option Trouble

def Script.broken : Script := ([], some .malformed)

def Script.cons (s : Statement) (r : Script) : Script := (s :: r.1, r.2)

def afterHeader (isList : Bool) (cs : List Char) : Option (List Char) :=
  match isList, cs with
  | false, ']' :: rest => Scan.lineEnd rest
  | true, ']' :: ']' :: rest => Scan.lineEnd rest
  | _, _ => none

mutual

def scriptWithin : Nat → List Char → Script
  | 0, _ => .broken
  | fuel + 1, cs =>
    match Scan.skipLines cs with
    | none => .broken
    | some [] => ([], none)
    | some ('[' :: '[' :: rest) => headerWithin fuel true rest
    | some ('[' :: rest) => headerWithin fuel false rest
    | some cs =>
      match key cs with
      | none => .broken
      | some ((name, path), rest) =>
        match (equals rest).mapError Halt.toTrouble |>.bind value with
        | .error t => ([], some t)
        | .ok (v, rest) =>
          match Scan.lineEnd rest with
          | none => .broken
          | some rest => .cons (.pair name path v) (scriptWithin fuel rest)

def headerWithin : Nat → Bool → List Char → Script
  | 0, _, _ => .broken
  | fuel + 1, isList, cs =>
    match key cs with
    | none => .broken
    | some ((name, path), rest) =>
      .cons (.header isList name path)
        (match afterHeader isList rest with
          | none => .broken
          | some rest => scriptWithin fuel rest)

end

def script (cs : List Char) : Script := scriptWithin (2 * cs.length + 2) cs

end Caret.Document.Loose
