import Caret.Document.Assembly
import Caret.Document.Scalar
import Caret.Document.Scan

/-!
Documents in TOML 1.0. A document is read into statements, one a line, and the statements are then
put together; either may find it malformed. Lists may go over several lines and end in a comma,
inline tables may do neither.
-/
namespace Caret.Document.Toml
open Scan

mutual

def valueWithin : Nat → Reader Value
  | 0, _ => none
  | fuel + 1, cs =>
    match cs with
    | '"' :: _ => (text hexSpelling cs).map fun p => (.text p.1, p.2)
    | '\'' :: _ => (text hexSpelling cs).map fun p => (.text p.1, p.2)
    | '[' :: rest => (itemsWithin fuel rest).map fun p => (.list p.1, p.2)
    | '\x7b' :: rest =>
      match skipSpace rest with
      | '\x7d' :: rest => some (.table [], rest)
      | rest =>
        match pairsWithin fuel rest with
        | none => none
        | some (pairs, rest) => (assembleInline pairs).map fun t => (.table t, rest)
    | cs =>
      let (word, rest) := Scalar.word cs
      (Scalar.classify word).map fun v => (v, rest)

def itemsWithin : Nat → Reader (List Value)
  | 0, _ => none
  | fuel + 1, cs =>
    match skipLines cs with
    | none => none
    | some (']' :: rest) => some ([], rest)
    | some cs =>
      match valueWithin fuel cs with
      | none => none
      | some (v, rest) =>
        match skipLines rest with
        | some (',' :: rest) => (itemsWithin fuel rest).map fun p => (v :: p.1, p.2)
        | some (']' :: rest) => some ([v], rest)
        | _ => none

def pairsWithin : Nat → Reader (List (List String × Value))
  | 0, _ => none
  | fuel + 1, cs =>
    match key cs with
    | none => none
    | some (path, rest) =>
      match skipSpace rest with
      | '=' :: rest =>
        match valueWithin fuel (skipSpace rest) with
        | none => none
        | some (v, rest) =>
          match skipSpace rest with
          | ',' :: rest =>
            (pairsWithin fuel (skipSpace rest)).map fun p => ((path, v) :: p.1, p.2)
          | '\x7d' :: rest => some ([(path, v)], rest)
          | _ => none
      | _ => none

end

def value (cs : List Char) : Option (Value × List Char) := valueWithin (cs.length + 1) cs

def header : Reader (List String) := fun cs =>
  match key (skipSpace cs) with
  | none => none
  | some (path, rest) =>
    match skipSpace rest with
    | ']' :: rest => some (path, rest)
    | _ => none

def statement : Reader Statement
  | '[' :: '[' :: cs =>
    match header cs with
    | some (path, ']' :: rest) => some (.listHeader path, rest)
    | _ => none
  | '[' :: cs => (header cs).map fun p => (.header p.1, p.2)
  | cs =>
    match key cs with
    | none => none
    | some (path, rest) =>
      match skipSpace rest with
      | '=' :: rest => (value (skipSpace rest)).map fun p => (.pair path p.1, p.2)
      | _ => none

def statementsWithin : Nat → List Char → Option (List Statement)
  | 0, _ => some []
  | fuel + 1, cs =>
    match skipLines cs with
    | none => none
    | some [] => some []
    | some cs =>
      match statement cs with
      | none => none
      | some (s, rest) =>
        match lineEnd rest with
        | none => none
        | some rest => (statementsWithin fuel rest).map (s :: ·)

def parse (cs : List Char) : Option Table :=
  (statementsWithin (cs.length + 1) cs).bind assemble

end Caret.Document.Toml
