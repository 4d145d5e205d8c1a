namespace Caret.Document

abbrev Reader (α : Type) := List Char → Option (α × List Char)

namespace Scan

def isSpace (c : Char) : Bool := c == ' ' || c == '\t'

/-- A control character that may stand nowhere; tabs may, and line feeds have rules of their own. -/
def isControl (c : Char) : Bool := (c.toNat < 32 && c != '\t') || c.toNat == 127

def isLineBlank (c : Char) : Bool := isSpace c || c == '\n'

def skipSpace (cs : List Char) : List Char := cs.dropWhile isSpace

def comment (cs : List Char) : Option (List Char) :=
  if (cs.takeWhile (· != '\n')).any isControl then none else some (cs.dropWhile (· != '\n'))

def lineEnd (cs : List Char) : Option (List Char) :=
  match skipSpace cs with
  | [] => some []
  | '\n' :: rest => some rest
  | '#' :: rest => comment rest
  | _ => none

def skipLinesWithin : Nat → List Char → Option (List Char)
  | 0, cs => some cs
  | fuel + 1, cs =>
    match cs.dropWhile isLineBlank with
    | '#' :: rest => (comment rest).bind (skipLinesWithin fuel)
    | rest => some rest

def skipLines (cs : List Char) : Option (List Char) := skipLinesWithin cs.length cs

def hexValue? (c : Char) : Option Nat :=
  if '0' ≤ c ∧ c ≤ '9' then some (c.toNat - 48)
  else if 'a' ≤ c ∧ c ≤ 'f' then some (c.toNat - 87)
  else if 'A' ≤ c ∧ c ≤ 'F' then some (c.toNat - 55)
  else none

def hexNumber? (cs : List Char) : Option Nat :=
  cs.foldl (fun n c => n.bind fun n => (hexValue? c).map (16 * n + ·)) (some 0)

abbrev Spelling := List Char → Option Char

def hexSpelling : Spelling := fun cs =>
  (hexNumber? cs).bind fun n => if n.isValidChar then some (Char.ofNat n) else none

def codePoint (spelling : Spelling) (places : Nat) : Reader Char := fun cs =>
  if (cs.take places).length < places then none
  else (spelling (cs.take places)).map fun c => (c, cs.drop places)

def escape (spelling : Spelling) : Reader Char
  | 'b' :: rest => some ('\x08', rest)
  | 't' :: rest => some ('\t', rest)
  | 'n' :: rest => some ('\n', rest)
  | 'f' :: rest => some ('\x0c', rest)
  | 'r' :: rest => some ('\r', rest)
  | '"' :: rest => some ('"', rest)
  | '\\' :: rest => some ('\\', rest)
  | 'u' :: rest => codePoint spelling 4 rest
  | 'U' :: rest => codePoint spelling 8 rest
  | _ => none

def prepend (front : List Char) (r : Option (List Char × List Char)) :
    Option (List Char × List Char) :=
  r.map fun p => (front ++ p.1, p.2)

def basicWithin (spelling : Spelling) : Nat → Reader (List Char)
  | _, '"' :: rest => some ([], rest)
  | fuel + 1, '\\' :: rest =>
    match escape spelling rest with
    | none => none
    | some (c, rest) => prepend [c] (basicWithin spelling fuel rest)
  | fuel + 1, c :: rest =>
    if isControl c then none else prepend [c] (basicWithin spelling fuel rest)
  | _, _ => none

def literal (cs : List Char) : Option (List Char × List Char) :=
  match cs.dropWhile (· != '\'') with
  | [] => none
  | _ :: rest =>
    if (cs.takeWhile (· != '\'')).any isControl then none
    else some (cs.takeWhile (· != '\''), rest)

/-- A closing mark of three quotes may follow one or two quotes of the text itself. -/
def closing (mark : Char) (cs : List Char) : Option (List Char × List Char) :=
  let run := (cs.takeWhile (· == mark)).length
  if run < 3 then none
  else
    let own := min (run - 3) 2
    some (List.replicate own mark, cs.drop (3 + own))

/-- A backslash at the end of a line joins it to the next character that is not blank. -/
def joined? (cs : List Char) : Option (List Char) :=
  match skipSpace cs with
  | '\n' :: rest => some (rest.dropWhile isLineBlank)
  | _ => none

def mayStandInLines (c : Char) : Bool := c == '\n' || !isControl c

def basicLinesWithin (spelling : Spelling) : Nat → Reader (List Char)
  | 0, _ => none
  | fuel + 1, cs =>
    match closing '"' cs with
    | some r => some r
    | none =>
      match cs with
      | [] => none
      | '\\' :: rest =>
        match joined? rest with
        | some rest => basicLinesWithin spelling fuel rest
        | none =>
          match escape spelling rest with
          | none => none
          | some (c, rest) => prepend [c] (basicLinesWithin spelling fuel rest)
      | c :: rest =>
        if mayStandInLines c then prepend [c] (basicLinesWithin spelling fuel rest) else none

def literalLinesWithin : Nat → Reader (List Char)
  | 0, _ => none
  | fuel + 1, cs =>
    match closing '\'' cs with
    | some r => some r
    | none =>
      match cs with
      | [] => none
      | c :: rest => if mayStandInLines c then prepend [c] (literalLinesWithin fuel rest) else none

def dropFirstBreak : List Char → List Char
  | '\n' :: rest => rest
  | cs => cs

def asText (r : Option (List Char × List Char)) : Option (String × List Char) :=
  r.map fun p => (String.ofList p.1, p.2)

def lineText (spelling : Spelling) : Reader String
  | '"' :: rest => asText (basicWithin spelling rest.length rest)
  | '\'' :: rest => asText (literal rest)
  | _ => none

def text (spelling : Spelling) (cs : List Char) : Option (String × List Char) :=
  match cs with
  | '"' :: '"' :: '"' :: rest =>
    let rest := dropFirstBreak rest
    asText (basicLinesWithin spelling (rest.length + 1) rest)
  | '\'' :: '\'' :: '\'' :: rest =>
    let rest := dropFirstBreak rest
    asText (literalLinesWithin (rest.length + 1) rest)
  | cs => lineText spelling cs

def isBare (c : Char) : Bool := c.isAlphanum || c == '_' || c == '-'

def simpleKey (cs : List Char) : Option (String × List Char) :=
  match cs with
  | '"' :: _ => lineText hexSpelling cs
  | '\'' :: _ => lineText hexSpelling cs
  | _ =>
    let name := cs.takeWhile isBare
    if name.isEmpty then none else some (String.ofList name, cs.dropWhile isBare)

def keyWithin : Nat → Reader (List String)
  | 0, _ => none
  | fuel + 1, cs =>
    match simpleKey cs with
    | none => none
    | some (name, rest) =>
      match skipSpace rest with
      | '.' :: rest => (keyWithin fuel (skipSpace rest)).map fun p => (name :: p.1, p.2)
      | rest => some ([name], rest)

def key (cs : List Char) : Option (List String × List Char) := keyWithin (cs.length + 1) cs

end Scan
end Caret.Document
