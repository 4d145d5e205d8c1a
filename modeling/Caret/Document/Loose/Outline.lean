import Caret.Document.Loose.Reader
import Caret.Document.Rejection

/-!
Putting the statements of a document together. A table takes the statements up to the next header
that is not below its own, and with them the tables under such headers; a header that skips a level
implies the tables on its way. Clashes inside a table stand by themselves, whereas a table that
does not fit into the document makes the document malformed.
-/
namespace Caret.Document.Loose

abbrev Path := List String

def isBelow (full path : Path) : Bool := full.isPrefixOf path && path != full

def clash (r : Except Clash α) : Except Trouble α := r.mapError .clash

def misfit (r : Except Clash α) : Except Trouble α := r.mapError fun _ => .malformed

/-- Define a key within a table, where the fragments of tables are compared only at the end. -/
def define (depth : Nat) (k : Key) (i : Item) (b : Body) : Except Trouble Body := do
  let b ← clash (Body.append depth k.dotted k i b)
  clash (Body.look b k.name)
  return b

def nested (isList : Bool) (body : Body) : String → Path → Key × Item
  | name, [] => (⟨name, false⟩, if isList then .list [body] else .table false body)
  | name, next :: path => (⟨name, false⟩, .table true [nested isList body next path])

mutual

/-- The body of the table with a given path, and the statements after it. The first argument bounds
the statements, the second the depth of tables; the third is the trouble behind the statements. -/
def bodyWithin : Nat → Nat → Option Trouble → Path → Body → List Statement →
    Except Trouble (Body × List Statement)
  | 0, _, _, _, _, _ => .error .malformed
  | fuel + 1, depth, ending, full, b, statements =>
    match statements with
    | [] =>
      match ending with
      | some t => .error t
      | none => do
        clash (Body.checkAll depth b (Body.names b))
        return (b, [])
    | .pair name path v :: rest => do
      let (k, i) := Item.under (.value v) name path
      bodyWithin fuel depth ending full (← define depth k i b) rest
    | .header isList name path :: rest =>
      if isBelow full (name :: path) then do
        let (k, i, rest) ← tableWithin fuel depth ending full isList (name :: path) rest
        bodyWithin fuel depth ending full (← define depth k i b) rest
      else do
        clash (Body.checkAll depth b (Body.names b))
        return (b, .header isList name path :: rest)

/-- The table of a header below a parent. A list whose name is the next below takes all of its
elements at once. -/
def tableWithin : Nat → Nat → Option Trouble → Path → Bool → Path → List Statement →
    Except Trouble (Key × Item × List Statement)
  | 0, _, _, _, _, _, _ => .error .malformed
  | fuel + 1, depth, ending, parent, isList, full, statements => do
    let (body, rest) ← bodyWithin fuel depth ending full [] statements
    match full.drop parent.length with
    | name :: next :: path =>
      let (k, i) := nested isList body name (next :: path)
      return (k, i, rest)
    | names =>
      let k : Key := ⟨names.headD "", false⟩
      if isList then
        let (bodies, rest) ← elementsWithin fuel depth ending full rest
        return (k, .list (body :: bodies), rest)
      else return (k, .table false body, rest)

def elementsWithin : Nat → Nat → Option Trouble → Path → List Statement →
    Except Trouble (List Body × List Statement)
  | 0, _, _, _, _ => .error .malformed
  | fuel + 1, depth, ending, full, statements =>
    match statements with
    | .header true name path :: rest =>
      if name :: path == full then do
        let (body, rest) ← bodyWithin fuel depth ending full [] rest
        let (bodies, rest) ← elementsWithin fuel depth ending full rest
        return (body :: bodies, rest)
      else return ([], statements)
    | statements => return ([], statements)

end

/-- The tables of a document, which are compared as they come. -/
def tablesWithin : Nat → Nat → Option Trouble → Body → List Statement → Except Trouble Body
  | 0, _, _, _, _ => .error .malformed
  | fuel + 1, depth, ending, b, statements =>
    match statements with
    | [] =>
      match ending with
      | some t => .error t
      | none => .ok b
    | .pair name path v :: rest => do
      let (k, i) := Item.under (.value v) name path
      tablesWithin fuel depth ending (← misfit (Body.append depth true k i b)) rest
    | .header isList name path :: rest => do
      let (k, i, rest) ← tableWithin fuel depth ending [] isList (name :: path) rest
      tablesWithin fuel depth ending (← misfit (Body.append depth true k i b)) rest

def parse (cs : List Char) : Except Trouble Table := do
  let (statements, ending) := script cs
  let depth := 8 * cs.length + 8
  let b ← tablesWithin (3 * statements.length + 3) depth ending [] statements
  clash (Body.toTable depth b)

def Trouble.rejection (detail : String) : Trouble → Rejection
  | .malformed => .malformed detail
  | .clash (.present name) => .other "KeyAlreadyPresent" (Clash.present name).message
  | .clash .redefined => .other "TOMLKitError" Clash.redefined.message

def reader (describe : List Char → String) : TableReader := fun cs =>
  (parse cs).mapError (Trouble.rejection (describe cs))

end Caret.Document.Loose
