import Caret.Document.Value

/-!
Tables in fragments. A table may be written in several places of a document, each of which adds a
fragment of it; the fragments stay apart and are joined when the document is evaluated. What two
fragments may not do is to define the same key, unless both define a table there. Whether they do
is found out at the latest when they are joined, and for the key in question only.
-/
namespace Caret.Document

/-- A key and whether it has been written as the beginning of a dotted one. -/
structure Key where
  name : String
  dotted : Bool := false
  deriving DecidableEq, Repr

/-- What a key is defined as at one place: a value, a table that is implied by its children or has a
header of its own, or a list of tables. -/
inductive Item where
  | value (v : Value)
  | table (implied : Bool) (body : List (Key × Item))
  | list (elements : List (List (Key × Item)))

abbrev Body := List (Key × Item)

inductive Clash where
  | present (key : String)
  | redefined
  deriving DecidableEq, Repr

def Clash.message : Clash → String
  | .present key => "Key \"" ++ key ++ "\" already exists."
  | .redefined => "Redefinition of an existing table"

def Item.isTable : Item → Bool
  | .table .. => true
  | _ => false

def Item.entries : Item → Body
  | .table _ body => body
  | _ => []

namespace Body

def fragments (b : Body) (name : String) : Body := b.filter fun e => e.1.name == name

def names (b : Body) : List String := (b.map fun e => e.1.name).eraseDups

/-- Add an entry to a joined body: behind an entry that is no table its key is taken. -/
def join (b : Body) (e : Key × Item) : Except Clash Body :=
  match (fragments b e.1.name).getLast? with
  | none => .ok (b ++ [e])
  | some (_, i) => if i.isTable then .ok (b ++ [e]) else .error (.present e.1.name)

def joined (fragments : Body) : Except Clash Body :=
  (fragments.flatMap fun e => e.2.entries).foldlM join []

def look (b : Body) (name : String) : Except Clash Unit :=
  match fragments b name with
  | first :: second :: more => (joined (first :: second :: more)).map fun _ => ()
  | _ => .ok ()

def replaceLast (b : Body) (name : String) (i : Item) : Body :=
  match b with
  | [] => []
  | e :: rest =>
    if e.1.name == name && (fragments rest name).isEmpty then (e.1, i) :: rest
    else e :: replaceLast rest name i

def lastTable? (b : Body) : Option String :=
  ((b.filter fun e => e.2.isTable).getLast?).map fun e => e.1.name

mutual

/-- Define a key once more. An implied table goes on in the fragment before it if that is implied
too and no other table lies between; otherwise it opens a fragment of its own, and so does a header
where an implied table or only the implied parents of another header stand. With `checked` a new
fragment is compared with those before it at once. To go on in a fragment is to be compared with
that one alone, so a clash with an earlier one may be left for later. The first argument bounds the
depth of tables. -/
def append : Nat → Bool → Key → Item → Body → Except Clash Body
  | 0, _, k, i, b => .ok (b ++ [(k, i)])
  | fuel + 1, checked, k, i, b =>
    match (fragments b k.name).getLast? with
    | none => .ok (b ++ [(k, i)])
    | some (k', current) =>
      match i, current with
      | .table true new, .table true old => do
        if k.dotted || k'.dotted || lastTable? b != some k.name then
          place fuel checked k i b
        else return replaceLast b k.name (.table true (← extend fuel new old))
      | .table true new, .list elements =>
        match elements.getLast? with
        | none => .error (.present k.name)
        | some last => do
          return replaceLast b k.name (.list (elements.dropLast ++ [← extend fuel new last]))
      | .table true _, .table false _ => place fuel checked k i b
      | .table false _, .table true _ =>
        if k'.dotted then .error .redefined else place fuel checked k i b
      | .list new, .list old => .ok (replaceLast b k.name (.list (old ++ new)))
      | _, _ => .error (.present k.name)

def extend : Nat → Body → Body → Except Clash Body
  | 0, _, b => .ok b
  | _, [], b => .ok b
  | fuel + 1, (k, i) :: rest, b => do
    let b ← append fuel true k i b
    look b k.name
    extend fuel rest b

def place : Nat → Bool → Key → Item → Body → Except Clash Body
  | 0, _, k, i, b => .ok (b ++ [(k, i)])
  | fuel + 1, checked, k, i, b => do
    if checked then compare fuel (fragments b k.name) (k, i)
    return b ++ [(k, i)]

/-- Compare a new fragment of a key with all of the earlier ones, together or, where these are at
odds with each other already, one by one. -/
def compare : Nat → Body → Key × Item → Except Clash Unit
  | 0, _, _ => .ok ()
  | fuel + 1, earlier, e =>
    match check fuel earlier e.1.name with
    | .ok _ => check fuel (earlier ++ [e]) e.1.name
    | .error _ => earlier.forM fun f => check fuel [f, e] e.1.name

def check : Nat → Body → String → Except Clash Unit
  | 0, _, _ => .ok ()
  | fuel + 1, b, name =>
    match fragments b name with
    | first :: second :: more => do
      let entries := (first :: second :: more).flatMap fun e => e.2.entries
      let whole ← gather fuel entries []
      checkAll fuel whole (names whole)
    | _ => .ok ()

def gather : Nat → Body → Body → Except Clash Body
  | 0, _, b => .ok b
  | _, [], b => .ok b
  | fuel + 1, (k, i) :: rest, b => do gather fuel rest (← append fuel false k i b)

def checkAll : Nat → Body → List String → Except Clash Unit
  | 0, _, _ => .ok ()
  | _, _, [] => .ok ()
  | fuel + 1, b, name :: rest => do
    check fuel b name
    checkAll fuel b rest

end

/-- The table that a body amounts to. Fragments that are no tables are covered by those that are. -/
def toTable : Nat → Body → Except Clash Table
  | 0, _ => .ok []
  | fuel + 1, b => (names b).mapM fun name =>
    match fragments b name with
    | [(_, .value v)] => .ok (name, v)
    | [(_, .table _ body)] => (toTable fuel body).map fun t => (name, .table t)
    | [(_, .list elements)] =>
      (elements.mapM (toTable fuel)).map fun ts => (name, .list (ts.map .table))
    | several => do return (name, .table (← toTable fuel (← joined several)))

end Body

def Item.under (i : Item) : String → List String → Key × Item
  | name, [] => (⟨name, false⟩, i)
  | name, next :: path => (⟨name, true⟩, .table true [Item.under i next path])

end Caret.Document
