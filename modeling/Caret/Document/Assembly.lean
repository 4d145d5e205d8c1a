import Caret.Document.Value

namespace Caret.Document

inductive Origin where
  | implied
  | header
  | dotted
  deriving DecidableEq, Repr

inductive Node where
  | value (v : Value)
  | table (origin : Origin) (entries : List (String × Node))
  | tables (closed : List Value) (last : List (String × Node))

abbrev Nodes := List (String × Node)

mutual

def Node.toValue : Node → Value
  | .value v => v
  | .table _ entries => .table (toTable entries)
  | .tables closed last => .list (closed ++ [.table (toTable last)])

def toTable : List (String × Node) → List (String × Value)
  | [] => []
  | (key, node) :: rest => (key, node.toValue) :: toTable rest

end

namespace Nodes

def update (key : String) (f : Option Node → Option Node) : Nodes → Option Nodes
  | [] => (f none).map fun n => [(key, n)]
  | (k, n) :: rest =>
    if k == key then (f (some n)).map fun n => (k, n) :: rest
    else (update key f rest).map ((k, n) :: ·)

/-- Change the entries that a path of keys leads to, by way of lists' last tables. Tables that are
not there yet are implied. -/
def within (f : Nodes → Option Nodes) : List String → Nodes → Option Nodes
  | [], entries => f entries
  | key :: path, entries =>
    update key
      (fun
        | none => (within f path []).map (.table .implied)
        | some (.table origin sub) => (within f path sub).map (.table origin)
        | some (.tables closed last) => (within f path last).map (.tables closed)
        | some (.value _) => none)
      entries

def openTable (key : String) (entries : Nodes) : Option Nodes :=
  update key
    (fun
      | none => some (.table .header [])
      | some (.table .implied sub) => some (.table .header sub)
      | some _ => none)
    entries

def appendTable (key : String) (entries : Nodes) : Option Nodes :=
  update key
    (fun
      | none => some (.tables [] [])
      | some (.tables closed last) => some (.tables (closed ++ [.table (toTable last)]) [])
      | some _ => none)
    entries

def insert (v : Value) : List String → Nodes → Option Nodes
  | [], _ => none
  | [key], entries =>
    update key
      (fun
        | none => some (.value v)
        | some _ => none)
      entries
  | key :: path, entries =>
    update key
      (fun
        | none => (insert v path []).map (.table .dotted)
        | some (.table .header _) => none
        | some (.table _ sub) => (insert v path sub).map (.table .dotted)
        | some _ => none)
      entries

end Nodes

def assembleInline (pairs : List (List String × Value)) : Option Table :=
  (pairs.foldl (fun nodes p => nodes.bind (Nodes.insert p.2 p.1)) (some [])).map toTable

inductive Statement where
  | header (path : List String)
  | listHeader (path : List String)
  | pair (path : List String) (v : Value)

def Statement.apply (state : Nodes × List String) : Statement → Option (Nodes × List String)
  | .header path =>
    match path.getLast? with
    | none => none
    | some key =>
      (Nodes.within (Nodes.openTable key) path.dropLast state.1).map fun nodes => (nodes, path)
  | .listHeader path =>
    match path.getLast? with
    | none => none
    | some key =>
      (Nodes.within (Nodes.appendTable key) path.dropLast state.1).map fun nodes => (nodes, path)
  | .pair path v =>
    (Nodes.within (Nodes.insert v path) state.2 state.1).map fun nodes => (nodes, state.2)

def assemble (statements : List Statement) : Option Table :=
  (statements.foldl (fun state s => state.bind s.apply) (some ([], []))).map fun state =>
    toTable state.1

end Caret.Document
