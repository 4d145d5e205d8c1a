namespace Caret.CommandLine

def defaultLine : Int := 7
def defaultPath : String := "src/main.rs"

structure Options where
  verbose : Nat := 0
  line : Option Int := none
  path : Option String := none
  config : Option String := none
  rest : List String := []
  deriving DecidableEq, Repr

namespace Options

def number (o : Options) : Int := o.line.getD defaultLine
def place (o : Options) : String := o.path.getD defaultPath

end Options

/-- Options that cannot be read, a request that is answered at once, or options to go on with. -/
inductive Opening where
  | mistaken (message : String)
  | answered (text : String)
  | opened (o : Options)
  deriving DecidableEq, Repr

/-- What a command is given, unless its words ask for its own listing or are turned down. -/
inductive Reading where
  | given (words : List String)
  | listed (text : String)
  | refused (page : String)
  deriving DecidableEq, Repr

inductive Command where
  | help
  | example
  | error
  | warning
  deriving DecidableEq, Repr

namespace Command

def word : Command → String
  | .help => "help"
  | .example => "example"
  | .error => "error"
  | .warning => "warning"

def all : List Command := [.help, .example, .error, .warning]

def ofWord? (w : String) : Option Command := all.find? fun c => c.word == w

def draws : Command → Bool
  | .help => false
  | .example => false
  | .error => true
  | .warning => true

end Command

def commandWord (words : List String) : Except String (Option Command) :=
  match words with
  | [] => .ok none
  | w :: _ =>
    match Command.ofWord? w with
    | some c => .ok (some c)
    | none => .error w

end Caret.CommandLine
