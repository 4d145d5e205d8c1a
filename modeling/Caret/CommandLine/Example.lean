import Caret.CommandLine.Options
import Caret.CommandLine.Manual
import Caret.Usage.Request

namespace Caret.CommandLine

def exampleWords : List String :=
  ["E0308", "mismatched types", "    12_i32", "4-9", "fix",
    "consider using the available `ToString` impl", "    12_i32.to_string()", "10-21", "span",
    "convert this into a `String`", "note", "expected `String`, found `i32`"]

def isShellSafe (c : Char) : Bool :=
  c.isAlphanum || "_@%+=:,./-".toList.contains c

def shellQuote (word : String) : String :=
  if word.isEmpty then "''"
  else if word.toList.all isShellSafe then word
  else
    "'" ++ String.ofList (word.toList.flatMap fun c => if c = '\'' then "'\"'\"'".toList else [c])
      ++ "'"

def exampleLine : String :=
  bold "$" ++ " " ++
    String.intercalate " " ((Usage.program :: "error" :: exampleWords).map shellQuote)

end Caret.CommandLine
