import Caret.Style
import Caret.Usage.Complaint

namespace Caret.CommandLine

def bold (s : String) : String := Style.Escape.bold.text ++ s ++ Style.Escape.reset.text

def tinted (c : Color) (s : String) : String :=
  (Style.Escape.color c).text ++ s ++ Style.Escape.reset.text

def manualLines : List String :=
  let program := Usage.program
  let location := " <message> <code-line> <start>-<end> "
  [bold program ++ ": generate `rustc`-style diagnostics",
    "",
    bold "USAGE:",
    "    " ++ program ++ " " ++ tinted .blue "help",
    "    " ++ program ++ " " ++ tinted .blue "example",
    "    " ++ program ++ " " ++ tinted .red "error" ++ " <code>" ++ location ++ "[SUBCOMMAND]...",
    "    " ++ program ++ " " ++ tinted .yellow "warning" ++ location ++ "[SUBCOMMAND]...",
    "",
    bold "SUBCOMMANDS:",
    "    " ++ bold "note" ++ " <message>",
    "        add a note after all help messages",
    "    " ++ bold "help" ++ " <message>",
    "        add a help message",
    "    " ++ bold "fix" ++ location ++ "[" ++ bold "span" ++ " <message>]",
    "        add a help message suggesting a revised line; the span is",
    "        highlighted, and `span` adds a message after its underline",
    "",
    bold "SPANS:",
    "    `<start>-<end>` are 0-indexed character offsets into the code line;",
    "    both ends are inclusive, so `4-9` underlines six characters.",
    "",
    bold "OPTIONS:",
    "    --path TEXT    file path shown in the location line (default: src/main.rs)",
    "    --line N       line number of the location and code (default: 7)",
    "    --config FILE  read colors and symbols from a TOML file",
    "    -v, --verbose  log what " ++ program ++ " is doing (repeat for more detail)"]

def unlines (lines : List String) : String := String.join (lines.map fun l => l ++ "\n")

def manual : String := unlines manualLines

end Caret.CommandLine
