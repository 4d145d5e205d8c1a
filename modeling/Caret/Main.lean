import Caret.CommandLine.Run
import Caret.CommandLine.Standard

namespace Caret.Main
open Files

def observe (path : String) : IO (Except Problem Entry) := do
  if path.contains '\x00' then return .error .nulCharacter
  try
    return .ok (.file (← IO.FS.readBinFile path))
  catch
    | .noFileOrDirectory .. => return .error .missing
    | .permissionDenied .. => return .ok .unreadable
    | .inappropriateType _ code _ =>
      return if code == 20 then .error .notDirectory else .ok .directory
    | .invalidArgument _ code _ =>
      return if code == 36 then .error .nameTooLong else .error .missing
    | _ => return .ok .directory

def candidates (here : Path) (argv : List String) : List Path :=
  let named := match CommandLine.Standard.opening argv with
    | .opened o => o.config.toList.map Path.ofText
    | _ => []
  named ++ [Settings.ownFile, Settings.projectFile].map here.child

def workingDirectory : IO (Except Problem Path) := do
  try
    return .ok (Path.ofText (← IO.currentDir).toString)
  catch _ => return .error .missing

def surroundings (argv : List String) : IO CommandLine.Surroundings := do
  let directory ← workingDirectory
  let here := directory.toOption.getD {}
  let seen ← (candidates here argv).mapM fun p => return (p, ← observe p.toText)
  let find (p : Path) : Except Problem Entry :=
    match seen.find? fun s => s.1 == p with
    | some s => s.2
    | none => .error .missing
  return { files := ⟨directory, find⟩, logLevel := ← IO.getEnv "FRACK_LOG_LEVEL" }

/-- What is wrong with a malformed document, and where a record is emitted, is not told apart. -/
def libraries : CommandLine.Libraries :=
  CommandLine.Standard.libraries (fun _ => "not a document") fun _ => ⟨"caret", 1, "run"⟩

end Caret.Main

def main (argv : List String) : IO UInt32 := do
  let outcome := Caret.CommandLine.run Caret.Main.libraries (← Caret.Main.surroundings argv) argv
  (← IO.getStdout).putStr outcome.stdout
  (← IO.getStderr).putStr outcome.stderr
  return outcome.exitCode.toUInt32
