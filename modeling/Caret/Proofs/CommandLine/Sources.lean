import Caret.Proofs.CommandLine.Configuration

/-!
What the settings of a run depend on. Without a name for the file the run asks for one candidate
after another and stops at the first that it is not told to pass over. What is at the place where it
stops, or at the place that is named, decides how it ends, and nothing else among the files does.
-/
namespace Caret.Settings
open Document Files

/-- Two file systems send a search the same way: they pass over the same candidates, and the one
that ends the search is the same in both. -/
inductive Alike (a b : System) (base : Path) : List String → Prop
  | empty : Alike a b base []
  | stops {name : String} {rest : List String}
      (kept : a.isFile (base.child name) ≠ .ok false)
      (same : b.find (base.child name) = a.find (base.child name)) :
      Alike a b base (name :: rest)
  | passes {name : String} {rest : List String}
      (first : a.isFile (base.child name) = .ok false)
      (second : b.isFile (base.child name) = .ok false) (later : Alike a b base rest) :
      Alike a b base (name :: rest)

def builtIn (base : Path) : Traced (Except LoadError Settings) :=
  ⟨[⟨Log.debug, "No configuration file in " ++ base.toText ++ "; using defaults"⟩], .ok {}⟩

section
variable {reader : TableReader} {a b : System} {base path : Path}

end
end Caret.Settings

namespace Caret.CommandLine
open Log Files Settings

section
variable {lib : Libraries} {around : Surroundings} {argv : List String} {o : Options}
  {command : Option Command} {level : Int} {base : Path}

theorem perform_lost (documented : lib.kit.Documented)
    (reaches : Reaches lib around argv o command level) {e : LoadError} (silent : ¬ e.Reported)
    (lost : loadSettings lib.reader around.files o.config = ⟨[], .error e⟩) :
    perform lib around argv = crashed (.load e) := by
  rw [perform_failing documented reaches (congrArg Traced.value lost), lost, stop_silent silent]
  exact behind_nothing rfl _

theorem perform_refused (documented : lib.kit.Documented)
    (reaches : Reaches lib around argv o command level) (unnamed : o.config = none)
    (here : around.files.workingDirectory = .ok base) {cause : Problem}
    (refused : around.files.isFile (base.child ownFile) = .error cause) :
    perform lib around argv = crashed (.load (.undiscoverable (base.child ownFile) cause)) := by
  apply perform_lost documented reaches id
  rw [unnamed, loadSettings, discover, here]
  simp only [Option.elim_none, discoverAmong, refused]

end

end Caret.CommandLine
