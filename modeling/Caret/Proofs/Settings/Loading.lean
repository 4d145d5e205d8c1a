import Caret.Settings.File

namespace Caret.Settings
open Document Files

def LoadError.Reported : LoadError → Prop
  | .unreadable _ _ => True
  | .malformed _ _ => True
  | .toolNotTable _ _ => True
  | .settings _ => True
  | _ => False

/-- What is at a path, where loading it fails with an error of another kind. -/
inductive Unreported (reader : TableReader) (files : System) (path : Path) : LoadError → Prop
  | nulCharacter (nowhere : files.find path = .error .nulCharacter) :
      Unreported reader files path .nulCharacter
  | notUtf8 {bytes : ByteArray} (found : files.find path = .ok (.file bytes))
      (invalid : ¬ bytes.IsValidUTF8) : Unreported reader files path .notUtf8
  | rejected {bytes : ByteArray} {cs : List Char} {kind message : String}
      (found : files.find path = .ok (.file bytes)) (text : decode? bytes = some cs)
      (turned : reader cs = .error (.other kind message)) :
      Unreported reader files path (.rejected kind message)

theorem decode_none (bytes : ByteArray) : decode? bytes = none ↔ ¬ bytes.IsValidUTF8 := by
  unfold decode? String.fromUTF8?
  by_cases valid : bytes.IsValidUTF8
  · simp [valid]
  · simp [valid]

theorem decode_text (s : String) : decode? s.toUTF8 = some (Text.unifyBreaks s.toList) := by
  have valid : s.toUTF8.IsValidUTF8 := s.isValidUTF8
  have whole : String.fromUTF8? s.toUTF8 = some s := by
    rw [String.fromUTF8?, dif_pos valid]
    rfl
  rw [decode?, whole]
  rfl

theorem read_bytes_file {files : System} {path : Path} {bytes : ByteArray} :
    files.readBytes path = .ok bytes ↔ files.find path = .ok (.file bytes) := by
  unfold System.readBytes
  cases files.find path with
  | error e => simp
  | ok entry => cases entry <;> simp

theorem read_bytes_nul {files : System} {path : Path} :
    files.readBytes path = .error .nulCharacter ↔ files.find path = .error .nulCharacter := by
  unfold System.readBytes
  cases files.find path with
  | error e => simp
  | ok entry => cases entry <;> simp

theorem subtable_error {t : Table} {key name : String} {path : Path} {e : LoadError}
    (failed : subtable t key name path = .error e) : e.Reported := by
  unfold subtable at failed
  split at failed
  · cases failed
  · cases failed
  · cases failed
    trivial

theorem own_table_error {path : Path} {t : Table} {e : LoadError}
    (failed : ownTable path t = .error e) : e.Reported := by
  unfold ownTable at failed
  split at failed
  · split at failed
    · rename_i first
      cases failed
      exact subtable_error first
    · exact subtable_error failed
  · cases failed

section
variable {reader : TableReader} {files : System} {path : Path} {e : LoadError}

theorem unreported_read (unreported : Unreported reader files path e) :
    readTable reader files path = .error e := by
  unfold readTable
  cases unreported with
  | nulCharacter nowhere =>
    rw [read_bytes_nul.mpr nowhere]
  | notUtf8 found invalid =>
    simp only [read_bytes_file.mpr found, (decode_none _).mpr invalid]
  | rejected found text turned =>
    simp only [read_bytes_file.mpr found, text, turned]

theorem read_table_error (failed : readTable reader files path = .error e) :
    e.Reported ∨ Unreported reader files path e := by
  unfold readTable at failed
  split at failed
  · rename_i nowhere
    cases failed
    exact .inr (.nulCharacter (read_bytes_nul.mp nowhere))
  · cases failed
    exact .inl trivial
  rename_i bytes found
  split at failed
  · rename_i invalid
    cases failed
    exact .inr (.notUtf8 (read_bytes_file.mp found) ((decode_none bytes).mp invalid))
  rename_i cs text
  split at failed
  · cases failed
    exact .inl trivial
  · rename_i turned
    cases failed
    exact .inr (.rejected (read_bytes_file.mp found) text turned)
  · exact .inl (own_table_error failed)

theorem load_unreported (unreported : Unreported reader files path e) :
    (load reader files path).value = .error e := by
  rw [load, unreported_read unreported]

theorem load_read {t : Table} (read : readTable reader files path = .ok t) :
    (load reader files path).value = (ofTable t (some path)).value.mapError .settings := by
  rw [load, read]

theorem load_error (failed : (load reader files path).value = .error e) :
    e.Reported ∨ Unreported reader files path e := by
  cases read : readTable reader files path with
  | error cause =>
    rw [load, read] at failed
    cases failed
    exact read_table_error read
  | ok t =>
    rw [load_read read] at failed
    cases given : (ofTable t (some path)).value with
    | ok s =>
      rw [given] at failed
      cases failed
    | error cause =>
      rw [given] at failed
      cases failed
      exact .inl trivial

theorem unreported_silent (unreported : Unreported reader files path e) : ¬ e.Reported := by
  cases unreported <;> exact id

/-- Loading a file gives settings or reports a fault, unless the path, the bytes or the reader is
of one of the three kinds. -/
theorem load_reported_iff (reader : TableReader) (files : System) (path : Path) :
    ((∃ s, (load reader files path).value = .ok s) ∨
        ∃ e : LoadError, (load reader files path).value = .error e ∧ e.Reported) ↔
      ¬ ∃ e, Unreported reader files path e := by
  constructor
  · rintro (⟨s, loaded⟩ | ⟨e, failed, reported⟩) ⟨e', unreported⟩
    · rw [load_unreported unreported] at loaded
      cases loaded
    · rw [load_unreported unreported] at failed
      cases failed
      exact unreported_silent unreported reported
  · intro none
    cases run : (load reader files path).value with
    | ok s => exact .inl ⟨s, rfl⟩
    | error e =>
      rcases load_error run with reported | unreported
      · exact .inr ⟨e, rfl, reported⟩
      · exact absurd ⟨e, unreported⟩ none

end
end Caret.Settings
