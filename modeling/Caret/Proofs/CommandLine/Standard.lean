import Caret.CommandLine.Standard
import Caret.Proofs.Text.Unbroken

namespace Caret.CommandLine.Standard

theorem plain_word_rest {word : String} (plain : isOption word = false) (args : List String)
    (d : Draft) : split (word :: args) d = .ok { d with rest := word :: args } := by
  have open_ : (word == "--") = false := by
    rw [beq_eq_false_iff_ne]
    rintro rfl
    cases plain
  simp [split, open_, plain]

/-- Where the options are complete and nothing follows them, a word that is none and everything
behind it is what follows. -/
theorem split_followed {word : String} (plain : isOption word = false) (args front : List String)
    {d d' : Draft} (done : split front d = .ok d') (ended : d'.rest = []) :
    split (front ++ word :: args) d = .ok { d' with rest := word :: args } := by
  -- The induction is on the reader's own steps, since an option may take two words at once.
  fun_induction split front d with
  | case1 d =>
    cases done
    exact plain_word_rest plain args _
  | case2 first later d dashes =>
    cases done
    obtain rfl : later = [] := ended
    simp [split, dashes]
  | case3 => cases done
  | case4 first later d dashes option name attached parts unknown next cluster ih =>
    rw [List.cons_append, split, if_neg dashes, if_pos option]
    simp only [parts, unknown, cluster]
    exact ih done
  | case5 => cases done
  | case6 first later d dashes option name set known parts ih =>
    rw [List.cons_append, split, if_neg dashes, if_pos option]
    simp only [parts, known]
    exact ih done
  | case7 first d dashes option name set known v later parts ih =>
    rw [List.cons_append, split, if_neg dashes, if_pos option]
    simp only [parts, known]
    exact ih done
  | case8 first d dashes option name set known v later parts ih =>
    rw [List.cons_append, List.cons_append, split, if_neg dashes, if_pos option]
    simp only [parts, known]
    exact ih done
  | case9 => cases done
  | case10 =>
    cases done
    cases ended

def Draft.louder (k : Nat) (d : Draft) : Draft := { d with verbose := d.verbose + k }

theorem flag_louder {name : String} {set : Draft → Draft}
    (known : longOption name = some (.flag set)) (k : Nat) (d : Draft) :
    set (d.louder k) = (set d).louder k := by
  unfold longOption at known
  split at known <;> cases known
  · rfl
  · simp only [askVerbose, Draft.louder, Nat.add_right_comm]
  · rfl

theorem value_louder {name : String} {set : String → Draft → Draft}
    (known : longOption name = some (.value set)) (v : String) (k : Nat) (d : Draft) :
    set v (d.louder k) = (set v d).louder k := by
  unfold longOption at known
  split at known <;> cases known <;> rfl

theorem letter_louder {c : Char} {set : Draft → Draft} (known : letterOption c = some set)
    (k : Nat) (d : Draft) : set (d.louder k) = (set d).louder k := by
  unfold letterOption at known
  split at known <;> cases known
  · simp only [askVerbose, Draft.louder, Nat.add_right_comm]
  · rfl

theorem letters_louder (k : Nat) (cs : List Char) (d : Draft) :
    applyLetters letterOption cs (d.louder k) =
      (applyLetters letterOption cs d).map (Draft.louder k) := by
  induction cs generalizing d with
  | nil => rfl
  | cons c cs ih =>
    cases known : letterOption c with
    | none => simp only [applyLetters, known, Except.map]
    | some set => simp only [applyLetters, known, letter_louder known, ih]

theorem cluster_louder (k : Nat) (word name : String) (d : Draft) :
    applyCluster letterOption word name (d.louder k) =
      (applyCluster letterOption word name d).map (Draft.louder k) := by
  unfold applyCluster
  split
  · rfl
  · exact letters_louder k _ d
  · rfl

theorem split_louder (k : Nat) (words : List String) (d : Draft) :
    split words (d.louder k) = (split words d).map (Draft.louder k) := by
  fun_induction split words d with
  | case1 d => rfl
  | case2 word rest d dashes => simp [split, dashes, Except.map, Draft.louder]
  | case3 word rest d dashes option name attached parts unknown e failed =>
    have failed' := cluster_louder k word name d
    rw [failed] at failed'
    simp [split, dashes, option, parts, unknown, failed', Except.map]
  | case4 word rest d dashes option name attached parts unknown next cluster ih =>
    have cluster' := cluster_louder k word name d
    rw [cluster] at cluster'
    simp [split, dashes, option, parts, unknown, cluster', Except.map, ih]
  | case5 word rest d dashes option name set known v parts =>
    simp [split, dashes, option, parts, known, Except.map]
  | case6 word rest d dashes option name set known parts ih =>
    simp [split, dashes, option, parts, known, flag_louder known, ih]
  | case7 word d dashes option name set known v rest parts ih =>
    simp [split, dashes, option, parts, known, value_louder known, ih]
  | case8 word d dashes option name set known v rest parts ih =>
    simp [split, dashes, option, parts, known, value_louder known, ih]
  | case9 word d dashes option name set known parts =>
    simp [split, dashes, option, parts, known, Except.map]
  | case10 word rest d dashes plain => simp [split, dashes, plain, Except.map, Draft.louder]

theorem split_requests (k : Nat) (words : List String) (d : Draft) :
    split (List.replicate k "-v" ++ words) d = split words (d.louder k) := by
  induction k generalizing d with
  | zero => rfl
  | succ k ih =>
    have asked : split ("-v" :: (List.replicate k "-v" ++ words)) d =
      split (List.replicate k "-v" ++ words) (askVerbose d) := rfl
    rw [List.replicate_succ, List.cons_append, asked, ih]
    simp only [askVerbose, Draft.louder, Nat.add_assoc, Nat.add_comm 1 k]

theorem read_requests (k : Nat) (words : List String) :
    Draft.read (List.replicate k "-v" ++ words) = (Draft.read words).map (Draft.louder k) := by
  rw [Draft.read, split_requests, split_louder]
  rfl

theorem opening_louder (argv : List String) (k : Nat) :
    Opening.Louder k (opening argv) (opening (List.replicate k "-v" ++ argv)) := by
  have louder := read_requests k argv
  unfold opening
  rw [louder]
  cases Draft.read argv with
  | error e => exact .mistaken _ _
  | ok d =>
    cases asked : d.eager with
    | cons first later =>
      simp only [Except.map, Draft.louder, asked]
      exact .answered _
    | nil =>
      simp only [Except.map, Draft.louder, asked, Draft.lineNumber]
      split
      · exact .mistaken _ _
      · exact .opened _

theorem opening_opened {argv : List String} {o : Options} (opened : opening argv = .opened o) :
    ∃ d line, Draft.read argv = .ok d ∧ d.eager = [] ∧ d.lineNumber = .ok line ∧
      o = ⟨d.verbose, line, d.path, d.config, d.rest⟩ := by
  unfold opening at opened
  cases options : Draft.read argv with
  | error e =>
    rw [options] at opened
    cases opened
  | ok d =>
    rw [options] at opened
    cases asked : d.eager with
    | cons first later =>
      simp only [asked] at opened
      cases opened
    | nil =>
      cases numbered : d.lineNumber with
      | error e =>
        simp only [asked, numbered] at opened
        cases opened
      | ok line =>
        simp only [asked, numbered] at opened
        cases opened
        exact ⟨d, line, rfl, asked, numbered, rfl⟩

theorem opening_positive {argv : List String} {o : Options} {n : Int}
    (opened : opening argv = .opened o) (line : o.line = some n) : 1 ≤ n := by
  obtain ⟨d, line', -, -, numbered, rfl⟩ := opening_opened opened
  obtain rfl : line' = some n := line
  unfold Draft.lineNumber at numbered
  split at numbered
  · cases numbered
  · split at numbered
    · cases numbered
    · split at numbered
      · cases numbered
      · cases numbered
        omega

theorem opening_followed {front : List String} {o : Options} (opened : opening front = .opened o)
    (ended : o.rest = []) (c : Command) (args : List String) :
    opening (front ++ c.word :: args) = .opened { o with rest := c.word :: args } := by
  obtain ⟨d, line, options, asked, numbered, rfl⟩ := opening_opened opened
  have plain : isOption c.word = false := by cases c <;> rfl
  have read : Draft.read (front ++ c.word :: args) = .ok { d with rest := c.word :: args } :=
    split_followed plain args front options ended
  rw [Draft.lineNumber] at numbered
  simp only [opening, read, asked, Draft.lineNumber, numbered]

theorem raw_front {front : List String} (undashed : "--" ∉ front) (rest : List String) :
    rawWords (front ++ rest) = front ++ rawWords rest := by
  have all : ∀ w ∈ front, (w != "--") = true := by
    intro w member
    rw [bne_iff_ne]
    rintro rfl
    exact undashed member
  rw [rawWords, List.takeWhile_append_of_pos all, List.dropWhile_append_of_pos all,
    List.append_assoc]
  rfl

theorem raw_unchanged {words : List String} (undashed : "--" ∉ words) : rawWords words = words := by
  have whole := raw_front undashed []
  rw [List.append_nil] at whole
  rw [whole]
  exact List.append_nil words

theorem raw_without {before : List String} (undashed : "--" ∉ before) (after : List String) :
    rawWords (before ++ "--" :: after) = before ++ after := by
  have dropped : rawWords ("--" :: after) = after := rfl
  rw [raw_front undashed, dropped]

theorem reading_raw {c : Command} (draws : c.draws = true) (words : List String) :
    toolkit.reading c words = .given (rawWords words) := by
  cases c with
  | help => cases draws
  | «example» => cases draws
  | error => rfl
  | warning => rfl

theorem main_called {hooks : Hooks} {argv : List String} {o : Options}
    (opened : opening argv = .opened o) : toolkit.main hooks argv = call hooks o := by
  simp only [toolkit, main, opened]

theorem documented : toolkit.Documented where
  mistaken {hooks argv message} wrong := by
    have wrong : opening argv = .mistaken message := wrong
    simp only [toolkit, main, wrong]
  answered {hooks argv text} asked := by
    have asked : opening argv = .answered text := asked
    simp only [toolkit, main, asked]
  alone opened bare := by simp only [main_called opened, call, bare]
  called opened given := by
    simp only [main_called opened, call, given]
    rfl
  positive := opening_positive
  counted := opening_louder
  followed := opening_followed
  raw draws undashed := by rw [reading_raw draws, raw_unchanged undashed]
  dashed draws undashed := by rw [reading_raw draws, raw_without undashed]

theorem message_unbroken (e : Mistake) : Text.hasBreak e.message = false := by
  have around {front text back : String} (before : Text.hasBreak front = false)
      (inside : Text.hasBreak text = false) (behind : Text.hasBreak back = false) :
      Text.hasBreak (front ++ text ++ back) = false :=
    Text.unbroken_append (Text.unbroken_append before inside) behind
  cases e with
  | unknown name => exact around (by decide) (Text.quote_unbroken name) (by decide)
  | valueMissing name => exact around (by decide) (Text.quote_unbroken name) (by decide)
  | valueSuperfluous name => exact around (by decide) (Text.quote_unbroken name) (by decide)
  | notInteger text => exact around (by decide) (Text.quote_unbroken text) (by decide)
  | belowOne value => exact around (by decide) (Text.int_unbroken value) (by decide)

theorem flat : toolkit.Flat := by
  intro argv message wrong
  have wrong : opening argv = .mistaken message := wrong
  unfold opening at wrong
  split at wrong
  · cases wrong
    exact message_unbroken _
  · split at wrong
    · cases wrong
    · split at wrong
      · cases wrong
        exact message_unbroken _
      · cases wrong

/-- Libraries that say as little as they can. -/
def terse : Libraries := libraries (fun _ => "") fun _ => ⟨"", 1, ""⟩

theorem terse_documented : terse.kit.Documented := documented

end Caret.CommandLine.Standard
