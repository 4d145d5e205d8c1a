import Caret.Usage.Request
import Mathlib.Data.List.Basic

/-!
The grammar of the arguments as data. A sentence is a list of arguments cut into its parts, and the
types of the parts admit nothing that the grammar forbids. Main statement: a list of arguments has
at most one cut, although messages and tips may look like keywords. Whether a list of arguments
has a cut is not decided here.
-/
namespace Caret

namespace Level

def isError : Level → Bool
  | .error _ => true
  | .warning => false

def words : Level → List String
  | .error code => [code]
  | .warning => []

end Level

namespace Usage

structure LineText where
  text : String
  unbroken : Text.hasBreak text = false
  deriving Repr

theorem line_text_unique {a b : LineText} (same : a.text = b.text) : a = b := by
  cases a
  cases b
  simp_all

instance : DecidableEq LineText := fun _ _ =>
  decidable_of_iff _ ⟨line_text_unique, congrArg LineText.text⟩

/-- A span as it is typed, in the digits of any script, and the span that it denotes. -/
structure SpanText where
  text : String
  span : Span
  read : Span.parse text = .ok span
  deriving DecidableEq, Repr

inductive Phrase where
  | note (message : String)
  | help (message : String)
  | fix (message : String) (code : LineText) (span : SpanText) (tip : Option String)
  deriving DecidableEq, Repr

namespace Phrase

def words : Phrase → Words
  | note message => ["note", message]
  | help message => ["help", message]
  | fix message code span none => ["fix", message, code.text, span.text]
  | fix message code span (some tip) => ["fix", message, code.text, span.text, "span", tip]

def help? : Phrase → Option HelpDraft
  | note _ => none
  | help message => some ⟨message, none⟩
  | fix message code span tip => some ⟨message, some ⟨code.text, some span.span, tip⟩⟩

def note? : Phrase → Option String
  | note message => some message
  | help _ => none
  | fix _ _ _ _ => none

def group : Phrase → Group
  | note message => .note message
  | help message => .help ⟨message, none⟩
  | fix message code span tip => .help ⟨message, some ⟨code.text, some span.span, tip⟩⟩

end Phrase

structure Opening where
  level : Level
  message : String
  code : LineText
  span : SpanText
  deriving DecidableEq, Repr

def Opening.words (o : Opening) : Words :=
  o.level.words ++ [o.message, o.code.text, o.span.text]

structure Sentence extends Opening where
  phrases : List Phrase
  deriving DecidableEq, Repr

namespace Sentence

def isError (s : Sentence) : Bool := s.level.isError

def words (s : Sentence) : Words := s.toOpening.words ++ s.phrases.flatMap Phrase.words

def request (s : Sentence) : Request :=
  ⟨s.level, s.message, s.code.text, s.span.span, s.phrases.map Phrase.group⟩

/-- What a sentence describes: helps and notes in order, and no message at the primary span. -/
def draft (s : Sentence) (path : String) (line : Int) : Draft :=
  { level := s.level, message := s.message, location := ⟨path, line, s.span.span.first + 1⟩,
    code := s.code.text, span := s.span.span, spanMessage := none,
    helps := s.phrases.filterMap Phrase.help?, notes := s.phrases.filterMap Phrase.note? }

end Sentence

theorem span_text_unique {a b : SpanText} (same : a.text = b.text) : a = b := by
  obtain ⟨text, span, read⟩ := a
  obtain ⟨other, span', read'⟩ := b
  subst same
  have spans : span = span' := Except.ok.inj (read.symm.trans read')
  subst spans
  rfl

theorem phrase_help_of_group (p : Phrase) : p.group.help? = p.help? := by
  cases p <;> rfl

theorem phrase_note_of_group (p : Phrase) : p.group.note? = p.note? := by
  cases p <;> rfl

theorem request_draft (s : Sentence) (path : String) (line : Int) :
    s.request.draft path line = s.draft path line := by
  simp only [Request.draft, Request.helps, Request.notes, Sentence.request, Sentence.draft,
    List.filterMap_map, Function.comp_def, phrase_help_of_group, phrase_note_of_group]

/-- After a `fix` without a tip the word `span` would begin one, so a cut of what follows is only
read back where that word does not come first. -/
def Closed (words : Words) : Prop := words.head? ≠ some "span"

theorem unclosed_tail {words : Words} (unclosed : ¬ Closed words) :
    ∃ tail, words = "span" :: tail := by
  cases words with
  | nil => simp [Closed] at unclosed
  | cons w tail => exact ⟨tail, by simpa [Closed] using unclosed⟩

theorem phrase_words_head (p : Phrase) (rest : Words) : Closed (p.words ++ rest) := by
  cases p with
  | note message => simp [Closed, Phrase.words]
  | help message => simp [Closed, Phrase.words]
  | fix message code span tip => cases tip <;> simp [Closed, Phrase.words]

theorem phrases_words_head (ps : List Phrase) : Closed (ps.flatMap Phrase.words) := by
  cases ps with
  | nil => simp [Closed]
  | cons p rest =>
    rw [List.flatMap_cons]
    exact phrase_words_head p _

theorem phrase_words_unique {p q : Phrase} {rest other : Words} (closed : Closed rest)
    (closed' : Closed other) (same : p.words ++ rest = q.words ++ other) :
    p = q ∧ rest = other := by
  cases p with
  | note m =>
    cases q with
    | note m' => simpa [Phrase.words] using same
    | help m' => simp [Phrase.words] at same
    | fix m' code span tip => cases tip <;> simp [Phrase.words] at same
  | help m =>
    cases q with
    | note m' => simp [Phrase.words] at same
    | help m' => simpa [Phrase.words] using same
    | fix m' code span tip => cases tip <;> simp [Phrase.words] at same
  | fix m code span tip =>
    cases q with
    | note m' => cases tip <;> simp [Phrase.words] at same
    | help m' => cases tip <;> simp [Phrase.words] at same
    | fix m' code' span' tip' =>
      -- The two agree up to the span; what is left is whether both go on with a tip.
      have texts : m = m' ∧ code.text = code'.text ∧ span.text = span'.text := by
        cases tip <;> cases tip' <;> simp_all [Phrase.words]
      obtain ⟨rfl, codes, spans⟩ := texts
      obtain rfl := line_text_unique codes
      obtain rfl := span_text_unique spans
      cases tip with
      | none =>
        cases tip' with
        | none => simpa [Phrase.words] using same
        | some t =>
          simp only [Phrase.words, List.cons_append, List.nil_append, List.cons.injEq,
            true_and] at same
          subst same
          simp [Closed] at closed
      | some t =>
        cases tip' with
        | none =>
          simp only [Phrase.words, List.cons_append, List.nil_append, List.cons.injEq,
            true_and] at same
          subst same
          simp [Closed] at closed'
        | some t' => simpa [Phrase.words] using same

theorem phrases_words_unique {ps qs : List Phrase}
    (same : ps.flatMap Phrase.words = qs.flatMap Phrase.words) : ps = qs := by
  have nonempty (p : Phrase) (rest : Words) : p.words ++ rest ≠ [] := by
    cases p with
    | note m => simp [Phrase.words]
    | help m => simp [Phrase.words]
    | fix m code span tip => cases tip <;> simp [Phrase.words]
  induction ps generalizing qs with
  | nil =>
    cases qs with
    | nil => rfl
    | cons q qs =>
      rw [List.flatMap_nil, List.flatMap_cons] at same
      exact absurd same.symm (nonempty q _)
  | cons p ps ih =>
    cases qs with
    | nil =>
      rw [List.flatMap_nil, List.flatMap_cons] at same
      exact absurd same (nonempty p _)
    | cons q qs =>
      rw [List.flatMap_cons, List.flatMap_cons] at same
      obtain ⟨heads, tails⟩ :=
        phrase_words_unique (phrases_words_head ps) (phrases_words_head qs) same
      rw [heads, ih tails]

theorem sentence_words_unique {s t : Sentence} (kind : s.isError = t.isError)
    (same : s.words = t.words) : s = t := by
  obtain ⟨⟨level, message, code, span⟩, phrases⟩ := s
  obtain ⟨⟨level', message', code', span'⟩, phrases'⟩ := t
  have parts : level = level' ∧ message = message' ∧ code.text = code'.text ∧
      span.text = span'.text ∧ phrases.flatMap Phrase.words = phrases'.flatMap Phrase.words := by
    cases level <;> cases level' <;>
      simp_all [Sentence.isError, Level.isError, Sentence.words, Opening.words, Level.words]
  obtain ⟨rfl, rfl, codes, spans, tails⟩ := parts
  rw [line_text_unique codes, span_text_unique spans, phrases_words_unique tails]

end Usage
end Caret
