import Caret.Proofs.Drawing.Lacks

namespace Caret

structure Marker.Legible (m : Marker) : Prop where
  message : ∀ text, m.message = some text → Unescaped text
  visible : m.symbol ≠ ' '
  symbol : m.symbol ≠ Style.esc

structure Line.Legible (l : Line) : Prop where
  text : Unescaped l.text
  marker : ∀ m, l.marker = some m → m.Legible
  fits : ∀ m, l.marker = some m → m.inline = true → m.span.fits l.text.length = true

def Excerpt.Legible (e : Excerpt) : Prop := ∀ l ∈ e.lines, l.Legible

structure Help.Legible (h : Help) : Prop where
  message : Unescaped h.message
  suggestion : ∀ e, h.suggestion = some e → e.Legible

structure Diagnostic.Legible (d : Diagnostic) : Prop where
  code : ∀ code, d.level = .error code → Unescaped code
  message : Unescaped d.message
  path : Unescaped d.location.path
  excerpt : d.excerpt.Legible
  helps : ∀ h ∈ d.helps, h.Legible
  notes : ∀ n ∈ d.notes, Unescaped n

theorem Marker.Legible.lacks {m : Marker} (legible : m.Legible) : m.Lacks Style.esc :=
  ⟨legible.symbol, legible.message⟩

theorem Line.Legible.lacks {l : Line} (legible : l.Legible) : l.Lacks Style.esc :=
  ⟨legible.text, fun m marked => (legible.marker m marked).lacks⟩

theorem Excerpt.Legible.lacks {e : Excerpt} (legible : e.Legible) : e.Lacks Style.esc :=
  fun l member => (legible l member).lacks

theorem Help.Legible.lacks {h : Help} (legible : h.Legible) : h.Lacks Style.esc :=
  ⟨legible.message, fun e suggested => (legible.suggestion e suggested).lacks⟩

theorem Diagnostic.Legible.lacks {d : Diagnostic} (legible : d.Legible) : d.Lacks Style.esc :=
  ⟨legible.code, legible.message, legible.path, legible.excerpt.lacks,
    fun h member => (legible.helps h member).lacks, legible.notes⟩

theorem Drawing.diagnostic_clean (p : Palette) {d : Diagnostic} (legible : d.Legible) :
    Clean (diagnosticCells p d) := by
  rw [diagnostic_rows]
  exact rows_bare p (by decide) (by decide) (diagnostic_rows_lack legible.lacks)

end Caret
