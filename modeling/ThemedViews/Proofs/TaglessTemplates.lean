import ThemedViews.Proofs.PathValues

/-!
# Templates without tags

A text in which no tag begins is a template that comes to itself, with all its
blanks and single braces.  To give such a text back without reading it as a
template makes no difference.
-/

namespace ThemedViews

namespace Template

variable {text : Text}

/-- The pairs of characters that begin a tag. -/
def tagStarts : List Text :=
  [['{', '{'], ['{', '%'], ['{', '#']]

/-- No tag begins anywhere in a text. -/
def Tagless (text : Text) : Prop :=
  ∀ start ∈ tagStarts, ¬ start <:+: text

theorem hasTags_eq_false_iff : hasTags text = false ↔ Tagless text := by
  have expression : "\x7b\x7b".toList = ['{', '{'] := rfl
  have statement : "\x7b%".toList = ['{', '%'] := rfl
  have comment : "\x7b#".toList = ['{', '#'] := rfl
  rw [hasTags, expression, statement, comment]
  simp [Tagless, tagStarts, ← Text.contains_iff_isInfix, and_assoc]

theorem Tagless.untagged (tagless : Tagless text) : Untagged text [] := by
  induction text with
  | nil => trivial
  | cons first text ih =>
      have behind : Tagless text := fun start isStart occurs =>
        tagless start isStart (occurs.trans (List.suffix_cons first text).isInfix)
      refine ⟨fun opens => ?_, ih behind⟩
      rw [List.append_nil] at opens
      rcases opens with expression | statement | comment
      · exact tagless _ (by simp [tagStarts]) expression.isInfix
      · exact tagless _ (by simp [tagStarts]) statement.isInfix
      · exact tagless _ (by simp [tagStarts]) comment.isInfix

theorem renderText_of_tagless (tagless : Tagless text) (data : Scope) : renderText text data = .ok text := by
  have placed : Placed text [] := tagless.untagged
  have rendered : renderText (text ++ printed []) data = .ok (filledWith (fun _ => []) text []) :=
    renderText_printed placed fun _ member => absurd member List.not_mem_nil
  simpa [printed, filledWith] using rendered

/-- Every text is rendered as if it had been read as a template: one in which no
tag begins comes to itself. -/
theorem renderTags_eq_of_reading (text : Text) (data : Scope) :
    (Tagless text → renderText text data = .ok text) ∧
      renderTags text data = (renderText text data).mapError (diagnose text data) := by
  refine ⟨fun tagless => renderText_of_tagless tagless data, ?_⟩
  rw [renderTags]
  split
  · rfl
  · next noTags =>
      rw [Bool.not_eq_true, hasTags_eq_false_iff] at noTags
      rw [renderText_of_tagless noTags data]
      rfl

/-- Closing pairs, single braces and blanks on both ends. -/
def looseBraces : Text :=
  " \t\x7b %\x7d-#\x7d \x7d\x7d \x7ba\x7d é\x7b\x7d% \x7b\n".toList

theorem renderTags_eq_of_reading_looseBraces :
    Tagless looseBraces ∧ renderText looseBraces [] = .ok looseBraces ∧
      renderTags looseBraces [] = .ok looseBraces := by
  have tagless : Tagless looseBraces := hasTags_eq_false_iff.mp (by decide)
  obtain ⟨rendered, read⟩ := renderTags_eq_of_reading looseBraces []
  refine ⟨tagless, rendered tagless, ?_⟩
  rw [read, rendered tagless]
  rfl

end Template

end ThemedViews
