import Mathlib.Data.List.ProdSigma
import ThemedViews.Template.Diagnosis

/-!
# Lines around an error

The lines that are shown with an error are a window of those of the text, up to a number of lines
before and behind the line of the error.  The window ends where the text does, and nothing is shown
for a line that the text does not have.  The window has to end within the words: there is no result
for a line of the text if its number and the size of the window together are no word.
-/

namespace ThemedViews

theorem Word.sum?_of_lt {left right : Nat} (fits : left + right < unsignedLimit) :
    sum? left right = some (left + right) :=
  if_pos fits

theorem Word.sum?_eq_none_iff {left right : Nat} :
    sum? left right = none ↔ unsignedLimit ≤ left + right := by
  rw [sum?]
  split
  · next fits => exact ⟨nofun, fun large => absurd fits (Nat.not_lt.mpr large)⟩
  · next large => exact ⟨fun _ => Nat.not_lt.mp large, fun _ => rfl⟩

namespace Template

theorem slice?_of_le {α : Type} {start stop : Nat} {items : List α} (ordered : start ≤ stop)
    (within : stop ≤ items.length) : slice? start stop items = some ((items.take stop).drop start) :=
  if_pos ⟨ordered, within⟩

section Windows

variable {text content : Text} {line around number : Nat} {shown : List (Nat × Text)}

theorem contextLines_of_outside (outside : ¬ (1 ≤ line ∧ line ≤ (Text.lines text).length)) :
    contextLines text line around = some [] := by
  rw [contextLines, if_pos]
  simp only [Bool.or_eq_true, decide_eq_true_eq]
  omega

/-- The window around a line of the text, where its positions are words: it is a slice within the
lines. -/
theorem contextLines_of_fits (first : 1 ≤ line) (last : line ≤ (Text.lines text).length)
    (fits : line + around < Word.unsignedLimit) :
    contextLines text line around =
      some (((((Text.lines text).take (min (line + around) (Text.lines text).length)).drop
        (line - (around + 1))).zipIdx (line - (around + 1) + 1)).map Prod.swap) := by
  have before : Word.sum? around 1 = some (around + 1) := Word.sum?_of_lt (by omega)
  have behind : Word.sum? line around = some (line + around) := Word.sum?_of_lt fits
  have ordered : line - (around + 1) ≤ min (line + around) (Text.lines text).length := by omega
  have sliced := slice?_of_le ordered (Nat.min_le_right _ (Text.lines text).length)
  rw [contextLines, if_neg]
  · simp only [before, behind, sliced, Option.bind_eq_bind, Option.bind_some, Option.pure_def]
  · simp only [Bool.or_eq_true, decide_eq_true_eq]
    omega

/-- There is no window exactly where the text has the line, but the window would end behind the words. -/
theorem contextLines_eq_none_iff : contextLines text line around = none ↔
    (1 ≤ line ∧ line ≤ (Text.lines text).length) ∧ Word.unsignedLimit ≤ line + around := by
  by_cases isLine : 1 ≤ line ∧ line ≤ (Text.lines text).length
  · by_cases fits : line + around < Word.unsignedLimit
    · rw [contextLines_of_fits isLine.1 isLine.2 fits]
      exact ⟨nofun, fun large => absurd fits (Nat.not_lt.mpr large.2)⟩
    · have large := Nat.not_lt.mp fits
      refine ⟨fun _ => ⟨isLine, large⟩, fun _ => ?_⟩
      have behind : Word.sum? line around = none := Word.sum?_eq_none_iff.mpr large
      rw [contextLines, if_neg]
      · cases before : Word.sum? around 1 <;> simp [behind]
      · simp only [Bool.or_eq_true, decide_eq_true_eq]
        omega
  · rw [contextLines_of_outside isLine]
    exact ⟨nofun, fun large => absurd large.1 isLine⟩

/-- Which lines are shown: those within the window, with their numbers. -/
theorem mem_contextLines_iff (computed : contextLines text line around = some shown) :
    (number, content) ∈ shown ↔
      (1 ≤ line ∧ line ≤ (Text.lines text).length) ∧
        max 1 (line - around) ≤ number ∧ number ≤ min (Text.lines text).length (line + around) ∧
        (Text.lines text)[number - 1]? = some content := by
  by_cases isLine : 1 ≤ line ∧ line ≤ (Text.lines text).length
  · have fits : line + around < Word.unsignedLimit := by
      refine Nat.not_le.mp fun large => ?_
      rw [contextLines_eq_none_iff.mpr ⟨isLine, large⟩] at computed
      cases computed
    rw [contextLines_of_fits isLine.1 isLine.2 fits] at computed
    obtain rfl := Option.some.inj computed
    rw [List.mem_map_swap, List.mk_mem_zipIdx_iff_le_and_getElem?_sub, List.getElem?_drop,
      List.getElem?_take, Option.ite_none_right_eq_some]
    constructor
    · rintro ⟨behind, before, found⟩
      have position : line - (around + 1) + (number - (line - (around + 1) + 1)) = number - 1 := by omega
      rw [position] at before found
      exact ⟨isLine, by omega, by omega, found⟩
    · rintro ⟨-, behind, before, found⟩
      have position : line - (around + 1) + (number - (line - (around + 1) + 1)) = number - 1 := by omega
      rw [position]
      exact ⟨by omega, by omega, found⟩
  · rw [contextLines_of_outside isLine] at computed
    obtain rfl := Option.some.inj computed
    exact ⟨nofun, fun within => absurd within.1 isLine⟩

end Windows

example : contextLines "a\nb\nc\nd\n".toList 4 2 = some [(2, ['b']), (3, ['c']), (4, ['d'])] := by
  decide

end Template

end ThemedViews
