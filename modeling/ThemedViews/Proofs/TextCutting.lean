import Mathlib.Data.List.Basic
import Mathlib.Data.List.Induction
import ThemedViews.Text.Basic

/-!
# Cutting and replacing from left to right

A text is cut piece by piece.  A stretch in which the recogniser never begins
anything is copied, and a recognised stretch is taken whole; what comes behind
it is cut as if it stood alone.  Replacing inherits both laws, and splitting
at the first occurrence of a text is located by them.
-/

namespace ThemedViews.Text

/-- What holds of all characters of a text is decided by going through it. -/
instance decidableForallMem (property : Char → Prop) [DecidablePred property] (text : Text) :
    Decidable (∀ character ∈ text, property character) :=
  List.decidableBAll property text

theorem isPrefixOf?_eq_some_iff {needle text rest : Text} :
    needle.isPrefixOf? text = some rest ↔ text = needle ++ rest := by
  rw [List.isPrefixOf?_eq_some_iff_append_eq, eq_comm]

@[simp]
theorem isPrefixOf?_append (needle rest : Text) :
    needle.isPrefixOf? (needle ++ rest) = some rest :=
  isPrefixOf?_eq_some_iff.mpr rfl

theorem isPrefixOf?_eq_none_iff {needle text : Text} :
    needle.isPrefixOf? text = none ↔ ¬ needle <+: text := by
  rw [Option.eq_none_iff_forall_not_mem]
  constructor
  · rintro never ⟨rest, equal⟩
    exact never rest (isPrefixOf?_eq_some_iff.mpr equal.symm)
  · intro notPrefix rest found
    exact notPrefix ⟨rest, (isPrefixOf?_eq_some_iff.mp found).symm⟩

/-- A text stands in another one where it begins at one of its places. -/
theorem contains_iff_isInfix {needle text : Text} : contains needle text = true ↔ needle <:+: text := by
  induction text with
  | nil => simp [contains]
  | cons first text ih =>
      rw [contains, Bool.or_eq_true, ih, List.isPrefixOf_iff_prefix, List.infix_cons_iff]

namespace Cut

variable {α : Type}

/-- A text in front. -/
def pushText (text : Text) : Cut α → Cut α
  | ⟨[], rest⟩ => ⟨[], text ++ rest⟩
  | ⟨(before, found) :: pieces, rest⟩ => ⟨(text ++ before, found) :: pieces, rest⟩

@[simp]
theorem pushText_nil (cut : Cut α) : cut.pushText [] = cut := by
  obtain ⟨_ | ⟨⟨before, found⟩, pieces⟩, rest⟩ := cut <;> rfl

theorem pushText_cons (first : Char) (text : Text) (cut : Cut α) :
    cut.pushText (first :: text) = (cut.pushText text).push first := by
  obtain ⟨_ | ⟨⟨before, found⟩, pieces⟩, rest⟩ := cut <;> rfl

@[simp]
theorem found_pushText (text : Text) (cut : Cut α) : (cut.pushText text).found = cut.found := by
  obtain ⟨_ | ⟨⟨before, found⟩, pieces⟩, rest⟩ := cut <;> rfl

@[simp]
theorem found_pushFound (found : α) (cut : Cut α) :
    (cut.pushFound found).found = found :: cut.found :=
  rfl

@[simp]
theorem fill_pushText (image : α → Text) (text : Text) (cut : Cut α) :
    (cut.pushText text).fill image = text ++ cut.fill image := by
  obtain ⟨_ | ⟨⟨before, found⟩, pieces⟩, rest⟩ := cut <;>
    simp [pushText, fill, List.append_assoc]

@[simp]
theorem fill_pushFound (image : α → Text) (found : α) (cut : Cut α) :
    (cut.pushFound found).fill image = image found ++ cut.fill image := by
  simp [pushFound, fill, List.append_assoc]

end Cut

section Recognisers

variable {α : Type} {recognise : Text → Option (α × Nat)}

@[simp]
theorem cut_nil (recognise : Text → Option (α × Nat)) : cut recognise [] = ⟨[], []⟩ :=
  rfl

theorem cutAfter_length_append (recognise : Text → Option (α × Nat)) (passed rest : Text) :
    cutAfter recognise passed.length (passed ++ rest) = cut recognise rest := by
  induction passed with
  | nil => rfl
  | cons first passed ih => simpa [cutAfter] using ih

/-- Nothing begins in `text`, so it is copied. -/
theorem cut_append_of_forall_none {text rest : Text}
    (never : ∀ suffix, suffix ≠ [] → suffix <:+ text → recognise (suffix ++ rest) = none) :
    cut recognise (text ++ rest) = (cut recognise rest).pushText text := by
  induction text with
  | nil => simp
  | cons first text ih =>
      have atFirst : recognise (first :: (text ++ rest)) = none :=
        never (first :: text) (by simp) List.suffix_rfl
      have behind := ih fun suffix nonempty isSuffix =>
        never suffix nonempty (isSuffix.trans (List.suffix_cons first text))
      rw [Cut.pushText_cons, ← behind]
      simp [cut, cutAfter, atFirst]

theorem cut_of_forall_none {text : Text}
    (never : ∀ suffix, suffix ≠ [] → suffix <:+ text → recognise suffix = none) :
    cut recognise text = ⟨[], text⟩ := by
  have copied : cut recognise (text ++ []) = (cut recognise []).pushText text :=
    cut_append_of_forall_none fun suffix nonempty isSuffix => by
      rw [List.append_nil]
      exact never suffix nonempty isSuffix
  rwa [List.append_nil, cut_nil, Cut.pushText, List.append_nil] at copied

/-- What is recognised at the front is taken whole. -/
theorem cut_append_of_eq_some {text rest : Text} {found : α} (nonempty : text ≠ [])
    (recognised : recognise (text ++ rest) = some (found, text.length)) :
    cut recognise (text ++ rest) = (cut recognise rest).pushFound found := by
  cases text with
  | nil => contradiction
  | cons first text =>
      have atFront : recognise (first :: (text ++ rest)) = some (found, text.length + 1) :=
        recognised
      simp [cut, cutAfter, atFront, cutAfter_length_append]

/-- Either nothing is recognised in a text, or something is recognised first. -/
theorem forall_none_or_exists_first (recognise : Text → Option (α × Nat)) (text : Text) :
    (∀ suffix, suffix ≠ [] → suffix <:+ text → recognise suffix = none) ∨
      ∃ before behind found length, text = before ++ behind ∧ behind ≠ [] ∧
        recognise behind = some (found, length) ∧
        ∀ suffix, suffix ≠ [] → suffix <:+ before → recognise (suffix ++ behind) = none := by
  induction text with
  | nil => exact .inl fun suffix nonempty isSuffix => absurd (List.suffix_nil.mp isSuffix) nonempty
  | cons first text ih =>
      cases here : recognise (first :: text) with
      | some answer =>
          obtain ⟨found, length⟩ := answer
          refine .inr ⟨[], first :: text, found, length, rfl, List.cons_ne_nil _ _, here, ?_⟩
          exact fun suffix nonempty isSuffix => absurd (List.suffix_nil.mp isSuffix) nonempty
      | none =>
          rcases ih with never | ⟨before, behind, found, length, rfl, nonempty, recognised, never⟩
          · refine .inl fun suffix nonempty isSuffix => ?_
            rcases List.suffix_cons_iff.mp isSuffix with rfl | shorter
            · exact here
            · exact never suffix nonempty shorter
          · refine .inr ⟨first :: before, behind, found, length, rfl, nonempty, recognised, ?_⟩
            intro suffix suffixNonempty isSuffix
            rcases List.suffix_cons_iff.mp isSuffix with rfl | shorter
            · exact here
            · exact never suffix suffixNonempty shorter

end Recognisers

theorem occurrence_eq_none_iff {needle text : Text} :
    occurrence needle text = none ↔ ¬ needle <+: text := by
  simp [occurrence, ← List.isPrefixOf_iff_prefix]

theorem replace_eq_fill {needle : Text} (nonempty : needle ≠ []) (image text : Text) :
    replace needle image text = (cut (occurrence needle) text).fill fun _ => image := by
  simp [replace, nonempty]

@[simp]
theorem replace_nil {needle : Text} (nonempty : needle ≠ []) (image : Text) :
    replace needle image [] = [] := by
  simp [replace_eq_fill nonempty, Cut.fill]

theorem replace_needle_append {needle : Text} (nonempty : needle ≠ []) (image rest : Text) :
    replace needle image (needle ++ rest) = image ++ replace needle image rest := by
  have recognised : occurrence needle (needle ++ rest) = some ((), needle.length) := by
    simp [occurrence, List.isPrefixOf_iff_prefix]
  rw [replace_eq_fill nonempty, cut_append_of_eq_some nonempty recognised,
    Cut.fill_pushFound, replace_eq_fill nonempty]

theorem replace_append_of_forall_not_prefix {needle text rest : Text}
    (nonempty : needle ≠ []) (image : Text)
    (never : ∀ suffix, suffix ≠ [] → suffix <:+ text → ¬ needle <+: suffix ++ rest) :
    replace needle image (text ++ rest) = text ++ replace needle image rest := by
  rw [replace_eq_fill nonempty, cut_append_of_forall_none, Cut.fill_pushText,
    replace_eq_fill nonempty]
  intro suffix suffixNonempty isSuffix
  exact occurrence_eq_none_iff.mpr (never suffix suffixNonempty isSuffix)

theorem eq_append_of_splitOnce?_eq_some {needle text before behind : Text}
    (found : splitOnce? needle text = some (before, behind)) :
    text = before ++ (needle ++ behind) := by
  induction text generalizing before with
  | nil => cases found
  | cons first text ih =>
      rw [splitOnce?] at found
      cases here : needle.isPrefixOf? (first :: text) with
      | some left =>
          rw [here] at found
          obtain ⟨rfl, rfl⟩ := Prod.mk.inj (Option.some.inj found)
          rw [isPrefixOf?_eq_some_iff.mp here, List.nil_append]
      | none =>
          rw [here] at found
          obtain ⟨⟨inner, left⟩, further, same⟩ := Option.map_eq_some_iff.mp found
          obtain ⟨rfl, rfl⟩ := Prod.mk.inj same
          rw [ih further]
          rfl

/-- The first occurrence of `needle` is no later than one that is known, and
it ends no later. -/
theorem exists_splitOnce?_eq_some (needle before rest : Text) (nonempty : needle ≠ []) :
    ∃ inner tail, splitOnce? needle (before ++ (needle ++ rest)) = some (inner, tail ++ rest) ∧
      inner <+: before ∧ inner ++ (needle ++ tail) = before ++ needle := by
  induction before with
  | nil =>
      refine ⟨[], [], ?_, List.prefix_rfl, by simp⟩
      cases needle with
      | nil => contradiction
      | cons first needle =>
          have found := isPrefixOf?_append (first :: needle) rest
          rw [List.cons_append] at found
          simp [splitOnce?, found]
  | cons first before ih =>
      cases found : needle.isPrefixOf? (first :: (before ++ (needle ++ rest))) with
      | some behind =>
          have whole : (first :: before ++ needle) ++ rest = needle ++ behind := by
            simpa using isPrefixOf?_eq_some_iff.mp found
          -- The occurrence that is found at the front lies within the known text.
          rcases List.append_eq_append_iff.mp whole with
            ⟨tail, needleEq, _⟩ | ⟨tail, textEq, behindEq⟩
          · have longer := congrArg List.length needleEq
            simp only [List.length_append, List.length_cons] at longer
            omega
          · refine ⟨[], tail, ?_, List.nil_prefix, textEq.symm⟩
            simp [splitOnce?, found, behindEq]
      | none =>
          obtain ⟨inner, tail, split, isPrefix, whole⟩ := ih
          refine ⟨first :: inner, tail, ?_, ?_, by simp [whole]⟩
          · simp [splitOnce?, found, split]
          · simpa using isPrefix

/-- `needle` begins with a character that does not occur before it. -/
theorem splitOnce?_append {first : Char} {before : Text} (needle rest : Text)
    (absent : first ∉ before) :
    splitOnce? (first :: needle) (before ++ (first :: needle ++ rest)) = some (before, rest) := by
  induction before with
  | nil =>
      have found := isPrefixOf?_append (first :: needle) rest
      rw [List.cons_append] at found
      simp [splitOnce?, found]
  | cons other before ih =>
      rw [List.mem_cons, not_or] at absent
      have notHere : (first :: needle).isPrefixOf?
          (other :: (before ++ (first :: needle ++ rest))) = none := by
        rw [isPrefixOf?_eq_none_iff, List.cons_prefix_cons]
        exact fun isPrefix => absent.1 isPrefix.1
      rw [List.cons_append, splitOnce?, notHere, ih absent.2]
      rfl

end ThemedViews.Text
