import ThemedViews.Proofs.CacheHistories
import ThemedViews.Proofs.ViewPaths

/-!
# View names with files of their own

A view name is a list of segments with dots between them.  If no segment is empty and
none has a separator of its own, the segments are the names of the directories and of
the file, so that two such names never have a file in common.  In general they may:
`/home` and `home` do.
-/

namespace ThemedViews

open Text

namespace Path

/-- A text begins like the first of the parts that it is split into, if that is not empty. -/
theorem head?_eq_of_splitOn {separator : Char} {text part : Text} {parts : List Text}
    (split : text.splitOn separator = part :: parts) (nonempty : part ≠ []) : text.head? = part.head? := by
  cases text with
  | nil =>
      rw [List.splitOn_nil, List.cons.injEq] at split
      exact absurd split.1.symm nonempty
  | cons first text =>
      obtain ⟨head, rest, within⟩ := List.exists_cons_of_ne_nil (List.splitOn_ne_nil separator text)
      rw [List.splitOn_cons_eq_if_modifyHead, within] at split
      split_ifs at split
      · rw [List.cons.injEq] at split
        exact absurd split.1.symm nonempty
      · rw [List.modifyHead_cons, List.cons.injEq] at split
        rw [← split.1, List.head?_cons, List.head?_cons]

end Path

namespace Resolver

/-- What stands between the dots of a view name. -/
def segments (name : String) : List Text :=
  name.toList.splitOn '.'

/-- A view name that is no alias, and of which nothing is dropped on the way to its file. -/
structure IsDotted (name : String) : Prop where
  literal : ∀ key, name ≠ "name: " ++ key
  isSegment : ∀ segment ∈ segments name, segment ≠ [] ∧ '/' ∉ segment
  begins : ∀ segment ∈ (segments name).head?, segment.head? ≠ some '\\'

theorem intercalate_segments (name : String) : ['.'].intercalate (segments name) = name.toList :=
  List.intercalate_splitOn '.'

theorem segments_injective : Function.Injective segments := by
  intro one other same
  rw [← String.toList_inj, ← intercalate_segments, ← intercalate_segments, same]

theorem dot_not_mem_segment {name : String} {segment : Text} (member : segment ∈ segments name) :
    '.' ∉ segment := by
  have nothingBehind : '.' ∉ ([] : Text) := List.not_mem_nil
  obtain ⟨above, last, split, -, parts⟩ := Path.exists_splitOn_append name.toList nothingBehind
  rw [segments, split] at member
  exact (parts segment member).1

theorem replace_of_dotless {text : Text} (dotless : '.' ∉ text) : Text.replace ['.'] ['/'] text = text := by
  rw [replace_dots_eq_map]
  refine (List.map_congr_left fun character member => if_neg ?_).trans (List.map_id' text)
  rintro rfl
  exact dotless member

theorem replace_intercalate {parts : List Text} (dotless : ∀ part ∈ parts, '.' ∉ part) :
    Text.replace ['.'] ['/'] (['.'].intercalate parts) = ['/'].intercalate parts := by
  induction parts with
  | nil => simp
  | cons part parts ih =>
      rw [List.forall_mem_cons] at dotless
      have first := replace_of_dotless dotless.1
      cases parts with
      | nil => rwa [List.intercalate_singleton, List.intercalate_singleton]
      | cons next parts =>
          have rest := ih dotless.2
          rw [replace_dots_eq_map] at first rest ⊢
          rw [List.intercalate_cons_cons, List.intercalate_cons_cons, List.map_append, List.map_append,
            first, rest]
          rfl

namespace IsDotted

variable {name : String}

/-- With slashes for dots the segments are what stands between slashes. -/
theorem splitOn_replace (dotted : IsDotted name) :
    (Text.replace ['.'] ['/'] name.toList).splitOn '/' = segments name := by
  have replaced : Text.replace ['.'] ['/'] name.toList = ['/'].intercalate (segments name) := by
    rw [← replace_intercalate fun _ member => dot_not_mem_segment member, intercalate_segments]
  rw [replaced]
  exact List.splitOn_intercalate '/' (fun segment member => (dotted.isSegment segment member).2)
    (List.splitOn_ne_nil '.' name.toList)

/-- No character is dropped in front. -/
theorem dropWhile_replace (dotted : IsDotted name) :
    (Text.replace ['.'] ['/'] name.toList).dropWhile isSeparator = Text.replace ['.'] ['/'] name.toList := by
  obtain ⟨segment, rest, split⟩ : ∃ segment rest, segments name = segment :: rest :=
    List.exists_cons_of_ne_nil (List.splitOn_ne_nil '.' name.toList)
  obtain ⟨nonempty, unseparated⟩ := dotted.isSegment segment (by simp [split])
  have notBackslash := dotted.begins segment (by simp [split])
  have sameHead := Path.head?_eq_of_splitOn (dotted.splitOn_replace.trans split) nonempty
  refine dropWhile_eq_self_of_stops ?_
  obtain ⟨first, segment, rfl⟩ := List.exists_cons_of_ne_nil nonempty
  obtain ⟨behind, replaced⟩ := List.head?_eq_some_iff.mp sameHead
  rw [replaced, stops_cons, isSeparator, Bool.or_eq_false_iff, decide_eq_false_iff_not, decide_eq_false_iff_not]
  exact ⟨fun isSlash => unseparated (by simp [isSlash]),
    fun isBackslash => notBackslash (by simp [isBackslash])⟩

end IsDotted

/-- The segments are the names of the directories and of the file. -/
theorem exists_components_fileOf (resolver : Resolver) {name : String} (dotted : IsDotted name) :
    ∃ directories last, segments name = directories ++ [last] ∧
      (resolver.fileOf name).components =
        resolver.views.components ++ (directories ++ [last ++ ".html".toList]).map .normal := by
  obtain ⟨_, directories, last, split, names, -⟩ :=
    Path.exists_names_of_dotless (dot_not_mem_replace name.toList)
  have segmentsEq : segments name = directories ++ [last] := dotted.splitOn_replace.symm.trans split
  have kept : directories.filter (· ≠ []) = directories := by
    rw [List.filter_eq_self]
    intro directory member
    have nonempty := (dotted.isSegment directory (by simp [segmentsEq, member])).1
    simpa using nonempty
  refine ⟨directories, last, segmentsEq, ?_⟩
  rw [components_fileOf, relativeFile_eq, dotted.dropWhile_replace, names, kept]

theorem eq_of_components_fileOf_eq (resolver : Resolver) {one other : String} (oneDotted : IsDotted one)
    (otherDotted : IsDotted other)
    (same : (resolver.fileOf one).components = (resolver.fileOf other).components) : one = other := by
  obtain ⟨directories, last, oneEq, oneComponents⟩ := resolver.exists_components_fileOf oneDotted
  obtain ⟨others, final, otherEq, otherComponents⟩ := resolver.exists_components_fileOf otherDotted
  rw [oneComponents, otherComponents, List.append_cancel_left_eq] at same
  have sameNames := List.map_injective_iff.mpr (fun _ _ => Path.Component.normal.inj) same
  obtain ⟨rfl, sameFile⟩ := List.append_inj' sameNames rfl
  obtain rfl : last = final := by simpa using sameFile
  exact segments_injective (oneEq.trans otherEq.symm)

/-- Whatever the theme and the aliases are, two dotted view names that differ lead to paths that
differ, and to load the one changes nothing of what is kept for the other. -/
theorem exists_candidates_of_isDotted (resolver : Resolver) {one other : String} (oneDotted : IsDotted one)
    (otherDotted : IsDotted other) :
    ∃ path another, resolver.candidate one = .ok path ∧ resolver.candidate other = .ok another ∧
      (path.components = another.components → one = other) ∧
      (one ≠ other → ∀ files cache,
        (ContentCache.load files path cache).2.find? another = cache.find? another) := by
  have injective := resolver.eq_of_components_fileOf_eq oneDotted otherDotted
  refine ⟨resolver.fileOf one, resolver.fileOf other, ?_, ?_, injective, ?_⟩
  · rw [candidate_eq, resolver.viewName_of_literal oneDotted.literal, Except.map]
  · rw [candidate_eq, resolver.viewName_of_literal otherDotted.literal, Except.map]
  · intro different files cache
    exact ContentCache.find?_load_of_ne files (fun same => different (injective same)) cache

theorem exists_candidates_of_isDotted_home :
    let resolver : Resolver := ⟨⟨"themes"⟩, "main", [("home", "home.about")]⟩
    IsDotted "home.index" ∧ IsDotted "home\\index" ∧ ∃ path another,
      resolver.candidate "home.index" = .ok path ∧ resolver.candidate "home\\index" = .ok another ∧
      path.components ≠ another.components ∧
      ∀ files cache, (ContentCache.load files path cache).2.find? another = cache.find? another := by
  have literal (name : String) (begins : name.toList.head? = some 'h') (key : String) :
      name ≠ "name: " ++ key := by
    rintro rfl
    simp at begins
  have one : IsDotted "home.index" := ⟨literal _ (by decide), by decide, by decide⟩
  have other : IsDotted "home\\index" := ⟨literal _ (by decide), by decide, by decide⟩
  obtain ⟨path, another, leads, leadsOther, injective, unchanged⟩ :=
    exists_candidates_of_isDotted ⟨⟨"themes"⟩, "main", [("home", "home.about")]⟩ one other
  have different : "home.index" ≠ "home\\index" := by decide
  exact ⟨one, other, path, another, leads, leadsOther, fun same => different (injective same),
    unchanged different⟩

-- a name that begins with a separator shares its file with another one
example : fileOf ⟨⟨"themes"⟩, "main", []⟩ "/home" = fileOf ⟨⟨"themes"⟩, "main", []⟩ "home" := by
  decide

end Resolver

end ThemedViews
