import ThemedViews.Proofs.PrintedTags
import ThemedViews.Proofs.TextCutting
import ThemedViews.View.Rendering

/-!
# Where the files of views are

A view name is turned into a path that begins at the directory of the views of a
theme.  No name leads out of it: what stands behind that directory are names of
directories and the name of one file, whatever characters the view name has.  An
alias stands for a view name that is taken as it is.
-/

namespace ThemedViews

open Text

namespace Path

/-- The name of something in a directory. -/
def IsName (name : Text) : Prop :=
  name ≠ [] ∧ name ≠ ['.'] ∧ name ≠ ['.', '.'] ∧ '/' ∉ name

theorem component?_of_isName {name : Text} (isName : IsName name) :
    component? name = some (.normal name) := by
  obtain ⟨nonempty, notDot, notDots, _⟩ := isName
  simp [component?, nonempty, notDot, notDots]

/-- What is behind a text with separators belongs to its last part. -/
theorem exists_splitOn_append {separator : Char} (text : Text) {ending : Text}
    (absent : separator ∉ ending) :
    ∃ above last, text.splitOn separator = above ++ [last] ∧
      (text ++ ending).splitOn separator = above ++ [last ++ ending] ∧
      ∀ name ∈ above ++ [last], separator ∉ name ∧ name ⊆ text := by
  induction text with
  | nil => exact ⟨[], [], by simp, by simp [List.splitOn_eq_singleton absent], by simp⟩
  | cons first text ih =>
      obtain ⟨above, last, alone, split, parts⟩ := ih
      rw [List.cons_append, List.splitOn_cons_eq_if_modifyHead, List.splitOn_cons_eq_if_modifyHead, alone, split]
      by_cases same : first = separator
      · refine ⟨[] :: above, last, by simp [same], by simp [same], ?_⟩
        intro name member
        rw [List.cons_append, List.mem_cons] at member
        rcases member with rfl | later
        · simp
        · obtain ⟨unseparated, within⟩ := parts name later
          exact ⟨unseparated, List.subset_cons_of_subset first within⟩
      · have longer {name : Text} (isPart : separator ∉ name ∧ name ⊆ text) :
            separator ∉ first :: name ∧ first :: name ⊆ first :: text :=
          ⟨by simp [Ne.symm same, isPart.1], List.cons_subset_cons first isPart.2⟩
        have others {name : Text} (isPart : separator ∉ name ∧ name ⊆ text) :
            separator ∉ name ∧ name ⊆ first :: text :=
          ⟨isPart.1, List.subset_cons_of_subset first isPart.2⟩
        cases above with
        | nil =>
            refine ⟨[], first :: last, by simp [same], by simp [same], ?_⟩
            simpa using longer (parts last (by simp))
        | cons part above =>
            refine ⟨(first :: part) :: above, last, by simp [same], by simp [same], ?_⟩
            rw [List.cons_append, List.forall_mem_cons] at parts ⊢
            exact ⟨longer parts.1, fun name member => others (parts.2 name member)⟩

/-- A text without dots names directories, and with the extension behind it a
file. -/
theorem exists_names_of_dotless {text : Text} (dotless : '.' ∉ text) :
    ['.'] ∉ (text ++ ".html".toList).splitOn '/' ∧
      ∃ above last, text.splitOn '/' = above ++ [last] ∧
        ((text ++ ".html".toList).splitOn '/').filterMap component? =
          (above.filter (· ≠ []) ++ [last ++ ".html".toList]).map .normal ∧
        ∀ name ∈ above.filter (· ≠ []) ++ [last ++ ".html".toList], IsName name := by
  have unseparated : '/' ∉ ".html".toList := by decide
  obtain ⟨above, last, alone, split, parts⟩ := exists_splitOn_append text unseparated
  have plain : ∀ name ∈ above, '.' ∉ name := fun name member within =>
    dotless ((parts name (List.mem_append_left _ member)).2 within)
  have fileIsName : IsName (last ++ ".html".toList) := by
    have long : 2 < (last ++ ".html".toList).length := by simp
    have differs {name : Text} (short : name.length ≤ 2) : last ++ ".html".toList ≠ name := by
      rintro rfl
      omega
    refine ⟨differs (by simp), differs (by simp), differs (by simp), ?_⟩
    have lastUnseparated := (parts last (by simp)).1
    simp [lastUnseparated]
  have isName : ∀ name ∈ above.filter (· ≠ []), IsName name := by
    intro name member
    obtain ⟨member, nonempty⟩ := List.mem_filter.mp member
    refine ⟨by simpa using nonempty, ?_, ?_, (parts name (List.mem_append_left _ member)).1⟩
    · rintro rfl
      exact plain _ member (by simp)
    · rintro rfl
      exact plain _ member (by simp)
  have aboveEq : above.filterMap component? = (above.filter (· ≠ [])).map .normal := by
    rw [← List.filterMap_eq_map, List.filterMap_filter]
    refine List.filterMap_congr fun name member => ?_
    by_cases empty : name = []
    · simp [empty, component?]
    · have kept : name ∈ above.filter (· ≠ []) := by simp [member, empty]
      simp [component?_of_isName (isName name kept), empty]
  refine ⟨?_, above, last, alone, ?_, ?_⟩
  · rw [split, List.mem_append, List.mem_singleton]
    rintro (member | same)
    · exact plain _ member (by simp)
    · exact fileIsName.2.1 same.symm
  · have asFile : [last ++ ".html".toList].filterMap component? =
        [.normal (last ++ ".html".toList)] := by
      rw [List.filterMap_cons, component?_of_isName fileIsName, List.filterMap_nil]
    rw [split, List.filterMap_append, aboveEq, asFile, List.map_append, List.map_singleton]
  · intro name member
    rcases List.mem_append.mp member with inAbove | isFile
    · exact isName name inAbove
    · rw [List.mem_singleton.mp isFile]
      exact fileIsName

/-- A path that does not begin at the root is a list of names. -/
theorem componentsOf_eq_filterMap {text : Text} (relative : text.head? ≠ some '/')
    (undotted : ['.'] ∉ text.splitOn '/') :
    componentsOf text = (text.splitOn '/').filterMap component? := by
  have notDot : (text.splitOn '/').head? ≠ some ['.'] :=
    fun isHead => undotted (List.mem_of_head? isHead)
  simp [componentsOf, relative, notDot]

theorem componentsOf_append_separator {base : Text} (nonempty : base ≠ []) (rest : Text) :
    componentsOf (base ++ '/' :: rest) =
      componentsOf base ++ (rest.splitOn '/').filterMap component? := by
  have names : (base ++ '/' :: rest).splitOn '/' = base.splitOn '/' ++ rest.splitOn '/' :=
    List.splitOn_append_cons_self base rest
  have sameFirst : (base ++ '/' :: rest).head? = base.head? := List.head?_append_of_ne_nil base nonempty
  have sameName : (base.splitOn '/' ++ rest.splitOn '/').head? = (base.splitOn '/').head? :=
    List.head?_append_of_ne_nil _ (List.splitOn_ne_nil '/' base)
  simp only [componentsOf, names, sameFirst, sameName, List.filterMap_append]
  split
  · rfl
  · split
    · rfl
    · rfl

theorem components_join {base : Path} {front : Text} {last : Char}
    (baseEq : base.text.toList = front ++ [last]) (notSeparator : last ≠ '/') {rest : Text}
    (relative : rest.head? ≠ some '/') :
    (base.join (String.ofList rest)).components =
      base.components ++ (rest.splitOn '/').filterMap component? := by
  have nonempty : base.text.toList ≠ [] := by simp [baseEq]
  have textNonempty : base.text.isEmpty = false := by
    rw [String.isEmpty_eq_false_iff]
    rintro empty
    exact nonempty (by simp [empty])
  have joined : (base.join (String.ofList rest)).text.toList = base.text.toList ++ '/' :: rest := by
    simp [join, relative, textNonempty, baseEq, notSeparator]
  rw [components, joined, componentsOf_append_separator nonempty]
  rfl

end Path

theorem ViewReference.ofString_eq_byAlias_iff {reference key : String} :
    ofString reference = .byAlias key ↔ reference = "name: " ++ key := by
  unfold ofString
  cases found : aliasMark.isPrefixOf? reference.toList with
  | none =>
      refine ⟨fun same => (by cases same), ?_⟩
      rintro rfl
      refine absurd ?_ (isPrefixOf?_eq_none_iff.mp found)
      exact ⟨key.toList, String.toList_append.symm⟩
  | some rest =>
      have split : reference.toList = "name: ".toList ++ rest := isPrefixOf?_eq_some_iff.mp found
      constructor
      · intro same
        cases same
        rw [← String.toList_inj, split]
        simp
      · rintro rfl
        have sameRest : key.toList = rest := by simpa using split
        rw [← sameRest]
        simp

theorem ViewReference.ofString_eq_literal {reference name : String}
    (isLiteral : ofString reference = .literal name) : name = reference := by
  unfold ofString at isLiteral
  split at isLiteral
  · cases isLiteral
  · cases isLiteral
    rfl

namespace Resolver

variable (resolver : Resolver)

/-- The path of a view name, taken as it is. -/
def fileOf (name : String) : Path :=
  resolver.views.join (String.ofList (relativeFile name))

theorem replace_dots_eq_map (text : Text) :
    Text.replace ['.'] ['/'] text = text.map fun character => if character = '.' then '/' else character := by
  induction text with
  | nil => simp
  | cons first text ih =>
      by_cases isDot : first = '.'
      · have replaced : Text.replace ['.'] ['/'] ('.' :: text) = '/' :: Text.replace ['.'] ['/'] text :=
          replace_needle_append (by simp) ['/'] text
        rw [isDot, replaced, ih, List.map_cons, if_pos rfl]
      · have never : ∀ suffix, suffix ≠ [] → suffix <:+ [first] → ¬ ['.'] <+: suffix ++ text := by
          intro suffix nonempty isSuffix isPrefix
          rw [List.suffix_cons_iff, List.suffix_nil, or_iff_left nonempty] at isSuffix
          rw [isSuffix, List.singleton_append, List.cons_prefix_cons] at isPrefix
          exact isDot isPrefix.1.symm
        have kept : Text.replace ['.'] ['/'] (first :: text) = first :: Text.replace ['.'] ['/'] text :=
          replace_append_of_forall_not_prefix (by simp) ['/'] never
        rw [kept, ih, List.map_cons, if_neg isDot]

theorem dot_not_mem_replace (text : Text) : '.' ∉ Text.replace ['.'] ['/'] text := by
  rw [replace_dots_eq_map, List.mem_map]
  rintro ⟨character, -, same⟩
  split at same
  · cases same
  · contradiction

/-- The extension ends what is dropped from the front of a name. -/
theorem relativeFile_eq (name : String) :
    relativeFile name =
      (Text.replace ['.'] ['/'] name.toList).dropWhile isSeparator ++ ".html".toList := by
  rw [relativeFile, trimStartOf, List.dropWhile_append]
  split
  · next empty => rw [List.isEmpty_iff.mp empty]; rfl
  · rfl

theorem relativeFile_relative (name : String) : (relativeFile name).head? ≠ some '/' := by
  intro isHead
  have stopped := List.head?_dropWhile_not isSeparator
    (Text.replace ['.'] ['/'] name.toList ++ ".html".toList)
  rw [relativeFile, trimStartOf] at isHead
  rw [isHead] at stopped
  simp [isSeparator] at stopped

theorem exists_views_text : ∃ front, resolver.views.text.toList = front ++ ['s'] := by
  have ending : "views".toList = "view".toList ++ ['s'] := rfl
  unfold views
  generalize resolver.location.join resolver.theme = base
  unfold Path.join
  split
  · exact ⟨"view".toList, ending⟩
  · split
    · exact ⟨base.text.toList ++ "view".toList, by rw [String.toList_append, ending, List.append_assoc]⟩
    · refine ⟨base.text.toList ++ "/".toList ++ "view".toList, ?_⟩
      rw [String.toList_append, String.toList_append, ending, ← List.append_assoc]

theorem components_fileOf (name : String) :
    (resolver.fileOf name).components =
      resolver.views.components ++ ((relativeFile name).splitOn '/').filterMap Path.component? := by
  obtain ⟨front, viewsEq⟩ := resolver.exists_views_text
  exact Path.components_join viewsEq (by decide) (relativeFile_relative name)

theorem dotless_front (name : String) :
    '.' ∉ (Text.replace ['.'] ['/'] name.toList).dropWhile isSeparator := fun isDot =>
  dot_not_mem_replace name.toList ((List.dropWhile_sublist isSeparator).subset isDot)

/-- No view name is refused because of the path that it is turned into. -/
theorem all_isPlain_relativeFile (name : String) :
    (Path.componentsOf (relativeFile name)).all isPlain = true := by
  obtain ⟨undotted, above, last, -, names, -⟩ := Path.exists_names_of_dotless (dotless_front name)
  rw [← relativeFile_eq] at undotted names
  rw [Path.componentsOf_eq_filterMap (relativeFile_relative name) undotted, names, List.all_map]
  exact List.all_eq_true.mpr fun _ _ => rfl

theorem candidate_eq (reference : String) :
    resolver.candidate reference = (resolver.viewName reference).map resolver.fileOf := by
  unfold candidate
  cases resolver.viewName reference with
  | error error => rfl
  | ok name => exact if_pos (all_isPlain_relativeFile name)

theorem viewName_eq_error_iff {reference : String} {error : ViewError} :
    resolver.viewName reference = .error error ↔
      ∃ key, reference = "name: " ++ key ∧ resolver.aliases.lookup key = none ∧
        error = .unknownAlias key := by
  unfold viewName
  cases kind : ViewReference.ofString reference with
  | literal name =>
      refine ⟨fun same => (by cases same), ?_⟩
      rintro ⟨key, isAlias, _⟩
      rw [ViewReference.ofString_eq_byAlias_iff.mpr isAlias] at kind
      cases kind
  | byAlias key =>
      have refers := ViewReference.ofString_eq_byAlias_iff.mp kind
      cases found : resolver.aliases.lookup key with
      | some name =>
          refine ⟨fun same => (by simp only [found] at same; cases same), ?_⟩
          rintro ⟨other, isAlias, unknown, _⟩
          rw [ViewReference.ofString_eq_byAlias_iff.mpr isAlias] at kind
          cases kind
          rw [found] at unknown
          cases unknown
      | none =>
          constructor
          · intro same
            simp only [found] at same
            cases same
            exact ⟨key, refers, found, rfl⟩
          · rintro ⟨other, isAlias, _, rfl⟩
            rw [ViewReference.ofString_eq_byAlias_iff.mpr isAlias] at kind
            cases kind
            simp only [found]
            rfl

theorem viewName_of_literal {reference : String} (literal : ∀ key, reference ≠ "name: " ++ key) :
    resolver.viewName reference = .ok reference := by
  unfold viewName
  cases kind : ViewReference.ofString reference with
  | literal name => rw [ViewReference.ofString_eq_literal kind]; rfl
  | byAlias key => exact absurd (ViewReference.ofString_eq_byAlias_iff.mp kind) (literal key)

end Resolver

end ThemedViews
