import ThemedViews.Proofs.ClosingTagSearch
import ThemedViews.Proofs.NoparseScanning

/-!
# Forests of tags

A text with tags is the printed form of a forest: texts without an opening
brace, leaves, tags that stand alone, and elements whose children are again a
forest.  Leaves are noparse blocks at first and their placeholders later.
Protecting the blocks of a printed forest gives the printed forest of their
placeholders, and cutting that at its plugin tags gives its outermost tags,
each element with its printed children as content.
-/

namespace ThemedViews

open Text Tags

/-- A table has the items one after another, the first of them at `first`. -/
def Listed {α : Type} (table : Nat → α) (first : Nat) : List α → Prop
  | [] => True
  | item :: rest => table first = item ∧ Listed table (first + 1) rest

theorem listed_append {α : Type} {table : Nat → α} {first : Nat} {front back : List α} :
    Listed table first (front ++ back) ↔
      Listed table first front ∧ Listed table (first + front.length) back := by
  induction front generalizing first with
  | nil => simp [Listed]
  | cons item front ih =>
      have regrouped : first + 1 + front.length = first + (front.length + 1) := by omega
      simp only [List.cons_append, Listed, List.length_cons, ih, regrouped, and_assoc]

theorem listed_of_forall {α : Type} {table : Nat → α} {first : Nat} {items : List α}
    (found : ∀ (place : Nat) (item : α), items[place]? = some item → table (first + place) = item) :
    Listed table first items := by
  induction items generalizing first with
  | nil => trivial
  | cons item items ih =>
      refine ⟨found 0 item rfl, ih fun place later foundLater => ?_⟩
      have further := found (place + 1) later (by rw [List.getElem?_cons_succ, foundLater])
      rwa [← Nat.add_assoc, Nat.add_right_comm] at further

/-- Items in document order, each with the items that follow it. -/
inductive Forest (β : Type) where
  | nil
  | text (plain : Text) (closed : '{' ∉ plain) (rest : Forest β)
  | leaf (item : β) (rest : Forest β)
  | single (tag : PluginTag) (rest : Forest β)
  | element (tag : PluginTag) (closing : ClosingTag) (children rest : Forest β)

namespace Forest

variable {β : Type}

def print (spelled : β → Text) : Forest β → Text
  | nil => []
  | text plain _ rest => plain ++ rest.print spelled
  | leaf item rest => spelled item ++ rest.print spelled
  | single tag rest => tag.print ++ rest.print spelled
  | element tag closing children rest =>
      tag.print ++ (children.print spelled ++ (closing.print tag.name ++ rest.print spelled))

/-- The texts and leaves, without the tags. -/
def content (shown : β → Text) : Forest β → Text
  | nil => []
  | text plain _ rest => plain ++ rest.content shown
  | leaf item rest => shown item ++ rest.content shown
  | single _ rest => rest.content shown
  | element _ _ children rest => children.content shown ++ rest.content shown

def leaves : Forest β → List β
  | nil => []
  | text _ _ rest => rest.leaves
  | leaf item rest => item :: rest.leaves
  | single _ rest => rest.leaves
  | element _ _ children rest => children.leaves ++ rest.leaves

/-- The leaves numbered in document order. -/
def marked (next : Nat) : Forest β → Forest Nat
  | nil => nil
  | text plain closed rest => text plain closed (rest.marked next)
  | leaf _ rest => leaf next (rest.marked (next + 1))
  | single tag rest => single tag (rest.marked next)
  | element tag closing children rest =>
      element tag closing (children.marked next) (rest.marked (next + children.leaves.length))

/-- The number of tags of a name that stand alone. -/
def singles (sought : Text) : Forest β → Nat
  | nil => 0
  | text _ _ rest => rest.singles sought
  | leaf _ rest => rest.singles sought
  | single tag rest => (if tag.name.text = sought then 1 else 0) + rest.singles sought
  | element _ _ children rest => children.singles sought + rest.singles sought

/-- No tag stands alone inside of an element with its name. -/
def Apart : Forest β → Prop
  | nil => True
  | text _ _ rest => rest.Apart
  | leaf _ rest => rest.Apart
  | single _ rest => rest.Apart
  | element tag _ children rest =>
      children.singles tag.name.text = 0 ∧ children.Apart ∧ rest.Apart

instance decidableApart : (forest : Forest β) → Decidable forest.Apart
  | nil => isTrue trivial
  | text _ _ rest => decidableApart rest
  | leaf _ rest => decidableApart rest
  | single _ rest => decidableApart rest
  | element _ _ children rest =>
      have : Decidable children.Apart := decidableApart children
      have : Decidable rest.Apart := decidableApart rest
      inferInstanceAs (Decidable (_ ∧ _ ∧ _))

/-- The tags in document order, each with the number of elements around it. -/
def outline (depth : Nat) : Forest β → List (PluginTag × Nat)
  | nil => []
  | text _ _ rest => rest.outline depth
  | leaf _ rest => rest.outline depth
  | single tag rest => (tag, depth) :: rest.outline depth
  | element tag _ children rest =>
      (tag, depth) :: (children.outline (depth + 1) ++ rest.outline depth)

/-- The printed forest cut at its outermost tags. -/
def pieces (spelled : β → Text) : Forest β → Cut PluginCall
  | nil => ⟨[], []⟩
  | text plain _ rest => (rest.pieces spelled).pushText plain
  | leaf item rest => (rest.pieces spelled).pushText (spelled item)
  | single tag rest => (rest.pieces spelled).pushFound (tag.call [])
  | element tag _ children rest =>
      (rest.pieces spelled).pushFound (tag.call (children.print spelled))

theorem leaves_marked_lt (next : Nat) (forest : Forest β) :
    ∀ index ∈ (forest.marked next).leaves, index < next + forest.leaves.length := by
  induction forest generalizing next with
  | nil => simp [marked, leaves]
  | text plain closed rest ih => exact ih next
  | leaf item rest ih =>
      simp only [marked, leaves, List.forall_mem_cons, List.length_cons]
      refine ⟨by omega, fun index member => ?_⟩
      have restBelow := ih (next + 1) index member
      omega
  | single tag rest ih => exact ih next
  | element tag closing children rest childrenIh ih =>
      simp only [marked, leaves, List.forall_mem_append, List.length_append]
      constructor
      · intro index member
        have childrenBelow := childrenIh next index member
        omega
      · intro index member
        have restBelow := ih (next + children.leaves.length) index member
        omega

@[simp]
theorem singles_marked (next : Nat) (sought : Text) (forest : Forest β) :
    (forest.marked next).singles sought = forest.singles sought := by
  induction forest generalizing next with
  | nil => rfl
  | text plain closed rest ih => exact ih next
  | leaf item rest ih => exact ih (next + 1)
  | single tag rest ih => rw [marked, singles, singles, ih]
  | element tag closing children rest childrenIh ih => rw [marked, singles, singles, childrenIh, ih]

theorem Apart.marked {forest : Forest β} (apart : forest.Apart) (next : Nat) :
    (forest.marked next).Apart := by
  induction forest generalizing next with
  | nil => trivial
  | text plain closed rest ih => exact ih apart next
  | leaf item rest ih => exact ih apart (next + 1)
  | single tag rest ih => exact ih apart next
  | element tag closing children rest childrenIh ih =>
      obtain ⟨noSingles, childrenApart, restApart⟩ := apart
      refine ⟨?_, childrenIh childrenApart next, ih restApart _⟩
      rw [singles_marked, noSingles]

@[simp]
theorem outline_marked (next depth : Nat) (forest : Forest β) :
    (forest.marked next).outline depth = forest.outline depth := by
  induction forest generalizing next depth with
  | nil => rfl
  | text plain closed rest ih => exact ih next depth
  | leaf item rest ih => exact ih (next + 1) depth
  | single tag rest ih => rw [marked, outline, outline, ih]
  | element tag closing children rest childrenIh ih => rw [marked, outline, outline, childrenIh, ih]

/-- A forest shows the same with numbered leaves if the numbers show the same. -/
theorem content_marked {shown : β → Text} {image : Nat → Text} {next : Nat} {forest : Forest β}
    (same : Listed image next (forest.leaves.map shown)) :
    (forest.marked next).content image = forest.content shown := by
  induction forest generalizing next with
  | nil => rfl
  | text plain closed rest ih => rw [marked, content, content, ih same]
  | leaf item rest ih =>
      obtain ⟨atFront, behind⟩ := same
      rw [marked, content, content, ih behind, atFront]
  | single tag rest ih => rw [marked, content, content, ih same]
  | element tag closing children rest childrenIh ih =>
      rw [leaves, List.map_append, listed_append, List.length_map] at same
      rw [marked, content, content, childrenIh same.1, ih same.2]

/-- Where there is no opening brace no plugin tag begins. -/
theorem plugin_eq_none_of_not_mem {plain : Text} (closed : '{' ∉ plain) (rest : Text) :
    ∀ suffix, suffix ≠ [] → suffix <:+ plain → plugin (suffix ++ rest) = none := by
  intro suffix nonempty isSuffix
  cases suffix with
  | nil => contradiction
  | cons first suffix =>
      have noOpener : opener.isPrefixOf? (first :: suffix ++ rest) = none := by
        rw [isPrefixOf?_eq_none_iff, opener_eq, List.cons_append, List.cons_prefix_cons]
        rintro ⟨rfl, _⟩
        exact closed (isSuffix.subset List.mem_cons_self)
      rw [plugin, opening?, noOpener]
      rfl

theorem plugin_print_append_of_none (tag : PluginTag) {rest : Text}
    (unclosed : findClosingTag rest tag.name.text = none) :
    plugin (tag.print ++ rest) = some (tag.call [], tag.print.length) := by
  rw [plugin, tag.opening?_print_append]
  simp [unclosed, tag.readAttributes_printAll [], PluginTag.call]

theorem plugin_print_append_of_some (tag : PluginTag) {behind body rest : Text}
    (found : findClosingTag behind tag.name.text = some (body, rest)) :
    plugin (tag.print ++ behind) =
      some (tag.call body, tag.print.length + behind.length - rest.length) := by
  rw [plugin, tag.opening?_print_append]
  simp [found, tag.readAttributes_printAll body, PluginTag.call]

section Scanning

variable {spelled : β → Text} (closed : ∀ leaf, '{' ∉ spelled leaf)

include closed

/-- No noparse block begins in a forest whose leaves have no opening brace. -/
theorem quiet_print (forest : Forest β) : Quiet (forest.print spelled) := by
  induction forest with
  | nil => exact quiet_nil
  | text plain plainClosed rest ih => exact (quiet_of_not_mem plainClosed).append ih
  | leaf item rest ih => exact (quiet_of_not_mem (closed item)).append ih
  | single tag rest ih => exact (Tags.quiet_print tag).append ih
  | element tag closing children rest childrenIh ih =>
      exact (Tags.quiet_print tag).append (childrenIh.append ((quiet_closing closing tag.name).append ih))

/-- Behind a forest one more tag is open for each that stands alone. -/
theorem untilClosingTag?_print_append (sought : Text) (depth : Nat) (forest : Forest β)
    (rest : Text) :
    untilClosingTag? sought 0 depth (forest.print spelled ++ rest) =
      (untilClosingTag? sought 0 (depth + forest.singles sought) rest).map
        (prependBody (forest.print spelled)) := by
  induction forest generalizing depth rest with
  | nil => simp [print, singles]
  | text plain plainClosed others ih =>
      rw [print, List.append_assoc, untilClosingTag?_append_of_not_mem sought depth plainClosed, ih,
        map_prependBody_append, singles]
  | leaf item others ih =>
      rw [print, List.append_assoc, untilClosingTag?_append_of_not_mem sought depth (closed item), ih,
        map_prependBody_append, singles]
  | single tag others ih =>
      rw [print, List.append_assoc, Tags.untilClosingTag?_print_append, ih, map_prependBody_append,
        singles, Nat.add_assoc]
  | element tag closing children others childrenIh ih =>
      have regrouped : depth + (if tag.name.text = sought then 1 else 0) + children.singles sought =
          depth + children.singles sought + if tag.name.text = sought then 1 else 0 := by
        omega
      simp only [print, List.append_assoc]
      rw [Tags.untilClosingTag?_print_append, childrenIh, regrouped, untilClosingTag?_closing_append,
        ih, map_prependBody_append, map_prependBody_append, map_prependBody_append, singles,
        Nat.add_assoc]
      simp only [List.append_assoc]

/-- No closing tag is found for a tag that stands alone. -/
theorem findClosingTag_print (sought : Text) (forest : Forest β) :
    findClosingTag (forest.print spelled) sought = none := by
  have searched := untilClosingTag?_print_append closed sought 0 forest []
  rw [List.append_nil] at searched
  rw [findClosingTag, searched, untilClosingTag?]
  rfl

theorem findClosingTag_children (name : PluginName) (closing : ClosingTag) {children : Forest β}
    (apart : children.singles name.text = 0) (rest : Text) :
    findClosingTag (children.print spelled ++ (closing.print name ++ rest)) name.text =
      some (children.print spelled, rest) := by
  rw [findClosingTag, untilClosingTag?_print_append closed, apart, untilClosingTag?_own_closing]
  simp [prependBody]

/-- A printed forest is cut at its outermost tags. -/
theorem cut_plugin_print {forest : Forest β} (apart : forest.Apart) :
    Text.cut plugin (forest.print spelled) = forest.pieces spelled := by
  induction forest with
  | nil => rfl
  | text plain plainClosed rest ih =>
      rw [print, cut_append_of_forall_none (plugin_eq_none_of_not_mem plainClosed _), ih apart]
      rfl
  | leaf item rest ih =>
      rw [print, cut_append_of_forall_none (plugin_eq_none_of_not_mem (closed item) _), ih apart]
      rfl
  | single tag rest ih =>
      have recognised : plugin (tag.print ++ rest.print spelled) =
          some (tag.call [], tag.print.length) :=
        plugin_print_append_of_none tag (findClosingTag_print closed tag.name.text rest)
      rw [print, cut_append_of_eq_some tag.print_ne_nil recognised, ih apart]
      rfl
  | element tag closing children rest childrenIh ih =>
      obtain ⟨noSingles, _, restApart⟩ := apart
      have recognised := plugin_print_append_of_some tag
        (findClosingTag_children closed tag.name closing noSingles (rest.print spelled))
      have regrouped : (element tag closing children rest).print spelled =
          tag.print ++ (children.print spelled ++ closing.print tag.name) ++ rest.print spelled := by
        simp only [print, List.append_assoc]
      have nonempty : tag.print ++ (children.print spelled ++ closing.print tag.name) ≠ [] := by
        simp [tag.print_ne_nil]
      have recognisedWhole : plugin (tag.print ++ (children.print spelled ++
          closing.print tag.name) ++ rest.print spelled) =
            some (tag.call (children.print spelled),
              (tag.print ++ (children.print spelled ++ closing.print tag.name)).length) := by
        rw [List.append_assoc, List.append_assoc, recognised]
        simp only [List.length_append, Option.some.injEq, Prod.mk.injEq, true_and]
        omega
      rw [regrouped, cut_append_of_eq_some nonempty recognisedWhole, ih restApart]
      rfl

end Scanning

end Forest

namespace Protection

/-- More entries behind those that are there. -/
def extend (protection : Protection) (entries : List Text) : Protection :=
  { protection with entries := protection.entries ++ entries }

@[simp]
theorem extend_nil (protection : Protection) : protection.extend [] = protection := by
  simp [extend]

@[simp]
theorem extend_extend (protection : Protection) (first second : List Text) :
    (protection.extend first).extend second = protection.extend (first ++ second) := by
  simp [extend, List.append_assoc]

@[simp]
theorem nonce_extend (protection : Protection) (entries : List Text) :
    (protection.extend entries).nonce = protection.nonce :=
  rfl

@[simp]
theorem cumulative_extend (protection : Protection) (entries : List Text) :
    (protection.extend entries).cumulative = protection.cumulative :=
  rfl

@[simp]
theorem length_entries_extend (protection : Protection) (entries : List Text) :
    (protection.extend entries).entries.length = protection.entries.length + entries.length := by
  simp [extend]

theorem protect_eq_extend (text : Text) (protection : Protection) :
    protection.protect text =
      (placeholderOf protection.nonce protection.entries.length, protection.extend [text]) :=
  rfl

/-- Protecting the blocks of a printed forest leaves the printed forest of
their placeholders. -/
theorem protectBlocks_print_append (forest : Forest NoparseBlock) (rest : Text)
    (protection : Protection) :
    protectBlocks (forest.print NoparseBlock.print ++ rest) protection =
      ((forest.marked protection.entries.length).print (placeholderOf protection.nonce) ++
          (protectBlocks rest (protection.extend (forest.leaves.map NoparseBlock.content))).1,
        (protectBlocks rest (protection.extend (forest.leaves.map NoparseBlock.content))).2) := by
  induction forest generalizing rest protection with
  | nil => simp [Forest.print, Forest.leaves, Forest.marked]
  | text plain plainClosed others ih =>
      rw [Forest.print, List.append_assoc, protectBlocks_append_of_quiet (quiet_of_not_mem plainClosed),
        ih]
      simp [Forest.print, Forest.leaves, Forest.marked, List.append_assoc]
  | leaf block others ih =>
      rw [Forest.print, List.append_assoc, protectBlocks_block_append, protect_eq_extend, ih]
      simp [Forest.print, Forest.leaves, Forest.marked, List.append_assoc]
  | single tag others ih =>
      rw [Forest.print, List.append_assoc, protectBlocks_append_of_quiet (Tags.quiet_print tag), ih]
      simp [Forest.print, Forest.leaves, Forest.marked, List.append_assoc]
  | element tag closing children others childrenIh ih =>
      simp only [Forest.print, List.append_assoc]
      rw [protectBlocks_append_of_quiet (Tags.quiet_print tag), childrenIh,
        protectBlocks_append_of_quiet (quiet_closing closing tag.name), ih]
      simp [Forest.print, Forest.leaves, Forest.marked, List.append_assoc]

theorem protectBlocks_print (forest : Forest NoparseBlock) (protection : Protection) :
    protectBlocks (forest.print NoparseBlock.print) protection =
      ((forest.marked protection.entries.length).print (placeholderOf protection.nonce),
        protection.extend (forest.leaves.map NoparseBlock.content)) := by
  have protected_ := protectBlocks_print_append forest [] protection
  simpa [protectBlocks, protectPieces] using protected_

theorem protectBlocks_of_quiet {text : Text} (quiet : Quiet text) (protection : Protection) :
    protectBlocks text protection = (text, protection) := by
  have copied := protectBlocks_append_of_quiet quiet [] protection
  simpa [protectBlocks, protectPieces] using copied

end Protection

end ThemedViews
