import ThemedViews.Proofs.ParsingOutcomes

/-!
# The entries of nested plugin tags

When tags are done from the inside out, the entries of all tags inside of a tag
are kept before its own.  So the place of every entry is known beforehand, each
entry mentions only older ones, and putting all of them back gives the text of
the forest.
-/

namespace ThemedViews

open Text Tags Protection

namespace Forest

variable {β : Type}

/-- The number of all tags. -/
def tags : Forest β → Nat
  | nil => 0
  | text _ _ rest => rest.tags
  | leaf _ rest => rest.tags
  | single _ rest => 1 + rest.tags
  | element _ _ children rest => children.tags + (1 + rest.tags)

/-- What is left of the text of a forest when its tags are done, where the
first entry that they keep is `next`. -/
def layout (next : Nat) : Forest Nat → List Segment
  | nil => []
  | text plain _ rest => .literal plain :: rest.layout next
  | leaf index rest => .mark index :: rest.layout next
  | single _ rest => .mark next :: rest.layout (next + 1)
  | element _ _ children rest =>
      .mark (next + children.tags) :: rest.layout (next + children.tags + 1)

/-- The entries that the tags of a forest keep, the first of which is `next`. -/
def kept (next : Nat) : Forest Nat → List (List Segment)
  | nil => []
  | text _ _ rest => rest.kept next
  | leaf _ rest => rest.kept next
  | single _ rest => [] :: rest.kept (next + 1)
  | element _ _ children rest =>
      children.kept next ++ (children.layout next :: rest.kept (next + children.tags + 1))

@[simp]
theorem length_kept (next : Nat) (forest : Forest Nat) :
    (forest.kept next).length = forest.tags := by
  induction forest generalizing next with
  | nil => rfl
  | text plain closed rest ih => exact ih next
  | leaf index rest ih => exact ih next
  | single tag rest ih =>
      rw [kept, List.length_cons, ih, tags]
      omega
  | element tag closing children rest childrenIh ih =>
      rw [kept, List.length_append, List.length_cons, childrenIh, ih, tags]
      omega

@[simp]
theorem tags_marked (next : Nat) (forest : Forest β) : (forest.marked next).tags = forest.tags := by
  induction forest generalizing next with
  | nil => rfl
  | text plain closed rest ih => exact ih next
  | leaf item rest ih => exact ih (next + 1)
  | single tag rest ih => rw [marked, tags, tags, ih]
  | element tag closing children rest childrenIh ih => rw [marked, tags, tags, childrenIh, ih]

theorem open_not_mem_layout {nonce : Text} (isNonce : IsNonce nonce) (next : Nat)
    (forest : Forest Nat) : '{' ∉ spell nonce (forest.layout next) := by
  induction forest generalizing next with
  | nil => simp [layout]
  | text plain closed rest ih =>
      rw [layout, spell_cons, List.mem_append, not_or]
      exact ⟨closed, ih next⟩
  | leaf index rest ih =>
      rw [layout, spell_cons, List.mem_append, not_or]
      exact ⟨isNonce.open_not_mem_placeholderOf index, ih next⟩
  | single tag rest ih =>
      rw [layout, spell_cons, List.mem_append, not_or]
      exact ⟨isNonce.open_not_mem_placeholderOf next, ih (next + 1)⟩
  | element tag closing children rest childrenIh ih =>
      rw [layout, spell_cons, List.mem_append, not_or]
      exact ⟨isNonce.open_not_mem_placeholderOf _, ih _⟩

/-- Where no tag has exactly so many elements around it, none has more. -/
theorem outline_lt_of_forall_ne {forest : Forest β} {depth levels : Nat}
    (never : ∀ entry ∈ forest.outline depth, entry.2 ≠ depth + levels) :
    ∀ entry ∈ forest.outline depth, entry.2 < depth + levels := by
  induction forest generalizing depth levels with
  | nil => simp [outline]
  | text plain closed rest ih => exact ih never
  | leaf item rest ih => exact ih never
  | single tag rest ih =>
      simp only [outline, List.forall_mem_cons] at never ⊢
      refine ⟨?_, ih never.2⟩
      have notHere := never.1
      omega
  | element tag closing children rest childrenIh ih =>
      simp only [outline, List.forall_mem_cons, List.forall_mem_append] at never ⊢
      obtain ⟨notHere, notInside, notBehind⟩ := never
      cases levels with
      | zero => exact absurd rfl notHere
      | succ levels =>
          have regrouped : depth + 1 + levels = depth + (levels + 1) := by omega
          rw [← regrouped] at notInside
          have inside := childrenIh notInside
          rw [regrouped] at inside
          exact ⟨by omega, inside, ih notBehind⟩

theorem below_layout {next : Nat} {forest : Forest Nat}
    (leavesBelow : ∀ index ∈ forest.leaves, index < next) :
    Below (next + forest.tags) (forest.layout next) := by
  induction forest generalizing next with
  | nil => exact below_nil _
  | text plain closed rest ih => exact below_cons_literal.mpr (ih leavesBelow)
  | leaf index rest ih =>
      simp only [leaves, List.forall_mem_cons] at leavesBelow
      have indexBelow := leavesBelow.1
      exact below_cons_mark.mpr ⟨by omega, ih leavesBelow.2⟩
  | single tag rest ih =>
      have restBelow := ih fun index member => Nat.lt_succ_of_lt (leavesBelow index member)
      refine below_cons_mark.mpr ⟨by rw [tags]; omega, restBelow.mono ?_⟩
      rw [tags]
      omega
  | element tag closing children rest childrenIh ih =>
      simp only [leaves, List.forall_mem_append] at leavesBelow
      have restLeaves : ∀ index ∈ rest.leaves, index < next + children.tags + 1 := by
        intro index member
        have indexBelow := leavesBelow.2 index member
        omega
      refine below_cons_mark.mpr ⟨by rw [tags]; omega, (ih restLeaves).mono ?_⟩
      rw [tags]
      omega

/-- Every kept entry mentions only older ones. -/
theorem below_kept {next : Nat} {forest : Forest Nat}
    (leavesBelow : ∀ index ∈ forest.leaves, index < next) {place : Nat} {entry : List Segment}
    (found : (forest.kept next)[place]? = some entry) : Below (next + place) entry := by
  induction forest generalizing next place with
  | nil => simp [kept] at found
  | text plain closed rest ih => exact ih leavesBelow found
  | leaf index rest ih =>
      simp only [leaves, List.forall_mem_cons] at leavesBelow
      exact ih leavesBelow.2 found
  | single tag rest ih =>
      cases place with
      | zero =>
          rw [kept, List.getElem?_cons_zero] at found
          obtain rfl := Option.some.inj found
          exact below_nil _
      | succ place =>
          rw [kept, List.getElem?_cons_succ] at found
          have behind := ih (fun index member => Nat.lt_succ_of_lt (leavesBelow index member)) found
          exact behind.mono (by omega)
  | element tag closing children rest childrenIh ih =>
      simp only [leaves, List.forall_mem_append] at leavesBelow
      rw [kept] at found
      by_cases inside : place < (children.kept next).length
      · rw [List.getElem?_append_left inside] at found
        exact childrenIh leavesBelow.1 found
      · rw [List.getElem?_append_right (by omega)] at found
        rw [length_kept] at inside found
        cases distance : place - children.tags with
        | zero =>
            rw [distance, List.getElem?_cons_zero] at found
            obtain rfl := Option.some.inj found
            exact (below_layout leavesBelow.1).mono (by omega)
        | succ further =>
            rw [distance, List.getElem?_cons_succ] at found
            have restLeaves : ∀ index ∈ rest.leaves, index < next + children.tags + 1 := by
              intro index member
              have indexBelow := leavesBelow.2 index member
              omega
            exact (ih restLeaves found).mono (by omega)

/-- Where the kept entries have their places, the layout comes to the text of
the forest. -/
theorem fill_layout {entries : List (List Segment)} (ordered : Ordered entries) {next : Nat}
    {forest : Forest Nat}
    (placed : Listed (fun index => entries[index]?) next ((forest.kept next).map some)) :
    fill (entryExpansion entries) (forest.layout next) =
      forest.content (entryExpansion entries) := by
  induction forest generalizing next with
  | nil => rfl
  | text plain closed rest ih =>
      rw [layout, fill_cons, ih placed]
      rfl
  | leaf index rest ih =>
      rw [layout, fill_cons, ih placed]
      rfl
  | single tag rest ih =>
      obtain ⟨own, restPlaced⟩ := placed
      rw [layout, fill_cons, ih restPlaced, Segment.fill, entryExpansion_of_getElem? ordered own]
      rfl
  | element tag closing children rest childrenIh ih =>
      rw [kept, List.map_append, listed_append, List.length_map, length_kept] at placed
      obtain ⟨childrenPlaced, own, restPlaced⟩ := placed
      rw [layout, fill_cons, ih restPlaced, Segment.fill, entryExpansion_of_getElem? ordered own,
        childrenIh childrenPlaced]
      rfl

/-- All entries behind the parse of a forest: the contents of its blocks, and
what its tags keep. -/
def entries (forest : Forest NoparseBlock) : List (List Segment) :=
  literals (forest.leaves.map NoparseBlock.content) ++
    (forest.marked 0).kept forest.leaves.length

section Entries

variable (forest : Forest NoparseBlock)

theorem leaves_marked_lt_length : ∀ index ∈ (forest.marked 0).leaves, index < forest.leaves.length := by
  intro index member
  have below := forest.leaves_marked_lt 0 index member
  omega

theorem length_literals_leaves :
    (literals (forest.leaves.map NoparseBlock.content)).length = forest.leaves.length := by
  simp [literals]

theorem ordered_entries : Ordered forest.entries := by
  apply ordered_append (ordered_literals _)
  intro place entry found
  rw [length_literals_leaves]
  exact below_kept forest.leaves_marked_lt_length found

theorem below_layout_entries :
    Below forest.entries.length ((forest.marked 0).layout forest.leaves.length) := by
  rw [entries, List.length_append, length_literals_leaves, length_kept]
  exact below_layout forest.leaves_marked_lt_length

theorem fill_layout_entries :
    fill (entryExpansion forest.entries) ((forest.marked 0).layout forest.leaves.length) =
      forest.content NoparseBlock.content := by
  rw [fill_layout forest.ordered_entries]
  · apply content_marked
    apply listed_of_forall
    intro place text found
    rw [Nat.zero_add]
    exact entryExpansion_literal (getElem?_literals_append _ found)
  · apply listed_of_forall
    intro place entry found
    rw [List.getElem?_map, Option.map_eq_some_iff] at found
    obtain ⟨kept_, found, rfl⟩ := found
    have behind : forest.leaves.length + place -
        (literals (forest.leaves.map NoparseBlock.content)).length = place := by
      rw [length_literals_leaves]
      omega
    rw [entries, List.getElem?_append_right (by rw [length_literals_leaves]; omega), behind, found]

/-- Putting all entries back gives the text of the forest. -/
theorem inject_layout (protection : Protection) (isNonce : IsNonce protection.nonce)
    (filled : protection.entries = forest.entries.map (spell protection.nonce))
    (unforged : ¬ protection.nonce <:+: forest.content NoparseBlock.content) :
    protection.inject (spell protection.nonce
        ((forest.marked 0).layout forest.leaves.length)) =
      (forest.content NoparseBlock.content,
        { protection with pass := protection.pass + 1, entries := [] }) := by
  rw [← forest.fill_layout_entries] at unforged ⊢
  rw [Protection.inject, filled, isNonce.restore_spell (fun _ _ => entryExpansion_of_getElem? forest.ordered_entries)
    forest.ordered_entries forest.below_layout_entries unforged]

end Entries

end Forest

end ThemedViews
