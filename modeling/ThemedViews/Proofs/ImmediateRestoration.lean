import ThemedViews.Proofs.DetachedHandlers

/-!
# Parsing outside cumulative mode

Outside cumulative mode every parse puts back what is protected before it ends.
The handler that parses the content of a tag does so with the same protected
texts, so the first tag of a template uses up the entries of the noparse blocks,
and their placeholders stay in the text.  The blocks are shown exactly if there
is no tag.
-/

namespace ThemedViews

open Text Tags Protection Parsing

namespace Protection

/-- A text that nothing is put into. -/
def Inert (protection : Protection) (text : Text) : Prop :=
  protection.entries = [] ∨ ¬ protection.nonce <:+: text

theorem inject_of_inert {protection : Protection} (isNonce : protection.entries ≠ [] → IsNonce protection.nonce)
    {text : Text} (inert : protection.Inert text) :
    protection.inject text = (text, { protection with pass := protection.pass + 1, entries := [] }) := by
  by_cases idle : protection.entries = []
  · rw [inject, idle]
    rfl
  · have unforged := inert.resolve_left idle
    have fits : ∀ (index : Nat) (entry : List Segment),
        (literals protection.entries)[index]? = some entry →
          entryExpansion (literals protection.entries) index =
            fill (entryExpansion (literals protection.entries)) entry :=
      fun _ _ => entryExpansion_of_getElem? (ordered_literals _)
    have below : Below (literals protection.entries).length [.literal text] := by simp [Below]
    have restored := (isNonce idle).restore_spell fits (ordered_literals _) below
      (by simpa [Segment.fill] using unforged)
    rw [map_spell_literals] at restored
    simp only [spell_cons, spell_nil, fill_cons, fill_nil, Segment.spell, Segment.fill,
      List.append_nil] at restored
    rw [inject, restored]

/-- What is left when a number of tags are done: the first of them uses up the
entries, and each begins a new pass. -/
def drained (protection : Protection) (tags : Nat) : Protection :=
  { protection with
    pass := protection.pass + tags
    entries := if tags = 0 then protection.entries else [] }

@[simp]
theorem drained_zero (protection : Protection) : protection.drained 0 = protection :=
  rfl

theorem drained_drained_one (protection : Protection) (tags : Nat) :
    (protection.drained 1).drained tags = protection.drained (1 + tags) := by
  simp [drained, Nat.add_assoc]

theorem inject_drained {protection : Protection} {tags : Nat} (some : tags ≠ 0) (text : Text) :
    (protection.drained tags).inject text =
      (text, { protection with pass := protection.pass + tags + 1, entries := [] }) := by
  rw [inject, drained, if_neg some]
  rfl

end Protection

namespace Parsing

variable {ε : Type}

/-- Outside cumulative mode the output of a tag is written into the text. -/
theorem outcome_expandCut_pushFound_of_off {handler : Handler ε} {pieces : Cut PluginCall} {tag : PluginCall}
    {state : Protection × ε} {protection : Protection} {account : ε} {output : Text}
    (called : outcome (handler tag) state = (.ok output, (protection, account)))
    (off : protection.cumulative = false) :
    outcome (expandCut handler (pieces.pushFound tag)) state =
      outcome (expandCut handler (pieces.pushText output)) (protection, account) := by
  have calledTag : outcome (call handler tag) state = (.ok output, (protection, account)) := called
  rw [expandCut_pushFound, outcome_bind_of_ok calledTag,
    outcome_bind_of_ok (outcome_isCumulative protection account), off, if_neg Bool.false_ne_true,
    outcome_bind_of_ok (outcome_pure output _), expandCut_pushText]

/-- Outside cumulative mode a parse puts back what is protected when its tags
are done. -/
theorem outcome_parse_of_off {handler : Handler ε} {content marked output : Text}
    {protection started ended : Protection} {account later : ε}
    (protected_ : Protection.protectBlocks content protection = (marked, started))
    (expanded : outcome (expandCut handler (cut plugin marked)) (started, account) =
      (.ok output, (ended, later)))
    (off : ended.cumulative = false) (closed : '{' ∉ output) (data : Scope) :
    outcome (parse handler content data) (protection, account) =
      (.ok (ended.inject output).1, ((ended.inject output).2, later)) := by
  rw [← expand_eq_expandCut] at expanded
  rw [outcome_parse_of_expand protected_ expanded, concluded, Except.bind, Template.renderTags_of_not_mem closed]
  simp only [off, Bool.false_eq_true, if_false]

/-- A tag whose content has no tags comes to its content, and the entries are
used up. -/
theorem outcome_bridge_of_not_mem (levels : Nat) {protection : Protection} (account : ε)
    (off : protection.cumulative = false)
    (isNonce : protection.entries ≠ [] → IsNonce protection.nonce) {call : PluginCall}
    (closed : '{' ∉ call.content) (inert : protection.Inert call.content) :
    outcome (bridge (levels + 1) call) (protection, account) =
      (.ok call.content, (protection.drained 1, account)) := by
  have noTags : cut plugin call.content = ⟨[], call.content⟩ := by
    have copied := cut_append_of_forall_none (Forest.plugin_eq_none_of_not_mem closed [])
    simpa [Cut.pushText] using copied
  have expanded : outcome (expandCut (some (bridge levels)) (cut plugin call.content)) (protection, account) =
      (.ok call.content, (protection, account)) := by
    rw [noTags]
    rfl
  have blocksKept := protectBlocks_of_quiet (quiet_of_not_mem closed) protection
  have parsed := outcome_parse_of_off blocksKept expanded off closed []
  rw [inject_of_inert isNonce inert] at parsed
  exact parsed

end Parsing

namespace Forest

variable {β : Type}

theorem Plain.open_not_mem_print {forest : Forest β} (plain : forest.Plain) (spelled : β → Text) :
    '{' ∉ forest.print spelled := by
  induction forest with
  | nil => simp [print]
  | text words closed rest ih =>
      rw [print, List.mem_append, not_or]
      exact ⟨closed, ih plain⟩
  | leaf item rest ih => exact plain.elim
  | single tag rest ih => exact plain.elim
  | element tag closing children rest childrenIh ih => exact plain.elim

theorem Plain.content_eq_print {forest : Forest β} (plain : forest.Plain) (spelled shown : β → Text) :
    forest.content shown = forest.print spelled := by
  induction forest with
  | nil => rfl
  | text words closed rest ih => rw [content, print, ih plain]
  | leaf item rest ih => exact plain.elim
  | single tag rest ih => exact plain.elim
  | element tag closing children rest childrenIh ih => exact plain.elim

theorem Plain.tags_eq_zero {forest : Forest β} (plain : forest.Plain) : forest.tags = 0 := by
  induction forest with
  | nil => rfl
  | text words closed rest ih => exact ih plain
  | leaf item rest ih => exact plain.elim
  | single tag rest ih => exact plain.elim
  | element tag closing children rest childrenIh ih => exact plain.elim

theorem Plain.marked {forest : Forest β} (plain : forest.Plain) (next : Nat) :
    (forest.marked next).Plain := by
  induction forest with
  | nil => trivial
  | text words closed rest ih => exact ih plain
  | leaf item rest ih => exact plain.elim
  | single tag rest ih => exact plain.elim
  | element tag closing children rest childrenIh ih => exact plain.elim

theorem Flat.marked {forest : Forest β} (flat : forest.Flat) (next : Nat) :
    (forest.marked next).Flat := by
  induction forest generalizing next with
  | nil => trivial
  | text words closed rest ih => exact ih flat next
  | leaf item rest ih => exact ih flat (next + 1)
  | single tag rest ih => exact ih flat next
  | element tag closing children rest childrenIh ih =>
      exact ⟨flat.1.marked next, ih flat.2 _⟩

/-- What stands in a tag is shown. -/
theorem Flat.content_infix_of_mem_found {forest : Forest β} (flat : forest.Flat) (next : Nat)
    (spelled : Nat → Text) (shown : β → Text) :
    ∀ call ∈ ((forest.marked next).pieces spelled).found, call.content <:+: forest.content shown := by
  induction forest generalizing next with
  | nil => simp [Forest.marked, pieces, Cut.found]
  | text words closed rest ih =>
      intro call member
      rw [Forest.marked, pieces, Cut.found_pushText] at member
      exact (ih flat next call member).trans (List.suffix_append words _).isInfix
  | leaf item rest ih =>
      intro call member
      rw [Forest.marked, pieces, Cut.found_pushText] at member
      exact (ih flat (next + 1) call member).trans (List.suffix_append (shown item) _).isInfix
  | single tag rest ih =>
      rw [Forest.marked, pieces, Cut.found_pushFound, List.forall_mem_cons]
      exact ⟨List.nil_infix, ih flat next⟩
  | element tag closing children rest childrenIh ih =>
      rw [Forest.marked, pieces, Cut.found_pushFound, List.forall_mem_cons, content]
      constructor
      · rw [flat.1.content_eq_print shown, ← flat.1.print_marked next spelled]
        exact (List.prefix_append _ _).isInfix
      · intro call member
        exact (ih flat.2 _ call member).trans (List.suffix_append _ _).isInfix

theorem open_not_mem_content {spelled : β → Text} (closed : ∀ leaf, '{' ∉ spelled leaf)
    (forest : Forest β) : '{' ∉ forest.content spelled := by
  induction forest with
  | nil => simp [content]
  | text words wordsClosed rest ih =>
      rw [content, List.mem_append, not_or]
      exact ⟨wordsClosed, ih⟩
  | leaf item rest ih =>
      rw [content, List.mem_append, not_or]
      exact ⟨closed item, ih⟩
  | single tag rest ih => exact ih
  | element tag closing children rest childrenIh ih =>
      rw [content, List.mem_append, not_or]
      exact ⟨childrenIh, ih⟩

theorem spell_layout_of_tags_eq_zero {forest : Forest Nat} (noTags : forest.tags = 0) (nonce : Text)
    (next : Nat) : spell nonce (forest.layout next) = forest.content (placeholderOf nonce) := by
  induction forest with
  | nil => rfl
  | text words closed rest ih => rw [layout, spell_cons, ih noTags, content, Segment.spell]
  | leaf index rest ih => rw [layout, spell_cons, ih noTags, content, Segment.spell]
  | single tag rest ih => rw [tags] at noTags; omega
  | element tag closing children rest childrenIh ih => rw [tags] at noTags; omega

/-- Where there are no tags, putting the entries of the blocks back gives the text. -/
theorem inject_started_of_tags_eq_zero {forest : Forest NoparseBlock} (noTags : forest.tags = 0)
    {protection : Protection} (idle : protection.entries = []) (isNonce : IsNonce protection.nonce)
    (unforged : ¬ protection.nonce <:+: forest.content NoparseBlock.content) :
    (protection.extend (forest.leaves.map NoparseBlock.content)).inject
        ((forest.marked 0).content (placeholderOf protection.nonce)) =
      (forest.content NoparseBlock.content,
        { protection with pass := protection.pass + 1, entries := [] }) := by
  have noTagsMarked : (forest.marked 0).tags = 0 := by rw [tags_marked, noTags]
  have noneKept : (forest.marked 0).kept forest.leaves.length = [] := by
    rw [← List.length_eq_zero_iff, length_kept, noTagsMarked]
  let started := protection.extend (forest.leaves.map NoparseBlock.content)
  have isNonceStarted : IsNonce started.nonce := isNonce
  have filled : started.entries = forest.entries.map (spell started.nonce) := by
    rw [entries, noneKept, List.append_nil, map_spell_literals]
    simp only [started, extend, idle, List.nil_append]
  have injected := forest.inject_layout started isNonceStarted filled unforged
  rw [spell_layout_of_tags_eq_zero noTagsMarked] at injected
  exact injected

/-- Where a placeholder is shown, its nonce is. -/
theorem nonce_infix_content_marked {forest : Forest β} (leaves : forest.leaves ≠ []) (nonce : Text)
    (next : Nat) : nonce <:+: (forest.marked next).content (placeholderOf nonce) := by
  induction forest generalizing next with
  | nil => exact absurd rfl leaves
  | text words closed rest ih =>
      exact (ih leaves next).trans (List.suffix_append words _).isInfix
  | leaf item rest ih =>
      rw [Forest.marked, content, placeholderOf_eq]
      refine ⟨markStart, '_' :: (Nat.toDigits 10 next ++ ['_', '_']) ++
        (rest.marked (next + 1)).content (placeholderOf nonce), ?_⟩
      simp only [List.append_assoc]
  | single tag rest ih => exact ih leaves next
  | element tag closing children rest childrenIh ih =>
      rw [Forest.leaves, ne_eq, List.append_eq_nil_iff, not_and_or] at leaves
      rw [Forest.marked, content]
      rcases leaves with inside | behind
      · exact (childrenIh inside next).trans (List.prefix_append _ _).isInfix
      · exact (ih behind _).trans (List.suffix_append _ _).isInfix

end Forest

section Expansion

variable {ε β : Type} {forest : Forest β} {spelled : β → Text}

/-- The tags of a template without tags in tags come to their contents, and the
first of them uses up the entries. -/
theorem outcome_expandCut_flat (flat : forest.Flat) (levels : Nat) (protection : Protection) (account : ε)
    (off : protection.cumulative = false)
    (isNonce : protection.entries ≠ [] → IsNonce protection.nonce)
    (inert : ∀ call ∈ (forest.pieces spelled).found, protection.Inert call.content) :
    outcome (expandCut (some (bridge (levels + 1))) (forest.pieces spelled)) (protection, account) =
      (.ok (forest.content spelled), (protection.drained forest.tags, account)) := by
  induction forest generalizing protection with
  | nil => rfl
  | text plain closed rest ih =>
      rw [Forest.pieces, Cut.found_pushText] at inert
      exact outcome_expandCut_pushText plain (ih flat protection off isNonce inert)
  | leaf item rest ih =>
      rw [Forest.pieces, Cut.found_pushText] at inert
      exact outcome_expandCut_pushText (spelled item) (ih flat protection off isNonce inert)
  | single tag rest ih =>
      rw [Forest.pieces, Cut.found_pushFound, List.forall_mem_cons] at inert
      have called := outcome_bridge_of_not_mem levels account off isNonce (by simp [PluginTag.call]) inert.1
      -- From the second tag on there is nothing left to put back.
      have behind := ih flat (protection.drained 1) off (fun used => absurd rfl used)
        fun _ _ => .inl rfl
      rw [Forest.pieces, outcome_expandCut_pushFound_of_off called off,
        outcome_expandCut_pushText _ behind, drained_drained_one]
      rfl
  | element tag closing children rest childrenIh ih =>
      obtain ⟨plain, restFlat⟩ := flat
      rw [Forest.pieces, Cut.found_pushFound, List.forall_mem_cons] at inert
      have closed : '{' ∉ (tag.call (children.print spelled)).content := plain.open_not_mem_print spelled
      have called := outcome_bridge_of_not_mem levels account off isNonce closed inert.1
      have behind := ih restFlat (protection.drained 1) off (fun used => absurd rfl used)
        fun _ _ => .inl rfl
      rw [Forest.pieces, outcome_expandCut_pushFound_of_off called off,
        outcome_expandCut_pushText _ behind, drained_drained_one, Forest.content, Forest.tags,
        plain.tags_eq_zero, plain.content_eq_print spelled, Nat.zero_add]
      rfl

end Expansion

section Parse

variable {ε : Type}

/-- Outside cumulative mode a template without tags in tags comes to its text if
it has no tags at all.  If it has some, the placeholders of its blocks are
left where the blocks were, and no later pass knows them.  So the text is right
exactly if there are no tags or no blocks. -/
theorem outcome_parse_flat {forest : Forest NoparseBlock} (flat : forest.Flat) {protection : Protection}
    (account : ε) (off : protection.cumulative = false) (idle : protection.entries = [])
    (isNonce : IsNonce protection.nonce)
    (unforged : ¬ protection.nonce <:+: forest.content NoparseBlock.content) (data : Scope) :
    let shown := if forest.tags = 0 then forest.content NoparseBlock.content
      else (forest.marked 0).content (placeholderOf protection.nonce)
    outcome (parse (some outermostBridge) (forest.print NoparseBlock.print) data) (protection, account) =
        (.ok shown, ({ protection with pass := protection.pass + forest.tags + 1, entries := [] }, account)) ∧
      (shown = forest.content NoparseBlock.content ↔ forest.tags = 0 ∨ forest.leaves = []) := by
  intro shown
  have blocksKept := protectBlocks_print forest protection
  rw [idle, List.length_nil] at blocksKept
  let started := protection.extend (forest.leaves.map NoparseBlock.content)
  have isNonceStarted : IsNonce started.nonce := isNonce
  have inert : ∀ call ∈ ((forest.marked 0).pieces (placeholderOf protection.nonce)).found,
      started.Inert call.content := fun call member =>
    .inr fun occurs => unforged (occurs.trans (flat.content_infix_of_mem_found 0 _ _ call member))
  have expanded := outcome_expandCut_flat (flat.marked 0) 9 started account off (fun _ => isNonceStarted) inert
  rw [← Forest.cut_plugin_print isNonce.open_not_mem_placeholderOf (flat.apart.marked 0),
    Forest.tags_marked] at expanded
  have parsed := outcome_parse_of_off blocksKept expanded off
    (Forest.open_not_mem_content isNonce.open_not_mem_placeholderOf _) data
  by_cases noTags : forest.tags = 0
  · have shownEq : shown = forest.content NoparseBlock.content := if_pos noTags
    have injected := forest.inject_started_of_tags_eq_zero noTags idle isNonce unforged
    rw [noTags, drained_zero, injected] at parsed
    rw [noTags, shownEq]
    exact ⟨parsed, by simp⟩
  · have shownEq : shown = (forest.marked 0).content (placeholderOf protection.nonce) := if_neg noTags
    rw [inject_drained noTags] at parsed
    refine ⟨by rw [shownEq]; exact parsed, fun same => .inr ?_, ?_⟩
    · -- A placeholder that is shown would bring the nonce into the text.
      by_contra leaves
      apply unforged
      rw [← same, shownEq]
      exact Forest.nonce_infix_content_marked leaves protection.nonce 0
    · rintro (none | noLeaves)
      · exact absurd none noTags
      · rw [shownEq]
        apply Forest.content_marked
        rw [noLeaves]
        trivial

/-- A block alone, and a block before a tag. -/
theorem outcome_parse_flat_blocks :
    let noBlanks : Blanks := ⟨[], by decide⟩
    let name : PluginName := ⟨['a', ':', 'b'], by decide, by decide, by decide, by decide⟩
    let block : NoparseBlock := ⟨noBlanks, noBlanks, ['{', '{'], by decide, noBlanks, noBlanks⟩
    let text : Forest NoparseBlock := .leaf block (.text ['y'] (by decide) .nil)
    let tagged : Forest NoparseBlock := .leaf block (.element ⟨⟨noBlanks, name, [], noBlanks⟩, nofun⟩
      ⟨noBlanks, noBlanks, noBlanks⟩ (.text ['y'] (by decide) .nil) .nil)
    let nonce : Text := List.replicate 32 'a'
    let parsed (forest : Forest NoparseBlock) : Except TemplateError Text :=
      (outcome (parse (some outermostBridge) (forest.print NoparseBlock.print) [])
        (Protection.fresh fun _ => nonce, ())).1
    parsed text = .ok ['{', '{', 'y'] ∧ parsed tagged = .ok (placeholderOf nonce 0 ++ ['y']) := by
  intro noBlanks name block text tagged nonce parsed
  let started := Protection.fresh fun _ => nonce
  have off : started.cumulative = false := rfl
  have flatText : text.Flat := trivial
  have flatTagged : tagged.Flat := ⟨trivial, trivial⟩
  have ofText := (outcome_parse_flat flatText () off rfl (by decide) (by decide) []).1
  have ofTagged := (outcome_parse_flat flatTagged () off rfl (by decide) (by decide) []).1
  exact ⟨congrArg Prod.fst ofText, congrArg Prod.fst ofTagged⟩

/-- Outside cumulative mode a noparse block before a plugin tag is not shown: its
placeholder is. -/
theorem outcome_parse_block_before_tag :
    let nonce : Text := List.replicate 32 'a'
    let template : Text := "\x7b\x7b noparse \x7d\x7dx\x7b\x7b /noparse \x7d\x7d\x7b\x7b a:b \x7d\x7d".toList
    let parsed := (outcome (parse (some outermostBridge) template []) (Protection.fresh fun _ => nonce, ())).1
    parsed = .ok (placeholderOf nonce 0) ∧ parsed ≠ .ok ['x'] := by
  intro nonce template parsed
  have leaked : parsed = .ok (placeholderOf nonce 0) := by decide +kernel
  refine ⟨leaked, ?_⟩
  rw [leaked]
  decide

end Parse

end ThemedViews
