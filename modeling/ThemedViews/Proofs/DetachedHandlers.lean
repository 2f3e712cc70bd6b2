import ThemedViews.Proofs.NestedRendering

/-!
# Handlers that leave the parser alone

A handler may answer each plugin tag with any text whatever, even one that looks
like a tag or a block.  If it does not touch the parser, parsing a template and
putting everything back gives the texts, the contents of the blocks and the
answers in order: nothing that a handler says is read again.
-/

namespace ThemedViews

open Text Tags Protection Parsing

/-- The handler that gives the answers and leaves the protected texts as they are. -/
def Parsing.detached {ε : Type} (answer : PluginCall → StateM ε Text) : Handler ε := fun tag =>
  ExceptT.mk <| modifyGet fun (protection, account) =>
    let (output, later) := (answer tag).run account
    (.ok output, (protection, later))

namespace Forest

variable {β : Type}

/-- Only texts. -/
def Plain : Forest β → Prop
  | nil => True
  | text _ _ rest => rest.Plain
  | leaf _ _ => False
  | single _ _ => False
  | element _ _ _ _ => False

/-- No element has anything but texts inside. -/
def Flat : Forest β → Prop
  | nil => True
  | text _ _ rest => rest.Flat
  | leaf _ rest => rest.Flat
  | single _ rest => rest.Flat
  | element _ _ children rest => children.Plain ∧ rest.Flat

/-- The forest without what is inside of its elements. -/
def outer : Forest β → Forest β
  | nil => nil
  | text plain closed rest => text plain closed rest.outer
  | leaf item rest => leaf item rest.outer
  | single tag rest => single tag rest.outer
  | element tag closing _ rest => element tag closing nil rest.outer

/-- The texts, the contents of the blocks and the answers to the tags, in order. -/
def reply {ε : Type} (answer : PluginCall → StateM ε Text) : Forest NoparseBlock → StateM ε Text
  | nil => return []
  | text plain _ rest => return plain ++ (← rest.reply answer)
  | leaf block rest => return block.content ++ (← rest.reply answer)
  | single tag rest => do
      let output ← answer (tag.call [])
      return output ++ (← rest.reply answer)
  | element tag _ children rest => do
      let output ← answer (tag.call (children.print NoparseBlock.print))
      return output ++ (← rest.reply answer)

theorem Plain.print_marked {spelled : β → Text} {forest : Forest β} (plain : forest.Plain)
    (next : Nat) (image : Nat → Text) :
    (forest.marked next).print image = forest.print spelled := by
  induction forest with
  | nil => rfl
  | text words closed rest ih => rw [marked, print, print, ih plain]
  | leaf item rest ih => exact plain.elim
  | single tag rest ih => exact plain.elim
  | element tag closing children rest childrenIh ih => exact plain.elim

theorem Plain.leaves_eq_nil {forest : Forest β} (plain : forest.Plain) : forest.leaves = [] := by
  induction forest with
  | nil => rfl
  | text words closed rest ih => exact ih plain
  | leaf item rest ih => exact plain.elim
  | single tag rest ih => exact plain.elim
  | element tag closing children rest childrenIh ih => exact plain.elim

theorem Plain.singles_eq_zero {forest : Forest β} (plain : forest.Plain) (sought : Text) :
    forest.singles sought = 0 := by
  induction forest with
  | nil => rfl
  | text words closed rest ih => exact ih plain
  | leaf item rest ih => exact plain.elim
  | single tag rest ih => exact plain.elim
  | element tag closing children rest childrenIh ih => exact plain.elim

theorem Plain.apart {forest : Forest β} (plain : forest.Plain) : forest.Apart := by
  induction forest with
  | nil => trivial
  | text words closed rest ih => exact ih plain
  | leaf item rest ih => exact plain.elim
  | single tag rest ih => exact plain.elim
  | element tag closing children rest childrenIh ih => exact plain.elim

theorem Flat.apart {forest : Forest β} (flat : forest.Flat) : forest.Apart := by
  induction forest with
  | nil => trivial
  | text words closed rest ih => exact ih flat
  | leaf item rest ih => exact ih flat
  | single tag rest ih => exact ih flat
  | element tag closing children rest childrenIh ih =>
      exact ⟨flat.1.singles_eq_zero _, flat.1.apart, ih flat.2⟩

theorem Flat.leaves_outer {forest : Forest β} (flat : forest.Flat) :
    forest.outer.leaves = forest.leaves := by
  induction forest with
  | nil => rfl
  | text words closed rest ih => exact ih flat
  | leaf item rest ih => rw [outer, leaves, leaves, ih flat]
  | single tag rest ih => exact ih flat
  | element tag closing children rest childrenIh ih =>
      rw [outer, leaves, leaves, leaves, ih flat.2, flat.1.leaves_eq_nil]

end Forest

section Detached

variable {ε : Type} {answer : PluginCall → StateM ε Text}

/-- An expansion leaves the segments and keeps the outputs, and with these and
the blocks in place of their marks the segments come to the text shown. -/
structure Answered (answer : PluginCall → StateM ε Text) (pieces : Cut PluginCall)
    (protection : Protection) (account : ε) (segments : List Segment) (outputs : List Text)
    (later : ε) (blocks : (Nat → Text) → Prop) (shown : Text) : Prop where
  expanded : outcome (expandCut (some (detached answer)) pieces) (protection, account) =
    (.ok (spell protection.nonce segments), (protection.extend outputs, later))
  filled : ∀ image, blocks image → Listed image protection.entries.length outputs →
    fill image segments = shown

namespace Answered

variable {pieces : Cut PluginCall} {protection : Protection} {account later : ε}
  {segments : List Segment} {outputs : List Text} {blocks : (Nat → Text) → Prop} {shown : Text}

theorem pushText (plain : Text)
    (answered : Answered answer pieces protection account segments outputs later blocks shown) :
    Answered answer (pieces.pushText plain) protection account (.literal plain :: segments) outputs
      later blocks (plain ++ shown) where
  expanded := outcome_expandCut_pushText plain answered.expanded
  filled image blocksListed outputsListed :=
    congrArg (plain ++ ·) (answered.filled image blocksListed outputsListed)

theorem pushMark (index : Nat) (block : Text)
    (answered : Answered answer pieces protection account segments outputs later blocks shown) :
    Answered answer (pieces.pushText (placeholderOf protection.nonce index)) protection account
      (.mark index :: segments) outputs later (fun image => image index = block ∧ blocks image)
      (block ++ shown) where
  expanded := outcome_expandCut_pushText _ answered.expanded
  filled image blocksListed outputsListed := by
    rw [fill_cons, answered.filled image blocksListed.2 outputsListed, Segment.fill, blocksListed.1]

/-- The answer to a tag is the next entry. -/
theorem pushFound (call : PluginCall) (cumulative : protection.cumulative = true)
    (answered : Answered answer pieces (protection.extend [((answer call).run account).1])
      ((answer call).run account).2 segments outputs later blocks shown) :
    Answered answer (pieces.pushFound call) protection account
      (.mark protection.entries.length :: segments) (((answer call).run account).1 :: outputs) later
      blocks (((answer call).run account).1 ++ shown) where
  expanded := by
    have called : outcome (detached answer call) (protection, account) =
        (.ok ((answer call).run account).1, (protection, ((answer call).run account).2)) := rfl
    have expanded := answered.expanded
    rw [nonce_extend, extend_extend] at expanded
    rw [outcome_expandCut_pushFound called cumulative]
    exact outcome_expandCut_pushText _ expanded
  filled image blocksListed outputsListed := by
    have filled := answered.filled image blocksListed
    rw [length_entries_extend] at filled
    rw [fill_cons, filled outputsListed.2, Segment.fill, outputsListed.1]

end Answered

theorem exists_answered (answer : PluginCall → StateM ε Text) {forest : Forest NoparseBlock} (flat : forest.Flat)
    (first : Nat) (protection : Protection) (account : ε) (cumulative : protection.cumulative = true) :
    ∃ outputs : List Text, outputs.length = forest.outer.tags ∧
      Answered answer ((forest.marked first).pieces (placeholderOf protection.nonce)) protection
        account ((forest.outer.marked first).layout protection.entries.length) outputs
        ((forest.reply answer).run account).2
        (fun image => Listed image first (forest.leaves.map NoparseBlock.content))
        ((forest.reply answer).run account).1 := by
  induction forest generalizing first protection account with
  | nil =>
      refine ⟨[], rfl, ?_, fun _ _ _ => rfl⟩
      rw [extend_nil]
      rfl
  | text plain closed rest ih =>
      obtain ⟨outputs, lengthEq, answered⟩ := ih flat first protection account cumulative
      exact ⟨outputs, lengthEq, answered.pushText plain⟩
  | leaf block rest ih =>
      obtain ⟨outputs, lengthEq, answered⟩ := ih flat (first + 1) protection account cumulative
      exact ⟨outputs, lengthEq, answered.pushMark first block.content⟩
  | single tag rest ih =>
      obtain ⟨outputs, lengthEq, answered⟩ := ih flat first
        (protection.extend [((answer (tag.call [])).run account).1])
        ((answer (tag.call [])).run account).2 cumulative
      rw [length_entries_extend] at answered
      refine ⟨_ :: outputs, ?_, answered.pushFound (tag.call []) cumulative⟩
      rw [List.length_cons, lengthEq, Forest.outer, Forest.tags, Nat.add_comm]
  | element tag closing children rest childrenIh ih =>
      obtain ⟨plain, restFlat⟩ := flat
      let call := tag.call (children.print NoparseBlock.print)
      obtain ⟨outputs, lengthEq, answered⟩ := ih restFlat first
        (protection.extend [((answer call).run account).1]) ((answer call).run account).2 cumulative
      have piecesEq : ((Forest.element tag closing children rest).marked first).pieces
          (placeholderOf protection.nonce) =
            ((rest.marked first).pieces (placeholderOf protection.nonce)).pushFound call := by
        rw [Forest.marked, Forest.pieces, plain.print_marked, plain.leaves_eq_nil]
        rfl
      have leavesEq : (Forest.element tag closing children rest).leaves = rest.leaves := by
        rw [Forest.leaves, plain.leaves_eq_nil, List.nil_append]
      rw [length_entries_extend] at answered
      rw [piecesEq, leavesEq]
      refine ⟨_ :: outputs, ?_, answered.pushFound call cumulative⟩
      rw [List.length_cons, lengthEq, Forest.outer, Forest.tags, Forest.tags]
      omega

/-- Putting back the contents and the outputs gives the text shown. -/
theorem inject_answered {forest : Forest NoparseBlock} (flat : forest.Flat)
    {protection : Protection} {account later : ε} (isNonce : IsNonce protection.nonce)
    {outputs : List Text} (lengthEq : outputs.length = forest.outer.tags)
    (kept : protection.entries = forest.leaves.map NoparseBlock.content) {shown : Text}
    (answered : Answered answer ((forest.marked 0).pieces (placeholderOf protection.nonce)) protection
      account ((forest.outer.marked 0).layout protection.entries.length) outputs later
      (fun image => Listed image 0 (forest.leaves.map NoparseBlock.content)) shown)
    (unforged : ¬ protection.nonce <:+: shown) :
    (protection.extend outputs).inject
        (spell protection.nonce ((forest.outer.marked 0).layout protection.entries.length)) =
      (shown, { protection with pass := protection.pass + 1, entries := [] }) := by
  let entries := literals (protection.entries ++ outputs)
  have listed : Listed (entryExpansion entries) 0 (protection.entries ++ outputs) := by
    apply listed_of_forall
    intro place text found
    rw [Nat.zero_add]
    have own := getElem?_literals_append [] found
    rw [List.append_nil] at own
    exact entryExpansion_literal own
  rw [listed_append, Nat.zero_add] at listed
  have blocksListed := listed.1
  rw [kept] at blocksListed
  have filled := answered.filled (entryExpansion entries) blocksListed listed.2
  have leavesBelow : ∀ index ∈ (forest.outer.marked 0).leaves, index < protection.entries.length := by
    intro index member
    have below := forest.outer.leaves_marked_lt 0 index member
    rwa [flat.leaves_outer, Nat.zero_add, ← List.length_map NoparseBlock.content, ← kept] at below
  have below : Below entries.length
      ((forest.outer.marked 0).layout protection.entries.length) := by
    have inside := Forest.below_layout leavesBelow
    rw [Forest.tags_marked, ← lengthEq, ← List.length_append] at inside
    rwa [show entries.length = (protection.entries ++ outputs).length from List.length_map _]
  have spelled : (entries.map (spell protection.nonce)) = protection.entries ++ outputs :=
    map_spell_literals _ _
  have restored := isNonce.restore_spell
    (fun _ _ => entryExpansion_of_getElem? (ordered_literals _)) (ordered_literals _) below
    (by rw [filled]; exact unforged)
  rw [spelled, filled] at restored
  rw [Protection.inject, nonce_extend, extend, restored]

/-- Parsing a template with a handler that leaves the parser alone and then
putting everything back gives the reply to the template, and nothing is kept. -/
theorem inject_parse_detached (nonces : Nat → Text) (isNonce : IsNonce (nonces 0))
    {forest : Forest NoparseBlock} (flat : forest.Flat) (answer : PluginCall → StateM ε Text)
    (account : ε) (data : Scope)
    (unforged : ¬ nonces 0 <:+: ((forest.reply answer).run account).1) :
    outcome (do
        let parsed ← parse (some (detached answer)) (forest.print NoparseBlock.print) data
        Parsing.inject parsed) ({ Protection.fresh nonces with cumulative := true }, account) =
      (.ok ((forest.reply answer).run account).1,
        ({ cumulative := true, nonces, pass := 1, entries := [] },
          ((forest.reply answer).run account).2)) := by
  let ready : Protection := { Protection.fresh nonces with cumulative := true }
  let started := ready.extend (forest.leaves.map NoparseBlock.content)
  have isNonceStarted : IsNonce started.nonce := isNonce
  have blocksKept : Protection.protectBlocks (forest.print NoparseBlock.print) ready =
      ((forest.marked 0).print (placeholderOf started.nonce), started) :=
    protectBlocks_print forest ready
  obtain ⟨outputs, lengthEq, answered⟩ :=
    exists_answered answer flat 0 started account rfl
  have expanded := answered.expanded
  rw [← Forest.cut_plugin_print isNonceStarted.open_not_mem_placeholderOf (flat.apart.marked 0)] at expanded
  have parsed := outcome_parse blocksKept expanded rfl
    (Forest.open_not_mem_layout isNonceStarted _ _) data
  have injected := inject_answered flat isNonceStarted lengthEq (List.nil_append _) answered unforged
  rw [outcome_bind_of_ok parsed, Parsing.inject, outcome_withProtection, injected]
  rfl

/-- Answers that look like tags, around a block with an opening noparse tag in
it. -/
theorem inject_parse_detached_tags :
    let noBlanks : Blanks := ⟨[], by decide⟩
    let name : PluginName := ⟨['a', ':', 'b'], by decide, by decide, by decide, by decide⟩
    let tag : PluginTag := ⟨⟨noBlanks, name, [], noBlanks⟩, nofun⟩
    let block : NoparseBlock := ⟨noBlanks, noBlanks, ['{', '{'], by decide, noBlanks, noBlanks⟩
    let forest : Forest NoparseBlock :=
      .single tag (.leaf block (.element tag ⟨noBlanks, noBlanks, noBlanks⟩
        (.text ['x'] (by decide) .nil) (.text ['y'] (by decide) .nil)))
    let answer (call : PluginCall) : StateM Nat Text := do
      modify (· + 1)
      return '{' :: '{' :: call.content
    let nonces : Nat → Text := fun _ => List.replicate 32 'a'
    outcome (do
        let parsed ← parse (some (detached answer)) (forest.print NoparseBlock.print) []
        Parsing.inject parsed) ({ Protection.fresh nonces with cumulative := true }, 0) =
      (.ok ['{', '{', '{', '{', '{', '{', 'x', 'y'],
        ({ cumulative := true, nonces, pass := 1, entries := [] }, 2)) := by
  intro noBlanks name tag block forest answer nonces
  have flat : forest.Flat := ⟨trivial, trivial⟩
  exact inject_parse_detached nonces (by decide) flat answer 0 [] (by decide)

end Detached

end ThemedViews
