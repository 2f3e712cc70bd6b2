import ThemedViews.Proofs.AddedEntries

/-!
# What is left when noparse blocks are taken out

A text is divided at its noparse blocks, the contents of which become entries.
No block is left in the text with the placeholders, nor in any part of it: before a
block there is no opening noparse tag, or else a block would have begun there, and
no tag reaches from a text into a placeholder.  Therefore nothing more is
protected when such a text or a part of it is gone through again.
-/

namespace ThemedViews

open Text Tags Protection

namespace Tags

section Word

variable {word : Text}

theorem afterTag?_append_of_eq_some (solid : ∀ rest, Stops isBlank (word ++ rest)) {text rest : Text}
    (read : afterTag? word text = some rest) (more : Text) :
    afterTag? word (text ++ more) = some (rest ++ more) := by
  obtain ⟨before, behind, rfl⟩ := exists_eq_of_afterTag?_eq_some read
  rw [← afterTag?_print_append before behind solid (rest ++ more)]
  simp only [List.append_assoc]

/-- A tag with one word cannot begin in a text and end behind a character that is in no such tag. -/
theorem afterTag?_append_of_not_mem (solid : ∀ rest, Stops isBlank (word ++ rest)) {first : Char}
    (notWord : first ∉ word) (notBlank : isBlank first = false) (notOpener : first ∉ opener)
    (notCloser : first ∉ closer) {text : Text} (unread : afterTag? word text = none) (rest : Text) :
    afterTag? word (text ++ first :: rest) = none := by
  cases read : afterTag? word (text ++ first :: rest) with
  | none => rfl
  | some left =>
      obtain ⟨before, behind, reached, nonempty, restEq, tagEq⟩ :=
        exists_reached_of_afterTag?_append solid unread read
      have absent : first ∉ opener ++ (before.text ++ (word ++ (behind.text ++ closer))) := by
        simp [notOpener, notCloser, notWord, before.not_mem notBlank, behind.not_mem notBlank]
      cases reached with
      | nil => contradiction
      | cons other reached =>
          obtain ⟨rfl, -⟩ := List.cons.inj restEq
          rw [tagEq] at absent
          exact absurd (List.mem_append_right _ List.mem_cons_self) absent

end Word

/-- The text before the first closing noparse tag holds none. -/
theorem exists_closing_of_untilClosing? {text inner behind : Text}
    (found : untilClosing? text = some (inner, behind)) :
    untilClosing? inner = none ∧
      ∃ closing, text = inner ++ closing ∧ afterClosing? closing = some behind := by
  induction text generalizing inner with
  | nil => cases found
  | cons first text ih =>
      rw [untilClosing?] at found
      cases here : afterClosing? (first :: text) with
      | some left =>
          rw [here] at found
          obtain ⟨rfl, rfl⟩ := Prod.mk.inj (Option.some.inj found)
          exact ⟨rfl, first :: text, rfl, here⟩
      | none =>
          rw [here] at found
          obtain ⟨⟨start, left⟩, further, same⟩ := Option.map_eq_some_iff.mp found
          obtain ⟨rfl, rfl⟩ := Prod.mk.inj same
          obtain ⟨unclosed, closing, rfl, closes⟩ := ih further
          refine ⟨?_, closing, rfl, closes⟩
          cases unread : afterClosing? (first :: start) with
          | none => rw [untilClosing?, unread, unclosed]; rfl
          | some left =>
              have read := afterTag?_append_of_eq_some stops_isBlank_closing unread closing
              rw [List.cons_append] at read
              rw [afterClosing?, read] at here
              cases here

theorem untilClosing?_append_ne_none {text : Text} (before : Text) (closes : afterClosing? text ≠ none) :
    untilClosing? (before ++ text) ≠ none := by
  induction before with
  | nil =>
      cases text with
      | nil => exact absurd rfl closes
      | cons first text =>
          rw [List.nil_append, untilClosing?]
          cases read : afterClosing? (first :: text) with
          | none => exact absurd read closes
          | some behind => exact Option.some_ne_none _
  | cons first before ih =>
      rw [List.cons_append, untilClosing?]
      cases afterClosing? (first :: (before ++ text)) with
      | none => simpa using ih
      | some behind => exact Option.some_ne_none _

/-- What is recognised as a noparse block is one as it is printed. -/
theorem exists_block_of_noparseBlock {text inner : Text} {length : Nat}
    (found : noparseBlock text = some (inner, length)) :
    ∃ (block : NoparseBlock) (behind : Text), text = block.print ++ behind ∧ block.content = inner := by
  simp only [noparseBlock, Option.bind_eq_bind, Option.bind_eq_some_iff] at found
  obtain ⟨inside, opened, ⟨content, behind⟩, closed, same⟩ := found
  obtain ⟨rfl, -⟩ := Prod.mk.inj (Option.some.inj same)
  obtain ⟨unclosed, closing, rfl, closes⟩ := exists_closing_of_untilClosing? closed
  obtain ⟨beforeOpening, behindOpening, rfl⟩ := exists_eq_of_afterTag?_eq_some opened
  obtain ⟨beforeClosing, behindClosing, rfl⟩ := exists_eq_of_afterTag?_eq_some closes
  refine ⟨⟨beforeOpening, behindOpening, content, unclosed, beforeClosing, behindClosing⟩, behind, ?_, rfl⟩
  simp only [NoparseBlock.print, NoparseBlock.printClosing, List.append_assoc]

/-- No noparse block stands in a text. -/
def Blockless (text : Text) : Prop :=
  ∀ block : NoparseBlock, ¬ block.print <:+: text

theorem Blockless.of_isInfix {text part : Text} (blockless : Blockless text) (isInfix : part <:+: text) :
    Blockless part :=
  fun block within => blockless block (within.trans isInfix)

theorem blockless_iff {text : Text} :
    Blockless text ↔ ∀ suffix, suffix ≠ [] → suffix <:+ text → noparseBlock suffix = none := by
  constructor
  · intro blockless suffix _ isSuffix
    cases found : noparseBlock suffix with
    | none => rfl
    | some answer =>
        obtain ⟨block, behind, rfl, -⟩ := exists_block_of_noparseBlock found
        have within : block.print <:+: block.print ++ behind := (List.prefix_append _ _).isInfix
        exact absurd (within.trans isSuffix.isInfix) (blockless block)
  · rintro never block ⟨before, behind, rfl⟩
    have unfound := never (block.print ++ behind) (List.append_ne_nil_of_left_ne_nil block.print_ne_nil _)
      ⟨before, (List.append_assoc _ _ _).symm⟩
    rw [block.noparseBlock_print_append] at unfound
    cases unfound

/-- A block stands in a text of two parts only if it begins in the first or stands in the second. -/
theorem blockless_append {text rest : Text} (blockless : Blockless rest)
    (never : ∀ suffix, suffix ≠ [] → suffix <:+ text → afterOpening? (suffix ++ rest) = none) :
    Blockless (text ++ rest) := by
  rw [blockless_iff] at blockless ⊢
  rintro suffix nonempty ⟨front, equal⟩
  rcases List.append_eq_append_iff.mp equal with ⟨inner, textEq, rfl⟩ | ⟨inner, _, restEq⟩
  · by_cases isNil : inner = []
    · rw [isNil, List.nil_append] at nonempty ⊢
      exact blockless rest nonempty List.suffix_rfl
    · rw [noparseBlock, never inner isNil ⟨front, textEq.symm⟩]
      rfl
  · exact blockless suffix nonempty ⟨inner, restEq.symm⟩

theorem NoparseBlock.printClosing_isSuffix_print (block : NoparseBlock) :
    block.printClosing <:+ block.print := by
  simp only [NoparseBlock.print, ← List.append_assoc]
  exact List.suffix_append _ _

/-- No opening noparse tag stands in a text. -/
def Openless (text : Text) : Prop :=
  ∀ suffix, suffix ≠ [] → suffix <:+ text → afterOpening? suffix = none

/-- Where no block begins before a block, no opening tag stands. -/
theorem openless_of_forall_none {before behind : Text} {block : NoparseBlock}
    (never : ∀ suffix, suffix ≠ [] → suffix <:+ before →
      noparseBlock (suffix ++ (block.print ++ behind)) = none) : Openless before := by
  intro suffix nonempty isSuffix
  cases opened : afterOpening? suffix with
  | none => rfl
  | some inside =>
      have unfound := never suffix nonempty isSuffix
      have openedHere := afterTag?_append_of_eq_some stops_isBlank_opening opened (block.print ++ behind)
      have closedHere : untilClosing? (inside ++ (block.print ++ behind)) ≠ none := by
        obtain ⟨front, printEq⟩ := block.printClosing_isSuffix_print
        rw [← printEq, List.append_assoc, ← List.append_assoc]
        exact untilClosing?_append_ne_none _ (by rw [block.afterClosing?_printClosing_append]; exact nofun)
      rw [noparseBlock, afterOpening?, openedHere, Option.bind_eq_bind, Option.bind_some] at unfound
      cases closed : untilClosing? (inside ++ (block.print ++ behind)) with
      | none => exact absurd closed closedHere
      | some parts =>
          rw [closed] at unfound
          cases unfound

/-- A text is cut at its noparse blocks: what stands between them has no opening tag, and no
block is left behind the last. -/
theorem exists_blocks_cut (text : Text) :
    ∃ pieces : List (Text × NoparseBlock),
      (cut noparseBlock text).pieces = pieces.map (fun piece => (piece.1, piece.2.content)) ∧
      text = (⟨pieces, (cut noparseBlock text).rest⟩ : Cut NoparseBlock).fill NoparseBlock.print ∧
      (∀ piece ∈ pieces, Openless piece.1) ∧ Blockless (cut noparseBlock text).rest := by
  rcases forall_none_or_exists_first noparseBlock text with
    never | ⟨before, blocked, inner, length, rfl, nonempty, recognised, never⟩
  · rw [cut_of_forall_none never]
    exact ⟨[], rfl, rfl, fun piece member => absurd member List.not_mem_nil, blockless_iff.mpr never⟩
  · obtain ⟨block, behind, rfl, rfl⟩ := exists_block_of_noparseBlock recognised
    have shorter : behind.length < (before ++ (block.print ++ behind)).length := by
      have := List.length_pos_iff.mpr block.print_ne_nil
      simp only [List.length_append]
      omega
    obtain ⟨pieces, piecesEq, behindEq, openless, blockless⟩ := exists_blocks_cut behind
    rw [cut_append_of_forall_none never,
      cut_append_of_eq_some block.print_ne_nil (block.noparseBlock_print_append behind)]
    refine ⟨(before, block) :: pieces, ?_, ?_, ?_, ?_⟩
    · simp [Cut.pushFound, Cut.pushText, piecesEq]
    · simp only [Cut.pushFound, Cut.pushText]
      conv_lhs => rw [behindEq]
      simp [Cut.fill, List.append_assoc]
    · exact List.forall_mem_cons.mpr ⟨openless_of_forall_none never, openless⟩
    · simpa [Cut.pushFound, Cut.pushText] using blockless
termination_by text.length

end Tags

namespace Protection

theorem standIns_map {α β : Type} (image : α → β) (nonce rest : Text) (next : Nat) (pieces : List (Text × α)) :
    standIns nonce rest next (pieces.map fun piece => (piece.1, image piece.2)) =
      standIns nonce rest next pieces := by
  induction pieces generalizing next with
  | nil => rfl
  | cons piece pieces ih => rw [List.map_cons, standIns, standIns, ih]

/-- Placeholders in place of the blocks make no new block. -/
theorem blockless_standIns {nonce rest : Text} (isNonce : IsNonce nonce) (next : Nat)
    {pieces : List (Text × NoparseBlock)} (openless : ∀ piece ∈ pieces, Openless piece.1)
    (blockless : Blockless rest) : Blockless (standIns nonce rest next pieces) := by
  induction pieces generalizing next with
  | nil => exact blockless
  | cons piece pieces ih =>
      obtain ⟨before, block⟩ := piece
      obtain ⟨openlessBefore, openless⟩ := List.forall_mem_cons.mp openless
      have quiet := quiet_of_not_mem (isNonce.open_not_mem_placeholderOf next)
      refine blockless_append (blockless_append (ih (next + 1) openless) (quiet _)) ?_
      intro suffix nonempty isSuffix
      rw [placeholderOf_eq_cons]
      exact afterTag?_append_of_not_mem stops_isBlank_opening (by decide) (by decide) (by decide) (by decide)
        (openlessBefore suffix nonempty isSuffix) _

theorem protectBlocks_of_blockless {text : Text} (blockless : Blockless text) (protection : Protection) :
    protectBlocks text protection = (text, protection) := by
  rw [protectBlocks_eq, cut_of_forall_none (blockless_iff.mp blockless)]
  exact congrArg (Prod.mk text) (extend_nil protection)

theorem blockless_protectBlocks {protection : Protection} (isNonce : IsNonce protection.nonce) (content : Text) :
    Blockless (protectBlocks content protection).1 := by
  obtain ⟨pieces, piecesEq, -, openless, blockless⟩ := exists_blocks_cut content
  rw [protectBlocks_eq, piecesEq, standIns_map NoparseBlock.content]
  exact blockless_standIns isNonce _ openless blockless

/-- Taking the noparse blocks out of a text loses nothing and leaves none.  The text is
divided at its blocks, each of which is an opening tag, a content without a closing tag
and a closing tag; placeholders take their places and the contents become the new entries, in
order.  What is given holds no block, nor does a part of it, so going through it again
changes nothing and protects nothing. -/
theorem exists_blocks_protectBlocks (content : Text) (protection : Protection)
    (isNonce : IsNonce protection.nonce) :
    ∃ (pieces : List (Text × NoparseBlock)) (rest : Text),
      content = (⟨pieces, rest⟩ : Cut NoparseBlock).fill NoparseBlock.print ∧
      protectBlocks content protection =
        (standIns protection.nonce rest protection.entries.length pieces,
          protection.extend (pieces.map fun piece => piece.2.content)) ∧
      ∀ part, part <:+: (protectBlocks content protection).1 →
        (∀ block : NoparseBlock, ¬ block.print <:+: part) ∧
          ∀ other, protectBlocks part other = (part, other) := by
  obtain ⟨pieces, piecesEq, contentEq, -, -⟩ := exists_blocks_cut content
  refine ⟨pieces, _, contentEq, ?_, ?_⟩
  · rw [protectBlocks_eq, Cut.found, piecesEq, standIns_map NoparseBlock.content, List.map_map]
    rfl
  · intro part isInfix
    have blockless := (blockless_protectBlocks isNonce content).of_isInfix isInfix
    exact ⟨blockless, protectBlocks_of_blockless blockless⟩

/-- A block with an opening tag in its content, and a closing tag behind it that closes nothing. -/
theorem exists_blocks_protectBlocks_stray :
    let protection := Protection.fresh fun _ => List.replicate 32 'a'
    let sample := "\x7b\x7bnoparse\x7d\x7d\x7b\x7bnoparse\x7d\x7d0\x7b\x7b/noparse\x7d\x7d\x7b\x7b/noparse\x7d\x7d".toList
    let marked := protection.placeholder 0 ++ "\x7b\x7b/noparse\x7d\x7d".toList
    protectBlocks sample protection = (marked, protection.extend ["\x7b\x7bnoparse\x7d\x7d0".toList]) ∧
      ∀ other, protectBlocks marked other = (marked, other) := by
  intro protection sample marked
  have blocks : cut noparseBlock sample =
      ⟨[([], "\x7b\x7bnoparse\x7d\x7d0".toList)], "\x7b\x7b/noparse\x7d\x7d".toList⟩ := by decide +kernel
  have protectEq : protectBlocks sample protection =
      (marked, protection.extend ["\x7b\x7bnoparse\x7d\x7d0".toList]) := by
    rw [protectBlocks_eq, blocks]
    rfl
  obtain ⟨pieces, rest, -, -, unblocked⟩ := exists_blocks_protectBlocks sample protection (by decide)
  rw [protectEq] at unblocked
  exact ⟨protectEq, (unblocked marked List.infix_rfl).2⟩

end Protection

end ThemedViews
