import ThemedViews.Proofs.ParsingOutcomes

/-!
# What parsing adds to the entries

In cumulative mode parsing takes no entry away and puts none back.  What it
gives and what it adds depends on the nonce and on the entries that are there;
how many passes there have been and which nonces come later plays no part.
-/

namespace ThemedViews

open Text Tags

namespace Protection

/-- A text that has been cut, with placeholders in place of what was found, the
first of which is that of the entry `next`. -/
def standIns {α : Type} (nonce rest : Text) : (next : Nat) → List (Text × α) → Text
  | _, [] => rest
  | next, (before, _) :: pieces =>
      before ++ (placeholderOf nonce next ++ standIns nonce rest (next + 1) pieces)

theorem protectPieces_eq (pieces : List (Text × Text)) (rest : Text) (protection : Protection) :
    ((protectPieces pieces protection).1 ++ rest, (protectPieces pieces protection).2) =
      (standIns protection.nonce rest protection.entries.length pieces,
        protection.extend (pieces.map Prod.snd)) := by
  induction pieces generalizing protection with
  | nil => simp [protectPieces, standIns]
  | cons piece pieces ih =>
      obtain ⟨before, inner⟩ := piece
      have behind := Prod.mk.inj (ih (protection.extend [inner]))
      rw [nonce_extend, length_entries_extend, extend_extend] at behind
      refine Prod.ext ?_ behind.2
      rw [standIns, show protection.entries.length + 1 = protection.entries.length + [inner].length
        from rfl, ← behind.1]
      simp [protectPieces, protect_eq_extend]

/-- Protecting the blocks of a text leaves placeholders and adds the contents. -/
theorem protectBlocks_eq (content : Text) (protection : Protection) :
    protectBlocks content protection =
      (standIns protection.nonce (cut noparseBlock content).rest protection.entries.length
          (cut noparseBlock content).pieces,
        protection.extend (cut noparseBlock content).found) :=
  protectPieces_eq _ _ protection

end Protection

namespace Parsing

variable {ε α β : Type}

/-- A computation that in cumulative mode adds entries and changes nothing else.
What it gives and adds depends on the nonce and the entries. -/
def AddsEntries (action : Parsing ε α) : Prop :=
  ∀ (nonce : Text) (entries : List Text), ∃ found added, ∀ (protection : Protection) (account : ε),
    protection.cumulative = true → protection.nonce = nonce → protection.entries = entries →
      outcome action (protection, account) = (found, (protection.extend added, account))

theorem addsEntries_pure (value : α) : AddsEntries (pure value : Parsing ε α) := by
  intro nonce entries
  refine ⟨.ok value, [], fun protection account _ _ _ => ?_⟩
  rw [outcome_pure, Protection.extend_nil]

theorem addsEntries_throw (error : TemplateError) : AddsEntries (throw error : Parsing ε α) := by
  intro nonce entries
  refine ⟨.error error, [], fun protection account _ _ _ => ?_⟩
  rw [outcome_throw, Protection.extend_nil]

theorem addsEntries_mk (found : Except TemplateError α) :
    AddsEntries (ExceptT.mk (pure found) : Parsing ε α) := by
  cases found with
  | error error => exact addsEntries_throw error
  | ok value => exact addsEntries_pure value

theorem AddsEntries.bind {action : Parsing ε α} {next : α → Parsing ε β} (first : AddsEntries action)
    (behind : ∀ value, AddsEntries (next value)) : AddsEntries (action >>= next) := by
  intro nonce entries
  obtain ⟨found, added, ran⟩ := first nonce entries
  cases found with
  | error error =>
      exact ⟨.error error, added, fun protection account cumulative nonceEq entriesEq =>
        outcome_bind_of_error (ran protection account cumulative nonceEq entriesEq) _⟩
  | ok value =>
      obtain ⟨result, more, ranBehind⟩ := behind value nonce (entries ++ added)
      refine ⟨result, added ++ more, fun protection account cumulative nonceEq entriesEq => ?_⟩
      have extended := ranBehind (protection.extend added) account cumulative nonceEq
        (by rw [← entriesEq]; rfl)
      rw [outcome_bind_of_ok (ran protection account cumulative nonceEq entriesEq), extended,
        Protection.extend_extend]

/-- Only what is done in cumulative mode matters. -/
theorem AddsEntries.bind_isCumulative {next : Bool → Parsing ε α} (adds : AddsEntries (next true)) :
    AddsEntries (isCumulative >>= next) := by
  intro nonce entries
  obtain ⟨found, added, ran⟩ := adds nonce entries
  refine ⟨found, added, fun protection account cumulative nonceEq entriesEq => ?_⟩
  rw [outcome_bind_of_ok (outcome_isCumulative protection account), cumulative]
  exact ran protection account cumulative nonceEq entriesEq

theorem addsEntries_protect (text : Text) :
    AddsEntries (withProtection (Protection.protect text) : Parsing ε Text) := by
  intro nonce entries
  refine ⟨.ok (Protection.placeholderOf nonce entries.length), [text], ?_⟩
  rintro protection account - rfl rfl
  rfl

theorem addsEntries_protectBlocks (content : Text) :
    AddsEntries (withProtection (Protection.protectBlocks content) : Parsing ε Text) := by
  intro nonce entries
  let blocks := cut noparseBlock content
  refine ⟨.ok (Protection.standIns nonce blocks.rest entries.length blocks.pieces), blocks.found, ?_⟩
  rintro protection account - rfl rfl
  rw [outcome_withProtection, Protection.protectBlocks_eq]

section Handlers

variable {handler : Handler ε} (adds : ∀ tag, AddsEntries (handler tag))

include adds

theorem addsEntries_expandPieces (pieces : List (Text × PluginCall)) :
    AddsEntries (expandPieces (some handler) pieces) := by
  induction pieces with
  | nil => exact addsEntries_pure []
  | cons piece pieces ih =>
      obtain ⟨before, tag⟩ := piece
      refine (adds tag).bind fun output => .bind_isCumulative ?_
      exact (addsEntries_protect output).bind fun shown => ih.bind fun behind => addsEntries_pure _

/-- Parsing adds entries if the handler does no more than that. -/
theorem addsEntries_parse (content : Text) (data : Scope) :
    AddsEntries (parse (some handler) content data) := by
  refine (addsEntries_protectBlocks content).bind fun marked => ?_
  have expands : AddsEntries (expand (some handler) marked) :=
    (addsEntries_expandPieces adds _).bind fun output => addsEntries_pure _
  exact expands.bind fun expanded => (addsEntries_mk _).bind fun rendered =>
    .bind_isCumulative (addsEntries_pure rendered)

end Handlers

theorem addsEntries_bridge (levels : Nat) (tag : PluginCall) :
    AddsEntries (bridge levels tag : Parsing ε Text) := by
  induction levels generalizing tag with
  | zero => exact addsEntries_throw _
  | succ levels ih => exact addsEntries_parse ih tag.content []

end Parsing

end ThemedViews
