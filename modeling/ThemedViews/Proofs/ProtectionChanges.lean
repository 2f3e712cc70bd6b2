import Mathlib.Data.Set.Function
import Mathlib.Order.Interval.Set.Defs
import ThemedViews.Proofs.PlaceholderRestoration

/-!
# Placeholders along changes

Protected texts change in three ways: a text is kept aside, all are put back, or
cumulative mode is switched.  A placeholder is told by its pass and its index.
Within a pass the index counts up with the entries, and putting back begins the
next pass, so that no two placeholders have both in common.
-/

namespace ThemedViews.Protection

/-- Something that is done to protected texts. -/
inductive Change where
  | keeping (text : Text)
  | injecting (content : Text)
  | switching (enabled : Bool)

namespace Change

def apply : Change → Protection → Protection
  | .keeping text, protection => (protection.protect text).2
  | .injecting content, protection => (protection.inject content).2
  | .switching enabled, protection => { protection with cumulative := enabled }

def isInjecting : Change → Bool
  | .injecting _ => true
  | _ => false

end Change

def changed (protection : Protection) (changes : List Change) : Protection :=
  changes.foldl (fun protection change => change.apply protection) protection

/-- The placeholders that are given while changes are made, in order. -/
def issued : Protection → List Change → List Text
  | _, [] => []
  | protection, .keeping text :: rest =>
      let (mark, protection) := protection.protect text
      mark :: issued protection rest
  | protection, change :: rest => issued (change.apply protection) rest

/-- The nonces of some passes are nonces, and no two of them are the same. -/
structure DrawnApart (nonces : Nat → Text) (passes : Set Nat) : Prop where
  isNonce : ∀ pass ∈ passes, IsNonce (nonces pass)
  injOn : Set.InjOn nonces passes

theorem DrawnApart.mono {nonces : Nat → Text} {passes others : Set Nat} (apart : DrawnApart nonces passes)
    (part : others ⊆ passes) : DrawnApart nonces others :=
  ⟨fun pass member => apart.isNonce pass (part member), apart.injOn.mono part⟩

section Changes

variable {protection : Protection} {changes : List Change}

theorem changed_append (protection : Protection) (changes others : List Change) :
    protection.changed (changes ++ others) = (protection.changed changes).changed others :=
  List.foldl_append

theorem nonces_changed (protection : Protection) (changes : List Change) :
    (protection.changed changes).nonces = protection.nonces := by
  induction changes generalizing protection with
  | nil => rfl
  | cons change rest ih =>
      refine (ih (change.apply protection)).trans ?_
      cases change <;> rfl

theorem pass_le_changed (protection : Protection) (changes : List Change) :
    protection.pass ≤ (protection.changed changes).pass := by
  induction changes generalizing protection with
  | nil => exact Nat.le_refl _
  | cons change rest ih =>
      refine Nat.le_trans ?_ (ih (change.apply protection))
      cases change with
      | keeping text => exact Nat.le_refl _
      | injecting content => exact Nat.le_succ _
      | switching enabled => exact Nat.le_refl _

/-- As long as nothing is put back, the nonce stays and entries are added. -/
theorem exists_added_of_changed (stays : ∀ change ∈ changes, change.isInjecting = false) :
    (protection.changed changes).nonce = protection.nonce ∧
      ∃ added, (protection.changed changes).entries = protection.entries ++ added := by
  induction changes generalizing protection with
  | nil => exact ⟨rfl, [], (List.append_nil _).symm⟩
  | cons change rest ih =>
      obtain ⟨first, others⟩ := List.forall_mem_cons.mp stays
      obtain ⟨nonceEq, added, entriesEq⟩ := @ih (change.apply protection) others
      cases change with
      | keeping text => exact ⟨nonceEq, text :: added, entriesEq.trans (List.append_assoc ..)⟩
      | injecting content => cases first
      | switching enabled => exact ⟨nonceEq, added, entriesEq⟩

/-- A placeholder is given in a pass that has come, and above the entries that
were there. -/
theorem exists_pass_of_mem_issued {mark : Text} (member : mark ∈ protection.issued changes) :
    ∃ pass index, mark = placeholderOf (protection.nonces pass) index ∧
      pass ∈ Set.Icc protection.pass (protection.changed changes).pass ∧
      (pass = protection.pass → protection.entries.length ≤ index) := by
  induction changes generalizing protection with
  | nil => cases member
  | cons change rest ih =>
      cases change with
      | keeping text =>
          rcases List.mem_cons.mp member with rfl | later
          · have ended := pass_le_changed protection (.keeping text :: rest)
            exact ⟨protection.pass, protection.entries.length, rfl, ⟨Nat.le_refl _, ended⟩,
              fun _ => Nat.le_refl _⟩
          · obtain ⟨pass, index, markEq, bounds, above⟩ := ih later
            refine ⟨pass, index, markEq, bounds, fun same => ?_⟩
            have counted : (protection.entries ++ [text]).length ≤ index := above same
            rw [List.length_append, List.length_singleton] at counted
            omega
      | injecting content =>
          obtain ⟨pass, index, markEq, bounds, _⟩ := ih member
          have next : protection.pass + 1 ≤ pass := bounds.1
          exact ⟨pass, index, markEq, ⟨by omega, bounds.2⟩, fun same => by omega⟩
      | switching enabled => exact ih member

theorem DrawnApart.eq_of_placeholderOf_eq {nonces : Nat → Text} {passes : Set Nat}
    {pass other index count : Nat} (apart : DrawnApart nonces passes) (isDrawn : pass ∈ passes)
    (otherDrawn : other ∈ passes)
    (same : placeholderOf (nonces pass) index = placeholderOf (nonces other) count) :
    pass = other ∧ index = count := by
  have lengthEq : (nonces pass).length = (nonces other).length := by
    rw [(apart.isNonce pass isDrawn).length_eq, (apart.isNonce other otherDrawn).length_eq]
  have noncesEq : nonces pass = nonces other := by
    rw [placeholderOf_eq, placeholderOf_eq, List.append_cancel_left_eq] at same
    exact List.append_inj_left same lengthEq
  rw [noncesEq] at same
  have isPrefix : placeholderOf (nonces other) index <+: placeholderOf (nonces other) count ++ [] := by
    rw [same]
    exact List.prefix_append _ _
  exact ⟨apart.injOn isDrawn otherDrawn noncesEq, placeholder_index_eq isPrefix⟩

/-- No placeholder is given twice. -/
theorem nodup_issued
    (apart : DrawnApart protection.nonces (Set.Icc protection.pass (protection.changed changes).pass)) :
    (protection.issued changes).Nodup := by
  induction changes generalizing protection with
  | nil => exact .nil
  | cons change rest ih =>
      cases change with
      | keeping text =>
          -- To be given again, it would have to be given in this pass, above its own entry.
          refine List.nodup_cons.mpr ⟨fun again => ?_, ih apart⟩
          obtain ⟨pass, index, markEq, bounds, above⟩ := exists_pass_of_mem_issued again
          have ended := pass_le_changed protection (.keeping text :: rest)
          have first : protection.pass ∈ Set.Icc protection.pass _ := ⟨Nat.le_refl _, ended⟩
          obtain ⟨samePass, sameIndex⟩ := apart.eq_of_placeholderOf_eq first bounds markEq
          have counted : (protection.entries ++ [text]).length ≤ index := above samePass.symm
          rw [List.length_append, List.length_singleton] at counted
          omega
      | injecting content =>
          exact ih (apart.mono fun pass bounds => ⟨Nat.le_of_succ_le bounds.1, bounds.2⟩)
      | switching enabled => exact ih apart

/-- A placeholder of an earlier pass stands for nothing. -/
theorem placeholder_ne_of_mem_issued {later : Protection} {last : Nat} {mark : Text}
    (apart : DrawnApart protection.nonces (Set.Icc protection.pass last))
    (member : mark ∈ protection.issued changes) (noncesEq : later.nonces = protection.nonces)
    (isLater : (protection.changed changes).pass < later.pass) (within : later.pass ≤ last) (index : Nat) :
    later.placeholder index ≠ mark := by
  rintro rfl
  obtain ⟨pass, count, markEq, ⟨begun, ended⟩, _⟩ := exists_pass_of_mem_issued member
  rw [placeholder, nonce, noncesEq] at markEq
  have drawn : pass ∈ Set.Icc protection.pass last := ⟨begun, by omega⟩
  have laterDrawn : later.pass ∈ Set.Icc protection.pass last := ⟨by omega, within⟩
  obtain ⟨samePass, _⟩ := apart.eq_of_placeholderOf_eq laterDrawn drawn markEq
  omega

section Injecting

variable {before behind : List Change} {content : Text}
  (apart : DrawnApart protection.nonces (Set.Icc protection.pass
    (protection.changed (before ++ .injecting content :: behind)).pass))

include apart

theorem nonce_inject_ne :
    ((protection.changed before).inject content).2.nonce ≠ (protection.changed before).nonce := by
  intro same
  have begun := pass_le_changed protection before
  have ended := pass_le_changed ((protection.changed before).inject content).2 behind
  rw [changed_append] at apart
  have next : (protection.changed before).pass + 1 ∈
      Set.Icc protection.pass (((protection.changed before).inject content).2.changed behind).pass :=
    ⟨by omega, ended⟩
  have current : (protection.changed before).pass ∈
      Set.Icc protection.pass (((protection.changed before).inject content).2.changed behind).pass :=
    ⟨begun, Nat.le_of_succ_le ended⟩
  rw [nonce, nonce, inject, nonces_changed] at same
  exact Nat.succ_ne_self _ (apart.injOn next current same)

theorem placeholder_ne_of_injecting {mark : Text} (member : mark ∈ protection.issued before)
    {further rest : List Change} (split : behind = further ++ rest) (index : Nat) :
    ((((protection.changed before).inject content).2).changed further).placeholder index ≠ mark := by
  rw [changed_append] at apart
  refine placeholder_ne_of_mem_issued apart member ?_ ?_ ?_ index
  · rw [nonces_changed]
    exact nonces_changed protection before
  · exact pass_le_changed ((protection.changed before).inject content).2 further
  · rw [split]
    have passed := pass_le_changed ((((protection.changed before).inject content).2).changed further) rest
    rwa [← changed_append] at passed

end Injecting

end Changes

end ThemedViews.Protection
