import ThemedViews.Proofs.DepthLimit

/-!
# Parsing bodies without a limit

A handler that parses the body of each tag with itself needs no limit to come to an
end.  A body may be longer than the text that it stands in was, because placeholders
are longer than blocks.  But placeholders have no braces, and each tag has two that are
not in its body.  So the bodies that are parsed at all levels are no more than the
braces of the template, and the levels are no more either.
-/

namespace ThemedViews

open Text Tags Protection Parsing

namespace Tags

/-- How many bodies are parsed for some tags at most: one for each tag, and one for each
brace in its body. -/
def bodiesWithin : List PluginCall → Nat
  | [] => 0
  | tag :: rest => tag.content.count '{' + 1 + bodiesWithin rest

theorem two_le_count_of_opening? {tag rest name attributes : Text}
    (opens : opening? (tag ++ rest) = some (name, attributes, rest)) : 2 ≤ tag.count '{' := by
  obtain ⟨inside, textEq, front, insideEq⟩ := exists_inside_of_opening? opens
  rw [← insideEq, ← List.append_assoc, List.append_cancel_right_eq] at textEq
  have own : opener.count '{' = 2 := by decide
  rw [textEq, List.count_append, own]
  exact Nat.le_add_right 2 _

/-- A tag has two braces more than its body. -/
theorem Stretch.count_content_le {rest stretch : Text} {call : PluginCall} (taken : Stretch rest call stretch) :
    call.content.count '{' + 2 ≤ stretch.count '{' := by
  cases taken with
  | alone opens => exact two_le_count_of_opening? opens
  | @paired tag _ _ body _ _ _ opens =>
      have own := two_le_count_of_opening? opens
      simp only [List.count_append]
      omega

theorem Splits.bodiesWithin_le {text rest : Text} {pieces : List (Text × PluginCall)}
    (splits : Splits text pieces rest) : bodiesWithin (pieces.map Prod.snd) ≤ text.count '{' := by
  induction splits with
  | ends => exact Nat.zero_le _
  | tag tagless taken splits ih =>
      have here := taken.count_content_le
      simp only [List.map_cons, bodiesWithin, List.count_append]
      omega

theorem bodiesWithin_found_le (text : Text) : bodiesWithin (cut plugin text).found ≤ text.count '{' :=
  (splits_cut text).bodiesWithin_le

theorem count_content_lt_bodiesWithin {tags : List PluginCall} {tag : PluginCall} (member : tag ∈ tags) :
    tag.content.count '{' < bodiesWithin tags := by
  induction tags with
  | nil => cases member
  | cons first rest ih =>
      rw [bodiesWithin]
      rcases List.mem_cons.mp member with rfl | later
      · omega
      · have within := ih later
        omega

end Tags

/-- No braces come into a text with the placeholders of its blocks. -/
theorem Protection.count_protectBlocks_le {protection : Protection} (isNonce : IsNonce protection.nonce)
    (content : Text) : (protectBlocks content protection).1.count '{' ≤ content.count '{' := by
  rw [protectBlocks_eq]
  exact (marked_standIns _ _ _ _).count_le isNonce.open_not_mem_placeholderOf

namespace Parsing

variable {ε : Type} {data : Scope} {content : Text}

/-- As long as the nonces are these, two computations come to the same.  The gauge that the
second one keeps is raised for no more than a number of bodies. -/
def Tallies (nonces : Nat → Text) (bodies : Nat) (plain : Parsing ε Text)
    (watched : Parsing Gauge Text) : Prop :=
  ∀ (protection : Protection) (account : ε) (gauge : Gauge), protection.nonces = nonces →
    ∃ result after begun, outcome plain (protection, account) = (result, (after, account)) ∧
      outcome watched (protection, gauge) = (result, (after, ⟨gauge.level, gauge.begun ++ begun⟩)) ∧
      after.nonces = nonces ∧ begun.length ≤ bodies ∧
      ∀ level ∈ begun, gauge.level < level ∧ level ≤ gauge.level + bodies

section Tallies

variable {nonces : Nat → Text} {bodies : Nat} {plain other : Parsing ε Text} {watched : Parsing Gauge Text}

theorem Tallies.mono (tallies : Tallies nonces bodies plain watched) {more : Nat} (fewer : bodies ≤ more) :
    Tallies nonces more plain watched := by
  intro protection account gauge noncesEq
  obtain ⟨result, after, begun, ran, watchedRan, kept, counted, bounded⟩ :=
    tallies protection account gauge noncesEq
  refine ⟨result, after, begun, ran, watchedRan, kept, Nat.le_trans counted fewer, fun level member => ?_⟩
  have := bounded level member
  omega

/-- The parse of one more body. -/
theorem Tallies.gauged (tallies : Tallies nonces bodies plain watched) :
    Tallies nonces (bodies + 1) plain (gauged watched) := by
  intro protection account gauge noncesEq
  obtain ⟨result, after, begun, ran, watchedRan, kept, counted, bounded⟩ :=
    tallies protection account ⟨gauge.level + 1, gauge.begun ++ [gauge.level + 1]⟩ noncesEq
  refine ⟨result, after, (gauge.level + 1) :: begun, ran, ?_, kept, Nat.succ_le_succ counted, ?_⟩
  · rw [outcome_gauged watchedRan, List.append_assoc]
    rfl
  · refine List.forall_mem_cons.mpr ⟨⟨by omega, by omega⟩, fun level member => ?_⟩
    have := bounded level member
    simp only at this
    omega

/-- What is tallied by the same computation comes to the same. -/
theorem Tallies.outcome_eq (tallies : Tallies nonces bodies plain watched) {more : Nat}
    (otherTallies : Tallies nonces more other watched) {protection : Protection}
    (noncesEq : protection.nonces = nonces) (account : ε) :
    outcome plain (protection, account) = outcome other (protection, account) := by
  obtain ⟨result, after, begun, ran, watchedRan, -⟩ := tallies protection account ⟨0, []⟩ noncesEq
  obtain ⟨otherResult, otherAfter, otherBegun, otherRan, sameWatched, -⟩ :=
    otherTallies protection account ⟨0, []⟩ noncesEq
  obtain ⟨rfl, sameState⟩ := Prod.mk.inj (watchedRan.symm.trans sameWatched)
  obtain ⟨rfl, -⟩ := Prod.mk.inj sameState
  rw [ran, otherRan]

theorem Answer.nonces_settled (answer : Answer) : answer.settled.nonces = answer.behind.nonces := by
  rw [Answer.settled]
  split <;> rfl

section Handlers

variable {plain : Handler ε} {watched : Handler Gauge}

theorem tallies_expandPieces {pieces : List (Text × PluginCall)}
    (tallies : ∀ tag ∈ pieces.map Prod.snd,
      Tallies nonces (tag.content.count '{' + 1) (plain tag) (watched tag)) :
    Tallies nonces (bodiesWithin (pieces.map Prod.snd)) (expandPieces (some plain) pieces)
      (expandPieces (some watched) pieces) := by
  induction pieces with
  | nil => exact fun protection account gauge noncesEq => ⟨.ok [], protection, [], rfl, by simp [expandPieces],
      noncesEq, Nat.zero_le _, fun level member => absurd member List.not_mem_nil⟩
  | cons piece pieces ih =>
      obtain ⟨before, tag⟩ := piece
      rw [List.map_cons, List.forall_mem_cons] at tallies
      obtain ⟨here, others⟩ := tallies
      intro protection account gauge noncesEq
      rw [List.map_cons, bodiesWithin]
      obtain ⟨result, behind, begun, called, watchedCalled, kept, counted, bounded⟩ :=
        here protection account gauge noncesEq
      cases result with
      | error error =>
          refine ⟨.error error, behind, begun, outcome_expandPieces_cons_of_error called,
            outcome_expandPieces_cons_of_error watchedCalled, kept, by omega, fun level member => ?_⟩
          have := bounded level member
          omega
      | ok output =>
          let answer : Answer := ⟨tag, output, behind⟩
          obtain ⟨result, after, more, ran, watchedRan, keptBehind, countedBehind, boundedBehind⟩ :=
            ih others answer.settled account ⟨gauge.level, gauge.begun ++ begun⟩
              (answer.nonces_settled.trans kept)
          have stepped : outcome (expandPieces (some plain) ((before, answer.tag) :: pieces)) _ = _ :=
            outcome_expandPieces_cons called
          have watchedStepped : outcome (expandPieces (some watched) ((before, answer.tag) :: pieces)) _ = _ :=
            outcome_expandPieces_cons watchedCalled
          rw [List.append_assoc] at watchedRan
          refine ⟨result.map fun filled => before ++ answer.shown ++ filled, after, begun ++ more,
            stepped.trans ?_, watchedStepped.trans ?_, keptBehind, ?_, ?_⟩
          · cases result with
            | error error => exact outcome_bind_of_error ran _
            | ok filled => exact outcome_bind_of_ok ran _
          · cases result with
            | error error => exact outcome_bind_of_error watchedRan _
            | ok filled => exact outcome_bind_of_ok watchedRan _
          · rw [List.length_append]
            omega
          · refine List.forall_mem_append.mpr ⟨fun level member => ?_, fun level member => ?_⟩
            · have := bounded level member
              omega
            · have := boundedBehind level member
              simp only at this
              omega

/-- A parse is tallied with no more bodies than braces, if that holds of the bodies of tags
with fewer braces. -/
theorem tallies_parse (isNonce : ∀ pass, IsNonce (nonces pass))
    (tallies : ∀ tag : PluginCall, tag.content.count '{' < content.count '{' →
      Tallies nonces (tag.content.count '{' + 1) (plain tag) (watched tag)) (data : Scope) :
    Tallies nonces (content.count '{') (parse (some plain) content data) (parse (some watched) content data) := by
  intro protection account gauge noncesEq
  let marked := (protectBlocks content protection).1
  have isNonceHere : IsNonce protection.nonce := by
    rw [nonce, noncesEq]
    exact isNonce _
  have within : bodiesWithin (cut plugin marked).found ≤ content.count '{' :=
    Nat.le_trans (bodiesWithin_found_le marked) (count_protectBlocks_le isNonceHere content)
  have inside := (tallies_expandPieces fun tag (member : tag ∈ (cut plugin marked).found) =>
    tallies tag (Nat.lt_of_lt_of_le (count_content_lt_bodiesWithin member) within)).mono within
  have keptStart : (protectBlocks content protection).2.nonces = nonces := by
    rw [protectBlocks_eq]
    exact noncesEq
  obtain ⟨filled, ended, begun, ran, watchedRan, kept, counted, bounded⟩ :=
    inside (protectBlocks content protection).2 account gauge keptStart
  let expanded := filled.map fun text => text ++ (cut plugin marked).rest
  have expands {ε : Type} {handler : Handler ε} {here later : ε}
      (ran : outcome (expandPieces (some handler) (cut plugin marked).pieces)
        ((protectBlocks content protection).2, here) = (filled, (ended, later))) :
      outcome (expand (some handler) marked) ((protectBlocks content protection).2, here) =
        (expanded, (ended, later)) := by
    cases filled with
    | error error => exact outcome_bind_of_error ran _
    | ok text => exact outcome_bind_of_ok ran _
  exact ⟨_, _, begun, outcome_parse_of_expand rfl (expands ran) data,
    outcome_parse_of_expand rfl (expands watchedRan) data,
    (nonces_concluded data expanded ended).trans kept, counted, bounded⟩

end Handlers

end Tallies

/-- Each of some handlers, but for the first, answers for a tag by a parse of its body with
the handler before it, and with something around the parse.  A handler that is all of them
parses bodies with itself, and there is no limit to that. -/
def Unrolls (around : Parsing ε Text → Parsing ε Text) (data : Scope) (handlers : Nat → Handler ε) : Prop :=
  ∀ levels tag protection account, (∀ pass, IsNonce (protection.nonces pass)) →
    outcome (handlers (levels + 1) tag) (protection, account) =
      outcome (around (parse (some (handlers levels)) tag.content data)) (protection, account)

/-- Bodies are parsed at fewer levels than a body has braces. -/
theorem tallies_of_unrolls {nonces : Nat → Text} (isNonce : ∀ pass, IsNonce (nonces pass))
    {handlers : Nat → Handler ε} (unrolls : Unrolls id data handlers)
    {watched : Nat → Handler Gauge} (watchedUnrolls : Unrolls gauged data watched)
    {levels more : Nat} (tag : PluginCall) (enough : tag.content.count '{' < levels)
    (alsoEnough : tag.content.count '{' < more) :
    Tallies nonces (tag.content.count '{' + 1) (handlers levels tag) (watched more tag) := by
  obtain ⟨levels, rfl⟩ := Nat.exists_eq_add_one_of_ne_zero (Nat.ne_zero_of_lt enough)
  obtain ⟨more, rfl⟩ := Nat.exists_eq_add_one_of_ne_zero (Nat.ne_zero_of_lt alsoEnough)
  have inside : Tallies nonces (tag.content.count '{') (parse (some (handlers levels)) tag.content data)
      (parse (some (watched more)) tag.content data) :=
    tallies_parse isNonce (fun inner fewer => tallies_of_unrolls isNonce unrolls watchedUnrolls inner
      (by omega) (by omega)) data
  intro protection account gauge noncesEq
  have isNonceHere : ∀ pass, IsNonce (protection.nonces pass) := noncesEq ▸ isNonce
  rw [unrolls levels tag protection account isNonceHere, watchedUnrolls more tag protection gauge isNonceHere]
  exact inside.gauged protection account gauge noncesEq
termination_by tag.content.count '{'

/-- The handler that parses the body of each tag with the same data and itself.  It goes
down one level for each brace of the body, which is as far as there is anything to do. -/
def unlimited (data : Scope) : Handler ε :=
  fun tag => reentry (fun _ => pure ()) data (tag.content.count '{' + 1) tag

/-- The same with a gauge. -/
def gaugedReentry (data : Scope) : (levels : Nat) → Handler Gauge
  | 0 => fun tag => throw (.depthExceeded tag.name 0)
  | levels + 1 => fun tag => gauged (parse (some (gaugedReentry data levels)) tag.content data)

theorem unrolls_gaugedReentry (data : Scope) : Unrolls gauged data (gaugedReentry data) :=
  fun _ _ _ _ _ => rfl

theorem reentry_succ (data : Scope) (levels : Nat) (tag : PluginCall) :
    (reentry (fun _ => pure ()) data (levels + 1) tag : Parsing ε Text) =
      parse (some (reentry (fun _ => pure ()) data levels)) tag.content data :=
  pure_bind () _

theorem unrolls_reentry (data : Scope) :
    Unrolls id data (reentry (fun _ => pure ()) data : Nat → Handler ε) :=
  fun levels tag protection account _ => congrArg (outcome · (protection, account)) (reentry_succ data levels tag)

/-- The handler without a limit parses each body with itself. -/
theorem unrolls_unlimited (data : Scope) : Unrolls id data fun _ => (unlimited data : Handler ε) := by
  intro levels tag protection account isNonce
  have tallies (inner : PluginCall) (fewer : inner.content.count '{' < tag.content.count '{') {levels : Nat}
      (enough : inner.content.count '{' < levels) :
      Tallies protection.nonces (inner.content.count '{' + 1)
        (reentry (fun _ => pure ()) data levels inner : Parsing ε Text)
        (gaugedReentry data (tag.content.count '{') inner) :=
    tallies_of_unrolls isNonce (unrolls_reentry data) (unrolls_gaugedReentry data) inner enough fewer
  have bounded := tallies_parse isNonce (fun inner fewer => tallies inner fewer fewer) data
  have unbounded := tallies_parse isNonce (fun inner fewer => tallies inner fewer (Nat.lt_succ_self _)) data
  refine (congrArg (outcome · (protection, account)) (reentry_succ data (tag.content.count '{') tag)).trans ?_
  exact bounded.outcome_eq unbounded rfl account

/-- Parsing bodies without a limit comes to an end.  There is a handler that parses each
body with the same data and itself.  With every such handler a parse comes to the same, and
so it does with a handler of which nothing is known but that it does so for as many levels as
the template has braces.  No more bodies are parsed than there are braces, and none at more
levels. -/
theorem exists_outcome_of_unrolls (data : Scope) (content : Text) (protection : Protection)
    (isNonce : ∀ pass, IsNonce (protection.nonces pass)) :
    let braces := content.count '{'
    (Unrolls id data fun _ => (unlimited data : Handler ε)) ∧
    ∃ result after,
      (∀ (handlers : Nat → Handler ε) (levels : Nat) (account : ε), Unrolls id data handlers →
        braces ≤ levels → outcome (parse (some (handlers levels)) content data) (protection, account) =
          (result, (after, account))) ∧
      ∀ (watched : Nat → Handler Gauge) (levels : Nat), Unrolls gauged data watched → braces ≤ levels →
        ∃ begun, outcome (parse (some (watched levels)) content data) (protection, ⟨0, []⟩) =
            (result, (after, ⟨0, begun⟩)) ∧
          begun.length ≤ braces ∧ ∀ level ∈ begun, 0 < level ∧ level ≤ braces := by
  intro braces
  have tallies {ε : Type} {handlers : Nat → Handler ε} {watched : Nat → Handler Gauge} {levels more : Nat}
      (unrolls : Unrolls id data handlers) (watchedUnrolls : Unrolls gauged data watched)
      (enough : braces ≤ levels) (alsoEnough : braces ≤ more) :
      Tallies protection.nonces braces (parse (some (handlers levels)) content data)
        (parse (some (watched more)) content data) :=
    tallies_parse isNonce (fun tag fewer => tallies_of_unrolls isNonce unrolls watchedUnrolls tag
      (Nat.lt_of_lt_of_le fewer enough) (Nat.lt_of_lt_of_le fewer alsoEnough)) data
  -- All handlers are compared with one that has no account and one that has a gauge.
  have noAccount : Unrolls id data (reentry (fun _ => pure ()) data : Nat → Handler Unit) := unrolls_reentry data
  have withGauge := unrolls_gaugedReentry data
  obtain ⟨result, after, begun, ran, watchedRan, -⟩ :=
    tallies noAccount withGauge (Nat.le_refl braces) (Nat.le_refl braces) protection () ⟨0, []⟩ rfl
  refine ⟨unrolls_unlimited data, result, after, ?_, ?_⟩
  · intro handlers levels account unrolls enough
    obtain ⟨other, later, more, otherRan, sameWatched, -⟩ :=
      tallies unrolls withGauge enough (Nat.le_refl braces) protection account ⟨0, []⟩ rfl
    obtain ⟨rfl, sameState⟩ := Prod.mk.inj (watchedRan.symm.trans sameWatched)
    obtain ⟨rfl, -⟩ := Prod.mk.inj sameState
    exact otherRan
  · intro watched levels watchedUnrolls enough
    obtain ⟨other, later, more, sameRan, otherWatched, -, counted, bounded⟩ :=
      tallies noAccount watchedUnrolls (Nat.le_refl braces) enough protection () ⟨0, []⟩ rfl
    obtain ⟨rfl, sameState⟩ := Prod.mk.inj (ran.symm.trans sameRan)
    obtain ⟨rfl, -⟩ := Prod.mk.inj sameState
    exact ⟨more, otherWatched, counted, fun level member => by simpa using bounded level member⟩

/-- A tag with a tag inside, the body of which is longer than the template. -/
theorem exists_outcome_of_unrolls_long_body :
    let template : Text := ("\x7b\x7b a:b \x7d\x7d\x7b\x7b noparse \x7d\x7dx\x7b\x7b /noparse \x7d\x7d".toList ++
      "\x7b\x7b c:d \x7d\x7dy\x7b\x7b /c:d \x7d\x7d\x7b\x7b /a:b \x7d\x7d".toList)
    let started : Protection := ⟨true, fun _ => List.replicate 32 'a', 0, []⟩
    (∀ pass, IsNonce (started.nonces pass)) ∧
    (∃ tag ∈ (cut plugin (protectBlocks template started).1).found, template.length < tag.content.length) ∧
    ∀ handler : Handler Unit, (Unrolls id [] fun _ => handler) →
      (outcome (parse (some handler) template []) (started, ())).1 = .ok (placeholderOf started.nonce 2) := by
  intro template started
  have isNonce : ∀ pass, IsNonce (started.nonces pass) := fun _ => (by decide : IsNonce (List.replicate 32 'a'))
  obtain ⟨unrolls, result, after, same, -⟩ := exists_outcome_of_unrolls [] template started isNonce
  have ran := same (fun _ => unlimited []) _ () unrolls (Nat.le_refl _)
  have shown : (outcome (parse (some (unlimited [])) template []) (started, ())).1 =
      .ok (placeholderOf started.nonce 2) := by decide +kernel
  refine ⟨isNonce, by decide +kernel, fun handler parsesWithItself => ?_⟩
  rw [same (fun _ => handler) _ () parsesWithItself (Nat.le_refl _), ← ran]
  exact shown

end Parsing

end ThemedViews
