import ThemedViews.Proofs.ParsingOutcomes
import ThemedViews.Proofs.ProtectionChanges

/-!
# Placeholders of a whole run

Whoever uses a parser, also a handler that uses it again while it parses, can do
three things with it: parse, put back, and switch cumulative mode.  A run of such
uses is recorded change by change.  The record leaves the run as it is and
accounts for the protected texts behind it, so that what holds of placeholders
along changes holds along every run.
-/

namespace ThemedViews

open Protection

/-- A use of the parser, with an account `ε` of its own. -/
inductive Routine (ε : Type) where
  | finish (result : Except TemplateError Text)
  | attend (change : ε → ε) (next : ε → Routine ε)
  | setCumulative (enabled : Bool) (next : Routine ε)
  | inject (content : Text) (next : Text → Routine ε)
  | parseBare (content : Text) (data : Scope) (next : Except TemplateError Text → Routine ε)
  | parse (handler : PluginCall → Routine ε) (content : Text) (data : Scope)
      (next : Except TemplateError Text → Routine ε)

namespace Parsing

variable {ε α β : Type}

/-- A computation whose failure is one of its results. -/
def attempt (action : Parsing ε α) : Parsing ε (Except TemplateError α) :=
  ExceptT.mk do return .ok (← action.run)

def withAccount (change : ε → ε) : Parsing ε ε :=
  modifyGet fun (protection, account) => (account, (protection, change account))

end Parsing

namespace Routine

variable {ε : Type}

def run : Routine ε → Parsing ε Text
  | .finish result => ExceptT.mk (pure result)
  | .attend change next => do (next (← Parsing.withAccount change)).run
  | .setCumulative enabled next => do
      Parsing.setCumulative enabled
      next.run
  | .inject content next => do (next (← Parsing.inject content)).run
  | .parseBare content data next => do (next (← Parsing.attempt (Parsing.parse none content data))).run
  | .parse handler content data next => do
      let handled := some fun tag => (handler tag).run
      (next (← Parsing.attempt (Parsing.parse handled content data))).run

end Routine

namespace Recording

variable {ε : Type}

/-- A computation with the changes so far in its account. -/
abbrev Recorded (ε : Type) := Parsing (List Change × ε)

def note (change : Change) : Recorded ε Unit :=
  modify fun (protection, (changes, account)) => (protection, (changes ++ [change], account))

def keep (text : Text) : Recorded ε Text := do
  note (.keeping text)
  Parsing.withProtection (Protection.protect text)

def inject (content : Text) : Recorded ε Text := do
  note (.injecting content)
  Parsing.inject content

def setCumulative (enabled : Bool) : Recorded ε Unit := do
  note (.switching enabled)
  Parsing.setCumulative enabled

def keepPieces : List (Text × Text) → Recorded ε Text
  | [] => pure []
  | (before, inner) :: rest => do
      let mark ← keep inner
      return before ++ mark ++ (← keepPieces rest)

def keepBlocks (content : Text) : Recorded ε Text := do
  let pieces := Text.cut Tags.noparseBlock content
  return (← keepPieces pieces.pieces) ++ pieces.rest

def expandPieces (handler : Option (Handler (List Change × ε))) :
    List (Text × PluginCall) → Recorded ε Text
  | [] => pure []
  | (before, tag) :: rest => do
      let output ← Parsing.call handler tag
      let shown ← if ← Parsing.isCumulative then keep output else pure output
      return before ++ shown ++ (← expandPieces handler rest)

def expand (handler : Option (Handler (List Change × ε))) (content : Text) : Recorded ε Text := do
  let pieces := Text.cut Tags.plugin content
  return (← expandPieces handler pieces.pieces) ++ pieces.rest

def parse (handler : Option (Handler (List Change × ε))) (content : Text) (data : Scope) :
    Recorded ε Text := do
  let marked ← keepBlocks content
  let expanded ← expand handler marked
  let rendered ← ExceptT.mk (pure (Template.renderTags expanded data))
  if ← Parsing.isCumulative then return rendered else inject rendered

end Recording

namespace Routine

variable {ε : Type}

/-- The run of a use with a record of all changes. -/
def recorded : Routine ε → Recording.Recorded ε Text
  | .finish result => ExceptT.mk (pure result)
  | .attend change next => do
      let (_, account) ← Parsing.withAccount fun (changes, account) => (changes, change account)
      (next account).recorded
  | .setCumulative enabled next => do
      Recording.setCumulative enabled
      next.recorded
  | .inject content next => do (next (← Recording.inject content)).recorded
  | .parseBare content data next => do
      (next (← Parsing.attempt (Recording.parse none content data))).recorded
  | .parse handler content data next => do
      let recordedHandler := some fun tag => (handler tag).recorded
      (next (← Parsing.attempt (Recording.parse recordedHandler content data))).recorded

end Routine

/-- A recorded computation does what the computation does, and the record goes on
with changes that account for the protected texts behind it. -/
def Records {ε α : Type} (recorded : Recording.Recorded ε α) (plain : Parsing ε α) : Prop :=
  ∀ protection changes account, ∃ result further later,
    outcome recorded (protection, (changes, account)) =
      (result, (protection.changed further, (changes ++ further, later))) ∧
    outcome plain (protection, account) = (result, (protection.changed further, later))

section Records

variable {ε α β : Type}

theorem Records.of_unchanged {recorded : Recording.Recorded ε α} {plain : Parsing ε α}
    (same : ∀ protection changes account, ∃ result later,
      outcome recorded (protection, (changes, account)) = (result, (protection, (changes, later))) ∧
      outcome plain (protection, account) = (result, (protection, later))) : Records recorded plain := by
  intro protection changes account
  obtain ⟨result, later, ran, ranPlain⟩ := same protection changes account
  exact ⟨result, [], later, by rw [ran, List.append_nil]; rfl, ranPlain⟩

theorem records_mk (result : Except TemplateError α) :
    Records (ε := ε) (ExceptT.mk (pure result)) (ExceptT.mk (pure result)) :=
  .of_unchanged fun _ _ account => ⟨result, account, rfl, rfl⟩

theorem records_isCumulative : Records (ε := ε) Parsing.isCumulative Parsing.isCumulative :=
  .of_unchanged fun protection _ account => ⟨.ok protection.cumulative, account, rfl, rfl⟩

theorem Records.bind {recorded : Recording.Recorded ε α} {plain : Parsing ε α}
    {recordedNext : α → Recording.Recorded ε β} {next : α → Parsing ε β}
    (first : Records recorded plain) (rest : ∀ value, Records (recordedNext value) (next value)) :
    Records (recorded >>= recordedNext) (plain >>= next) := by
  intro protection changes account
  obtain ⟨found, further, between, ran, ranPlain⟩ := first protection changes account
  cases found with
  | error error =>
      exact ⟨.error error, further, between, outcome_bind_of_error ran _, outcome_bind_of_error ranPlain _⟩
  | ok value =>
      obtain ⟨result, others, later, ranNext, ranNextPlain⟩ :=
        rest value (protection.changed further) (changes ++ further) between
      refine ⟨result, further ++ others, later, ?_, ?_⟩
      · rw [outcome_bind_of_ok ran, ranNext, changed_append, List.append_assoc]
      · rw [outcome_bind_of_ok ranPlain, ranNextPlain, changed_append]

theorem Records.attempt {recorded : Recording.Recorded ε α} {plain : Parsing ε α}
    (records : Records recorded plain) : Records (Parsing.attempt recorded) (Parsing.attempt plain) := by
  intro protection changes account
  obtain ⟨found, further, later, ran, ranPlain⟩ := records protection changes account
  refine ⟨.ok found, further, later, ?_, ?_⟩
  · exact congrArg (fun run => (Except.ok run.1, run.2)) ran
  · exact congrArg (fun run => (Except.ok run.1, run.2)) ranPlain

theorem records_keep (text : Text) :
    Records (ε := ε) (Recording.keep text) (Parsing.withProtection (Protection.protect text)) :=
  fun _ _ account => ⟨_, [.keeping text], account, rfl, rfl⟩

theorem records_inject (content : Text) :
    Records (ε := ε) (Recording.inject content) (Parsing.inject content) :=
  fun _ _ account => ⟨_, [.injecting content], account, rfl, rfl⟩

theorem records_setCumulative (enabled : Bool) :
    Records (ε := ε) (Recording.setCumulative enabled) (Parsing.setCumulative enabled) :=
  fun _ _ account => ⟨_, [.switching enabled], account, rfl, rfl⟩

theorem withProtection_protectPieces_cons (before inner : Text) (rest : List (Text × Text)) :
    (Parsing.withProtection (protectPieces ((before, inner) :: rest)) : Parsing ε Text) = do
      let mark ← Parsing.withProtection (Protection.protect inner)
      return before ++ mark ++ (← Parsing.withProtection (protectPieces rest)) :=
  rfl

theorem records_keepPieces (pieces : List (Text × Text)) :
    Records (ε := ε) (Recording.keepPieces pieces) (Parsing.withProtection (protectPieces pieces)) := by
  induction pieces with
  | nil => exact records_mk (.ok [])
  | cons piece rest ih =>
      obtain ⟨before, inner⟩ := piece
      rw [withProtection_protectPieces_cons]
      refine (records_keep inner).bind fun mark => ?_
      exact ih.bind fun behind => records_mk (.ok _)

theorem records_keepBlocks (content : Text) :
    Records (ε := ε) (Recording.keepBlocks content) (Parsing.withProtection (protectBlocks content)) :=
  (records_keepPieces (Text.cut Tags.noparseBlock content).pieces).bind fun _ => records_mk (.ok _)

section Parse

variable {recordedHandler : Option (Handler (List Change × ε))} {handler : Option (Handler ε)}
  (records : ∀ tag, Records (Parsing.call recordedHandler tag) (Parsing.call handler tag))

include records

theorem records_expandPieces (pieces : List (Text × PluginCall)) :
    Records (Recording.expandPieces recordedHandler pieces) (Parsing.expandPieces handler pieces) := by
  induction pieces with
  | nil => exact records_mk (.ok [])
  | cons piece rest ih =>
      obtain ⟨before, tag⟩ := piece
      have behind (shown : Text) :
          Records (do return before ++ shown ++ (← Recording.expandPieces recordedHandler rest))
            (do return before ++ shown ++ (← Parsing.expandPieces handler rest)) :=
        ih.bind fun _ => records_mk (.ok _)
      refine (records tag).bind fun output => records_isCumulative.bind fun cumulative => ?_
      cases cumulative with
      | false => exact behind output
      | true => exact (records_keep output).bind behind

theorem records_parse (content : Text) (data : Scope) :
    Records (Recording.parse recordedHandler content data) (Parsing.parse handler content data) := by
  refine (records_keepBlocks content).bind fun marked => ?_
  have expands : Records (Recording.expand recordedHandler marked) (Parsing.expand handler marked) :=
    (records_expandPieces records _).bind fun _ => records_mk (.ok _)
  refine expands.bind fun expanded => (records_mk _).bind fun rendered => ?_
  refine records_isCumulative.bind fun cumulative => ?_
  cases cumulative with
  | false => exact records_inject rendered
  | true => exact records_mk (.ok rendered)

end Parse

/-- Every run is what its record says. -/
theorem records_run (routine : Routine ε) : Records routine.recorded routine.run := by
  induction routine with
  | finish result => exact records_mk result
  | attend change next ih =>
      intro protection changes account
      exact ih account protection changes (change account)
  | setCumulative enabled next ih => exact (records_setCumulative enabled).bind fun _ => ih
  | inject content next ih => exact (records_inject content).bind ih
  | parseBare content data next ih =>
      have silent (tag : PluginCall) :
          Records (Parsing.call (none : Option (Handler (List Change × ε))) tag)
            (Parsing.call none tag) := records_mk (.ok [])
      exact (records_parse silent content data).attempt.bind ih
  | parse handler content data next ihHandler ih =>
      -- What the handler does is a use of the parser again, and smaller.
      have answers (tag : PluginCall) :
          Records (Parsing.call (some fun tag => (handler tag).recorded) tag)
            (Parsing.call (some fun tag => (handler tag).run) tag) := ihHandler tag
      exact (records_parse answers content data).attempt.bind ih

end Records

namespace Routine

variable {ε : Type}

theorem records_call (handler : Option (PluginCall → Routine ε)) (tag : PluginCall) :
    Records (Parsing.call (handler.map fun handler tag => (handler tag).recorded) tag)
      (Parsing.call (handler.map fun handler tag => (handler tag).run) tag) := by
  cases handler with
  | none => exact records_mk (.ok [])
  | some handler => exact records_run (handler tag)

theorem exists_added_of_parse (handler : Option (PluginCall → Routine ε)) (content : Text) (data : Scope)
    (protection : Protection) (account : ε)
    (stays : ∀ change ∈ (outcome (Recording.parse (handler.map fun handler tag => (handler tag).recorded)
      content data) (protection, ([], account))).2.2.1, change.isInjecting = false) :
    let after := (outcome (Parsing.parse (handler.map fun handler tag => (handler tag).run) content data)
      (protection, account)).2.1
    after.nonce = protection.nonce ∧ ∃ added, after.entries = protection.entries ++ added := by
  obtain ⟨result, changes, later, ran, ranPlain⟩ :=
    records_parse (records_call handler) content data protection [] account
  rw [ran] at stays
  rw [ranPlain]
  exact exists_added_of_changed stays

/-- Along a run no placeholder is given twice, and none that was given before
something was put back comes up again.  As long as nothing is put back, in a parse
or in any other stretch of the run, the nonce stays and entries are added. -/
theorem issued_along_run (routine : Routine ε) (protection : Protection) (account : ε)
    (apart : DrawnApart protection.nonces
      (Set.Icc protection.pass (outcome routine.run (protection, account)).2.1.pass)) :
    let recording := outcome routine.recorded (protection, ([], account))
    let changes := recording.2.2.1
    outcome routine.run (protection, account) =
        (recording.1, (protection.changed changes, recording.2.2.2)) ∧
      (protection.issued changes).Nodup ∧
      (∀ (handler : Option (PluginCall → Routine ε)) content data state account,
        (∀ change ∈ (outcome (Recording.parse (handler.map fun handler tag => (handler tag).recorded)
          content data) (state, ([], account))).2.2.1, change.isInjecting = false) →
        let after := (outcome (Parsing.parse (handler.map fun handler tag => (handler tag).run)
          content data) (state, account)).2.1
        after.nonce = state.nonce ∧ ∃ added, after.entries = state.entries ++ added) ∧
      (∀ before stretch behind, changes = before ++ stretch ++ behind →
        (∀ change ∈ stretch, change.isInjecting = false) →
        let first := protection.changed before
        (first.changed stretch).nonce = first.nonce ∧
          ∃ added, (first.changed stretch).entries = first.entries ++ added) ∧
      ∀ before content behind, changes = before ++ .injecting content :: behind →
        let first := protection.changed before
        let injected := (first.inject content).2
        injected.entries = [] ∧ injected.nonce ≠ first.nonce ∧
          ∀ mark ∈ protection.issued before, ∀ further rest, behind = further ++ rest →
            ∀ index, (injected.changed further).placeholder index ≠ mark := by
  obtain ⟨result, changes, later, ran, ranPlain⟩ := records_run routine protection [] account
  rw [ranPlain] at apart
  rw [ran, ranPlain]
  refine ⟨rfl, nodup_issued apart, exists_added_of_parse, ?_, ?_⟩
  · intro before stretch behind _ stays
    exact exists_added_of_changed stays
  · intro before content behind split first injected
    have split : changes = before ++ .injecting content :: behind := split
    rw [split] at apart
    exact ⟨rfl, nonce_inject_ne apart, fun mark member further rest parts =>
      placeholder_ne_of_injecting apart member parts⟩

def countedNonces (pass : Nat) : Text :=
  List.replicate 31 '0' ++ Nat.toDigits 10 pass

def restlessText : Text :=
  ("\x7b\x7b noparse \x7d\x7dx\x7b\x7b /noparse \x7d\x7d\x7b\x7b a:b \x7d\x7d" ++
    "\x7b\x7b noparse \x7d\x7dy\x7b\x7b /noparse \x7d\x7d\x7b\x7b /a:b \x7d\x7d").toList

/-- The handler puts everything back in the middle of a parse, and parses again. -/
def restless : Routine Unit :=
  .setCumulative true <|
    .parse (fun tag => .inject tag.content fun text => .parseBare text [] .finish) restlessText [] fun _ =>
      .inject [] fun text => .finish (.ok text)

theorem issued_along_run_restless :
    let started := Protection.fresh countedNonces
    let changes := (outcome restless.recorded (started, ([], ()))).2.2.1
    DrawnApart countedNonces (Set.Icc 0 (outcome restless.run (started, ())).2.1.pass) ∧
      (started.issued changes).Nodup ∧ (started.issued changes).length = 3 := by
  intro started changes
  have ended : (outcome restless.run (started, ())).2.1.pass = 2 := by decide +kernel
  have apart : DrawnApart countedNonces (Set.Icc 0 (outcome restless.run (started, ())).2.1.pass) := by
    rw [ended]
    have nonces : ∀ pass ≤ 2, IsNonce (countedNonces pass) := by decide
    have different : ∀ pass ≤ 2, ∀ other ≤ 2,
        countedNonces pass = countedNonces other → pass = other := by decide
    exact ⟨fun pass bounds => nonces pass bounds.2,
      fun pass bounds other otherBounds => different pass bounds.2 other otherBounds.2⟩
  exact ⟨apart, (issued_along_run restless started () apart).2.1, by decide +kernel⟩

end Routine

end ThemedViews
