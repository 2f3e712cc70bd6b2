import ThemedViews.Proofs.BlockExtraction
import ThemedViews.Proofs.IssuedPlaceholders

/-!
# What a parse leaves behind outside cumulative mode

Outside cumulative mode a parse that comes to a text puts everything back, also what
was kept aside before it.  A parse that fails puts nothing back.  A log of the
parses that begin and of those that come to a text tells what is still kept aside when
all is done: the noparse blocks of the texts whose parses have begun since a parse
last came to a text.
-/

namespace ThemedViews

open Text Tags Protection

namespace Tags

/-- Where no block is found, none stands. -/
theorem found_cut_eq_nil_iff {content : Text} : (cut noparseBlock content).found = [] ↔ Blockless content := by
  constructor
  · intro noneFound
    obtain ⟨pieces, piecesEq, contentEq, -, blockless⟩ := exists_blocks_cut content
    have noPieces : pieces = [] := by simpa [Cut.found, piecesEq] using noneFound
    rw [contentEq, noPieces]
    simpa [Cut.fill] using blockless
  · intro blockless
    rw [cut_of_forall_none (blockless_iff.mp blockless)]
    rfl

end Tags

/-- Something that is told of parses. -/
inductive Turn where
  | begun (content : Text)
  | ended

namespace Turn

/-- The texts that have been begun, when `texts` were before. -/
def follow (texts : List Text) : Turn → List Text
  | .begun content => texts ++ [content]
  | .ended => []

/-- The texts whose parses have begun since a parse last came to a text. -/
def unended (turns : List Turn) : List Text :=
  turns.foldl follow []

/-- What is kept aside for these texts. -/
def pending (turns : List Turn) : List Text :=
  (unended turns).flatMap fun content => (cut noparseBlock content).found

@[simp]
theorem pending_begun (turns : List Turn) (content : Text) :
    pending (turns ++ [.begun content]) = pending turns ++ (cut noparseBlock content).found := by
  simp [pending, unended, follow]

@[simp]
theorem pending_ended (turns : List Turn) : pending (turns ++ [.ended]) = [] := by
  simp [pending, unended, follow]

theorem pending_eq_nil_iff {turns : List Turn} :
    pending turns = [] ↔ ∀ content ∈ unended turns, Blockless content := by
  simp only [pending, List.flatMap_eq_nil_iff, found_cut_eq_nil_iff]

end Turn

namespace Logging

variable {ε : Type}

/-- A computation with the parses so far in its account. -/
abbrev Logged (ε : Type) := Parsing (List Turn × ε)

def note (turn : Turn) : Logged ε Unit :=
  modify fun (protection, (turns, account)) => (protection, (turns ++ [turn], account))

/-- A parse that is noted when it begins, and when it comes to a text. -/
def parse (handler : Option (Handler (List Turn × ε))) (content : Text) (data : Scope) : Logged ε Text := do
  note (.begun content)
  let text ← Parsing.parse handler content data
  note .ended
  return text

/-- A parse that comes to a text is noted last. -/
theorem exists_ended_of_parse {handler : Option (Handler (List Turn × ε))} {content text : Text} {data : Scope}
    {state : Protection × (List Turn × ε)} (done : (outcome (parse handler content data) state).1 = .ok text) :
    ∃ before, (outcome (parse handler content data) state).2.2.1 = before ++ [.ended] := by
  obtain ⟨after, ran⟩ : ∃ after, outcome (parse handler content data) state = (.ok text, after) :=
    ⟨_, Prod.ext done rfl⟩
  rw [ran]
  obtain ⟨_, begun, -, parsed⟩ := exists_of_outcome_bind_eq_ok ran
  obtain ⟨given, between, -, noted⟩ := exists_of_outcome_bind_eq_ok parsed
  cases noted
  exact ⟨between.2.1, rfl⟩

end Logging

namespace Routine

variable {ε : Type}

/-- The parser is used for nothing but parsing, whatever comes of it. -/
def OnlyParses : Routine ε → Prop
  | .finish _ => True
  | .attend _ next => ∀ account, (next account).OnlyParses
  | .setCumulative _ _ | .inject _ _ => False
  | .parseBare _ _ next => ∀ result, (next result).OnlyParses
  | .parse handler _ _ next => (∀ tag, (handler tag).OnlyParses) ∧ ∀ result, (next result).OnlyParses

/-- The run of a use with a log of its parses. -/
def logged : Routine ε → Logging.Logged ε Text
  | .finish result => ExceptT.mk (pure result)
  | .attend change next => do
      let (_, account) ← Parsing.withAccount fun (turns, account) => (turns, change account)
      (next account).logged
  | .setCumulative enabled next => do
      Parsing.setCumulative enabled
      next.logged
  | .inject content next => do (next (← Parsing.inject content)).logged
  | .parseBare content data next => do (next (← Parsing.attempt (Logging.parse none content data))).logged
  | .parse handler content data next => do
      let loggedHandler := some fun tag => (handler tag).logged
      (next (← Parsing.attempt (Logging.parse loggedHandler content data))).logged

end Routine

/-- From a state in which the log tells what is kept aside, a logged computation does what
the computation does, and comes to such a state. -/
def Tells {ε α : Type} (logged : Logging.Logged ε α) (plain : Parsing ε α) : Prop :=
  ∀ protection turns account, protection.cumulative = false → protection.entries = Turn.pending turns →
    ∃ result ended further later,
      outcome logged (protection, (turns, account)) = (result, (ended, (turns ++ further, later))) ∧
      outcome plain (protection, account) = (result, (ended, later)) ∧
      ended.cumulative = false ∧ ended.entries = Turn.pending (turns ++ further)

section Tells

variable {ε α β : Type}

theorem tells_mk (result : Except TemplateError α) :
    Tells (ε := ε) (ExceptT.mk (pure result)) (ExceptT.mk (pure result)) := by
  intro protection turns account off kept
  refine ⟨result, protection, [], account, ?_, rfl, off, ?_⟩
  · rw [List.append_nil]
    rfl
  · rw [List.append_nil, kept]

theorem Tells.bind {logged : Logging.Logged ε α} {plain : Parsing ε α}
    {loggedNext : α → Logging.Logged ε β} {next : α → Parsing ε β}
    (first : Tells logged plain) (rest : ∀ value, Tells (loggedNext value) (next value)) :
    Tells (logged >>= loggedNext) (plain >>= next) := by
  intro protection turns account off kept
  obtain ⟨found, between, further, later, ran, ranPlain, betweenOff, betweenKept⟩ :=
    first protection turns account off kept
  cases found with
  | error error =>
      exact ⟨.error error, between, further, later, outcome_bind_of_error ran _,
        outcome_bind_of_error ranPlain _, betweenOff, betweenKept⟩
  | ok value =>
      obtain ⟨result, ended, others, last, ranNext, ranNextPlain, endedOff, endedKept⟩ :=
        rest value between (turns ++ further) later betweenOff betweenKept
      rw [List.append_assoc] at ranNext endedKept
      refine ⟨result, ended, further ++ others, last, ?_, ?_, endedOff, endedKept⟩
      · rw [outcome_bind_of_ok ran, ranNext]
      · rw [outcome_bind_of_ok ranPlain, ranNextPlain]

theorem Tells.attempt {logged : Logging.Logged ε α} {plain : Parsing ε α} (tells : Tells logged plain) :
    Tells (Parsing.attempt logged) (Parsing.attempt plain) := by
  intro protection turns account off kept
  obtain ⟨found, ended, further, later, ran, ranPlain, endedOff, endedKept⟩ :=
    tells protection turns account off kept
  refine ⟨.ok found, ended, further, later, ?_, ?_, endedOff, endedKept⟩
  · exact congrArg (fun run => (Except.ok run.1, run.2)) ran
  · exact congrArg (fun run => (Except.ok run.1, run.2)) ranPlain

end Tells

namespace Parsing

variable {ε : Type}

/-- Outside cumulative mode an output stands where its tag was. -/
theorem outcome_expandPieces_of_off {handler : Option (Handler ε)} {tag : PluginCall} {state : Protection × ε}
    {between : Protection} {account : ε} {output : Text}
    (called : outcome (call handler tag) state = (.ok output, (between, account)))
    (off : between.cumulative = false) (before : Text) (pieces : List (Text × PluginCall)) :
    outcome (expandPieces handler ((before, tag) :: pieces)) state =
      outcome (do return before ++ output ++ (← expandPieces handler pieces)) (between, account) := by
  rw [expandPieces, outcome_bind_of_ok called, outcome_bind_of_ok (outcome_isCumulative between account), off]
  rfl

section Concluded

variable {data : Scope} {expanded : Except TemplateError Text} {ended : Protection}

theorem concluded_of_error {error : TemplateError}
    (failed : (expanded.bind fun text => Template.renderTags text data) = .error error) :
    concluded data expanded ended = (.error error, ended) := by
  rw [concluded, failed]

theorem concluded_of_off {rendered : Text}
    (done : (expanded.bind fun text => Template.renderTags text data) = .ok rendered)
    (off : ended.cumulative = false) :
    concluded data expanded ended = (.ok (ended.inject rendered).1, (ended.inject rendered).2) := by
  rw [concluded, done, off]
  rfl

end Concluded

end Parsing

section Parse

variable {ε : Type} {loggedHandler : Option (Handler (List Turn × ε))} {handler : Option (Handler ε)}
  (tells : ∀ tag, Tells (Parsing.call loggedHandler tag) (Parsing.call handler tag))

include tells

theorem tells_expandPieces (pieces : List (Text × PluginCall)) :
    Tells (Parsing.expandPieces loggedHandler pieces) (Parsing.expandPieces handler pieces) := by
  induction pieces with
  | nil => exact tells_mk (.ok [])
  | cons piece pieces ih =>
      obtain ⟨before, tag⟩ := piece
      intro protection turns account off kept
      obtain ⟨found, between, further, later, ran, ranPlain, betweenOff, betweenKept⟩ :=
        tells tag protection turns account off kept
      cases found with
      | error error =>
          exact ⟨.error error, between, further, later, outcome_bind_of_error ran _,
            outcome_bind_of_error ranPlain _, betweenOff, betweenKept⟩
      | ok output =>
          have behind := ih.bind fun rest => tells_mk (.ok (before ++ output ++ rest))
          obtain ⟨result, ended, others, last, ranRest, ranRestPlain, endedOff, endedKept⟩ :=
            behind between (turns ++ further) later betweenOff betweenKept
          rw [List.append_assoc] at ranRest endedKept
          refine ⟨result, ended, further ++ others, last, ?_, ?_, endedOff, endedKept⟩
          · rw [Parsing.outcome_expandPieces_of_off ran betweenOff]
            exact ranRest
          · rw [Parsing.outcome_expandPieces_of_off ranPlain betweenOff]
            exact ranRestPlain

theorem tells_expand (content : Text) :
    Tells (Parsing.expand loggedHandler content) (Parsing.expand handler content) :=
  (tells_expandPieces tells (cut plugin content).pieces).bind fun text =>
    tells_mk (.ok (text ++ (cut plugin content).rest))

/-- A parse adds the blocks of its text; all are gone when it comes to a text, and what is there
stays when it fails. -/
theorem tells_parse (content : Text) (data : Scope) :
    Tells (Logging.parse loggedHandler content data) (Parsing.parse handler content data) := by
  intro protection turns account off kept
  have startedKept : (protectBlocks content protection).2.entries = Turn.pending (turns ++ [.begun content]) := by
    rw [protectBlocks_eq, Turn.pending_begun, ← kept]
    rfl
  have startedOff : (protectBlocks content protection).2.cumulative = false := by
    rw [protectBlocks_eq]
    exact off
  obtain ⟨expanded, ended, further, later, ran, ranPlain, endedOff, endedKept⟩ :=
    tells_expand tells (protectBlocks content protection).1 _ _ account startedOff startedKept
  have joined : turns ++ [.begun content] ++ further = turns ++ .begun content :: further := List.append_assoc ..
  rw [joined] at ran endedKept
  have noted : outcome (Logging.note (.begun content)) (protection, (turns, account)) =
      (.ok (), (protection, (turns ++ [.begun content], account))) := rfl
  have parsed := Parsing.outcome_parse_of_expand (Prod.eta _).symm ran data
  have parsedPlain := Parsing.outcome_parse_of_expand (Prod.eta _).symm ranPlain data
  cases rendered : expanded.bind fun text => Template.renderTags text data with
  | error error =>
      rw [Parsing.concluded_of_error rendered] at parsed parsedPlain
      refine ⟨.error error, ended, .begun content :: further, later, ?_, parsedPlain, endedOff, endedKept⟩
      rw [Logging.parse, outcome_bind_of_ok noted]
      exact outcome_bind_of_error parsed _
  | ok text =>
      rw [Parsing.concluded_of_off rendered endedOff] at parsed parsedPlain
      refine ⟨.ok (ended.inject text).1, (ended.inject text).2, .begun content :: further ++ [.ended], later, ?_,
        parsedPlain, endedOff, ?_⟩
      · rw [Logging.parse, outcome_bind_of_ok noted, outcome_bind_of_ok parsed, ← List.append_assoc]
        rfl
      · rw [← List.append_assoc, Turn.pending_ended]
        rfl

end Parse

namespace Routine

variable {ε : Type}

theorem tells_run (routine : Routine ε) (only : routine.OnlyParses) : Tells routine.logged routine.run := by
  induction routine with
  | finish result => exact tells_mk result
  | attend change next ih =>
      intro protection turns account
      exact ih account (only account) protection turns (change account)
  | setCumulative enabled next ih => exact only.elim
  | inject content next ih => exact only.elim
  | parseBare content data next ih =>
      have silent (tag : PluginCall) :
          Tells (Parsing.call (none : Option (Handler (List Turn × ε))) tag) (Parsing.call none tag) :=
        tells_mk (.ok [])
      exact (tells_parse silent content data).attempt.bind fun result => ih result (only result)
  | parse handler content data next ihHandler ih =>
      have answers (tag : PluginCall) :
          Tells (Parsing.call (some fun tag => (handler tag).logged) tag)
            (Parsing.call (some fun tag => (handler tag).run) tag) := ihHandler tag (only.1 tag)
      exact (tells_parse answers content data).attempt.bind fun result => ih result (only.2 result)

theorem tells_call {handler : Option (PluginCall → Routine ε)}
    (only : ∀ routine ∈ handler, ∀ tag, (routine tag).OnlyParses) (tag : PluginCall) :
    Tells (Parsing.call (handler.map fun handler tag => (handler tag).logged) tag)
      (Parsing.call (handler.map fun handler tag => (handler tag).run) tag) := by
  cases handler with
  | none => exact tells_mk (.ok [])
  | some handler => exact tells_run (handler tag) (only handler rfl tag)

/-- Outside cumulative mode a parse that comes to a text leaves nothing behind, whatever has
failed on the way to it.  A parse that fails leaves the blocks of the texts whose parses
have begun since a parse last came to a text, its own among them if there was none.  So nothing is left
exactly if these texts have no blocks. -/
theorem entries_behind_parse {protection : Protection} (off : protection.cumulative = false)
    (idle : protection.entries = []) {handler : Option (PluginCall → Routine ε)}
    (only : ∀ routine ∈ handler, ∀ tag, (routine tag).OnlyParses) (content : Text) (data : Scope)
    (account : ε) :
    let parsed := outcome (Parsing.parse (handler.map fun handler tag => (handler tag).run) content data)
      (protection, account)
    let logging := outcome (Logging.parse (handler.map fun handler tag => (handler tag).logged) content data)
      (protection, ([], account))
    let turns := logging.2.2.1
    parsed = (logging.1, (logging.2.1, logging.2.2.2)) ∧
      parsed.2.1.cumulative = false ∧
      parsed.2.1.entries = Turn.pending turns ∧
      ((∃ text, parsed.1 = .ok text) → parsed.2.1.entries = []) ∧
      (parsed.2.1.entries = [] ↔ ∀ begun ∈ Turn.unended turns, Blockless begun) := by
  intro parsed logging turns
  obtain ⟨result, ended, further, later, ran, ranPlain, endedOff, endedKept⟩ :=
    tells_parse (tells_call only) content data protection [] account off idle
  have parsedEq : parsed = (result, (ended, later)) := ranPlain
  have loggingEq : logging = (result, (ended, (further, later))) := ran
  have turnsEq : turns = further := congrArg (·.2.2.1) loggingEq
  rw [parsedEq, loggingEq, turnsEq]
  refine ⟨rfl, endedOff, endedKept, ?_, ?_⟩
  · rintro ⟨text, done⟩
    have comesToText : logging.1 = .ok text := by rw [loggingEq, ← done]
    obtain ⟨before, endsWell⟩ := Logging.exists_ended_of_parse comesToText
    have furtherEq : further = before ++ [.ended] := turnsEq.symm.trans endsWell
    rw [endedKept, List.nil_append, furtherEq, Turn.pending_ended]
  · rw [endedKept]
    exact Turn.pending_eq_nil_iff

def blockOf (inner : String) : Text :=
  "\x7b\x7b noparse \x7d\x7d".toList ++ inner.toList ++ "\x7b\x7b /noparse \x7d\x7d".toList

def blockAndTag (inner : String) : Text :=
  blockOf inner ++ "\x7b\x7b a:b \x7d\x7d".toList

def refusing (tag : PluginCall) : Routine Unit :=
  .finish (.error (.depthExceeded tag.name 0))

/-- The handler parses a text, then another one that fails, and fails itself. -/
def faltering : Option (PluginCall → Routine Unit) :=
  some fun _ => .parseBare (blockOf "y") [] fun _ => .parse refusing (blockAndTag "z") [] .finish

/-- Of the three blocks that are kept aside the last is left. -/
theorem entries_behind_parse_faltering :
    (∀ routine ∈ faltering, ∀ tag, (routine tag).OnlyParses) ∧
      (outcome (Parsing.parse (faltering.map fun handler tag => (handler tag).run) (blockAndTag "x") [])
        (Protection.fresh countedNonces, ())).2.1.entries = [['z']] := by
  have only : ∀ routine ∈ faltering, ∀ tag, (routine tag).OnlyParses := by
    rintro routine ⟨⟩ tag
    exact fun _ => ⟨fun _ => trivial, fun _ => trivial⟩
  have off : (Protection.fresh countedNonces).cumulative = false := rfl
  have left := (entries_behind_parse off rfl only (blockAndTag "x") [] ()).2.2.1
  refine ⟨only, ?_⟩
  rw [left]
  decide +kernel

/-- A parse without a handler that fails behind a block leaves the content of the block. -/
theorem entries_behind_failed_parse :
    let started := Protection.fresh countedNonces
    let template := blockOf "x" ++ "\n\n\n\n\x7b\x7b 1 + \x7d\x7d".toList
    let parsed := outcome (Parsing.parse (none : Option (Handler Unit)) template []) (started, ())
    started.cumulative = false ∧ started.entries = [] ∧ parsed.2.1.entries = [['x']] ∧
      parsed.1 = .error (.invalid "--> <syntax>"
        ⟨some 5, some [(2, ""), (3, ""), (4, ""), (5, "\x7b\x7b 1 + \x7d\x7d")]⟩) := by
  intro started template parsed
  refine ⟨rfl, rfl, ?_, ?_⟩
  · decide +kernel
  · decide +kernel

end Routine

end ThemedViews
