import ThemedViews.Proofs.BlockExtraction
import ThemedViews.Proofs.NonceIndependence
import ThemedViews.Proofs.TagExpansion

/-!
# How deep plugin tags are followed

The tags of a text have bodies, in which there are tags again.  A pass parses the
bodies of ten levels of tags; a gauge that is raised at the beginning of each parse
of a body and lowered at its end never shows more.  If a tag has ten bodies around
it, the pass fails with the name of such a tag, or because of a tag that it comes to
before; if there is none, it never fails for this reason.
-/

namespace ThemedViews

open Text Tags Protection Parsing

namespace Tags

/-- The tag at a place of a text.  The first number of a place chooses among the tags
that are found in the text, and each further one among those in the body of the tag
that has been chosen. -/
def tagAt? : Text → List Nat → Option PluginCall
  | _, [] => none
  | text, [index] => (cut plugin text).found[index]?
  | text, index :: inside => ((cut plugin text).found[index]?).bind fun tag => tagAt? tag.content inside

theorem tagAt?_cons {text : Text} {index : Nat} {tag : PluginCall} {inside : List Nat}
    (found : (cut plugin text).found[index]? = some tag) (deeper : inside ≠ []) :
    tagAt? text (index :: inside) = tagAt? tag.content inside := by
  cases inside with
  | nil => contradiction
  | cons next inside =>
      rw [tagAt?, found, Option.bind_some]
      exact deeper

/-- What is at a place is a tag of the text or stands in the body of one. -/
theorem exists_of_tagAt?_cons {text : Text} {index : Nat} {deep : PluginCall} {inside : List Nat}
    (found : tagAt? text (index :: inside) = some deep) :
    ∃ tag, (cut plugin text).found[index]? = some tag ∧
      (inside = [] ∧ tag = deep ∨ inside ≠ [] ∧ tagAt? tag.content inside = some deep) := by
  cases inside with
  | nil => exact ⟨deep, found, .inl ⟨rfl, rfl⟩⟩
  | cons next inside =>
      rw [tagAt?] at found
      · obtain ⟨tag, here, foundInside⟩ := Option.bind_eq_some_iff.mp found
        exact ⟨tag, here, .inr ⟨List.cons_ne_nil _ _, foundInside⟩⟩
      · exact List.cons_ne_nil _ _

end Tags

namespace Parsing

variable {ε α β : Type}

/-- How many parses of bodies are at work, and the number at the beginning of each that has
been begun. -/
structure Gauge where
  level : Nat
  begun : List Nat

/-- Raises the gauge for the time of a computation. -/
def gauged (action : Parsing Gauge α) : Parsing Gauge α :=
  ExceptT.mk do
    modify fun (protection, gauge) =>
      (protection, ⟨gauge.level + 1, gauge.begun ++ [gauge.level + 1]⟩)
    let result ← action.run
    modify fun (protection, gauge) => (protection, { gauge with level := gauge.level - 1 })
    return result

/-- The handler that parses the body of a tag, with a gauge. -/
def gaugedBridge : (levels : Nat) → Handler Gauge
  | 0 => fun tag => throw (.depthExceeded tag.name maxDepth)
  | levels + 1 => fun tag => gauged (parse (some (gaugedBridge levels)) tag.content [])

/-- Two computations come to the same, and the gauge that the second one keeps is raised by
no more than `levels`. -/
def Gauges (levels : Nat) (plain : Parsing ε α) (watched : Parsing Gauge α) : Prop :=
  ∀ (protection : Protection) (account : ε) (gauge : Gauge), ∃ result after begun,
    outcome plain (protection, account) = (result, (after, account)) ∧
    outcome watched (protection, gauge) = (result, (after, ⟨gauge.level, gauge.begun ++ begun⟩)) ∧
    ∀ level ∈ begun, gauge.level < level ∧ level ≤ gauge.level + levels

variable {levels : Nat}

/-- Computations that come to the same and leave the gauge alone. -/
theorem gauges_of_untouched {plain : Parsing ε α} {watched : Parsing Gauge α}
    (same : ∀ (protection : Protection) (account : ε) (gauge : Gauge), ∃ result after,
      outcome plain (protection, account) = (result, (after, account)) ∧
      outcome watched (protection, gauge) = (result, (after, gauge))) : Gauges levels plain watched := by
  intro protection account gauge
  obtain ⟨result, after, ran, watchedRan⟩ := same protection account gauge
  refine ⟨result, after, [], ran, ?_, fun level member => absurd member List.not_mem_nil⟩
  rw [List.append_nil]
  exact watchedRan

theorem gauges_pure (value : α) : Gauges levels (pure value : Parsing ε α) (pure value) :=
  gauges_of_untouched fun protection _ _ => ⟨.ok value, protection, rfl, rfl⟩

theorem gauges_throw (error : TemplateError) :
    Gauges levels (throw error : Parsing ε α) (throw error) :=
  gauges_of_untouched fun protection _ _ => ⟨.error error, protection, rfl, rfl⟩

theorem gauges_mk (found : Except TemplateError α) :
    Gauges levels (ExceptT.mk (pure found) : Parsing ε α) (ExceptT.mk (pure found)) :=
  gauges_of_untouched fun protection _ _ => ⟨found, protection, rfl, rfl⟩

theorem gauges_withProtection (change : Protection → α × Protection) :
    Gauges levels (withProtection change : Parsing ε α) (withProtection change) :=
  gauges_of_untouched fun protection account gauge => ⟨.ok (change protection).1, (change protection).2,
    outcome_withProtection change protection account, outcome_withProtection change protection gauge⟩

theorem gauges_isCumulative : Gauges levels (isCumulative : Parsing ε Bool) isCumulative :=
  gauges_of_untouched fun protection account gauge => ⟨.ok protection.cumulative, protection,
    outcome_isCumulative protection account, outcome_isCumulative protection gauge⟩

theorem Gauges.bind {plain : Parsing ε α} {watched : Parsing Gauge α} {next : α → Parsing ε β}
    {watchedNext : α → Parsing Gauge β} (first : Gauges levels plain watched)
    (behind : ∀ value, Gauges levels (next value) (watchedNext value)) :
    Gauges levels (plain >>= next) (watched >>= watchedNext) := by
  intro protection account gauge
  obtain ⟨result, after, begun, ran, watchedRan, bounded⟩ := first protection account gauge
  cases result with
  | error error =>
      exact ⟨.error error, after, begun, outcome_bind_of_error ran _, outcome_bind_of_error watchedRan _, bounded⟩
  | ok value =>
      obtain ⟨result, last, more, ranBehind, watchedBehind, boundedBehind⟩ :=
        behind value after account ⟨gauge.level, gauge.begun ++ begun⟩
      refine ⟨result, last, begun ++ more, ?_, ?_, List.forall_mem_append.mpr ⟨bounded, boundedBehind⟩⟩
      · rw [outcome_bind_of_ok ran, ranBehind]
      · rw [outcome_bind_of_ok watchedRan, watchedBehind, List.append_assoc]

section Handlers

variable {handler : Handler ε} {watched : Handler Gauge}
  (gauges : ∀ tag, Gauges levels (handler tag) (watched tag))

include gauges

theorem gauges_expandPieces (pieces : List (Text × PluginCall)) :
    Gauges levels (expandPieces (some handler) pieces) (expandPieces (some watched) pieces) := by
  induction pieces with
  | nil => exact gauges_pure []
  | cons piece pieces ih =>
      obtain ⟨before, tag⟩ := piece
      refine (gauges tag).bind fun output => gauges_isCumulative.bind fun cumulative => ?_
      cases cumulative with
      | true =>
          exact (gauges_withProtection _).bind fun shown => ih.bind fun behind => gauges_pure _
      | false => exact (gauges_pure output).bind fun shown => ih.bind fun behind => gauges_pure _

theorem gauges_parse (content : Text) (data : Scope) :
    Gauges levels (parse (some handler) content data) (parse (some watched) content data) := by
  refine (gauges_withProtection _).bind fun marked => ?_
  have expands : Gauges levels (expand (some handler) marked) (expand (some watched) marked) :=
    (gauges_expandPieces gauges _).bind fun output => gauges_pure _
  refine expands.bind fun expanded => (gauges_mk _).bind fun rendered => ?_
  refine gauges_isCumulative.bind fun cumulative => ?_
  cases cumulative with
  | true => exact gauges_pure rendered
  | false => exact gauges_withProtection (Protection.inject rendered)

end Handlers

theorem outcome_gauged {action : Parsing Gauge α} {protection after : Protection} {gauge lowered : Gauge}
    {result : Except TemplateError α}
    (ran : outcome action (protection, ⟨gauge.level + 1, gauge.begun ++ [gauge.level + 1]⟩) =
      (result, (after, lowered))) :
    outcome (gauged action) (protection, gauge) =
      (result, (after, { lowered with level := lowered.level - 1 })) := by
  have unfolded : outcome (gauged action) (protection, gauge) =
      let ran := outcome action (protection, ⟨gauge.level + 1, gauge.begun ++ [gauge.level + 1]⟩)
      (ran.1, (ran.2.1, { ran.2.2 with level := ran.2.2.level - 1 })) := rfl
  rw [unfolded, ran]

/-- A parse for which the gauge is raised reaches one level more. -/
theorem Gauges.gauged {plain : Parsing ε α} {watched : Parsing Gauge α} (inside : Gauges levels plain watched) :
    Gauges (levels + 1) plain (gauged watched) := by
  intro protection account gauge
  obtain ⟨result, after, begun, ran, watchedRan, bounded⟩ :=
    inside protection account ⟨gauge.level + 1, gauge.begun ++ [gauge.level + 1]⟩
  refine ⟨result, after, (gauge.level + 1) :: begun, ran, ?_, ?_⟩
  · rw [outcome_gauged watchedRan, List.append_assoc]
    rfl
  · refine List.forall_mem_cons.mpr ⟨⟨by omega, by omega⟩, fun level member => ?_⟩
    have := bounded level member
    simp only at this
    omega

theorem gauges_bridge (levels : Nat) (tag : PluginCall) :
    Gauges levels (bridge levels tag : Parsing ε Text) (gaugedBridge levels tag) := by
  induction levels generalizing tag with
  | zero => exact gauges_throw _
  | succ levels ih => exact (gauges_parse ih tag.content []).gauged

section Calls

variable {handler : Handler ε} {protection : Protection} {account : ε}

/-- Behind answers that add entries and do nothing else, only entries have been added. -/
theorem Answers.exists_extend (adds : ∀ tag, AddsEntries (handler tag)) {answers : List Answer}
    {state after : Protection × ε} (answered : Answers (some handler) answers state after)
    (stateEq : state = (protection, account)) (cumulative : protection.cumulative = true) :
    (∃ added, after = (protection.extend added, account)) ∧
      ∀ answer ∈ answers, ∃ added ended,
        outcome (handler answer.tag) (protection.extend added, account) = (.ok answer.output, ended) := by
  induction answered generalizing protection with
  | none state =>
      refine ⟨⟨[], ?_⟩, fun answer member => absurd member List.not_mem_nil⟩
      rw [stateEq, extend_nil]
  | @next answer answers state after later called others ih =>
      obtain rfl := stateEq
      obtain ⟨found, added, ran⟩ := adds answer.tag protection.nonce protection.entries
      have same : (Except.ok answer.output, (answer.behind, later)) = _ :=
        called.symm.trans (ran protection account cumulative rfl rfl)
      obtain ⟨-, same⟩ := Prod.mk.inj same
      obtain ⟨behindEq, rfl⟩ := Prod.mk.inj same
      have settledEq : answer.settled = protection.extend (added ++ [answer.output]) := by
        rw [Answer.settled, behindEq, cumulative_extend, cumulative, if_pos rfl, extend_extend]
      obtain ⟨⟨more, afterEq⟩, calls⟩ := ih (congrArg (·, later) settledEq) cumulative
      refine ⟨⟨added ++ [answer.output] ++ more, by rw [afterEq, extend_extend]⟩, ?_⟩
      refine List.forall_mem_cons.mpr ⟨⟨[], _, by rw [extend_nil]; exact called⟩, ?_⟩
      intro other member
      obtain ⟨before, ended, calledOther⟩ := calls other member
      rw [extend_extend] at calledOther
      exact ⟨_, ended, calledOther⟩

/-- A parse in cumulative mode succeeds at all tags and hands a text on, or it fails at one of
the tags when it has succeeded at those before. -/
theorem outcome_parse_cases (account : ε) (adds : ∀ tag, AddsEntries (handler tag)) {content marked : Text}
    {contents : List Text} (protectEq : protectBlocks content protection = (marked, protection.extend contents))
    (cumulative : protection.cumulative = true) (data : Scope) :
    ∃ calls : List PluginCall,
      (∀ tag ∈ calls, ∃ added output ended,
        outcome (handler tag) (protection.extend added, account) = (.ok output, ended)) ∧
      ((calls = (cut plugin marked).found ∧ ∃ expanded after,
          outcome (parse (some handler) content data) (protection, account) =
            (Template.renderTags expanded data, after)) ∨
        ∃ tag later added error after, (cut plugin marked).found = calls ++ tag :: later ∧
          outcome (handler tag) (protection.extend added, account) = (.error error, after) ∧
          outcome (parse (some handler) content data) (protection, account) = (.error error, after)) := by
  have succeeds {answers : List Answer} {after : Protection × ε}
      (answered : Answers (some handler) answers (protection.extend contents, account) after) :
      ∀ tag ∈ answers.map Answer.tag, ∃ added output ended,
        outcome (handler tag) (protection.extend added, account) = (.ok output, ended) := by
    intro tag member
    obtain ⟨answer, answerMember, rfl⟩ := List.mem_map.mp member
    obtain ⟨added, ended, called⟩ := (answered.exists_extend adds rfl cumulative).2 answer answerMember
    rw [extend_extend] at called
    exact ⟨_, _, ended, called⟩
  rcases outcome_expandPieces_cases (some handler) (cut plugin marked).pieces
      (protection.extend contents, account) with
    ⟨answers, after, tags, answered, done⟩ |
    ⟨answers, tag, later, between, error, after, tags, answered, failed, stopped⟩
  · obtain ⟨⟨added, rfl⟩, -⟩ := answered.exists_extend adds rfl cumulative
    have expanded : outcome (expandCut (some handler) (cut plugin marked)) (protection.extend contents, account) =
        (.ok (filledIn (cut plugin marked).pieces answers [] ++ (cut plugin marked).rest),
          ((protection.extend contents).extend added, account)) := by
      rw [expandCut, outcome_bind_of_ok done, outcome_pure]
    exact ⟨_, succeeds answered, .inl ⟨tags, _, _, outcome_parse_of_expanded protectEq expanded cumulative data⟩⟩
  · obtain ⟨⟨added, rfl⟩, -⟩ := answered.exists_extend adds rfl cumulative
    rw [extend_extend] at failed
    have expanded : outcome (expandCut (some handler) (cut plugin marked)) (protection.extend contents, account) =
        (.error error, after) := by
      rw [expandCut, outcome_bind_of_error stopped]
    exact ⟨_, succeeds answered, .inr ⟨tag, later, _, error, after, tags, failed,
      outcome_parse_of_error protectEq expanded data⟩⟩

end Calls

section Limit

variable {account : ε}

/-- In a text without blocks nothing is protected before the bodies of its tags are parsed. -/
theorem protectBlocks_content {marked : Text} (blockless : Blockless marked) {tag : PluginCall}
    (member : tag ∈ (cut plugin marked).found) (protection : Protection) :
    Blockless tag.content ∧ protectBlocks tag.content protection = (tag.content, protection.extend []) := by
  have inside := blockless.of_isInfix (content_isInfix_of_mem_found member)
  exact ⟨inside, by rw [protectBlocks_of_blockless inside, extend_nil]⟩

/-- A parse that fails because of its depth has come to a tag with that many bodies around it. -/
theorem exists_tagAt?_of_depthExceeded {levels : Nat} {content marked : Text} {contents : List Text}
    {protection : Protection}
    (protectEq : protectBlocks content protection = (marked, protection.extend contents))
    (blockless : Blockless marked) (cumulative : protection.cumulative = true) {data : Scope} {name : String}
    {depth : Nat} {after : Protection × ε}
    (failed : outcome (parse (some (bridge levels)) content data) (protection, account) =
      (.error (.depthExceeded name depth), after)) :
    depth = maxDepth ∧
      ∃ place tag, place.length = levels + 1 ∧ tagAt? marked place = some tag ∧ tag.name = name := by
  obtain ⟨calls, -, ⟨-, expanded, ended, ran⟩ | ⟨tag, later, added, error, ended, foundEq, called, ran⟩⟩ :=
    outcome_parse_cases account (addsEntries_bridge levels) protectEq cumulative data
  · rw [ran] at failed
    exact absurd (Prod.mk.inj failed).1 (Template.renderTags_ne_depthExceeded expanded data name depth)
  · rw [ran] at failed
    obtain rfl := Except.error.inj (Prod.mk.inj failed).1
    have here : (cut plugin marked).found[calls.length]? = some tag := by simp [foundEq]
    cases levels with
    | zero =>
        obtain ⟨rfl, rfl⟩ := TemplateError.depthExceeded.inj (Except.error.inj (Prod.mk.inj called).1)
        exact ⟨rfl, [calls.length], tag, rfl, here, rfl⟩
    | succ levels =>
        obtain ⟨unblocked, protectInside⟩ :=
          protectBlocks_content blockless (List.mem_of_getElem? here) (protection.extend added)
        obtain ⟨depthEq, place, deep, lengthEq, found, named⟩ :=
          exists_tagAt?_of_depthExceeded protectInside unblocked cumulative called
        have deeper : place ≠ [] := List.ne_nil_of_length_eq_add_one lengthEq
        exact ⟨depthEq, calls.length :: place, deep, by rw [List.length_cons, lengthEq],
          by rw [tagAt?_cons here deeper, found], named⟩
termination_by levels

/-- A parse fails because of a tag at a place, or of one that it comes to before. -/
def StopsBy (marked : Text) (levels : Nat) (protection : Protection) (account : ε) (place : List Nat)
    (deep : PluginCall) (error : TemplateError) : Prop :=
  error = .depthExceeded deep.name maxDepth ∨
    ∃ outer before index inner tag added after, place = outer ++ index :: inner ∧ before < index ∧
      tagAt? marked (outer ++ [before]) = some tag ∧
      outcome (bridge (levels - outer.length) tag) (protection.extend added, account) = (.error error, after)

/-- What a body fails because of, the text around it fails because of. -/
theorem StopsBy.around {marked : Text} {levels index : Nat} {protection : Protection} {added : List Text}
    {inside : List Nat} {tag deep : PluginCall} {error : TemplateError}
    (here : (cut plugin marked).found[index]? = some tag)
    (stops : StopsBy tag.content levels (protection.extend added) account inside deep error) :
    StopsBy marked (levels + 1) protection account (index :: inside) deep error := by
  rcases stops with errorEq | ⟨outer, before, later, inner, other, more, after, rfl, ahead, found, failed⟩
  · exact .inl errorEq
  · refine .inr ⟨index :: outer, before, later, inner, other, added ++ more, after, rfl, ahead, ?_, ?_⟩
    · rw [List.cons_append, tagAt?_cons here (by simp), found]
    · rw [List.length_cons, Nat.add_sub_add_right, ← extend_extend]
      exact failed

/-- A parse fails if it comes to a tag with too many bodies around it. -/
theorem exists_stopsBy_of_tagAt? (account : ε) {levels : Nat} {content marked : Text} {contents : List Text}
    {protection : Protection}
    (protectEq : protectBlocks content protection = (marked, protection.extend contents))
    (blockless : Blockless marked) (cumulative : protection.cumulative = true) (data : Scope)
    {place : List Nat} {deep : PluginCall} (lengthEq : place.length = levels + 1)
    (found : tagAt? marked place = some deep) :
    ∃ error after, outcome (parse (some (bridge levels)) content data) (protection, account) =
        (.error error, after) ∧
      StopsBy marked levels protection account place deep error := by
  obtain ⟨index, inside, rfl⟩ := List.exists_cons_of_length_eq_add_one lengthEq
  obtain ⟨child, here, childCases⟩ := exists_of_tagAt?_cons found
  rw [List.length_cons, Nat.add_right_cancel_iff] at lengthEq
  have stops (added : List Text) : ∃ error after,
      outcome (bridge levels child) (protection.extend added, account) = (.error error, after) ∧
        StopsBy marked levels protection account (index :: inside) deep error := by
    cases levels with
    | zero =>
        obtain ⟨-, rfl⟩ | ⟨deeper, -⟩ := childCases
        · exact ⟨_, _, rfl, .inl rfl⟩
        · exact absurd (List.eq_nil_of_length_eq_zero lengthEq) deeper
    | succ levels =>
        obtain ⟨isNil, -⟩ | ⟨-, foundInside⟩ := childCases
        · rw [isNil] at lengthEq
          cases lengthEq
        · obtain ⟨unblocked, protectInside⟩ :=
            protectBlocks_content blockless (List.mem_of_getElem? here) (protection.extend added)
          obtain ⟨error, after, failed, stops⟩ :=
            exists_stopsBy_of_tagAt? account protectInside unblocked cumulative [] lengthEq foundInside
          exact ⟨error, after, failed, stops.around here⟩
  obtain ⟨calls, succeeded, parsed⟩ :=
    outcome_parse_cases account (addsEntries_bridge levels) protectEq cumulative data
  have notSucceeded : child ∉ calls := by
    intro member
    obtain ⟨added, output, ended, called⟩ := succeeded child member
    obtain ⟨error, after, failed, -⟩ := stops added
    rw [called] at failed
    cases failed
  rcases parsed with ⟨rfl, -⟩ | ⟨tag, later, added, error, after, foundEq, called, failed⟩
  · exact absurd (List.mem_of_getElem? here) notSucceeded
  · refine ⟨error, after, failed, ?_⟩
    rw [foundEq] at here
    rcases Nat.lt_trichotomy calls.length index with ahead | rfl | behind
    · refine .inr ⟨[], calls.length, index, inside, tag, added, after, rfl, ahead, ?_, called⟩
      simp [tagAt?, foundEq]
    · obtain rfl : tag = child := by simpa using here
      obtain ⟨other, ended, failedHere, stopsHere⟩ := stops added
      rw [called] at failedHere
      obtain rfl := Except.error.inj (Prod.mk.inj failedHere).1
      exact stopsHere
    · rw [List.getElem?_append_left behind] at here
      exact absurd (List.mem_of_getElem? here) notSucceeded
termination_by levels

end Limit

end Parsing

/-- The standard parser with a gauge. -/
def TagParser.gauged (draw : StateM Gauge (Nat → Text)) : TagParser Protection Gauge :=
  { TagParser.standard draw with
    parse content data := Parsing.parse (some (gaugedBridge maxDepth)) content data }

namespace Renderer

variable {κ ε : Type}

/-- A pass follows plugin tags to a depth of ten.  The parser is not entered at more than ten
levels below the outermost parse; the pass fails for its depth only if a tag has ten bodies
around it, and names the limit and such a tag; and if there is such a tag, the pass fails. -/
theorem depth_of_renderNamed (draw : StateM ε (Nat → Text)) (drawGauged : StateM Gauge (Nat → Text))
    (label : String) (template : Text) (data : Scope) (renderer : Renderer κ Protection ε)
    (isNonce : IsNonce renderer.parser.nonce) :
    let rendered := (renderNamed (.standard draw) label template data).run.run renderer
    let watched := (renderNamed (.gauged drawGauged) label template data).run.run
      (⟨⟨renderer.files, renderer.contents, renderer.shared, ⟨0, []⟩⟩, renderer.parser⟩ : Renderer κ Protection Gauge)
    let ready : Protection := { renderer.parser with cumulative := true }
    let marked := (protectBlocks template ready).1
    (watched.1 = rendered.1 ∧ watched.2.parser = rendered.2.parser ∧
      ∀ level ∈ watched.2.outside.begun, 0 < level ∧ level ≤ maxDepth) ∧
    (∀ name depth, rendered.1 = .error (.parseFailure label (.depthExceeded name depth)) →
      depth = maxDepth ∧
        ∃ place tag, place.length = maxDepth + 1 ∧ tagAt? marked place = some tag ∧ tag.name = name) ∧
    ∀ place deep, place.length = maxDepth + 1 → tagAt? marked place = some deep →
      ∃ error, rendered.1 = .error (.parseFailure label error) ∧
        StopsBy marked maxDepth ready renderer.outside place deep error := by
  intro rendered watched ready marked
  have isNonceReady : IsNonce ready.nonce := isNonce
  have blockless : Blockless marked := blockless_protectBlocks isNonceReady template
  have protectEq : protectBlocks template ready =
      (marked, ready.extend (cut noparseBlock template).found) := by
    have added : (protectBlocks template ready).2 = ready.extend (cut noparseBlock template).found := by
      rw [protectBlocks_eq]
    exact Prod.ext rfl added
  obtain ⟨result, after, begun, ran, watchedRan, bounded⟩ :=
    gauges_parse (gauges_bridge maxDepth) template data ready renderer.outside ⟨0, []⟩
  have renderedEq : rendered =
      ((result.map fun parsed => (after.inject parsed).1).mapError (.parseFailure label),
        { renderer with parser := (after.inject (result.toOption.getD [])).2 }) := by
    have passed := run_renderText draw template data ran
    exact (run_renderNamed draw template data label renderer).trans (by rw [passed])
  have watchedEq : watched =
      ((result.map fun parsed => (after.inject parsed).1).mapError (.parseFailure label),
        ⟨⟨renderer.files, renderer.contents, renderer.shared, ⟨0, begun⟩⟩,
          (after.inject (result.toOption.getD [])).2⟩) := by
    have passed := run_renderText_of drawGauged template data (TagParser.gauged drawGauged) rfl rfl watchedRan
    exact (run_renderNamed_of template data (TagParser.gauged drawGauged) label _).trans (by rw [passed]; rfl)
  refine ⟨⟨?_, ?_, ?_⟩, ?_, ?_⟩
  · rw [watchedEq, renderedEq]
  · rw [watchedEq, renderedEq]
  · rw [watchedEq]
    intro level member
    obtain ⟨positive, bound⟩ := bounded level member
    exact ⟨positive, by simpa using bound⟩
  · intro name depth failed
    rw [renderedEq] at failed
    cases result with
    | ok output => cases failed
    | error error =>
        obtain rfl := (ViewError.parseFailure.inj (Except.error.inj failed)).2
        exact exists_tagAt?_of_depthExceeded protectEq blockless rfl ran
  · intro place deep lengthEq found
    obtain ⟨error, ended, failed, stops⟩ :=
      exists_stopsBy_of_tagAt? renderer.outside protectEq blockless rfl data lengthEq found
    refine ⟨error, ?_, stops⟩
    obtain ⟨rfl, -⟩ := Prod.mk.inj (ran.symm.trans failed)
    rw [renderedEq]
    rfl

/-- A tag that stands alone inside of ten elements. -/
theorem depth_of_renderNamed_lone :
    let template : Text := ((List.replicate 10 "\x7b\x7b a:b \x7d\x7d".toList).flatten ++
      "\x7b\x7b c:d \x7d\x7d".toList ++ (List.replicate 10 "\x7b\x7b /a:b \x7d\x7d".toList).flatten)
    let renderer : Renderer Empty Protection Unit :=
      ⟨.start .empty (), ⟨false, fun _ => List.replicate 32 'a', 0, []⟩⟩
    ((renderNamed (.standard (pure fun _ => [])) "page" template []).run.run renderer).1 =
      .error (.parseFailure "page" (.depthExceeded "c:d" 10)) := by
  intro template renderer
  have blocks : cut noparseBlock template = ⟨[], template⟩ := by decide +kernel
  have markedEq : (protectBlocks template { renderer.parser with cumulative := true }).1 = template := by
    rw [protectBlocks_eq, blocks]
    rfl
  have deep : tagAt? template (List.replicate 11 0) = some ⟨"c:d", [], []⟩ := by decide +kernel
  obtain ⟨-, -, fails⟩ := depth_of_renderNamed (pure fun _ => []) (pure fun _ => []) "page" template [] renderer
    (by decide)
  rw [markedEq] at fails
  obtain ⟨error, failed, errorEq | ⟨outer, before, index, inner, -, -, -, placeEq, ahead, -⟩⟩ :=
    fails (List.replicate 11 0) ⟨"c:d", [], []⟩ rfl deep
  · rw [failed, errorEq]
    rfl
  · have member : index ∈ List.replicate 11 0 := by
      rw [placeEq]
      exact List.mem_append_right _ List.mem_cons_self
    obtain rfl := List.eq_of_mem_replicate member
    exact absurd ahead (Nat.not_lt_zero before)

end Renderer

end ThemedViews
