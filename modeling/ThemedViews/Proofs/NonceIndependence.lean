import Mathlib.Data.List.Infix
import ThemedViews.Proofs.MarkedParsing
import ThemedViews.Proofs.NestedRendering

/-!
# Rendering under different nonces

What a pass of the standard parser gives does not depend on its nonce, as long
as the template language spares placeholders: then no caller sees a part of one.
A filter around a noparse block need not spare its placeholder, and the caller
gets what the filter has made of it.
-/

namespace ThemedViews

open Text Tags Protection Parsing

namespace Protection

section Filled

variable {symbols : List Symbol} {entries : List (List Symbol)}

theorem below_segments {bound : Nat} (below : MarksBelow bound symbols) :
    Below bound (symbols.map Symbol.segment) := by
  intro index member
  obtain ⟨symbol, inSymbols, same⟩ := List.mem_map.mp member
  cases symbol with
  | char character => cases same
  | mark other =>
      obtain rfl := Segment.mark.inj same
      exact below other inSymbols

theorem ordered_segments (layered : Layered entries) :
    Ordered (entries.map (List.map Symbol.segment)) := by
  intro index segments found
  obtain ⟨entry, entryFound, rfl⟩ := Option.map_eq_some_iff.mp (List.getElem?_map.symm.trans found)
  exact below_segments (layered index entry entryFound)

/-- A text in which all marks have been replaced by what their entries come to. -/
def filled (entries : List (List Symbol)) (content : List Symbol) : Text :=
  expansion (entries.map (List.map Symbol.segment)) entries.length (content.map Symbol.segment)

theorem inject_write {protection : Protection} (holds : Holds entries protection)
    (isNonce : IsNonce protection.nonce) (layered : Layered entries) {content : List Symbol}
    (below : MarksBelow entries.length content)
    (unforged : ¬ protection.nonce <:+: filled entries content) :
    (protection.inject (write protection.nonce content)).1 = filled entries content := by
  have spelled : protection.entries =
      (entries.map (List.map Symbol.segment)).map (spell protection.nonce) := by
    rw [holds.entries_eq, List.map_map]
    rfl
  have lengthEq : (entries.map (List.map Symbol.segment)).length = entries.length := by
    rw [List.length_map]
  have injected := inject_spell protection isNonce _ spelled (ordered_segments layered)
    (content.map Symbol.segment) (by rw [lengthEq]; exact below_segments below)
    (by rw [lengthEq]; exact unforged)
  rw [lengthEq] at injected
  exact congrArg Prod.fst injected

end Filled

theorem placeholderOf_eq_append (nonce : Text) (index : Nat) :
    placeholderOf nonce index = markStart ++ nonce ++ ('_' :: (Nat.toDigits 10 index ++ ['_', '_'])) := by
  simp [placeholderOf_eq]

/-- What does not show the nonce has no marks. -/
theorem write_eq_of_not_infix {nonce : Text} {symbols : List Symbol}
    (absent : ¬ nonce <:+: write nonce symbols) (other : Text) :
    write other symbols = write nonce symbols := by
  induction symbols with
  | nil => rfl
  | cons symbol symbols ih =>
      cases symbol with
      | char first =>
          have further := ih fun occurs => absent (occurs.trans (List.suffix_cons first _).isInfix)
          rw [write_char_cons, write_char_cons, further]
      | mark index =>
          refine absurd ?_ absent
          rw [write_mark_cons, placeholderOf_eq_append, List.append_assoc]
          exact ⟨markStart, _, rfl⟩

end Protection

namespace Yield

/-- The text with all marks replaced. -/
def text (yield : Yield) : Text :=
  match yield.found with
  | .ok output => filled yield.added output
  | .error _ => []

/-- What the caller of a renderer gets. -/
def rendered (nonce : Text) (yield : Yield) : Except ViewError Text :=
  match yield.found with
  | .ok _ => .ok yield.text
  | .error stop => .error (.parseFailure Renderer.inlineLabel (stop.error nonce))

end Yield

/-- A nonce that does not occur in a template. -/
structure Fresh (nonce template : Text) : Prop where
  isNonce : IsNonce nonce
  absent : ¬ nonce <:+: template

instance (nonce template : Text) : Decidable (Fresh nonce template) :=
  decidable_of_iff (IsNonce nonce ∧ ¬ nonce <:+: template)
    ⟨fun both => ⟨both.1, both.2⟩, fun fresh => ⟨fresh.isNonce, fresh.absent⟩⟩

/-- The beginning of a pass. -/
def starting (nonce : Text) : Protection :=
  ⟨true, fun _ => nonce, 0, []⟩

/-- In a pass under a nonce the template language spares the placeholders of all
texts that it is handed, and none is in the name of a tag that is too deep. -/
structure Discreet (admitted : Text → Prop) (nonce template : Text) (data : Scope) : Prop where
  spared : ∀ handed ∈ handedBy outermostBridge (handedInside maxDepth) template data (starting nonce),
    SparesUnder admitted nonce handed
  unquoted : ∀ name depth,
    (outcome (parse (some outermostBridge) template data) (starting nonce, ())).1 =
      .error (.depthExceeded name depth) → ¬ nonce <:+: name.toList

section Pass

variable {κ ε : Type} (draw : StateM ε (Nat → Text)) {template reference : Text} {data : Scope}

theorem layered_nil : Layered [] := by
  intro index entry found
  cases found

theorem marksBelow_map_char (bound : Nat) (text : Text) :
    MarksBelow bound (text.map Symbol.char) := by
  intro index member
  obtain ⟨character, _, same⟩ := List.mem_map.mp member
  cases same

/-- The name of a tag that is too deep is the same under all nonces if it has no
placeholder under one. -/
theorem Stop.error_eq {stop : Stop} (unquoted : ∀ name depth,
    stop.error reference = .depthExceeded name depth → ¬ reference <:+: name.toList) (nonce : Text) :
    stop.error nonce = stop.error reference := by
  cases stop with
  | because error => rfl
  | tooDeep name =>
      have absent := unquoted _ _ rfl
      rw [String.toList_ofList] at absent
      rw [Stop.error, Stop.error, write_eq_of_not_infix absent nonce]

theorem renderString_of_yield {yield : Yield} (fits : yield.Fits []) {renderer : Renderer κ Protection ε}
    {ready : Protection} (isNonce : IsNonce ready.nonce)
    (readyEq : ready = { renderer.parser with cumulative := true }) (holds : Holds [] ready)
    (parsed : outcome (parse (some outermostBridge) template data) (ready, renderer.outside) =
      (yield.result ready.nonce,
        (ready.extend (yield.added.map (write ready.nonce)), renderer.outside)))
    (unforged : ¬ ready.nonce <:+: yield.text) :
    ((Renderer.renderString (.standard draw) template data).run.run renderer).1 =
      yield.rendered ready.nonce := by
  have ended := holds.extend yield.added
  subst readyEq
  have rendered := congrArg Prod.fst (run_renderText draw template data parsed)
  rw [Renderer.renderString, run_renderNamed]
  simp only [rendered]
  obtain ⟨stop | output, added⟩ := yield
  · rfl
  · have injected := inject_write ended isNonce fits.layered (fits.below output rfl) unforged
    exact congrArg Except.ok injected

/-- If a pass is discreet under one of the nonces that are admitted, parsing comes
to the same under all of them, and so does rendering, except under those nonces
that the rendered text has. -/
theorem exists_yield_of_discreet {admitted : Text → Prop}
    (fresh : ∀ nonce, admitted nonce → Fresh nonce template) (isAdmitted : admitted reference)
    (discreet : Discreet admitted reference template data) :
    ∃ yield : Yield, ∀ renderer : Renderer κ Protection ε, renderer.parser.entries = [] →
      admitted renderer.parser.nonce →
      let ready : Protection := { renderer.parser with cumulative := true }
      outcome (parse (some outermostBridge) template data) (ready, renderer.outside) =
          (yield.result ready.nonce,
            (ready.extend (yield.added.map (write ready.nonce)), renderer.outside)) ∧
        (¬ ready.nonce <:+: yield.text →
          ((Renderer.renderString (.standard draw) template data).run.run renderer).1 =
            yield.rendered reference) := by
  have idle : Holds [] (starting reference) := ⟨rfl, rfl⟩
  have meets (nonce : Text) (isAdmitted : admitted nonce) :
      Meets admitted (template.map Symbol.char) nonce :=
    ⟨isAdmitted, suits_map_char (fresh nonce isAdmitted).isNonce (fresh nonce isAdmitted).absent⟩
  obtain ⟨yield, fits, yields⟩ := exists_yield_parse layered_nil (steady maxDepth) idle
    (marksBelow_map_char 0 template) (meets reference isAdmitted)
    (by rw [write_map_char]; exact discreet.spared)
  have parses (ε : Type) (account : ε) (protection : Protection)
      (isAdmitted : admitted protection.nonce) (holds : Holds [] protection) :
      outcome (parse (some outermostBridge) template data) (protection, account) =
        (yield.result protection.nonce,
          (protection.extend (yield.added.map (write protection.nonce)), account)) := by
    have parsed := yields ε account protection (meets _ isAdmitted) holds
    simp only [write_map_char] at parsed
    exact parsed
  have here := parses Unit () (starting reference) isAdmitted idle
  have renderedEq (nonce : Text) : yield.rendered nonce = yield.rendered reference := by
    have unquoted := discreet.unquoted
    rw [here] at unquoted
    obtain ⟨stop | output, added⟩ := yield
    · have errorEq : stop.error nonce = stop.error reference :=
        Stop.error_eq (fun name depth same => unquoted name depth (congrArg Except.error same)) nonce
      exact congrArg (fun error => Except.error (ViewError.parseFailure Renderer.inlineLabel error)) errorEq
    · rfl
  refine ⟨yield, ?_⟩
  intro renderer noEntries isAdmitted ready
  have holds : Holds [] ready := ⟨rfl, noEntries⟩
  have parsed := parses ε renderer.outside ready isAdmitted holds
  refine ⟨parsed, fun unforged => ?_⟩
  rw [← renderedEq ready.nonce]
  exact renderString_of_yield draw fits (fresh _ isAdmitted).isNonce rfl holds parsed unforged

end Pass

theorem Template.renderTags_ne_depthExceeded (text : Text) (data : Scope) (name : String)
    (depth : Nat) : Template.renderTags text data ≠ .error (.depthExceeded name depth) := by
  rw [Template.renderTags]
  split
  · cases Template.renderText text data with
    | error failure =>
        intro same
        have diagnosed := Except.error.inj same
        rw [Template.diagnose] at diagnosed
        split at diagnosed <;> contradiction
    | ok rendered => intro same; cases same
  · intro same
    cases same

section Untagged

variable {nonce template marked : Text} {contents : List Text}
  (protectEq : protectBlocks template (starting nonce) =
    (marked, (starting nonce).extend contents))
  (noTags : cut plugin marked = ⟨[], marked⟩)

include protectEq noTags

theorem outcome_parse_of_noTags {ε : Type} (data : Scope) (account : ε) :
    outcome (parse (some outermostBridge) template data) (starting nonce, account) =
      (Template.renderTags marked data, ((starting nonce).extend contents, account)) := by
  apply outcome_parse_of_expanded protectEq _ rfl
  rw [noTags, outcome_expandCut_nil]

/-- A template without plugin tags hands on the text that has placeholders in
place of its blocks. -/
theorem discreet_of_noTags {admitted : Text → Prop} {data : Scope}
    (spared : SparesUnder admitted nonce (marked, data)) : Discreet admitted nonce template data := by
  constructor
  · intro handed member
    have expanded : outcome (expandCut (some outermostBridge) ⟨[], marked⟩)
        ((starting nonce).extend contents, ()) = (.ok marked, _) :=
      outcome_expandCut_nil _ _ _
    rw [handedBy, protectEq] at member
    simp only [expand_eq_expandCut, noTags, expanded] at member
    obtain rfl := List.mem_singleton.mp member
    exact spared
  · intro name depth failed
    rw [outcome_parse_of_noTags protectEq noTags] at failed
    exact absurd failed (Template.renderTags_ne_depthExceeded marked data name depth)

theorem renderString_of_noTags {ε : Type} (draw : StateM ε (Nat → Text)) {data : Scope}
    {output : Text} (rendered : Template.renderTags marked data = .ok output)
    (renderer : Renderer κ Protection ε)
    (ready : { renderer.parser with cumulative := true } = starting nonce) :
    ((Renderer.renderString (.standard draw) template data).run.run renderer).1 =
      .ok (restore nonce contents.reverse output) := by
  have parsed := outcome_parse_of_noTags protectEq noTags data renderer.outside
  rw [rendered, ← ready] at parsed
  have passed := congrArg Prod.fst (run_renderText draw template data parsed)
  have entriesEq : ((starting nonce).extend contents).entries = contents := List.nil_append contents
  rw [Renderer.renderString, run_renderNamed]
  simp only [passed, Except.map, Protection.inject, ready, entriesEq]
  rfl

end Untagged

namespace Template

/-- A node with tags that trim nothing, and with no more than a text inside. -/
def isPlain : Node → Bool
  | .text _ => true
  | .print trim _ => !(trim.before || trim.after)
  | .filtered opening _ [.text _] closing | .branch [(opening, _, [.text _])] none closing =>
      !(opening.before || opening.after || closing.before || closing.after)
  | _ => false

theorem exists_trimmedOnto_of_isPlain {node : Node} (plain : isPlain node = true)
    {state : Node.Trimming} (keeps : state.trimNext = false) :
    ∃ afterText, Node.trimmedOnto state node = ⟨state.nodes ++ [node], afterText, false⟩ := by
  unfold isPlain at plain
  split at plain <;> simp only [Bool.not_eq_true', Bool.or_eq_false_iff, Bool.false_eq_true] at plain
  · exact ⟨true, by simp [Node.trimmedOnto, Node.Trimming.pushText, keeps]⟩
  · exact ⟨false, by simp [Node.trimmedOnto, Node.Trimming.push, Node.trimmedEndIf, plain]⟩
  · exact ⟨false, by
      simp [Node.trimmedOnto, Node.trimmedBody, Node.trimmedAll, Node.Trimming.initial,
        Node.Trimming.pushText, Node.Trimming.push, Node.trimmedEndIf, plain]⟩
  · exact ⟨false, by
      simp [Node.trimmedOnto, Node.trimmedConditions, Node.trimmedBetween, Node.trimmedAll,
        Node.Trimming.initial, Node.Trimming.pushText, Node.Trimming.push, Node.trimmedEndIf, plain]⟩

theorem trimmed_of_isPlain {nodes : List Node} (plain : nodes.all isPlain = true) :
    Node.trimmed nodes = nodes := by
  have allKept (state : Node.Trimming) (keeps : state.trimNext = false) :
      (Node.trimmedAll state nodes).nodes = state.nodes ++ nodes := by
    induction nodes generalizing state with
    | nil => simp [Node.trimmedAll]
    | cons node nodes ih =>
        rw [List.all_cons, Bool.and_eq_true] at plain
        obtain ⟨afterText, trimmedEq⟩ := exists_trimmedOnto_of_isPlain plain.1 keeps
        rw [Node.trimmedAll, trimmedEq, ih plain.2 _ rfl, List.append_assoc]
        rfl
  exact allKept (.initial false) rfl

/-- The nodes of a template before blanks are trimmed. -/
def readUntrimmed (text : Text) : Except Reason (List Node) :=
  match matchTemplate text with
  | (.matched trees _, _) => (readAll readRule trees).map Fragment.body
  | (_, furthest) => throw (rejection text furthest)

theorem readNodes_of_isPlain {text : Text}
    (isPlain : (readUntrimmed text).toOption.any (fun nodes => nodes.all isPlain) = true) :
    readNodes text = readUntrimmed text := by
  revert isPlain
  rw [readNodes, readUntrimmed]
  obtain ⟨matched, furthest⟩ := matchTemplate text
  cases matched with
  | failed | unfinished => exact fun _ => rfl
  | matched trees cursor =>
      simp only
      cases readAll readRule trees with
      | error reason => exact fun _ => rfl
      | ok parts => exact fun isPlain => congrArg Except.ok (trimmed_of_isPlain isPlain)

end Template

/-- Placeholders that stand as texts between tags are spared. -/
theorem exists_yield_noparse_inside_branch :
    let opening : Text := "\x7b% if true %\x7d".toList
    let closing : Text := "\x7b% endif %\x7d\x7b\x7b 1 \x7d\x7d".toList
    let template : Text :=
      opening ++ "\x7b\x7b noparse \x7d\x7d\x7b\x7b x \x7d\x7d\x7b\x7b /noparse \x7d\x7d".toList
        ++ closing
    let nonces : List Text := [List.replicate 32 'a', List.replicate 32 'b']
    let reference : Text := List.replicate 32 'a'
    (∀ nonce, nonce ∈ nonces → Fresh nonce template) ∧ reference ∈ nonces ∧
      Discreet (fun nonce => nonce ∈ nonces) reference template [] ∧
      ∃ yield : Yield, ∀ renderer : Renderer Empty Protection Unit, renderer.parser.entries = [] →
        renderer.parser.nonce ∈ nonces →
        let ready : Protection := { renderer.parser with cumulative := true }
        outcome (parse (some outermostBridge) template []) (ready, renderer.outside) =
            (yield.result ready.nonce,
              (ready.extend (yield.added.map (write ready.nonce)), renderer.outside)) ∧
          (¬ ready.nonce <:+: yield.text →
            ((Renderer.renderString (.standard (pure fun _ => [])) template []).run.run renderer).1 =
              yield.rendered reference) := by
  intro opening closing template nonces reference
  have isFresh : ∀ nonce, nonce ∈ nonces → Fresh nonce template := by decide +kernel
  have isAdmitted : reference ∈ nonces := by simp [nonces, reference]
  let symbols : List Symbol := opening.map .char ++ .mark 0 :: closing.map .char
  have written (nonce : Text) : write nonce symbols = opening ++ (placeholderOf nonce 0 ++ closing) := by
    simp [symbols, write_map_char]
  have blocks : cut noparseBlock template = ⟨[(opening, "\x7b\x7b x \x7d\x7d".toList)], closing⟩ := by
    decide +kernel
  have noTags : cut plugin (write reference symbols) = ⟨[], write reference symbols⟩ := by
    rw [written]
    decide +kernel
  have protectEq : protectBlocks template (starting reference) =
      (write reference symbols, (starting reference).extend ["\x7b\x7b x \x7d\x7d".toList]) := by
    rw [protectBlocks_eq, blocks, written]
    rfl
  have rendered : ∀ nonce ∈ nonces,
      Template.renderTags (write nonce symbols) [] = .ok (write nonce [.mark 0, .char '1']) := by
    intro nonce member
    have plain : ∀ nonce ∈ nonces,
        (Template.readUntrimmed (opening ++ (placeholderOf nonce 0 ++ closing))).toOption.any
          (fun nodes => nodes.all Template.isPlain) = true := by
      decide +kernel
    rw [written, Template.renderTags, Template.renderText, Template.Source.read,
      Template.readNodes_of_isPlain (plain nonce member)]
    clear plain
    revert nonce
    decide +kernel
  have spared : Spares (fun nonce => nonce ∈ nonces) [] symbols := by
    refine ⟨.ok [.mark 0, .char '1'], ?_, fun nonce member _ => rendered nonce member⟩
    rintro output ⟨⟩ index member
    simpa [symbols] using member
  have discreet : Discreet (fun nonce => nonce ∈ nonces) reference template [] :=
    discreet_of_noTags protectEq noTags ⟨symbols, ⟨by decide, by decide +kernel⟩, rfl, spared⟩
  exact ⟨isFresh, isAdmitted, discreet,
    exists_yield_of_discreet (pure fun _ => []) isFresh isAdmitted discreet⟩

/-- A filter that replaces the end of a placeholder lets the caller see the rest
of it, with the nonce. -/
theorem renderString_filtered_noparse :
    let opening : Text := "\x7b% filter replace(from=\"0__\", to=\"!\") %\x7d".toList
    let closing : Text := "\x7b% endfilter %\x7d".toList
    let template : Text :=
      opening ++ "\x7b\x7b noparse \x7d\x7dx\x7b\x7b /noparse \x7d\x7d".toList ++ closing
    let first : Text := List.replicate 32 'a'
    let second : Text := List.replicate 32 'b'
    let render (nonce : Text) : Except ViewError Text :=
      ((Renderer.renderString (.standard (pure fun _ => [])) template []).run.run
        (⟨.start .empty (), ⟨false, fun _ => nonce, 0, []⟩⟩ : Renderer Empty Protection Unit)).1
    Fresh first template ∧ Fresh second template ∧
      render first = .ok (placeholderStart first ++ ['!']) ∧
      render second = .ok (placeholderStart second ++ ['!']) ∧ render first ≠ render second := by
  intro opening closing template first second render
  have isFresh : ∀ nonce ∈ [first, second], Fresh nonce template := by decide +kernel
  have blocks : cut noparseBlock template = ⟨[(opening, ['x'])], closing⟩ := by decide +kernel
  have noTags : ∀ nonce ∈ [first, second],
      cut plugin (opening ++ (placeholderOf nonce 0 ++ closing)) =
        ⟨[], opening ++ (placeholderOf nonce 0 ++ closing)⟩ := by
    decide +kernel
  have filtered : ∀ nonce ∈ [first, second],
      Template.renderTags (opening ++ (placeholderOf nonce 0 ++ closing)) [] =
        .ok (placeholderStart nonce ++ ['!']) := by
    intro nonce member
    have plain : ∀ nonce ∈ [first, second],
        (Template.readUntrimmed (opening ++ (placeholderOf nonce 0 ++ closing))).toOption.any
          (fun nodes => nodes.all Template.isPlain) = true := by
      decide +kernel
    rw [Template.renderTags, Template.renderText, Template.Source.read,
      Template.readNodes_of_isPlain (plain nonce member)]
    clear plain
    revert nonce
    decide +kernel
  have rendered : ∀ nonce ∈ [first, second], render nonce = .ok (placeholderStart nonce ++ ['!']) := by
    intro nonce member
    have protectEq : protectBlocks template (starting nonce) =
        (opening ++ (placeholderOf nonce 0 ++ closing), (starting nonce).extend [['x']]) := by
      rw [protectBlocks_eq, blocks]
      rfl
    have kept : ∀ nonce ∈ [first, second],
        restore nonce [['x']] (placeholderStart nonce ++ ['!']) = placeholderStart nonce ++ ['!'] := by
      decide +kernel
    have passed := renderString_of_noTags protectEq (noTags nonce member) (pure fun _ => [])
      (filtered nonce member)
      (⟨.start .empty (), ⟨false, fun _ => nonce, 0, []⟩⟩ : Renderer Empty Protection Unit) rfl
    rw [List.reverse_singleton, kept nonce member] at passed
    exact passed
  have firstRendered := rendered first (by simp)
  have secondRendered := rendered second (by simp)
  refine ⟨isFresh first (by simp), isFresh second (by simp), firstRendered, secondRendered, ?_⟩
  rw [firstRendered, secondRendered]
  decide

end ThemedViews
