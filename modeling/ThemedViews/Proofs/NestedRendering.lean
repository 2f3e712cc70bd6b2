import ThemedViews.Proofs.ForestLayouts
import ThemedViews.Renderer

/-!
# Rendering nested plugin tags

The handler that parses the content of a tag works from the inside out, so that
a forest leaves its layout, and its tags keep their entries.  A tag with too
many elements around it stops the parse, and it is the first one.  A pass of the
standard parser puts all entries back and leaves none.
-/

namespace ThemedViews

open Text Tags Protection Parsing

section Bridge

variable {ε : Type}

/-- At a level of the handler the tags of a forest leave the layout and keep
their entries. -/
def Settles (ε : Type) (levels : Nat) (forest : Forest Nat) : Prop :=
  ∀ (protection : Protection) (account : ε), IsNonce protection.nonce →
    protection.cumulative = true →
    outcome (expandCut (some (bridge levels)) (forest.pieces (placeholderOf protection.nonce)))
        (protection, account) =
      (.ok (spell protection.nonce (forest.layout protection.entries.length)),
        (protection.extend ((forest.kept protection.entries.length).map (spell protection.nonce)),
          account))

section Call

variable (levels : Nat) {protection : Protection} (isNonce : IsNonce protection.nonce)
  (cumulative : protection.cumulative = true) (tag : PluginTag) (account : ε)

include cumulative in
theorem outcome_bridge_call_nil :
    outcome (bridge (levels + 1) (tag.call [])) (protection, account) =
      (.ok [], (protection, account)) := by
  have expanded : outcome (expandCut (some (bridge levels)) (cut plugin [])) (protection, account) =
      (.ok [], (protection, account)) :=
    outcome_expandCut_nil _ [] _
  exact outcome_parse (protectBlocks_of_quiet quiet_nil protection) expanded cumulative (by simp) []

include isNonce cumulative in
/-- An element is called with its printed children, which are parsed one level
further inside. -/
theorem outcome_bridge_call {children : Forest Nat} (apart : children.Apart)
    (settles : Settles ε levels children) :
    outcome (bridge (levels + 1) (tag.call (children.print (placeholderOf protection.nonce))))
        (protection, account) =
      (.ok (spell protection.nonce (children.layout protection.entries.length)),
        (protection.extend ((children.kept protection.entries.length).map (spell protection.nonce)),
          account)) := by
  have expanded := settles protection account isNonce cumulative
  rw [← Forest.cut_plugin_print isNonce.open_not_mem_placeholderOf apart] at expanded
  have quiet := children.quiet_print isNonce.open_not_mem_placeholderOf
  exact outcome_parse (protectBlocks_of_quiet quiet protection) expanded cumulative
    (children.open_not_mem_layout isNonce _) []

include isNonce in
theorem outcome_bridge_call_of_error {children : Forest Nat} (apart : children.Apart)
    {error : TemplateError} {after : Protection × ε}
    (failed : outcome (expandCut (some (bridge levels))
        (children.pieces (placeholderOf protection.nonce))) (protection, account) =
      (.error error, after)) :
    outcome (bridge (levels + 1) (tag.call (children.print (placeholderOf protection.nonce))))
        (protection, account) = (.error error, after) := by
  rw [← Forest.cut_plugin_print isNonce.open_not_mem_placeholderOf apart] at failed
  have quiet := children.quiet_print isNonce.open_not_mem_placeholderOf
  exact outcome_parse_of_error (protectBlocks_of_quiet quiet protection) failed []

end Call

/-- Tags with few elements around them are done. -/
theorem settles_of_shallow {forest : Forest Nat} (apart : forest.Apart) (depth levels : Nat)
    (shallow : ∀ entry ∈ forest.outline depth, entry.2 < depth + levels) :
    Settles ε levels forest := by
  intro protection account isNonce cumulative
  induction forest generalizing depth levels protection account with
  | nil => simp [Forest.pieces, Forest.layout, Forest.kept, outcome_expandCut_nil]
  | text plain closed rest ih =>
      exact outcome_expandCut_pushText plain
        (ih apart depth levels shallow protection account isNonce cumulative)
  | leaf index rest ih =>
      exact outcome_expandCut_pushText _
        (ih apart depth levels shallow protection account isNonce cumulative)
  | single tag rest ih =>
      simp only [Forest.outline, List.forall_mem_cons] at shallow
      obtain ⟨tagShallow, restShallow⟩ := shallow
      obtain ⟨levels, rfl⟩ : ∃ fewer, levels = fewer + 1 := ⟨levels - 1, by omega⟩
      have called := outcome_bridge_call_nil levels cumulative tag account
      have behind := ih apart depth (levels + 1) restShallow (protection.extend [[]]) account
        isNonce cumulative
      rw [Forest.pieces, outcome_expandCut_pushFound called cumulative]
      simp only [nonce_extend, length_entries_extend, extend_extend] at behind
      rw [outcome_expandCut_pushText _ behind]
      simp [Forest.layout, Forest.kept, Segment.spell]
  | element tag closing children rest childrenIh ih =>
      obtain ⟨_, childrenApart, restApart⟩ := apart
      simp only [Forest.outline, List.forall_mem_cons, List.forall_mem_append] at shallow
      obtain ⟨tagShallow, childrenShallow, restShallow⟩ := shallow
      obtain ⟨levels, rfl⟩ : ∃ fewer, levels = fewer + 1 := ⟨levels - 1, by omega⟩
      have regrouped : depth + (levels + 1) = depth + 1 + levels := by omega
      rw [regrouped] at childrenShallow
      have called := outcome_bridge_call levels isNonce cumulative tag account childrenApart
        fun protection account isNonce cumulative =>
          childrenIh childrenApart (depth + 1) levels childrenShallow protection account isNonce cumulative
      have behind := ih restApart depth (levels + 1) restShallow
        ((protection.extend ((children.kept protection.entries.length).map
          (spell protection.nonce))).extend
            [spell protection.nonce (children.layout protection.entries.length)])
        account isNonce cumulative
      rw [Forest.pieces, outcome_expandCut_pushFound called cumulative]
      simp only [nonce_extend, length_entries_extend, extend_extend, List.length_map,
        Forest.length_kept, List.length_append, List.length_singleton] at behind ⊢
      rw [outcome_expandCut_pushText _ behind]
      simp [Forest.layout, Forest.kept, Segment.spell, Nat.add_assoc]

/-- At a level of the handler a forest is not parsed, because of a tag. -/
def StopsAt (ε : Type) (levels : Nat) (deep : PluginTag) (forest : Forest Nat) : Prop :=
  ∀ (protection : Protection) (account : ε), IsNonce protection.nonce →
    protection.cumulative = true →
    ∃ entries, outcome (expandCut (some (bridge levels))
        (forest.pieces (placeholderOf protection.nonce))) (protection, account) =
      (.error (.depthExceeded (String.ofList deep.name.text) maxDepth),
        (protection.extend entries, account))

/-- The innermost handler stops at every tag. -/
theorem exists_outcome_pushFound_of_deep (pieces : Cut PluginCall) (tag : PluginTag)
    (content : Text) (protection : Protection) (account : ε) :
    ∃ entries, outcome (expandCut (some (bridge 0)) (pieces.pushFound (tag.call content)))
        (protection, account) =
      (.error (.depthExceeded (String.ofList tag.name.text) maxDepth),
        (protection.extend entries, account)) := by
  refine ⟨[], ?_⟩
  rw [extend_nil]
  exact outcome_expandCut_pushFound_of_call_error (outcome_throw _ _)

/-- What stops behind a tag that is done, stops with it. -/
theorem StopsAt.pushFound {levels : Nat} {deep tag : PluginTag} {rest : Forest Nat}
    (stops : StopsAt ε levels deep rest) {content output : Text} {entries : List Text}
    {protection : Protection} {account : ε}
    (called : outcome (bridge levels (tag.call content)) (protection, account) =
      (.ok output, (protection.extend entries, account)))
    (isNonce : IsNonce protection.nonce) (cumulative : protection.cumulative = true) :
    ∃ entries, outcome (expandCut (some (bridge levels))
        ((rest.pieces (placeholderOf protection.nonce)).pushFound (tag.call content)))
        (protection, account) =
      (.error (.depthExceeded (String.ofList deep.name.text) maxDepth),
        (protection.extend entries, account)) := by
  obtain ⟨later, failed⟩ := stops ((protection.extend entries).extend [output]) account isNonce
    cumulative
  refine ⟨entries ++ ([output] ++ later), ?_⟩
  rw [outcome_expandCut_pushFound called cumulative, ← extend_extend, ← extend_extend]
  exact outcome_expandCut_pushText_of_error _ failed

/-- The first tag with too many elements around it stops the parse. -/
theorem stopsAt_of_deep {forest : Forest Nat} (apart : forest.Apart) (depth levels : Nat)
    {deep : PluginTag × Nat}
    (found : (forest.outline depth).find? (fun entry => entry.2 = depth + levels) = some deep) :
    StopsAt ε levels deep.1 forest := by
  intro protection account isNonce cumulative
  induction forest generalizing depth levels protection account with
  | nil => contradiction
  | text plain closed rest ih =>
      obtain ⟨entries, failed⟩ := ih apart depth levels found protection account isNonce cumulative
      exact ⟨entries, outcome_expandCut_pushText_of_error plain failed⟩
  | leaf index rest ih =>
      obtain ⟨entries, failed⟩ := ih apart depth levels found protection account isNonce cumulative
      exact ⟨entries, outcome_expandCut_pushText_of_error _ failed⟩
  | single tag rest ih =>
      rw [Forest.outline] at found
      cases levels with
      | zero =>
          rw [List.find?_cons_of_pos (by simp)] at found
          obtain rfl := Option.some.inj found
          exact exists_outcome_pushFound_of_deep _ tag [] protection account
      | succ levels =>
          rw [List.find?_cons_of_neg (by simp)] at found
          have restStops : StopsAt ε (levels + 1) deep.1 rest := ih apart depth (levels + 1) found
          have called : outcome (bridge (levels + 1) (tag.call [])) (protection, account) =
              (.ok [], (protection.extend [], account)) := by
            rw [extend_nil]
            exact outcome_bridge_call_nil levels cumulative tag account
          exact restStops.pushFound called isNonce cumulative
  | element tag closing children rest childrenIh ih =>
      obtain ⟨_, childrenApart, restApart⟩ := apart
      rw [Forest.outline] at found
      cases levels with
      | zero =>
          rw [List.find?_cons_of_pos (by simp)] at found
          obtain rfl := Option.some.inj found
          exact exists_outcome_pushFound_of_deep _ tag _ protection account
      | succ levels =>
          have regrouped : depth + (levels + 1) = depth + 1 + levels := by omega
          rw [List.find?_cons_of_neg (by simp), List.find?_append] at found
          cases inside : (children.outline (depth + 1)).find?
              (fun entry => entry.2 = depth + (levels + 1)) with
          | some inner =>
              rw [inside, Option.some_or] at found
              obtain rfl := Option.some.inj found
              rw [regrouped] at inside
              obtain ⟨entries, failed⟩ := childrenIh childrenApart (depth + 1) levels inside protection
                account isNonce cumulative
              refine ⟨entries, outcome_expandCut_pushFound_of_call_error ?_⟩
              exact outcome_bridge_call_of_error levels isNonce tag account childrenApart failed
          | none =>
              rw [inside, Option.none_or] at found
              rw [regrouped] at inside
              have childrenShallow := Forest.outline_lt_of_forall_ne fun entry member => by
                simpa using List.find?_eq_none.mp inside entry member
              have restStops : StopsAt ε (levels + 1) deep.1 rest :=
                ih restApart depth (levels + 1) found
              have called := outcome_bridge_call levels isNonce cumulative tag account childrenApart
                (settles_of_shallow childrenApart (depth + 1) levels childrenShallow)
              exact restStops.pushFound called isNonce cumulative

end Bridge

section Render

variable {ε : Type} (protection : Protection) (account : ε)

/-- A forest in which no tag has more than nine elements around it is parsed
completely. -/
theorem outcome_parse_forest {forest : Forest NoparseBlock} (apart : forest.Apart)
    (shallow : ∀ entry ∈ forest.outline 0, entry.2 < maxDepth) (idle : protection.entries = [])
    (isNonce : IsNonce protection.nonce) (cumulative : protection.cumulative = true) (data : Scope) :
    outcome (parse (some outermostBridge) (forest.print NoparseBlock.print) data)
        (protection, account) =
      (.ok (spell protection.nonce ((forest.marked 0).layout forest.leaves.length)),
        (protection.extend (forest.entries.map (spell protection.nonce)), account)) := by
  have blocksKept := protectBlocks_print forest protection
  rw [idle, List.length_nil] at blocksKept
  have settles : Settles ε maxDepth (forest.marked 0) := by
    apply settles_of_shallow (apart.marked 0) 0 maxDepth
    simpa using shallow
  have expanded := settles (protection.extend (forest.leaves.map NoparseBlock.content)) account
    isNonce cumulative
  have started : (protection.extend (forest.leaves.map NoparseBlock.content)).entries.length =
      forest.leaves.length := by
    simp [idle]
  rw [started, nonce_extend, extend_extend,
    ← Forest.cut_plugin_print isNonce.open_not_mem_placeholderOf (apart.marked 0)] at expanded
  have spelled : forest.leaves.map NoparseBlock.content ++
      ((forest.marked 0).kept forest.leaves.length).map (spell protection.nonce) =
        forest.entries.map (spell protection.nonce) := by
    rw [Forest.entries, List.map_append, map_spell_literals]
  rw [spelled] at expanded
  exact outcome_parse blocksKept expanded cumulative (Forest.open_not_mem_layout isNonce _ _) data

/-- A forest with deeper tags is not parsed, because of the first tag with ten
elements around it. -/
theorem outcome_parse_forest_of_deep {forest : Forest NoparseBlock} (apart : forest.Apart)
    {deep : PluginTag × Nat}
    (found : (forest.outline 0).find? (fun entry => entry.2 = maxDepth) = some deep)
    (isNonce : IsNonce protection.nonce) (cumulative : protection.cumulative = true) (data : Scope) :
    ∃ entries, outcome (parse (some outermostBridge) (forest.print NoparseBlock.print) data)
        (protection, account) =
      (.error (.depthExceeded (String.ofList deep.1.name.text) maxDepth),
        (protection.extend entries, account)) := by
  have blocksKept := protectBlocks_print forest protection
  have foundMarked : ((forest.marked protection.entries.length).outline 0).find?
      (fun entry => entry.2 = 0 + maxDepth) = some deep := by
    rw [Forest.outline_marked, Nat.zero_add]
    exact found
  have stops : StopsAt ε maxDepth deep.1 (forest.marked protection.entries.length) :=
    stopsAt_of_deep (apart.marked _) 0 maxDepth foundMarked
  obtain ⟨entries, failed⟩ := stops (protection.extend (forest.leaves.map NoparseBlock.content))
    account isNonce cumulative
  rw [nonce_extend, extend_extend,
    ← Forest.cut_plugin_print isNonce.open_not_mem_placeholderOf (apart.marked _)] at failed
  exact ⟨_, outcome_parse_of_error blocksKept failed data⟩

end Render

section Renderer

variable {κ ε : Type} (draw : StateM ε (Nat → Text)) (template : Text) (data : Scope)

/-- A pass puts back what it has parsed, and drops it if it fails, whatever handles the tags. -/
theorem run_renderText_of (parser : TagParser Protection ε)
    (switches : parser.setCumulative = (TagParser.standard draw).setCumulative)
    (injects : parser.inject = (TagParser.standard draw).inject)
    {protection ended : Protection} {account later : ε} {found : Except TemplateError Text}
    (done : outcome (parser.parse template data) ({ protection with cumulative := true }, account) =
      (found, (ended, later))) :
    (TagParser.renderText parser template data).run.run (protection, account) =
      (found.map fun parsed => (ended.inject parsed).1,
        ((ended.inject (found.toOption.getD [])).2, later)) := by
  have switched : (parser.setCumulative true).run (protection, account) =
      ((), ({ protection with cumulative := true }, account)) := by
    rw [switches]
    rfl
  have ran : (parser.parse template data).run.run ({ protection with cumulative := true }, account) =
      (found, (ended, later)) := done
  rw [TagParser.renderText, ExceptT.run_mk, run_bind, switched, run_bind, ran, injects]
  cases found with
  | error error => rfl
  | ok parsed => rfl

theorem run_renderText {protection ended : Protection} {account later : ε}
    {found : Except TemplateError Text}
    (done : outcome (parse (some outermostBridge) template data)
      ({ protection with cumulative := true }, account) = (found, (ended, later))) :
    (TagParser.renderText (.standard draw) template data).run.run (protection, account) =
      (found.map fun parsed => (ended.inject parsed).1,
        ((ended.inject (found.toOption.getD [])).2, later)) :=
  run_renderText_of draw template data (.standard draw) rfl rfl done

section Pass

variable (protection : Protection) (account : ε) {forest : Forest NoparseBlock}
  (apart : forest.Apart) (isNonce : IsNonce protection.nonce)

include apart isNonce

theorem run_renderText_forest (idle : protection.entries = [])
    (shallow : ∀ entry ∈ forest.outline 0, entry.2 < maxDepth)
    (unforged : ¬ protection.nonce <:+: forest.content NoparseBlock.content) :
    (TagParser.renderText (.standard draw) (forest.print NoparseBlock.print) data).run.run
        (protection, account) =
      (.ok (forest.content NoparseBlock.content),
        ({ protection with cumulative := true, pass := protection.pass + 1, entries := [] },
          account)) := by
  let ready : Protection := { protection with cumulative := true }
  have parsed := outcome_parse_forest ready account apart shallow idle isNonce rfl data
  have filled : (ready.extend (forest.entries.map (spell ready.nonce))).entries =
      forest.entries.map (spell ready.nonce) := by
    rw [extend, show ready.entries = [] from idle, List.nil_append]
  have injected := forest.inject_layout (ready.extend (forest.entries.map (spell ready.nonce)))
    isNonce filled unforged
  rw [nonce_extend] at injected
  rw [run_renderText draw _ data parsed]
  simp only [Except.map, Except.toOption, Option.getD, injected]
  rfl

theorem run_renderText_forest_of_deep {deep : PluginTag × Nat}
    (found : (forest.outline 0).find? (fun entry => entry.2 = maxDepth) = some deep) :
    (TagParser.renderText (.standard draw) (forest.print NoparseBlock.print) data).run.run
        (protection, account) =
      (.error (.depthExceeded (String.ofList deep.1.name.text) maxDepth),
        ({ protection with cumulative := true, pass := protection.pass + 1, entries := [] },
          account)) := by
  let ready : Protection := { protection with cumulative := true }
  obtain ⟨entries, failed⟩ := outcome_parse_forest_of_deep ready account apart found isNonce rfl data
  rw [run_renderText draw _ data failed]
  rfl

end Pass

theorem run_renderNamed_of (kind : TagParser Protection ε) (label : String) (renderer : Renderer κ Protection ε) :
    (Renderer.renderNamed kind label template data).run.run renderer =
      let pass := (TagParser.renderText kind template data).run.run (renderer.parser, renderer.outside)
      (pass.1.mapError (.parseFailure label),
        { renderer with parser := pass.2.1, outside := pass.2.2 }) :=
  rfl

theorem run_renderNamed (label : String) (renderer : Renderer κ Protection ε) :
    (Renderer.renderNamed (.standard draw) label template data).run.run renderer =
      let pass := (TagParser.renderText (.standard draw) template data).run.run
        (renderer.parser, renderer.outside)
      (pass.1.mapError (.parseFailure label),
        { renderer with parser := pass.2.1, outside := pass.2.2 }) :=
  run_renderNamed_of template data (.standard draw) label renderer

/-- Whether a text is rendered or not, nothing is kept for the next one. -/
theorem entries_renderNamed (label : String) (renderer : Renderer κ Protection ε) :
    ((Renderer.renderNamed (.standard draw) label template data).run.run renderer).2.parser.entries =
      [] := by
  cases done : outcome (parse (some outermostBridge) template data)
      ({ renderer.parser with cumulative := true }, renderer.outside) with
  | mk found after =>
      rw [run_renderNamed, run_renderText draw template data done]
      rfl

/-- Rendering a forest gives its text if no tag has more than nine elements
around it, and otherwise fails because of the first tag that has ten. -/
theorem renderString_forest (renderer : Renderer κ Protection ε)
    (idle : renderer.parser.entries = []) (isNonce : IsNonce renderer.parser.nonce)
    (forest : Forest NoparseBlock) (apart : forest.Apart)
    (unforged : ¬ renderer.parser.nonce <:+: forest.content NoparseBlock.content) :
    let rendered := (Renderer.renderString (.standard draw) (forest.print NoparseBlock.print) data).run.run
      renderer
    let after := { renderer with
      parser := { renderer.parser with
        cumulative := true, pass := renderer.parser.pass + 1, entries := [] } }
    ((∀ entry ∈ forest.outline 0, entry.2 ≤ 9) →
      rendered = (.ok (forest.content NoparseBlock.content), after)) ∧
    ((∃ entry ∈ forest.outline 0, 9 < entry.2) →
      ∃ tag, (forest.outline 0).find? (fun entry => entry.2 = 10) = some (tag, 10) ∧
        rendered = (.error (.parseFailure "inline" (.depthExceeded (String.ofList tag.name.text) 10)),
          after)) := by
  intro rendered after
  have renderedEq : rendered = _ := run_renderNamed draw (forest.print NoparseBlock.print) data
    Renderer.inlineLabel renderer
  constructor
  · intro shallow
    rw [renderedEq, run_renderText_forest draw data renderer.parser renderer.outside apart isNonce idle
      (fun entry member => Nat.lt_succ_of_le (shallow entry member)) unforged]
    rfl
  · rintro ⟨entry, member, deep⟩
    cases found : (forest.outline 0).find? (fun entry => entry.2 = 10) with
    | none =>
        have never : ∀ entry ∈ forest.outline 0, entry.2 ≠ 0 + 10 := fun entry member => by
          simpa using List.find?_eq_none.mp found entry member
        have shallow := Forest.outline_lt_of_forall_ne never entry member
        omega
    | some first =>
        obtain ⟨tag, depth⟩ := first
        obtain rfl : depth = 10 := by simpa using List.find?_some found
        refine ⟨tag, rfl, ?_⟩
        rw [renderedEq, run_renderText_forest_of_deep draw data renderer.parser renderer.outside apart
          isNonce found]
        rfl

/-- Two elements of one name around a block and a text, and eleven elements
inside of each other. -/
theorem renderString_forest_nested :
    let noBlanks : Blanks := ⟨[], by decide⟩
    let name : PluginName := ⟨['a', ':', 'b'], by decide, by decide, by decide, by decide⟩
    let tag : PluginTag := ⟨⟨⟨[' '], by decide⟩, name, [], noBlanks⟩, nofun⟩
    let block : NoparseBlock := ⟨noBlanks, noBlanks, ['{', '{', 'x'], by decide, noBlanks, noBlanks⟩
    let enclosed (inner : Forest NoparseBlock) : Forest NoparseBlock :=
      .element tag ⟨noBlanks, noBlanks, noBlanks⟩ inner .nil
    let renderer : Renderer Empty Protection Unit :=
      ⟨.start .empty (), ⟨false, fun _ => List.replicate 32 'a', 0, []⟩⟩
    let render (forest : Forest NoparseBlock) : Except ViewError Text :=
      ((Renderer.renderString (.standard (pure fun _ => [])) (forest.print NoparseBlock.print) []).run.run
        renderer).1
    render (enclosed (enclosed (.leaf block (.text ['t'] (by decide) .nil)))) =
        .ok ['{', '{', 'x', 't'] ∧
      render (Nat.repeat enclosed 11 .nil) =
        .error (.parseFailure "inline" (.depthExceeded "a:b" 10)) := by
  intro noBlanks name tag block enclosed renderer render
  constructor
  · have rendered := (renderString_forest (pure fun _ => []) [] renderer rfl (by decide)
      (enclosed (enclosed (.leaf block (.text ['t'] (by decide) .nil)))) (by decide) (by decide)).1
      (by decide)
    exact congrArg Prod.fst rendered
  · have first : ((Nat.repeat enclosed 11 .nil).outline 0).find? (fun entry => entry.2 = 10) =
        some (tag, 10) := rfl
    obtain ⟨deepest, found, rendered⟩ := (renderString_forest (pure fun _ => []) [] renderer rfl
      (by decide) (Nat.repeat enclosed 11 .nil) (by decide) (by decide)).2
      ⟨(tag, 10), List.mem_of_find?_eq_some first, by decide⟩
    rw [first] at found
    obtain rfl : tag = deepest := congrArg Prod.fst (Option.some.inj found)
    exact congrArg Prod.fst rendered

end Renderer

end ThemedViews
