import Mathlib.Data.List.Infix
import ThemedViews.Proofs.CompositionScopes
import ThemedViews.Proofs.PathValues
import ThemedViews.Proofs.RenderHistories

/-!
# Texts of layouts

A layout of plain words, of tags that print the rendered view, and of tags that
print rendered partials comes to the words with the rendered texts in place of
the tags.  These texts are data of the layout: nothing is looked for in them,
neither blocks nor tags nor placeholders.
-/

namespace ThemedViews

open Text Tags Protection Parsing
open Template (Name PathTag Placed Untagged printed filledWith ShownAs isNamePart)

/-- A piece of a layout: words without an opening brace, the rendered view, or the
rendered partial under a key. -/
inductive LayoutPiece where
  | words (text : Text) (closed : '{' ∉ text)
  | body
  | part (key : Name)

namespace LayoutPiece

/-- How a tag that prints a path is written. -/
def printTag (path : Text) : Text :=
  ['{', '{', ' '] ++ (path ++ [' ', '}', '}'])

/-- How a piece is written. -/
def print : LayoutPiece → Text
  | words text _ => text
  | body => printTag bodyKey.toList
  | part key => printTag (partialsKey.toList ++ '.' :: key.text)

/-- What a piece is meant to come to, with the text of the rendered view and those
of the rendered partials. -/
def fill (body : Text) (part : String → Text) : LayoutPiece → Text
  | words text _ => text
  | .body => body
  | .part key => part (String.ofList key.text)

/-- The key of a partial that is printed. -/
def key? : LayoutPiece → Option String
  | part key => some (String.ofList key.text)
  | _ => none

def bodyName : Name :=
  ⟨'b', ['o', 'd', 'y'], by decide, by decide⟩

def partialsName : Name :=
  ⟨'p', ['a', 'r', 't', 'i', 'a', 'l', 's'], by decide, by decide⟩

theorem onlyPath_b : Template.onlyPath 'b' = true := by
  decide

theorem onlyPath_p : Template.onlyPath 'p' = true := by
  decide

def bodyTag : PathTag where
  path := ⟨bodyName, []⟩
  alone := onlyPath_b
  before := [' ']
  blankBefore := by decide
  after := [' ']
  blankAfter := by decide

def partTag (key : Name) : PathTag where
  path := ⟨partialsName, [key]⟩
  alone := onlyPath_p
  before := [' ']
  blankBefore := by decide
  after := [' ']
  blankAfter := by decide

theorem text_partialsName : partialsName.text = partialsKey.toList :=
  rfl

theorem print_bodyTag : bodyTag.print = print body :=
  rfl

theorem print_partTag (key : Name) : (partTag key).print = print (part key) := by
  simp [print, printTag, ← text_partialsName, PathTag.print, partTag, Template.DottedName.text,
    Template.DottedName.tail]

/-- The words before the first tag, and each tag with the words behind it. -/
def split : List LayoutPiece → Text × List (PathTag × Text)
  | [] => ([], [])
  | words text _ :: layout => (text ++ (split layout).1, (split layout).2)
  | body :: layout => ([], (bodyTag, (split layout).1) :: (split layout).2)
  | part key :: layout => ([], (partTag key, (split layout).1) :: (split layout).2)

theorem printed_split (layout : List LayoutPiece) :
    (split layout).1 ++ printed (split layout).2 = layout.flatMap print := by
  induction layout with
  | nil => rfl
  | cons piece layout ih =>
      rw [List.flatMap_cons, ← ih]
      cases piece with
      | words text closed => rw [split, print, List.append_assoc]
      | body => rw [split, ← print_bodyTag, printed, List.nil_append]
      | part key => rw [split, ← print_partTag, printed, List.nil_append]

theorem untagged_of_not_mem {text : Text} (closed : '{' ∉ text) (rest : Text) : Untagged text rest := by
  induction text with
  | nil => trivial
  | cons first text ih =>
      rw [List.mem_cons, not_or] at closed
      refine ⟨fun opens => ?_, ih closed.2⟩
      rcases opens with ⟨_, same⟩ | ⟨_, same⟩ | ⟨_, same⟩ <;> exact closed.1 (List.cons.inj same).1

theorem open_not_mem_split (layout : List LayoutPiece) : '{' ∉ (split layout).1 := by
  induction layout with
  | nil => exact List.not_mem_nil
  | cons piece layout ih =>
      cases piece with
      | words text closed => exact fun member => (List.mem_append.mp member).elim closed ih
      | body | part key => exact List.not_mem_nil

theorem placed_split (layout : List LayoutPiece) : Placed (split layout).1 (split layout).2 := by
  induction layout with
  | nil => exact trivial
  | cons piece layout ih =>
      cases piece with
      | body | part key => exact ⟨trivial, ih⟩
      | words text closed =>
          have untagged := untagged_of_not_mem (open_not_mem_split (words text closed :: layout))
          rw [split] at untagged ⊢
          cases behind : (split layout).2 with
          | nil => exact untagged []
          | cons entry tagged =>
              rw [behind] at ih
              exact ⟨untagged _, ih.2⟩

section Cutting

variable {α : Type} {recognise : Text → Option (α × Nat)}

/-- No tag begins inside of a text without an opening brace. -/
theorem isPrefixOf?_opener_of_not_mem {text suffix : Text} (closed : '{' ∉ text) (nonempty : suffix ≠ [])
    (isSuffix : suffix <:+ text) (rest : Text) : opener.isPrefixOf? (suffix ++ rest) = none := by
  rw [isPrefixOf?_eq_none_iff]
  obtain ⟨character, suffix, rfl⟩ := List.exists_cons_of_ne_nil nonempty
  rintro ⟨_, same⟩
  refine closed (isSuffix.subset ?_)
  rw [← (List.cons.inj same).1]
  exact List.mem_cons_self

/-- Inside of a tag nothing begins that begins like a tag. -/
theorem cut_printTag_append {path rest : Text} (closed : '{' ∉ path)
    (opens : ∀ text, opener.isPrefixOf? text = none → recognise text = none)
    (here : recognise (printTag path ++ rest) = none) :
    cut recognise (printTag path ++ rest) = (cut recognise rest).pushText (printTag path) := by
  refine cut_append_of_forall_none fun suffix nonempty isSuffix => ?_
  rcases List.suffix_cons_iff.mp isSuffix with rfl | isSuffix
  · exact here
  rcases List.suffix_cons_iff.mp isSuffix with rfl | isSuffix
  · refine opens _ (isPrefixOf?_eq_none_iff.mpr fun ⟨_, same⟩ => ?_)
    cases same
  · have closedTail : '{' ∉ ' ' :: (path ++ [' ', '}', '}']) := by simpa using closed
    exact opens _ (isPrefixOf?_opener_of_not_mem closedTail nonempty isSuffix rest)

theorem cut_words_append {text rest : Text} (closed : '{' ∉ text)
    (opens : ∀ text, opener.isPrefixOf? text = none → recognise text = none) :
    cut recognise (text ++ rest) = (cut recognise rest).pushText text :=
  cut_append_of_forall_none fun _ nonempty isSuffix =>
    opens _ (isPrefixOf?_opener_of_not_mem closed nonempty isSuffix rest)

/-- Nothing is recognised in a layout that is not recognised at its tags. -/
theorem cut_print (layout : List LayoutPiece)
    (opens : ∀ text, opener.isPrefixOf? text = none → recognise text = none)
    (atBody : ∀ rest, recognise (printTag bodyKey.toList ++ rest) = none)
    (atPart : ∀ key rest, recognise (printTag (partialsKey.toList ++ '.' :: key) ++ rest) = none) :
    cut recognise (layout.flatMap print) = ⟨[], layout.flatMap print⟩ := by
  induction layout with
  | nil => rfl
  | cons piece layout ih =>
      have copied : cut recognise (piece.print ++ layout.flatMap print) =
          (cut recognise (layout.flatMap print)).pushText piece.print := by
        cases piece with
        | words text closed => exact cut_words_append closed opens
        | body => exact cut_printTag_append (by decide) opens (atBody _)
        | part key =>
            have noOpen : '{' ∉ key.text := key.not_mem_text (by decide)
            have closed : '{' ∉ partialsKey.toList ++ '.' :: key.text := by
              rw [List.mem_append, List.mem_cons, not_or, not_or]
              exact ⟨by decide, by decide, noOpen⟩
            exact cut_printTag_append closed opens (atPart key.text _)
      rw [List.flatMap_cons, copied, ih]
      rfl

theorem cut_noparseBlock_print (layout : List LayoutPiece) :
    cut noparseBlock (layout.flatMap print) = ⟨[], layout.flatMap print⟩ := by
  refine cut_print layout (fun text notHere => ?_) (fun rest => ?_) (fun key rest => ?_)
  · simp [noparseBlock, afterOpening?, afterTag?, notHere]
  · rfl
  · rfl

theorem cut_plugin_print (layout : List LayoutPiece) :
    cut plugin (layout.flatMap print) = ⟨[], layout.flatMap print⟩ := by
  refine cut_print layout (fun text notHere => ?_) (fun rest => ?_) (fun key rest => ?_)
  · simp [plugin, opening?, notHere]
  · rfl
  · rfl

end Cutting

section Filling

variable {data entries : Scope} {shown : Text} {part : String → Text}

/-- What is printed by a tag of a layout. -/
def image (shown : Text) (part : String → Text) (tag : PathTag) : Text :=
  match tag.path.fields with
  | [] => shown
  | key :: _ => part (String.ofList key.text)

theorem filledWith_split (shown : Text) (part : String → Text) (layout : List LayoutPiece) :
    filledWith (image shown part) (split layout).1 (split layout).2 = layout.flatMap (fill shown part) := by
  induction layout with
  | nil => rfl
  | cons piece layout ih =>
      rw [List.flatMap_cons, ← ih]
      cases piece with
      | words text closed => rw [split, fill, filledWith, filledWith, List.append_assoc]
      | body | part key => simp [split, fill, filledWith, image, bodyTag, partTag]

theorem text_bodyTag : bodyTag.path.text = bodyKey.toList :=
  rfl

theorem text_partTag (key : Name) : (partTag key).path.text = partialsKey.toList ++ ['.'] ++ key.text := by
  simp [partTag, Template.DottedName.text, Template.DottedName.tail, text_partialsName]

theorem findData?_bodyTag (data : Scope) :
    Template.findData? data bodyTag.path.text = data.lookup bodyKey := by
  have whole : splitOnce? ['.'] bodyKey.toList = none := by decide
  rw [text_bodyTag, Template.findData?, whole, String.ofList_toList]

theorem findData?_partTag (key : Name) (found : data.lookup partialsKey = some (.object entries)) :
    Template.findData? data (partTag key).path.text = entries.lookup (String.ofList key.text) := by
  have divided : splitOnce? ['.'] (partTag key).path.text = some (partialsKey.toList, key.text) := by
    rw [text_partTag, List.append_assoc]
    exact splitOnce?_append [] key.text (by decide)
  have underPartials : Template.Pointer.key partialsKey.toList = partialsKey := by
    rw [← text_partialsName, Template.Pointer.key_name, text_partialsName, String.ofList_toList]
  rw [Template.findData?, divided]
  simp only [underPartials, found, Option.bind_some, Template.Pointer.follow?_name]

theorem shownAs_bodyTag (found : data.lookup bodyKey = some (.text (String.ofList shown))) :
    ShownAs data bodyTag shown := by
  have notUnderscore : 'b' ≠ '_' := by decide
  exact ⟨notUnderscore, _, (findData?_bodyTag data).trans found, Template.printed_text shown⟩

theorem shownAs_partTag (key : Name) (found : data.lookup partialsKey = some (.object entries))
    (bound : entries.lookup (String.ofList key.text) = some (.text (String.ofList shown))) :
    ShownAs data (partTag key) shown := by
  have notUnderscore : 'p' ≠ '_' := by decide
  exact ⟨notUnderscore, _, (findData?_partTag key found).trans bound, Template.printed_text shown⟩

/-- The rendered view and the rendered partials that a layout prints are in its data. -/
structure Finds (data entries : Scope) (shown : Text) (part : String → Text) (keys : List String) : Prop where
  body : data.lookup bodyKey = some (.text (String.ofList shown))
  partials : data.lookup partialsKey = some (.object entries)
  each : ∀ key ∈ keys, entries.lookup key = some (.text (String.ofList (part key)))

theorem Finds.shownAs {layout : List LayoutPiece}
    (finds : Finds data entries shown part (layout.filterMap key?)) :
    ∀ entry ∈ (split layout).2, ShownAs data entry.1 (image shown part entry.1) := by
  obtain ⟨body, partials, each⟩ := finds
  induction layout with
  | nil => exact fun entry member => nomatch member
  | cons piece layout ih =>
      cases piece with
      | words text closed => exact ih each
      | body => exact List.forall_mem_cons.mpr ⟨shownAs_bodyTag body, ih each⟩
      | part key =>
          obtain ⟨first, others⟩ := List.forall_mem_cons.mp each
          exact List.forall_mem_cons.mpr ⟨shownAs_partTag key partials first, ih others⟩

theorem contains_append (needle rest before : Text) :
    Text.contains needle (before ++ (needle ++ rest)) = true :=
  Text.contains_iff_isInfix.mpr ⟨before, rest, List.append_assoc ..⟩

/-- A layout comes to its words and to the texts in its data. -/
theorem renderTags_print {layout : List LayoutPiece}
    (finds : Finds data entries shown part (layout.filterMap key?)) :
    Template.renderTags (layout.flatMap print) data = .ok (layout.flatMap (fill shown part)) := by
  rw [← printed_split, ← filledWith_split]
  cases behind : (split layout).2 with
  | nil =>
      rw [printed, List.append_nil, filledWith, List.flatMap_nil, List.append_nil]
      exact Template.renderTags_of_not_mem (open_not_mem_split layout) data
  | cons entry tagged =>
      have opened : printed (entry :: tagged) = "\x7b\x7b".toList ++ (printed (entry :: tagged)).drop 2 := rfl
      have tags : Template.hasTags ((split layout).1 ++ printed (entry :: tagged)) = true := by
        rw [Template.hasTags, opened, contains_append, Bool.true_or, Bool.true_or]
      have placed := placed_split layout
      have each := finds.shownAs
      rw [behind] at placed each
      rw [Template.renderTags, if_pos tags, Template.renderText_printed placed each]
      rfl

end Filling

end LayoutPiece

section Pass

variable {κ ε : Type} (draw : StateM ε (Nat → Text)) {renderer : Renderer κ Protection ε}
  {text output : Text} {data : Scope}

/-- A renderer behind a pass. -/
def Renderer.behindPass (renderer : Renderer κ Protection ε) : Renderer κ Protection ε :=
  { renderer with parser :=
      { renderer.parser with cumulative := true, pass := renderer.parser.pass + 1, entries := [] } }

/-- A text without blocks and without plugin tags is rendered as a template, and
nothing is put back into what it comes to. -/
theorem outcome_renderNamed_of_uncut (idle : renderer.parser.entries = [])
    (noBlocks : cut noparseBlock text = ⟨[], text⟩) (noTags : cut plugin text = ⟨[], text⟩)
    (rendered : Template.renderTags text data = .ok output) (label : String) :
    outcome (Renderer.renderNamed (.standard draw) label text data) renderer =
      (.ok output, renderer.behindPass) := by
  let ready : Protection := { renderer.parser with cumulative := true }
  have noEntries : ready.entries = [] := idle
  have nothingKept : protectBlocks text ready = (text, ready) := by
    rw [protectBlocks, noBlocks]
    rfl
  have expanded : outcome (expandCut (some outermostBridge) (cut plugin text)) (ready, renderer.outside) =
      (.ok text, (ready, renderer.outside)) := by
    rw [noTags, outcome_expandCut_nil]
  have parsed := outcome_parse_of_expanded nothingKept expanded rfl data
  rw [rendered] at parsed
  rw [outcome, run_renderNamed, run_renderText draw text data parsed]
  simp only [Except.map, Except.mapError, Protection.inject, noEntries]
  rfl

end Pass

namespace View

variable {κ π ε : Type} {host : Host κ π ε} {renderView : View κ → Rendering (Surroundings κ ε) Text}
  {view : View κ} {around : Surroundings κ ε}

theorem outcome_ofPass_of_ok {σ α : Type} {pass : ExceptT ViewError (StateM σ) α} {state later : σ}
    {value : α} (done : outcome pass state = (.ok value, later)) :
    outcome (Rendering.ofPass pass) state = (.ok value, later) := by
  rw [Rendering.outcome_ofPass, done]
  rfl

/-- The text of the last output under a key. -/
def outputOf (outputs : List (String × Text)) (key : String) : Text :=
  (outputs.reverse.lookup key).getD []

theorem withOutputs_concat (bound : Scope) (outputs : List (String × Text)) (key : String) (output : Text) :
    withOutputs bound (outputs ++ [(key, output)]) =
      Table.insert key (.text (String.ofList output)) (withOutputs bound outputs) :=
  List.foldl_append

theorem lookup_withOutputs (bound : Scope) {outputs : List (String × Text)} {key : String}
    (member : key ∈ outputs.map Prod.fst) :
    (withOutputs bound outputs).lookup key = some (.text (String.ofList (outputOf outputs key))) := by
  induction outputs using List.reverseRecOn with
  | nil => cases member
  | append_singleton outputs entry ih =>
      obtain ⟨other, output⟩ := entry
      have reversed : (outputs ++ [(other, output)]).reverse = (other, output) :: outputs.reverse :=
        List.reverse_concat ..
      rw [withOutputs_concat, outputOf, reversed, Table.lookup_cons]
      by_cases same : key = other
      · rw [if_pos same, same, Table.lookup_insert_self]
        rfl
      · have earlier : key ∈ outputs.map Prod.fst := by simpa [same] using member
        rw [if_neg same, Table.lookup_insert_of_ne same, ih earlier, outputOf]

/-- A rendering of a view up to its layout: the data is resolved, a parser is made,
and the partials and the file of the view are rendered. -/
structure BeforeLayout (host : Host κ π ε) (renderView : View κ → Rendering (Surroundings κ ε) Text)
    (view : View κ) (around : Surroundings κ ε) where
  merged : Scope
  rendered : Scope
  text : Text
  body : Text
  resolvedIn : Surroundings κ ε
  created : Renderer κ π ε
  behindPartials : Renderer κ π ε
  behindText : Renderer κ π ε
  behindBody : Renderer κ π ε
  resolves : outcome (view.resolvedData host renderView) around = (.ok merged, resolvedIn)
  creates : (host.parser view.handle.parser).create.run resolvedIn.outside = (created.parser, created.outside)
  keepsRest : created.toSurroundings = { resolvedIn with outside := created.outside }
  rendersPartials : outcome (renderPartials host renderView (host.parser view.handle.parser) view.handle.content
    merged view.partials (partialsIn merged)) created = (.ok rendered, behindPartials)
  loads : outcome (Renderer.load view.handle.content view.path) behindPartials = (.ok text, behindText)
  rendersBody : outcome (Renderer.renderNamed (host.parser view.handle.parser) view.name text
    (Table.insert partialsKey (.object rendered) merged)) behindText = (.ok body, behindBody)

namespace BeforeLayout

variable (before : BeforeLayout host renderView view around)

/-- The rest of the rendering is that of the layout. -/
theorem outcome_renderNesting {layout : Path} {shown : Text} {ended : Renderer κ π ε}
    (found : (view.handle.resolverFor view.theme).path before.behindBody.files (layoutName view.layout) =
      .ok layout)
    (rendersLayout : outcome (Renderer.renderFile (host.parser view.handle.parser) view.handle.content layout
      (Table.insert bodyKey (.text (String.ofList before.body))
        (Table.insert partialsKey (.object before.rendered) before.merged))) before.behindBody =
      (.ok shown, ended)) :
    outcome (renderNesting host renderView view) around = (.ok shown, ended.toSurroundings) := by
  have resolved : outcome (Rendering.ofResult ((view.handle.resolverFor view.theme).path
      before.behindBody.files (layoutName view.layout))) before.behindBody = (.ok layout, before.behindBody) := by
    rw [found]
    rfl
  have rendersPartials := before.rendersPartials
  rw [← boundPartials_eq_partialsIn] at rendersPartials
  have parts : outcome (renderParts host renderView view before.merged) before.created =
      (.ok shown, ended) := by
    rw [renderParts, outcome_bind_of_ok rendersPartials, outcome_bind_of_ok (outcome_ofPass_of_ok before.loads),
      outcome_bind_of_ok (outcome_ofPass_of_ok before.rendersBody), outcome_get_bind,
      outcome_bind_of_ok resolved]
    exact outcome_ofPass_of_ok rendersLayout
  have createdEq : before.created =
      ⟨{ before.resolvedIn with outside := before.created.outside }, before.created.parser⟩ := by
    rw [← before.keepsRest]
  rw [createdEq] at parts
  rw [outcome_renderNesting_of_created before.resolves before.creates, parts]

end BeforeLayout

theorem BeforeLayout.idle_behindBody {draw : StateM ε (Nat → Text)} {host : Host κ Protection ε}
    {renderView : View κ → Rendering (Surroundings κ ε) Text}
    (before : BeforeLayout host renderView view around) (standard : host.parser view.handle.parser = .standard draw) :
    before.behindBody.parser.entries = [] := by
  have rendersBody := before.rendersBody
  rw [standard] at rendersBody
  have entries := entries_renderNamed draw before.text
    (Table.insert partialsKey (.object before.rendered) before.merged) view.name before.behindText
  rw [← outcome, rendersBody] at entries
  exact entries

/-- The layout embeds the rendered view and the rendered partials as they are. -/
theorem exists_outputs_of_layout {draw : StateM ε (Nat → Text)} {host : Host κ Protection ε}
    {levels : Nat} {layout : List LayoutPiece} {path : Path} {behindLoad : Renderer κ Protection ε}
    (standard : host.parser view.handle.parser = .standard draw)
    (before : BeforeLayout host (renderWithin host levels) view around)
    (found : (view.handle.resolverFor view.theme).path before.behindBody.files (layoutName view.layout) = .ok path)
    (loads : outcome (Renderer.load view.handle.content path) before.behindBody =
      (.ok (layout.flatMap LayoutPiece.print), behindLoad))
    (registered : ∀ key ∈ layout.filterMap LayoutPiece.key?, key ∈ view.partials.map Prod.fst) :
    ∃ (outputs : List (String × Text)) (states : Nat → Renderer κ Protection ε),
      outputs.map Prod.fst = view.partials.map Prod.fst ∧
      (∀ (index : Nat) (key : String) (page : Page κ (DataValue κ)),
        view.partials[index]? = some (key, page) → ∃ output, outputs[index]? = some (key, output) ∧
          RendersPartial host (renderWithin host levels) (host.parser view.handle.parser) view.handle.content page
            (bodyScope before.merged (outputs.take index)) (states index) output (states (index + 1))) ∧
      before.rendered = withOutputs (partialsIn before.merged) outputs ∧
      outcome (renderWithin host (levels + 1) view) around =
        (.ok (layout.flatMap (LayoutPiece.fill before.body (outputOf outputs))),
          behindLoad.toSurroundings) := by
  obtain ⟨outputs, states, keys, rendered, -, -, each⟩ :=
    exists_outputs_of_renderPartials before.rendersPartials
  refine ⟨outputs, states, keys, each, rendered, ?_⟩
  have finds : LayoutPiece.Finds (layoutScope before.merged outputs before.body)
      (withOutputs (partialsIn before.merged) outputs) before.body (outputOf outputs)
      (layout.filterMap LayoutPiece.key?) := by
    refine ⟨Table.lookup_insert_self .., ?_, fun key member => ?_⟩
    · rw [layoutScope, Table.lookup_insert_of_ne (by decide), bodyScope, partialsKey, Table.lookup_insert_self]
    · exact lookup_withOutputs _ (keys ▸ registered key member)
  obtain ⟨_, _, _, parserEq, _⟩ := load_of_outcome_load loads
  have idle : behindLoad.parser.entries = [] := by
    rw [parserEq, before.idle_behindBody standard]
  have shown := outcome_renderNamed_of_uncut draw idle (LayoutPiece.cut_noparseBlock_print layout)
    (LayoutPiece.cut_plugin_print layout) (LayoutPiece.renderTags_print finds) path.text
  have rendersLayout := outcome_bind_of_ok loads fun text =>
    Renderer.renderNamed (.standard draw) path.text text (layoutScope before.merged outputs before.body)
  have scopeEq : layoutScope before.merged outputs before.body =
      Table.insert bodyKey (.text (String.ofList before.body))
        (Table.insert partialsKey (.object before.rendered) before.merged) := by
    rw [rendered]
    rfl
  rw [shown, scopeEq, ← standard] at rendersLayout
  have ended : outcome (renderWithin host (levels + 1) view) around = _ :=
    before.outcome_renderNesting found rendersLayout
  exact ended

section Memo

/-- A block around something that looks like a tag. -/
def memoForest : Forest NoparseBlock :=
  .leaf ⟨noBlanks, noBlanks, "\x7b\x7b a:b \x7d\x7d".toList, by decide, noBlanks, noBlanks⟩ .nil

def memoNonce : Text :=
  List.replicate 32 '0'

def memoFiles : FileTree :=
  ((FileTree.empty.write ⟨"t/main/views/memo.html"⟩
      "\x7b\x7bnoparse\x7d\x7d\x7b\x7b a:b \x7d\x7d\x7b\x7b/noparse\x7d\x7d".toUTF8).write
    ⟨"t/main/views/note.html"⟩ "__VIEWCRAFT_NOPARSE_00000000000000000000000000000000_0__".toUTF8).write
      ⟨"t/main/views/layouts/layout.html"⟩
      "<\x7b\x7b partials.note \x7d\x7d|\x7b\x7b body \x7d\x7d>".toUTF8

/-- A view whose text has a tag in it, and a partial whose text is that of the
first placeholder in each pass. -/
def memo : View Unit :=
  { name := "memo"
    theme := "main"
    layout := "layout"
    path := ⟨"t/main/views/memo.html"⟩
    data := []
    handle := pageHandle
    partials := [("note", { notePage with data := [] })] }

def memoRendered : Scope :=
  [("note", .text "__VIEWCRAFT_NOPARSE_00000000000000000000000000000000_0__")]

def memoCreated : Renderer Unit Protection Unit :=
  ⟨.start memoFiles (), .fresh fun _ => memoNonce⟩

def memoPartials : Except (Halt ViewError) Scope × Renderer Unit Protection Unit :=
  outcome (renderPartials plainHost (renderWithin plainHost 0) (plainHost.parser ()) 0 [] memo.partials [])
    memoCreated

def memoText : Except ViewError Text × Renderer Unit Protection Unit :=
  outcome (Renderer.load 0 memo.path) memoPartials.2

def memoBody : Except ViewError Text × Renderer Unit Protection Unit :=
  outcome (Renderer.renderNamed (plainHost.parser ()) memo.name (memoForest.print NoparseBlock.print)
    (Table.insert partialsKey (.object memoRendered) [])) memoText.2

theorem memoPartials_ok : memoPartials.1 = .ok memoRendered := by
  rfl

theorem memoText_ok : memoText.1 = .ok (memoForest.print NoparseBlock.print) := by
  rfl

theorem memoBody_ok : memoBody.1 = .ok "\x7b\x7b a:b \x7d\x7d".toList := by
  have idle : memoText.2.parser.entries = [] := by rfl
  have nonceEq : memoText.2.parser.nonce = memoNonce := by rfl
  have isNonce : IsNonce memoNonce := by decide
  have apart : memoForest.Apart := by decide
  have shallow : ∀ entry ∈ memoForest.outline 0, entry.2 < maxDepth := by decide
  have unforged : ¬ memoNonce <:+: memoForest.content NoparseBlock.content := by decide
  rw [← nonceEq] at isNonce unforged
  have rendered := run_renderText_forest (pure fun _ => memoNonce)
    (Table.insert partialsKey (.object memoRendered) []) memoText.2.parser memoText.2.outside apart isNonce
    idle shallow unforged
  have passed : memoBody = _ := run_renderNamed (pure fun _ => memoNonce) _ _ memo.name memoText.2
  rw [passed, rendered]
  rfl

theorem memoPartials_eq : memoPartials = (.ok memoRendered, memoPartials.2) :=
  Prod.fst_eq_iff.mp memoPartials_ok

theorem memoText_eq : memoText = (.ok (memoForest.print NoparseBlock.print), memoText.2) :=
  Prod.fst_eq_iff.mp memoText_ok

theorem memoBody_eq : memoBody = (.ok "\x7b\x7b a:b \x7d\x7d".toList, memoBody.2) :=
  Prod.fst_eq_iff.mp memoBody_ok

/-- The rendering of the memo up to its layout. -/
def beforeMemoLayout : BeforeLayout plainHost (renderWithin plainHost 0) memo (.start memoFiles ()) where
  merged := []
  rendered := memoRendered
  text := memoForest.print NoparseBlock.print
  body := "\x7b\x7b a:b \x7d\x7d".toList
  resolvedIn := .start memoFiles ()
  created := memoCreated
  behindPartials := memoPartials.2
  behindText := memoText.2
  behindBody := memoBody.2
  resolves := rfl
  creates := rfl
  keepsRest := rfl
  rendersPartials := memoPartials_eq
  loads := memoText_eq
  rendersBody := memoBody_eq

def noteName : Name :=
  ⟨'n', ['o', 't', 'e'], by decide, by decide⟩

def memoLayout : List LayoutPiece :=
  [.words ['<'] (by decide), .part noteName, .words ['|'] (by decide), .body, .words ['>'] (by decide)]

def memoLoad : Except ViewError Text × Renderer Unit Protection Unit :=
  outcome (Renderer.load 0 ⟨"t/main/views/layouts/layout.html"⟩) beforeMemoLayout.behindBody

theorem toSurroundings_behindBody : beforeMemoLayout.behindBody.toSurroundings = memoText.2.toSurroundings := by
  have passed : memoBody = _ := run_renderNamed (pure fun _ => memoNonce) _ _ memo.name memoText.2
  have stateEq : beforeMemoLayout.behindBody = memoBody.2 := by rw [beforeMemoLayout]
  rw [stateEq, passed]

theorem memoLoad_eq : memoLoad = (.ok (memoLayout.flatMap LayoutPiece.print), memoLoad.2) := by
  have loaded : (memoText.2.toSurroundings.load 0 ⟨"t/main/views/layouts/layout.html"⟩).1.map
      String.toList = .ok (memoLayout.flatMap LayoutPiece.print) := by
    rfl
  have result : memoLoad.1 = .ok (memoLayout.flatMap LayoutPiece.print) := by
    rw [memoLoad, outcome_load, toSurroundings_behindBody, loaded]
  exact Prod.fst_eq_iff.mp result

/-- The text of a placeholder and a tag stand in the layout as they are. -/
theorem exists_outputs_of_layout_memo :
    (outcome (renderWithin plainHost 1 memo) (.start memoFiles ())).1 =
      .ok "<__VIEWCRAFT_NOPARSE_00000000000000000000000000000000_0__|\x7b\x7b a:b \x7d\x7d>".toList := by
  have found : (memo.handle.resolverFor memo.theme).path beforeMemoLayout.behindBody.files
      (layoutName memo.layout) = .ok ⟨"t/main/views/layouts/layout.html"⟩ := by
    rw [toSurroundings_behindBody]
    rfl
  have registered : ∀ key ∈ memoLayout.filterMap LayoutPiece.key?, key ∈ memo.partials.map Prod.fst := by
    decide
  obtain ⟨outputs, states, keys, each, rendered, run⟩ :=
    exists_outputs_of_layout rfl beforeMemoLayout found memoLoad_eq registered
  obtain ⟨⟨key, output⟩, rfl, keyEq⟩ := List.map_eq_singleton_iff.mp keys
  have entry : memoRendered = [(key, .text (String.ofList output))] := rendered
  obtain ⟨rfl, textEq⟩ := Prod.mk.inj (List.cons.inj entry).1
  have outputEq : output = "__VIEWCRAFT_NOPARSE_00000000000000000000000000000000_0__".toList := by
    rw [Value.text.inj textEq, String.toList_ofList]
  rw [run, outputEq]
  rfl

end Memo

end View

end ThemedViews
