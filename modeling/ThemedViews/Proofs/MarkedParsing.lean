import ThemedViews.Proofs.AddedEntries
import ThemedViews.Proofs.MarkedTags

/-!
# Parsing texts that have marks

Parsing a text with the handler that a rendering pass begins with comes to the
same under every nonce that does not occur in it, as long as the template
language gives the same for the texts it is handed on the way.  These texts are
those of one parse; what is handed under one nonce decides it for all.
-/

namespace ThemedViews

open Text Tags

namespace Protection

section Marks

def MarksBelow (bound : Nat) (symbols : List Symbol) : Prop :=
  ∀ index, .mark index ∈ symbols → index < bound

/-- Every entry has only marks of older ones. -/
def Layered (entries : List (List Symbol)) : Prop :=
  ∀ (index : Nat) (entry : List Symbol), entries[index]? = some entry → MarksBelow index entry

variable {bound : Nat} {symbols others : List Symbol}

theorem MarksBelow.mono (below : MarksBelow bound symbols) {higher : Nat} (atMost : bound ≤ higher)
    (isSubset : others ⊆ symbols) : MarksBelow higher others :=
  fun index member => Nat.lt_of_lt_of_le (below index (isSubset member)) atMost

theorem MarksBelow.join (below : MarksBelow bound symbols) (othersBelow : MarksBelow bound others)
    {index : Nat} (indexBelow : index < bound) :
    MarksBelow bound (symbols ++ .mark index :: others) := by
  intro other member
  rcases List.mem_append.mp member with inSymbols | rest
  · exact below other inSymbols
  · rcases List.mem_cons.mp rest with same | inOthers
    · rw [Symbol.mark.inj same]
      exact indexBelow
    · exact othersBelow other inOthers

theorem Layered.append {older added : List (List Symbol)} (layered : Layered older)
    (below : ∀ entry ∈ added, MarksBelow older.length entry) : Layered (older ++ added) := by
  intro index entry found
  by_cases isOlder : index < older.length
  · rw [List.getElem?_append_left isOlder] at found
    exact layered index entry found
  · rw [List.getElem?_append_right (by omega)] at found
    exact (below entry (List.mem_of_getElem? found)).mono (by omega) (List.Subset.refl _)

end Marks

/-- The entries as they are written under the nonce of the pass. -/
structure Holds (entries : List (List Symbol)) (protection : Protection) : Prop where
  cumulative : protection.cumulative = true
  entries_eq : protection.entries = entries.map (write protection.nonce)

namespace Holds

variable {entries : List (List Symbol)} {protection : Protection} (holds : Holds entries protection)

include holds

theorem length_eq : protection.entries.length = entries.length := by
  rw [holds.entries_eq, List.length_map]

theorem extend (added : List (List Symbol)) :
    Holds (entries ++ added) (protection.extend (added.map (write protection.nonce))) := by
  refine ⟨holds.cumulative, ?_⟩
  rw [nonce_extend, List.map_append, ← holds.entries_eq]
  rfl

end Holds

theorem viewed_id {α : Type} (cut : Cut α) : viewed id cut = cut := by
  simp [viewed]

namespace MarkedCut

variable {A β : Type}

/-- The text between the stretches, with marks in place of the stretches. -/
def joinMarks (rest : List Symbol) : (next : Nat) → List (List Symbol × A × List Symbol) → List Symbol
  | _, [] => rest
  | next, (before, _) :: pieces => before ++ .mark next :: joinMarks rest (next + 1) pieces

theorem write_joinMarks (image : Text → A → β) (nonce : Text) (rest : List Symbol) (next : Nat)
    (pieces : List (List Symbol × A × List Symbol)) :
    Protection.write nonce (joinMarks rest next pieces) =
      standIns nonce (Protection.write nonce rest) next
        (MarkedCut.write image nonce ⟨pieces, rest⟩).pieces := by
  induction pieces generalizing next with
  | nil => rfl
  | cons piece pieces ih =>
      obtain ⟨before, item, taken⟩ := piece
      rw [joinMarks, write_append, write_mark_cons, ih]
      rfl

section Parts

variable {cut : MarkedCut A} {symbols : List Symbol} (whole : cut.whole = symbols)

include whole

theorem isInfix_of_mem_pieces : ∀ piece ∈ cut.pieces, piece.1 <:+: symbols := by
  intro piece member
  obtain ⟨before, behind, piecesEq⟩ := List.append_of_mem member
  refine ⟨(⟨before, []⟩ : MarkedCut A).whole,
    piece.2.2 ++ (⟨behind, cut.rest⟩ : MarkedCut A).whole, ?_⟩
  rw [← whole]
  simp [MarkedCut.whole, piecesEq]

theorem isInfix_rest : cut.rest <:+: symbols :=
  whole ▸ (List.suffix_append _ cut.rest).isInfix

end Parts

section Join

variable {rest symbols : List Symbol} {pieces : List (List Symbol × A × List Symbol)}

theorem Suits.joinMarks {nonce : Text} (restSuits : Suits nonce rest)
    (suit : ∀ piece ∈ pieces, Suits nonce piece.1) (next : Nat) :
    Suits nonce (joinMarks rest next pieces) := by
  induction pieces generalizing next with
  | nil => exact restSuits
  | cons piece pieces ih =>
      rw [List.forall_mem_cons] at suit
      exact suit.1.join (ih suit.2 (next + 1)) next

theorem marksBelow_joinMarks {bound next : Nat} (restBelow : MarksBelow bound rest)
    (below : ∀ piece ∈ pieces, MarksBelow bound piece.1) (atMost : next + pieces.length ≤ bound) :
    MarksBelow bound (MarkedCut.joinMarks rest next pieces) := by
  induction pieces generalizing next with
  | nil => exact restBelow
  | cons piece pieces ih =>
      rw [List.forall_mem_cons] at below
      rw [List.length_cons] at atMost
      exact below.1.join (ih below.2 (by omega)) (by omega)

end Join

end MarkedCut

end Protection

open Protection

/-- Why a parse comes to nothing. -/
inductive Stop where
  | because (error : TemplateError)
  | tooDeep (name : List Symbol)

def Stop.error (nonce : Text) : Stop → TemplateError
  | because error => error
  | tooDeep name => .depthExceeded (String.ofList (write nonce name)) Parsing.maxDepth

/-- What a parse comes to whatever the nonce is: its result and the entries that
it adds. -/
structure Yield where
  found : Except Stop (List Symbol)
  added : List (List Symbol)

namespace Yield

def result (nonce : Text) (yield : Yield) : Except TemplateError Text :=
  match yield.found with
  | .ok output => .ok (write nonce output)
  | .error stop => .error (stop.error nonce)

structure Fits (entries : List (List Symbol)) (yield : Yield) : Prop where
  layered : Layered (entries ++ yield.added)
  below : ∀ output, yield.found = .ok output → MarksBelow (entries ++ yield.added).length output

/-- What a text comes to behind a tag, where `kept` is what the tag has added. -/
def behind (before : List Symbol) (index : Nat) (kept : List (List Symbol)) (yield : Yield) :
    Yield :=
  ⟨yield.found.map fun output => before ++ .mark index :: output, kept ++ yield.added⟩

end Yield

namespace Parsing

/-- What a computation comes to under the nonces that are admitted. -/
def Yields (admitted : Text → Prop) (entries : List (List Symbol))
    (action : (ε : Type) → Text → Parsing ε Text) (yield : Yield) : Prop :=
  ∀ (ε : Type) (account : ε) (protection : Protection), admitted protection.nonce →
    Holds entries protection → outcome (action ε protection.nonce) (protection, account) =
      (yield.result protection.nonce,
        (protection.extend (yield.added.map (write protection.nonce)), account))

section Spares

variable (admitted : Text → Prop)

/-- The template language gives the same for a text with marks under the nonces
that are admitted; the marks that it gives are some of those of the text. -/
def Spares (data : Scope) (symbols : List Symbol) : Prop :=
  ∃ given : Except TemplateError (List Symbol),
    (∀ output, given = .ok output → ∀ index, .mark index ∈ output → .mark index ∈ symbols) ∧
    ∀ nonce, admitted nonce → Suits nonce symbols →
      Template.renderTags (write nonce symbols) data = given.map (write nonce)

/-- The template language spares the placeholders of a text. -/
def SparesUnder (nonce : Text) (handed : Text × Scope) : Prop :=
  ∃ symbols, Suits nonce symbols ∧ write nonce symbols = handed.1 ∧
    Spares admitted handed.2 symbols

variable {admitted}

theorem SparesUnder.spares {nonce : Text} {symbols : List Symbol} {data : Scope}
    (spared : SparesUnder admitted nonce (write nonce symbols, data)) (suits : Suits nonce symbols) :
    Spares admitted data symbols := by
  obtain ⟨others, othersSuit, same, spares⟩ := spared
  rwa [← othersSuit.eq_of_write_eq suits same]

end Spares

section Handed

variable (handler : Handler Unit) (inside : PluginCall → Protection → List (Text × Scope))

/-- The texts that the template language is handed while tags are replaced, with
their data. -/
def handedByPieces : List (Text × PluginCall) → Protection → List (Text × Scope)
  | [], _ => []
  | (_, tag) :: pieces, protection =>
      inside tag protection ++
        match outcome (handler tag) (protection, ()) with
        | (.ok output, (after, _)) => handedByPieces pieces (after.extend [output])
        | (.error _, _) => []

/-- The texts that the template language is handed during a parse. -/
def handedBy (content : Text) (data : Scope) (protection : Protection) : List (Text × Scope) :=
  let (marked, started) := protectBlocks content protection
  handedByPieces handler inside (cut plugin marked).pieces started ++
    match outcome (expand (some handler) marked) (started, ()) with
    | (.ok expanded, _) => [(expanded, data)]
    | (.error _, _) => []

end Handed

/-- The texts that the template language is handed by the handler of a level. -/
def handedInside : (levels : Nat) → PluginCall → Protection → List (Text × Scope)
  | 0, _, _ => []
  | levels + 1, tag, protection =>
      handedBy (bridge levels) (handedInside levels) tag.content [] protection

section Attributes

variable {ε : Type} (levels : Nat)

theorem bridge_bareCall (tag : PluginCall) :
    (bridge levels (bareCall tag) : Parsing ε Text) = bridge levels tag := by
  cases levels <;> rfl

theorem handedInside_bareCall (tag : PluginCall) (protection : Protection) :
    handedInside levels (bareCall tag) protection = handedInside levels tag protection := by
  cases levels <;> rfl

theorem expandPieces_bareCall (pieces : List (Text × PluginCall)) :
    (expandPieces (some (bridge levels)) (pieces.map (Prod.map id bareCall)) :
      Parsing ε Text) = expandPieces (some (bridge levels)) pieces := by
  induction pieces with
  | nil => rfl
  | cons piece pieces ih =>
      obtain ⟨before, tag⟩ := piece
      simp only [List.map_cons, Prod.map, id_eq, expandPieces, call, bridge_bareCall, ih]

/-- The handler of a level does not look at attributes. -/
theorem expandCut_viewed (pieces : Cut PluginCall) :
    (expandCut (some (bridge levels)) (viewed bareCall pieces) : Parsing ε Text) =
      expandCut (some (bridge levels)) pieces := by
  simp only [expandCut, viewed, expandPieces_bareCall]

theorem handedByPieces_bareCall (pieces : List (Text × PluginCall)) (protection : Protection) :
    handedByPieces (bridge levels) (handedInside levels) (pieces.map (Prod.map id bareCall)) protection =
      handedByPieces (bridge levels) (handedInside levels) pieces protection := by
  induction pieces generalizing protection with
  | nil => rfl
  | cons piece pieces ih =>
      obtain ⟨before, tag⟩ := piece
      simp only [List.map_cons, Prod.map, id_eq, handedByPieces, bridge_bareCall,
        handedInside_bareCall, ih]

end Attributes

section Admitted

variable {admitted : Text → Prop}

variable (admitted) in
/-- An admitted nonce that does not occur between the marks. -/
structure Meets (symbols : List Symbol) (nonce : Text) : Prop where
  admitted : admitted nonce
  suits : Suits nonce symbols

theorem Meets.mono {part symbols : List Symbol} {nonce : Text} (meets : Meets admitted symbols nonce)
    (isInfix : part <:+: symbols) : Meets admitted part nonce :=
  ⟨meets.admitted, meets.suits.mono isInfix⟩

variable (admitted) in
/-- At a level of the handler a tag comes to the same under every nonce, if the
texts that the template language is handed under one of them are spared. -/
def Steady (levels : Nat) : Prop :=
  ∀ (entries : List (List Symbol)) (name body : List Symbol) (reference : Protection),
    Layered entries → MarksBelow entries.length body → Meets admitted body reference.nonce →
    Holds entries reference →
    (∀ handed ∈ handedInside levels (writeCall reference.nonce (name, body)) reference,
      SparesUnder admitted reference.nonce handed) →
    ∃ yield : Yield, yield.Fits entries ∧ Yields (Meets admitted body) entries
      (fun _ nonce => bridge levels (writeCall nonce (name, body))) yield

section Expand

variable {levels : Nat} {symbols rest : List Symbol}
  {pieces : List (List Symbol × (List Symbol × List Symbol) × List Symbol)}

/-- The tags of a text with marks, one after another, under a nonce. -/
def expandMarked (levels : Nat) (rest : List Symbol)
    (pieces : List (List Symbol × (List Symbol × List Symbol) × List Symbol))
    (ε : Type) (nonce : Text) : Parsing ε Text :=
  expandCut (some (bridge levels)) (MarkedCut.write writeCall nonce ⟨pieces, rest⟩)

theorem write_pieces_cons (nonce : Text) (before taken : List Symbol)
    (parts : List Symbol × List Symbol) :
    MarkedCut.write writeCall nonce ⟨(before, parts, taken) :: pieces, rest⟩ =
      ((MarkedCut.write writeCall nonce ⟨pieces, rest⟩).pushFound (writeCall nonce parts)).pushText
        (write nonce before) := by
  simp [MarkedCut.write, Cut.pushText, Cut.pushFound]

theorem exists_of_map_eq_ok {ε α β : Type} {found : Except ε α} {image : α → β} {value : β}
    (isFound : found.map image = .ok value) : ∃ given, found = .ok given ∧ image given = value := by
  cases found with
  | error error => cases isFound
  | ok given => exact ⟨given, rfl, Except.ok.inj isFound⟩

section Yields

variable {allowed : Text → Prop} {entries added : List (List Symbol)}
  {before taken : List Symbol} {parts : List Symbol × List Symbol}

theorem Yields.expandMarked_of_error {stop : Stop}
    (called : Yields allowed entries (fun _ nonce => bridge levels (writeCall nonce parts))
      ⟨.error stop, added⟩) :
    Yields allowed entries (expandMarked levels rest ((before, parts, taken) :: pieces))
      ⟨.error stop, added⟩ := by
  intro ε account protection isAllowed holds
  rw [expandMarked, write_pieces_cons]
  exact outcome_expandCut_pushText_of_error _
    (outcome_expandCut_pushFound_of_call_error (called ε account protection isAllowed holds))

theorem Yields.expandMarked_cons {output : List Symbol} {yield : Yield}
    (called : Yields allowed entries (fun _ nonce => bridge levels (writeCall nonce parts))
      ⟨.ok output, added⟩)
    (later : Yields allowed (entries ++ (added ++ [output])) (expandMarked levels rest pieces)
      yield) :
    Yields allowed entries (expandMarked levels rest ((before, parts, taken) :: pieces))
      (yield.behind before (entries ++ added).length (added ++ [output])) := by
  intro ε account protection isAllowed holds
  have calledHere : outcome (bridge levels (writeCall protection.nonce parts)) (protection, account) =
      (.ok (write protection.nonce output),
        (protection.extend (added.map (write protection.nonce)), account)) :=
    called ε account protection isAllowed holds
  have kept : (protection.extend (added.map (write protection.nonce))).extend
      [write protection.nonce output] =
        protection.extend ((added ++ [output]).map (write protection.nonce)) := by
    rw [extend_extend, List.map_append]
    rfl
  have behind := later ε account (protection.extend ((added ++ [output]).map (write protection.nonce)))
    isAllowed (holds.extend _)
  rw [expandMarked, nonce_extend, extend_extend, ← List.map_append] at behind
  rw [expandMarked, write_pieces_cons]
  have stood (others : Cut PluginCall) := @outcome_expandCut_pushFound ε (bridge levels) others _ _ _
    account _ calledHere holds.cumulative
  rw [nonce_extend, (holds.extend added).length_eq, kept] at stood
  obtain ⟨found | found, more⟩ := yield
  · refine outcome_expandCut_pushText_of_error _ ((stood _).trans ?_)
    exact outcome_expandCut_pushText_of_error _ behind
  · have whole := outcome_expandCut_pushText (write protection.nonce before)
      ((stood _).trans (outcome_expandCut_pushText _ behind))
    rw [whole]
    simp [Yield.result, Yield.behind, Except.map]

end Yields

theorem exists_yield_expandMarked (steady : Steady admitted levels)
    (inside : ∀ piece ∈ pieces, piece.1 <:+: symbols ∧ piece.2.1.2 <:+: symbols)
    (restInside : rest <:+: symbols) {entries : List (List Symbol)} (layered : Layered entries)
    (below : MarksBelow entries.length symbols) {reference : Protection}
    (meets : Meets admitted symbols reference.nonce) (holds : Holds entries reference)
    (spared : ∀ handed ∈ handedByPieces (bridge levels) (handedInside levels)
      (MarkedCut.write writeCall reference.nonce ⟨pieces, rest⟩).pieces reference,
      SparesUnder admitted reference.nonce handed) :
    ∃ yield : Yield, yield.Fits entries ∧
      (∀ output, yield.found = .ok output → ∀ nonce, Suits nonce symbols → Suits nonce output) ∧
      Yields (Meets admitted symbols) entries (expandMarked levels rest pieces) yield := by
  induction pieces generalizing entries reference with
  | nil =>
      refine ⟨⟨.ok rest, []⟩, ⟨by simpa using layered, ?_⟩, ?_, ?_⟩
      · rintro output ⟨⟩
        exact below.mono (by simp) restInside.subset
      · rintro output ⟨⟩ nonce suits
        exact suits.mono restInside
      · intro ε account protection _ _
        rw [List.map_nil, extend_nil]
        rfl
  | cons piece pieces ih =>
      obtain ⟨before, ⟨name, body⟩, taken⟩ := piece
      rw [List.forall_mem_cons] at inside
      obtain ⟨⟨beforeInside, bodyInside⟩, laterInside⟩ := inside
      have ⟨sparedInside, sparedLater⟩ := List.forall_mem_append.mp spared
      obtain ⟨⟨found, added⟩, fits, called⟩ := steady entries name body reference layered
        (below.mono (Nat.le_refl _) bodyInside.subset) (meets.mono bodyInside) holds sparedInside
      have calledWithin : Yields (Meets admitted symbols) entries
          (fun _ nonce => bridge levels (writeCall nonce (name, body))) ⟨found, added⟩ :=
        fun ε account protection meets holds =>
          called ε account protection (meets.mono bodyInside) holds
      cases found with
      | error stop =>
          refine ⟨⟨.error stop, added⟩, ⟨fits.layered, by simp⟩, by simp, ?_⟩
          exact calledWithin.expandMarked_of_error
      | ok output =>
          have calledHere := calledWithin Unit () reference meets holds
          have sameLength : entries.length ≤ (entries ++ (added ++ [output])).length := by simp
          have layeredHere : Layered (entries ++ (added ++ [output])) := by
            rw [← List.append_assoc]
            exact fits.layered.append (by simpa using fits.below output rfl)
          have kept : (reference.extend (added.map (write reference.nonce))).extend
              [write reference.nonce output] =
                reference.extend ((added ++ [output]).map (write reference.nonce)) := by
            rw [extend_extend, List.map_append]
            rfl
          have sparedHere : ∀ handed ∈ handedByPieces (bridge levels) (handedInside levels)
              (MarkedCut.write writeCall reference.nonce ⟨pieces, rest⟩).pieces
              (reference.extend ((added ++ [output]).map (write reference.nonce))),
              SparesUnder admitted reference.nonce handed := by
            rw [calledHere] at sparedLater
            rw [← kept]
            exact sparedLater
          obtain ⟨yield, laterFits, laterSuits, later⟩ := ih laterInside layeredHere
            (below.mono sameLength (List.Subset.refl _)) (by exact meets)
            (holds.extend (added ++ [output])) sparedHere
          have regrouped : entries ++ ((added ++ [output]) ++ yield.added) =
              (entries ++ (added ++ [output])) ++ yield.added := by
            simp only [List.append_assoc]
          refine ⟨_, ⟨?_, ?_⟩, ?_, calledWithin.expandMarked_cons later⟩
          · rw [Yield.behind, regrouped]
            exact laterFits.layered
          · intro whole found
            obtain ⟨expanded, foundEq, rfl⟩ := exists_of_map_eq_ok found
            rw [Yield.behind, regrouped]
            exact (below.mono (by simp) beforeInside.subset).join (laterFits.below expanded foundEq)
              (by simp)
          · intro whole found nonce suits
            obtain ⟨expanded, foundEq, rfl⟩ := exists_of_map_eq_ok found
            exact (suits.mono beforeInside).join (laterSuits expanded foundEq nonce suits) _

end Expand

section Parse

variable {entries : List (List Symbol)} (layered : Layered entries)

include layered

theorem exists_protectBlocks_write {content : List Symbol}
    (below : MarksBelow entries.length content) :
    ∃ (marked : List Symbol) (contents : List (List Symbol)), Layered (entries ++ contents) ∧
      MarksBelow (entries ++ contents).length marked ∧
      (∀ nonce, Suits nonce content → Suits nonce marked) ∧
      ∀ protection, Suits protection.nonce content → Holds entries protection →
        protectBlocks (write protection.nonce content) protection =
          (write protection.nonce marked,
            protection.extend (contents.map (write protection.nonce))) := by
  obtain ⟨blocks, wholeEq, inside, cutEq⟩ := dividesAlike_noparseBlock content
  have restInside := MarkedCut.isInfix_rest wholeEq
  have beforeInside := MarkedCut.isInfix_of_mem_pieces wholeEq
  have atMost : entries.length ≤ (entries ++ blocks.found).length := by simp
  refine ⟨MarkedCut.joinMarks blocks.rest entries.length blocks.pieces, blocks.found, ?_, ?_, ?_, ?_⟩
  · exact layered.append fun item member =>
      below.mono (Nat.le_refl _) (inside item member).subset
  · refine MarkedCut.marksBelow_joinMarks (below.mono atMost restInside.subset) ?_ ?_
    · exact fun piece member => below.mono atMost (beforeInside piece member).subset
    · simp [MarkedCut.found]
  · exact fun nonce suits => MarkedCut.Suits.joinMarks (suits.mono restInside)
      (fun piece member => suits.mono (beforeInside piece member)) _
  · intro protection suits holds
    have cutHere := (viewed_id _).symm.trans (cutEq protection.nonce suits)
    have foundEq : (blocks.write write protection.nonce).found =
        blocks.found.map (write protection.nonce) := by
      simp [MarkedCut.write, MarkedCut.found, Cut.found]
    rw [protectBlocks_eq, cutHere, foundEq, holds.length_eq, MarkedCut.write_joinMarks write]
    rfl

section Steady

variable {levels : Nat} (steady : Steady admitted levels) {reference : Protection} (holds : Holds entries reference)

include steady holds

theorem exists_yield_expand {marked : List Symbol} (below : MarksBelow entries.length marked)
    (meets : Meets admitted marked reference.nonce)
    (spared : ∀ handed ∈ handedByPieces (bridge levels) (handedInside levels)
      (cut plugin (write reference.nonce marked)).pieces reference,
      SparesUnder admitted reference.nonce handed) :
    ∃ yield : Yield, yield.Fits entries ∧
      (∀ output, yield.found = .ok output → ∀ nonce, Suits nonce marked → Suits nonce output) ∧
      Yields (Meets admitted marked) entries
        (fun _ nonce => expand (some (bridge levels)) (write nonce marked)) yield := by
  obtain ⟨tags, wholeEq, inside, cutEq⟩ := dividesAlike_plugin marked
  have viewedHere : handedByPieces (bridge levels) (handedInside levels)
      (tags.write writeCall reference.nonce).pieces reference =
        handedByPieces (bridge levels) (handedInside levels)
          (cut plugin (write reference.nonce marked)).pieces reference := by
    rw [← cutEq reference.nonce meets.suits]
    exact handedByPieces_bareCall levels _ reference
  rw [← viewedHere] at spared
  have partsInside : ∀ piece ∈ tags.pieces, piece.1 <:+: marked ∧ piece.2.1.2 <:+: marked :=
    fun piece member => ⟨MarkedCut.isInfix_of_mem_pieces wholeEq piece member,
      (inside piece.2.1 (List.mem_map_of_mem member)).2⟩
  obtain ⟨yield, fits, outputSuits, yields⟩ := exists_yield_expandMarked steady partsInside
    (MarkedCut.isInfix_rest wholeEq) layered below meets holds spared
  refine ⟨yield, fits, outputSuits, fun ε account protection meets holds => ?_⟩
  have expanded := yields ε account protection meets holds
  rw [expandMarked, ← cutEq protection.nonce meets.suits, expandCut_viewed, ← expand_eq_expandCut]
    at expanded
  exact expanded

theorem exists_yield_parse {content : List Symbol} (below : MarksBelow entries.length content)
    (meets : Meets admitted content reference.nonce) {data : Scope}
    (spared : ∀ handed ∈ handedBy (bridge levels) (handedInside levels)
      (write reference.nonce content) data reference, SparesUnder admitted reference.nonce handed) :
    ∃ yield : Yield, yield.Fits entries ∧
      Yields (Meets admitted content) entries
        (fun _ nonce => parse (some (bridge levels)) (write nonce content) data) yield := by
  obtain ⟨marked, contents, contentsLayered, markedBelow, markedSuits, protectEq⟩ :=
    exists_protectBlocks_write layered below
  have started := holds.extend contents
  have markedMeets {nonce : Text} (meets : Meets admitted content nonce) :
      Meets admitted marked nonce := ⟨meets.admitted, markedSuits nonce meets.suits⟩
  rw [handedBy, protectEq reference meets.suits holds] at spared
  have ⟨sparedInside, sparedWhole⟩ := List.forall_mem_append.mp spared
  obtain ⟨⟨found, added⟩, fits, outputSuits, expands⟩ := exists_yield_expand contentsLayered steady
    started markedBelow (markedMeets meets) sparedInside
  have regrouped : entries ++ (contents ++ added) = entries ++ contents ++ added := by
    rw [List.append_assoc]
  cases found with
  | error stop =>
      refine ⟨⟨.error stop, contents ++ added⟩, ⟨regrouped ▸ fits.layered, by simp⟩, ?_⟩
      intro ε account protection meets holds
      have failed := expands ε account (protection.extend (contents.map (write protection.nonce)))
        (markedMeets meets) (holds.extend contents)
      rw [nonce_extend, extend_extend, ← List.map_append] at failed
      exact outcome_parse_of_error (protectEq protection meets.suits holds) failed data
  | ok expanded =>
      have expandedHere : outcome (expand (some (bridge levels)) (write reference.nonce marked))
          (reference.extend (contents.map (write reference.nonce)), ()) =
            (.ok (write reference.nonce expanded), (_, ())) :=
        expands Unit () (reference.extend _) (markedMeets meets) started
      rw [expandedHere] at sparedWhole
      have expandedSuits := outputSuits expanded rfl
      obtain ⟨given, kept, rendered⟩ := (List.forall_mem_singleton.mp sparedWhole).spares
        (expandedSuits _ (markedMeets meets).suits)
      refine ⟨⟨given.mapError .because, contents ++ added⟩, ⟨regrouped ▸ fits.layered, ?_⟩, ?_⟩
      · intro output found index member
        cases given with
        | error error => cases found
        | ok symbols =>
            obtain rfl := Except.ok.inj found
            rw [regrouped]
            exact fits.below expanded rfl index (kept symbols rfl index member)
      · intro ε account protection meets holds
        have done := expands ε account (protection.extend (contents.map (write protection.nonce)))
          (markedMeets meets) (holds.extend contents)
        rw [nonce_extend, extend_extend, ← List.map_append] at done
        have parsed := outcome_parse_of_expanded (protectEq protection meets.suits holds) done
          holds.cumulative data
        rw [rendered protection.nonce meets.admitted (expandedSuits _ (markedMeets meets).suits)] at parsed
        refine parsed.trans (congrArg (·, _) ?_)
        cases given <;> rfl

end Steady

end Parse

theorem steady (levels : Nat) : Steady admitted levels := by
  induction levels with
  | zero =>
      intro entries name body reference layered below meets holds spared
      refine ⟨⟨.error (.tooDeep name), []⟩, ⟨by simpa using layered, by simp⟩, ?_⟩
      intro ε account protection _ _
      rw [List.map_nil, extend_nil]
      rfl
  | succ levels ih =>
      intro entries name body reference layered below meets holds spared
      exact exists_yield_parse layered ih holds below meets spared

end Admitted

end Parsing

end ThemedViews
