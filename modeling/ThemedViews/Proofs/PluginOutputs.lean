import ThemedViews.Proofs.AddedEntries
import ThemedViews.Proofs.DetachedHandlers

/-!
# Outputs of plugins are not read

A handler that leaves the parser alone decides nothing but what its own entries
hold.  Which tags it is called for, with which attributes and bodies, what is
rendered as a template, and whether that fails, all of this is settled by the
template before the handler says anything.
-/

namespace ThemedViews

open Text Tags Protection

namespace Parsing

/-- The tags that a parse in cumulative mode calls for, in order. -/
def tagsOf (protection : Protection) (content : Text) : List PluginCall :=
  (cut plugin (protectBlocks content protection).1).found

/-- The text that a parse in cumulative mode renders as a template. -/
def preparedText (protection : Protection) (content : Text) : Text :=
  let pieces := cut plugin (protectBlocks content protection).1
  standIns protection.nonce pieces.rest (protectBlocks content protection).2.entries.length pieces.pieces

/-- The answers, with a record of the tags and of what was answered to them. -/
def recorded {ε : Type} (answer : PluginCall → StateM ε Text) :
    PluginCall → StateM (List (PluginCall × Text) × ε) Text := fun tag (record, account) =>
  let (output, later) := (answer tag).run account
  (output, (record ++ [(tag, output)], later))

section Detached

variable {ε δ : Type} (answer : PluginCall → StateM ε Text)

theorem run_mapM_cons (tag : PluginCall) (tags : List PluginCall) (account : ε) :
    ((tag :: tags).mapM answer).run account =
      (((answer tag).run account).1 :: ((tags.mapM answer).run ((answer tag).run account).2).1,
        ((tags.mapM answer).run ((answer tag).run account).2).2) := by
  rw [List.mapM_cons]
  rfl

/-- A record has the tags in the order of the calls, each with its answer. -/
theorem run_mapM_recorded (tags : List PluginCall) (record : List (PluginCall × Text))
    (account : ε) :
    ∃ entries, entries.map Prod.fst = tags ∧
      (tags.mapM (recorded answer)).run (record, account) =
        (entries.map Prod.snd, (record ++ entries, ((tags.mapM answer).run account).2)) := by
  induction tags generalizing record account with
  | nil => exact ⟨[], rfl, by simp; rfl⟩
  | cons tag tags ih =>
      obtain ⟨entries, tagsEq, ran⟩ := ih (record ++ [(tag, ((answer tag).run account).1)])
        ((answer tag).run account).2
      have first : (recorded answer tag).run (record, account) =
          (((answer tag).run account).1,
            (record ++ [(tag, ((answer tag).run account).1)], ((answer tag).run account).2)) := rfl
      refine ⟨(tag, ((answer tag).run account).1) :: entries, by rw [List.map_cons, tagsEq], ?_⟩
      rw [run_mapM_cons, run_mapM_cons, first, ran]
      simp

/-- Tags are called for in order, and their answers become entries; nothing else
depends on the answers. -/
theorem outcome_expandCut_detached (pieces : List (Text × PluginCall)) (rest : Text)
    (protection : Protection) (cumulative : protection.cumulative = true) (account : ε) :
    outcome (expandCut (some (detached answer)) ⟨pieces, rest⟩) (protection, account) =
      (.ok (standIns protection.nonce rest protection.entries.length pieces),
        (protection.extend (((pieces.map Prod.snd).mapM answer).run account).1,
          (((pieces.map Prod.snd).mapM answer).run account).2)) := by
  induction pieces generalizing protection account with
  | nil =>
      rw [outcome_expandCut_nil, standIns, List.map_nil, List.mapM_nil]
      exact congrArg (fun same => (_, (same, account))) (extend_nil protection).symm
  | cons piece pieces ih =>
      obtain ⟨before, tag⟩ := piece
      have called : outcome (detached answer tag) (protection, account) =
          (.ok ((answer tag).run account).1, (protection, ((answer tag).run account).2)) := rfl
      have behind := ih (protection.extend [((answer tag).run account).1]) cumulative
        ((answer tag).run account).2
      have asPushed : (⟨(before, tag) :: pieces, rest⟩ : Cut PluginCall) =
          (Cut.pushFound tag ⟨pieces, rest⟩).pushText before := by
        simp [Cut.pushFound, Cut.pushText]
      have placed := outcome_expandCut_pushText
        (placeholderOf protection.nonce protection.entries.length) behind
      rw [← outcome_expandCut_pushFound called cumulative] at placed
      rw [asPushed, outcome_expandCut_pushText before placed, List.map_cons, run_mapM_cons]
      simp [standIns]

/-- A parse calls for the tags that are found between the blocks of the
template, and then renders a text that the template alone determines. -/
theorem outcome_parse_detached (content : Text) (data : Scope) {protection : Protection}
    (cumulative : protection.cumulative = true) (account : ε) :
    outcome (parse (some (detached answer)) content data) (protection, account) =
      (Template.renderTags (preparedText protection content) data,
        (protection.extend ((cut noparseBlock content).found ++
            (((tagsOf protection content).mapM answer).run account).1),
          (((tagsOf protection content).mapM answer).run account).2)) := by
  have blocksKept : protectBlocks content protection =
      ((protectBlocks content protection).1, protection.extend (cut noparseBlock content).found) :=
    Prod.ext rfl (by rw [protectBlocks_eq])
  have expanded := outcome_expandCut_detached answer
    (cut plugin (protectBlocks content protection).1).pieces
    (cut plugin (protectBlocks content protection).1).rest
    (protection.extend (cut noparseBlock content).found) cumulative account
  rw [outcome_parse_of_expanded blocksKept expanded cumulative, nonce_extend, extend_extend,
    preparedText, show (protectBlocks content protection).2 = _ from congrArg Prod.snd blocksKept]
  rfl

/-- A handler that keeps a record has all tags in it, and the answers are
entries. -/
theorem exists_record_of_parse (content : Text) (data : Scope) {protection : Protection}
    (cumulative : protection.cumulative = true) (account : ε) :
    ∃ record, record.map Prod.fst = tagsOf protection content ∧
      outcome (parse (some (detached (recorded answer))) content data) (protection, ([], account)) =
        (Template.renderTags (preparedText protection content) data,
          (protection.extend ((cut noparseBlock content).found ++ record.map Prod.snd),
            (record, (((tagsOf protection content).mapM answer).run account).2))) := by
  obtain ⟨record, tagsEq, ran⟩ := run_mapM_recorded answer (tagsOf protection content) [] account
  refine ⟨record, tagsEq, ?_⟩
  rw [outcome_parse_detached (recorded answer) content data cumulative, ran, List.nil_append]

end Detached

/-- Two handlers that leave the parser alone are called for the same tags with
the same attributes and bodies, the parses end with the same text or the same
error, and the entries differ only in what the handlers gave. -/
theorem parse_detached_unread {ε δ : Type} (content : Text) (data : Scope) (protection : Protection)
    (cumulative : protection.cumulative = true) (first : PluginCall → StateM ε Text)
    (second : PluginCall → StateM δ Text) (account : ε) (other : δ) :
    let run := outcome (parse (some (detached (recorded first))) content data)
      (protection, ([], account))
    let otherRun := outcome (parse (some (detached (recorded second))) content data)
      (protection, ([], other))
    let record := run.2.2.1
    let otherRecord := otherRun.2.2.1
    run.1 = otherRun.1 ∧ record.map Prod.fst = otherRecord.map Prod.fst ∧
      ∃ blocks, run.2.1 = protection.extend (blocks ++ record.map Prod.snd) ∧
        otherRun.2.1 = protection.extend (blocks ++ otherRecord.map Prod.snd) := by
  obtain ⟨record, tagsEq, ran⟩ := exists_record_of_parse first content data cumulative account
  obtain ⟨otherRecord, otherTagsEq, otherRan⟩ :=
    exists_record_of_parse second content data cumulative other
  rw [ran, otherRan]
  exact ⟨rfl, tagsEq.trans otherTagsEq.symm, (cut noparseBlock content).found, rfl, rfl⟩

/-- One handler says nothing, and the other counts and answers with an opening
noparse tag. -/
theorem parse_detached_unread_noparse :
    let silent (_ : PluginCall) : StateM Unit Text := return []
    let counting (_ : PluginCall) : StateM Nat Text := do
      modify (· + 1)
      return "\x7b\x7b noparse \x7d\x7d".toList
    let content := "\x7b\x7b a:b \x7d\x7d\x7b\x7b x \x7d\x7d\x7b\x7b c:d \x7d\x7d".toList
    let protection : Protection := ⟨true, fun _ => List.replicate 32 'a', 0, [['y']]⟩
    let run := outcome (parse (some (detached (recorded silent))) content []) (protection, ([], ()))
    let otherRun := outcome (parse (some (detached (recorded counting))) content [])
      (protection, ([], 0))
    protection.cumulative = true ∧ run.1 = otherRun.1 ∧
      run.2.2.1.map Prod.fst = otherRun.2.2.1.map Prod.fst ∧
      ∃ blocks, run.2.1 = protection.extend (blocks ++ run.2.2.1.map Prod.snd) ∧
        otherRun.2.1 = protection.extend (blocks ++ otherRun.2.2.1.map Prod.snd) := by
  intro silent counting content protection
  exact ⟨rfl, parse_detached_unread content [] protection rfl silent counting () 0⟩

end Parsing

end ThemedViews
