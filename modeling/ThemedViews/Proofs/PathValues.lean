import ThemedViews.Proofs.Outcomes
import ThemedViews.Proofs.TemplateReading
import ThemedViews.Template.Evaluate

/-!
# Values of printed paths

A tag that prints a path comes to the printed value of the path, and leaves the
frames as they are.  Where no frame binds anything the value is the one in the
data: under the name itself, or under the fields behind its first dot.
-/

namespace ThemedViews.Template

open Text

theorem ne_of_isNamePart {character sign : Char} (isPart : isNamePart character = true)
    (noPart : isNamePart sign = false) : character ≠ sign := by
  rintro rfl
  rw [isPart] at noPart
  cases noPart

theorem Name.isNamePart_of_mem (name : Name) : ∀ character ∈ name.text, isNamePart character = true :=
  List.forall_mem_cons.mpr ⟨by rw [isNamePart, name.starts, Bool.true_or], name.goesOn⟩

theorem Name.not_mem_text (name : Name) {sign : Char} (noPart : isNamePart sign = false) : sign ∉ name.text :=
  fun member => ne_of_isNamePart (name.isNamePart_of_mem sign member) noPart rfl

namespace Pointer

/-- No character of a name ends a step of a pointer. -/
theorem findEnd_of_isNamePart {word : Text} (named : ∀ character ∈ word, isNamePart character = true)
    (position : Nat) : findEnd .initial 0 position word = (0, none) := by
  induction word generalizing position with
  | nil => rfl
  | cons character word ih =>
      obtain ⟨isPart, others⟩ := List.forall_mem_cons.mp named
      have notDouble : character ≠ '"' := ne_of_isNamePart isPart (by decide)
      have notSingle : character ≠ '\x27' := ne_of_isNamePart isPart (by decide)
      have notDot : character ≠ '.' := ne_of_isNamePart isPart (by decide)
      have notEscape : character ≠ '\\' := ne_of_isNamePart isPart (by decide)
      have goesOn : Reading.initial.ends character = false := by
        simp [Reading.ends, Reading.initial, notDouble, notSingle, notDot]
      have same : Reading.initial.advance character = .initial := by
        simp [Reading.advance, Reading.initial, notDouble, notSingle, notEscape]
      rw [findEnd, goesOn, same]
      exact ih others (position + 1)

theorem steps_name (name : Name) : steps name.text = [name.text] := by
  have noEnd := findEnd_of_isNamePart name.isNamePart_of_mem 0
  have first : next? .initial name.text = some (name.text, .initial, []) := by
    rw [next?, noEnd]
    rfl
  have behind (limit : Nat) : stepsUpTo .initial limit [] = [] := by
    cases limit <;> rfl
  rw [steps, Name.text, List.length_cons, stepsUpTo, ← Name.text, first]
  simp only [behind]

/-- A text without the first sign of a needle stays as it is. -/
theorem replace_of_not_mem {first : Char} {text : Text} (absent : first ∉ text) (needle image : Text) :
    Text.replace (first :: needle) image text = text := by
  have nonempty : first :: needle ≠ [] := List.cons_ne_nil first needle
  have never (suffix : Text) (some : suffix ≠ []) (isSuffix : suffix <:+ text) :
      ¬ first :: needle <+: suffix ++ [] := by
    rw [List.append_nil]
    exact fun isPrefix => absent (isSuffix.subset (isPrefix.subset List.mem_cons_self))
  have copied := replace_append_of_forall_not_prefix nonempty image never
  rwa [List.append_nil, replace_nil nonempty, List.append_nil] at copied

theorem key_name (name : Name) : key name.text = String.ofList name.text := by
  have noTilde : '~' ∉ name.text := name.not_mem_text (by decide)
  have slash : "~1".toList = ['~', '1'] := rfl
  have tilde : "~0".toList = ['~', '0'] := rfl
  rw [key, slash, tilde, replace_of_not_mem noTilde, replace_of_not_mem noTilde]

/-- A name points at the entry of an object that has it as key. -/
theorem follow?_name (entries : Scope) (name : Name) :
    follow? (.object entries) name.text = entries.lookup (String.ofList name.text) := by
  rw [follow?, steps_name, List.map_singleton, key_name]
  simp only [List.foldlM_cons, List.foldlM_nil, Value.child?]
  exact bind_pure _

end Pointer

section Values

variable {setting : Setting} {data : Scope} {frames : List Frame} {path : String} {value : Value}

/-- The frames of a template in which nothing has been set. -/
def bareFrames : List Frame :=
  [⟨.origin, [], none⟩]

/-- Where nothing has been set, a path without brackets is looked up in the data. -/
theorem findValue_bareFrames {path : Text} (noBracket : '[' ∉ path) (other : path ≠ contextName.toList)
    (found : findData? data path = some value) :
    findValue data bareFrames (String.ofList path) = .ok value := by
  have otherName : String.ofList path ≠ contextName := fun same =>
    other (by rw [← same, String.toList_ofList])
  have unset : (Frame.find? ⟨.origin, [], none⟩ path) = none := by
    rw [Frame.find?, Frame.findBinding?]
    cases splitOnce? ['.'] path <;> rfl
  have inData : findPath? data path bareFrames = some value := by
    rw [bareFrames, findPath?, unset]
    exact found
  rw [findValue, if_neg otherName, String.toList_ofList, findNested, if_pos noBracket, inData]
  rfl

/-- The printed path has a value. -/
theorem outcome_evaluate_path (found : findValue setting.data frames path = .ok value) (fuel : Nat) :
    outcome (evaluate setting (fuel + 2) (.plain (.path path))) frames = (.ok value, frames) := by
  have looked : outcome (setting.look path) frames = (.ok (.ok value), frames) := by
    rw [← found]
    rfl
  rw [evaluate]
  simp only [Expr.plain, Expr.operand]
  rw [outcome_bind_of_ok looked]
  cases value <;> rfl

theorem outcome_render_path (found : findValue setting.data frames path = .ok value) (trim : Trim)
    (fuel : Nat) :
    outcome (render setting (fuel + 3) (.print trim (.plain (.path path)))) frames =
      (.ok (Filter.printed value), frames) := by
  rw [render]
  exact outcome_bind_of_ok (outcome_evaluate_path found fuel) _

/-- Nodes that leave the frames as they are come to a text, one after another. -/
def Renders (setting : Setting) (frames : List Frame) (nodes : List Node) (text : Text) : Prop :=
  ∃ texts, outcome (nodes.mapM (render setting allowance)) frames = (.ok texts, frames) ∧ texts.flatten = text

theorem renders_nil : Renders setting frames [] [] :=
  ⟨[], rfl, rfl⟩

theorem Renders.cons {node : Node} {nodes : List Node} {first rest : Text}
    (here : outcome (render setting allowance node) frames = (.ok first, frames))
    (behind : Renders setting frames nodes rest) :
    Renders setting frames (node :: nodes) (first ++ rest) := by
  obtain ⟨texts, rendered, rfl⟩ := behind
  refine ⟨first :: texts, ?_, rfl⟩
  rw [List.mapM_cons, outcome_bind_of_ok here, outcome_bind_of_ok rendered, outcome_pure]

theorem Renders.behindText {nodes : List Node} {rest : Text} (behind : Renders setting frames nodes rest)
    (piece : Text) : Renders setting frames (textNodes piece ++ nodes) (piece ++ rest) := by
  cases piece with
  | nil => exact behind
  | cons character piece => exact Renders.cons rfl behind

theorem Source.render_of_renders {source : Source} {text : Text}
    (renders : Renders ⟨source, data⟩ bareFrames source.nodes text) : source.render data = .ok text := by
  obtain ⟨texts, done, rfl⟩ := renders
  have rendered : (source.nodes.mapM (Template.render ⟨source, data⟩ allowance) : Run (List Text)).run
      [⟨.origin, [], none⟩] = (.ok texts, bareFrames) := done
  simp only [Source.render, rendered]

end Values

section Tags

variable {data : Scope} {leading : Text} {tagged : List (PathTag × Text)} {image : PathTag → Text}

theorem DottedName.not_mem_text (path : DottedName) {sign : Char} (noPart : isNamePart sign = false)
    (notDot : sign ≠ '.') : sign ∉ path.text := by
  rw [text, List.mem_append, not_or, tail]
  refine ⟨path.head.not_mem_text noPart, fun member => ?_⟩
  obtain ⟨field, _, inField⟩ := List.mem_flatMap.mp member
  rcases List.mem_cons.mp inField with isDot | inName
  · exact notDot isDot
  · exact field.not_mem_text noPart inName

/-- A text is printed as it is. -/
theorem printed_text (text : Text) : Filter.printed (.text (String.ofList text)) = text :=
  calc
    Filter.printed (.text (String.ofList text)) = (String.ofList text).toList := rfl
    _ = text := String.toList_ofList

/-- The texts with something in place of each tag. -/
def filledWith (image : PathTag → Text) (leading : Text) (tagged : List (PathTag × Text)) : Text :=
  leading ++ tagged.flatMap fun (tag, piece) => image tag ++ piece

/-- The path of a tag has a value in the data, which is printed as a text. -/
def ShownAs (data : Scope) (tag : PathTag) (shown : Text) : Prop :=
  tag.path.head.first ≠ '_' ∧
    ∃ value, findData? data tag.path.text = some value ∧ Filter.printed value = shown

theorem DottedName.text_ne_contextName {path : DottedName} (other : path.head.first ≠ '_') :
    path.text ≠ contextName.toList := by
  have first : contextName.toList.head? = some '_' := by decide
  intro same
  rw [← same] at first
  exact other (Option.some.inj first)

theorem ShownAs.outcome_render {setting : Setting} {tag : PathTag} {shown : Text}
    (found : ShownAs setting.data tag shown) :
    outcome (render setting allowance tag.node) bareFrames = (.ok shown, bareFrames) := by
  obtain ⟨other, value, inData, rfl⟩ := found
  have noBracket : '[' ∉ tag.path.text := tag.path.not_mem_text (by decide) (by decide)
  have found := findValue_bareFrames noBracket (DottedName.text_ne_contextName other) inData
  exact outcome_render_path found ⟨false, false⟩ 99997

theorem renders_nodesOf {setting : Setting}
    (shown : ∀ entry ∈ tagged, ShownAs setting.data entry.1 (image entry.1)) :
    Renders setting bareFrames (nodesOf leading tagged) (filledWith image leading tagged) := by
  refine Renders.behindText ?_ leading
  induction tagged with
  | nil => exact renders_nil
  | cons entry tagged ih =>
      obtain ⟨tag, piece⟩ := entry
      obtain ⟨first, others⟩ := List.forall_mem_cons.mp shown
      rw [List.flatMap_cons, List.flatMap_cons, List.cons_append, List.append_assoc]
      exact Renders.cons first.outcome_render ((ih others).behindText piece)

/-- A template of texts and of tags that print paths comes to the texts with the
values in place of the tags. -/
theorem renderText_printed (placed : Placed leading tagged)
    (shown : ∀ entry ∈ tagged, ShownAs data entry.1 (image entry.1)) :
    renderText (leading ++ printed tagged) data = .ok (filledWith image leading tagged) := by
  rw [renderText, read_printed placed]
  exact Source.render_of_renders (renders_nodesOf shown)

end Tags

end ThemedViews.Template
