import ThemedViews.Proofs.AttributeReading

/-!
# Tags as they are printed

Plugin tags, their closing tags and noparse blocks are described by what they
are made of: blanks, a name, attributes, a content.  The recognisers read back
the printed form of each and stop exactly behind it, whatever text follows.
-/

namespace ThemedViews

namespace Tags

open Text AnyAttribute

/-- A plugin tag that stands alone or opens an element.  No value of an attribute has an opening brace. -/
structure PluginTag extends AnyTag where
  values_closed : ∀ item ∈ attributes, '{' ∉ item.value

/-- The blanks of a closing tag. -/
structure ClosingTag where
  before : Blanks
  behindSlash : Blanks
  behind : Blanks

/-- A noparse block: its content holds no closing noparse tag. -/
structure NoparseBlock where
  beforeOpening : Blanks
  behindOpening : Blanks
  content : Text
  unclosed : untilClosing? content = none
  beforeClosing : Blanks
  behindClosing : Blanks

/-- What a plugin tag asks for with a given content. -/
def PluginTag.call (tag : PluginTag) (content : Text) : PluginCall :=
  ⟨String.ofList tag.name.text, Table.ofList (tag.attributes.map AnyAttribute.entry), content⟩

/-- What a closing tag has behind its two opening braces. -/
def ClosingTag.printInside (tag : ClosingTag) (name : PluginName) : Text :=
  tag.before.text ++ ('/' :: (tag.behindSlash.text ++ (name.text ++ (tag.behind.text ++ closer))))

def ClosingTag.print (tag : ClosingTag) (name : PluginName) : Text :=
  opener ++ tag.printInside name

def NoparseBlock.printClosing (block : NoparseBlock) : Text :=
  opener ++ (block.beforeClosing.text ++ ("/noparse".toList ++ (block.behindClosing.text ++ closer)))

def NoparseBlock.print (block : NoparseBlock) : Text :=
  opener ++ (block.beforeOpening.text ++ ("noparse".toList ++ (block.behindOpening.text ++ (closer ++
    (block.content ++ block.printClosing)))))

theorem AnyTag.print_ne_nil (tag : AnyTag) : tag.print ≠ [] := by
  simp [AnyTag.print, opener_eq]

theorem PluginTag.readAttributes_printAll (tag : PluginTag) (content : Text) :
    readAttributes (printAll tag.attributes) = (tag.call content).attributes :=
  AnyAttribute.readAttributes_printAll tag.attributes

theorem AnyAttribute.open_not_mem_printPair {item : AnyAttribute} (closed : '{' ∉ item.value) :
    '{' ∉ item.printPair := by
  have notKey : '{' ∉ item.key := by
    intro member
    have named := item.key_named '{' member
    contradiction
  have notBlank : isBlank '{' = false := by decide
  have notQuote : '{' ≠ item.quote := by
    rcases item.isQuote with isDouble | isSingle
    · rw [isDouble]
      decide
    · rw [isSingle]
      decide
  simp [printPair, notKey, item.beforeSign.not_mem notBlank, item.behindSign.not_mem notBlank, notQuote, closed]

theorem AnyAttribute.open_not_mem_printAll {attributes : List AnyAttribute}
    (closed : ∀ item ∈ attributes, '{' ∉ item.value) : '{' ∉ printAll attributes := by
  induction attributes with
  | nil => simp
  | cons item attributes ih =>
      obtain ⟨first, others⟩ := List.forall_mem_cons.mp closed
      rw [printAll_cons, List.mem_append, List.mem_append, not_or, not_or]
      exact ⟨item.before.not_mem (by decide), open_not_mem_printPair first, ih others⟩

theorem PluginTag.open_not_mem_printInside (tag : PluginTag) : '{' ∉ tag.printInside := by
  have notBlank : isBlank '{' = false := by decide
  have notJoined : isJoinedChar '{' = false := by decide
  simp [AnyTag.printInside, closer_eq, tag.before.not_mem notBlank, tag.name.not_mem notJoined,
    AnyAttribute.open_not_mem_printAll tag.values_closed, tag.behind.not_mem notBlank]

theorem ClosingTag.open_not_mem_printInside (tag : ClosingTag) (name : PluginName) :
    '{' ∉ tag.printInside name := by
  have notBlank : isBlank '{' = false := by decide
  have notJoined : isJoinedChar '{' = false := by decide
  simp [ClosingTag.printInside, closer_eq, tag.before.not_mem notBlank,
    tag.behindSlash.not_mem notBlank, name.not_mem notJoined, tag.behind.not_mem notBlank]

end Tags

end ThemedViews
