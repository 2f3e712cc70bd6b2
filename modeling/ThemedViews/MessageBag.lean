import ThemedViews.Value.Basic

/-!
# Message bags

Messages grouped by the field that they are about, each message once a field, in the order in which they came.
Every view has a bag under the name `errors`.
-/

namespace ThemedViews

/-- Messages by field. -/
structure MessageBag where
  messages : Table (List String)
  deriving Repr, DecidableEq

namespace MessageBag

/-- No messages. -/
def empty : MessageBag :=
  ⟨[]⟩

/-- The messages of a field. -/
def get (bag : MessageBag) (key : String) : List String :=
  (bag.messages.lookup key).getD []

/-- One more message for a field, unless it is there already. -/
def add (key message : String) (bag : MessageBag) : MessageBag :=
  let known := bag.get key
  ⟨Table.insert key (if known.contains message then known else known ++ [message]) bag.messages⟩

/-- Whether there is a message for a field. -/
def has (bag : MessageBag) (key : String) : Bool :=
  !(bag.get key).isEmpty

def first? (bag : MessageBag) (key : String) : Option String :=
  (bag.get key).head?

/-- The number of messages. -/
def size (bag : MessageBag) : Nat :=
  bag.messages.foldr (fun entry others => entry.2.length + others) 0

/-- Whether there are no messages. -/
def isEmpty (bag : MessageBag) : Bool :=
  bag.size = 0

/-- The bag as data. -/
def toValue (bag : MessageBag) : Value :=
  .object [("messages", .object (bag.messages.map fun (key, messages) => (key, .list (messages.map .text))))]

def textsOf? : Value → Option (List String)
  | .list items => items.mapM fun item => match item with
    | .text content => some content
    | _ => none
  | _ => none

def messagesOf? : Value → Option (Table (List String))
  | .object entries => entries.mapM fun (key, value) => (textsOf? value).map fun messages => (key, messages)
  | _ => none

/-- The bag in data: an object with the messages under their name, or a list that holds just them. -/
def ofValue? : Value → Option MessageBag
  | .object entries => do return ⟨← messagesOf? (← entries.lookup "messages")⟩
  | .list [messages] => do return ⟨← messagesOf? messages⟩
  | _ => none

end MessageBag

end ThemedViews
