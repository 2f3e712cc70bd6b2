import Mathlib.Data.Finset.Card
import ThemedViews.MessageBag
import ThemedViews.Proofs.Tables

/-!
# Histories of messages

Messages are added to an empty bag, one after another.  What the bag gives for a key is
what this history has under it, each message once.  As its table stays in the order of the
keys, a bag is determined by what is found in it, whatever the order of the additions
under different keys was.
-/

namespace ThemedViews

namespace MessageBag

/-- The bag after messages were added to an empty one, each under its key. -/
def ofHistory (history : List (String × String)) : MessageBag :=
  history.foldl (fun bag entry => bag.add entry.1 entry.2) .empty

/-- The messages that a history has under a key. -/
def messagesUnder (key : String) (history : List (String × String)) : List String :=
  (history.filter fun entry => entry.1 = key).map Prod.snd

section Additions

variable {bag : MessageBag} {table : Table (List String)} {key other message text : String}

theorem add_of_mem (member : message ∈ bag.get key) :
    bag.add key message = ⟨Table.insert key (bag.get key) bag.messages⟩ := by
  rw [add, if_pos (List.contains_iff_mem.mpr member)]

theorem add_of_not_mem (fresh : message ∉ bag.get key) :
    bag.add key message = ⟨Table.insert key (bag.get key ++ [message]) bag.messages⟩ := by
  rw [add, if_neg (mt List.contains_iff_mem.mp fresh)]

theorem get_insert_self (key : String) (messages : List String) (table : Table (List String)) :
    get ⟨Table.insert key messages table⟩ key = messages := by
  rw [get, Table.lookup_insert_self, Option.getD_some]

theorem get_insert_of_ne (different : key ≠ other) (messages : List String) :
    get ⟨Table.insert other messages table⟩ key = get ⟨table⟩ key := by
  rw [get, Table.lookup_insert_of_ne different, get]

theorem lookup_eq_some_get (member : message ∈ bag.get key) :
    bag.messages.lookup key = some (bag.get key) := by
  rw [get] at member ⊢
  cases found : bag.messages.lookup key with
  | none =>
      rw [found, Option.getD_none] at member
      cases member
  | some messages => rfl

/-- A message that is there already is not added. -/
theorem add_eq_self_of_mem (sorted : Table.Sorted bag.messages) (member : message ∈ bag.get key) :
    bag.add key message = bag := by
  rw [add_of_mem member, sorted.insert_eq_self (lookup_eq_some_get member)]

/-- Messages under different keys can be added in either order. -/
theorem add_add_comm (sorted : Table.Sorted bag.messages) (different : key ≠ other) :
    (bag.add key message).add other text = (bag.add other text).add key message := by
  rw [add, add, add, add, get_insert_of_ne different.symm, get_insert_of_ne different,
    sorted.insert_comm different]

theorem size_cons (key : String) (messages : List String) (rest : Table (List String)) :
    size ⟨(key, messages) :: rest⟩ = messages.length + size ⟨rest⟩ :=
  rfl

theorem get_cons (key other : String) (messages : List String) (rest : Table (List String)) :
    get ⟨(other, messages) :: rest⟩ key = if key = other then messages else get ⟨rest⟩ key := by
  rw [get, Table.lookup_cons]
  split <;> rfl

theorem get_eq_nil_of_not_mem_keys (unbound : key ∉ Table.keys table) : get ⟨table⟩ key = [] := by
  rw [get, Table.lookup_eq_none_of_not_mem_keys unbound, Option.getD_none]

/-- What is put in under a key takes the place of what was there. -/
theorem size_insert (sorted : Table.Sorted table) (key : String) (messages : List String) :
    size ⟨Table.insert key messages table⟩ + (get ⟨table⟩ key).length = size ⟨table⟩ + messages.length := by
  induction table with
  | nil => exact Nat.add_comm ..
  | cons entry rest ih =>
      obtain ⟨least, others⟩ := Table.sorted_cons.mp sorted
      rw [Table.insert, get_cons, size_cons]
      split
      · next less =>
          have unbound : key ∉ Table.keys rest := fun bound => String.lt_asymm less (least key bound)
          have different : key ≠ entry.1 := fun same => String.lt_irrefl _ (same ▸ less)
          rw [if_neg different, get_eq_nil_of_not_mem_keys unbound, size_cons, size_cons, List.length_nil]
          omega
      · split
        · rw [size_cons]
          omega
        · have behind := ih others
          rw [size_cons]
          omega

theorem size_add_of_not_mem (sorted : Table.Sorted bag.messages) (fresh : message ∉ bag.get key) :
    (bag.add key message).size = bag.size + 1 := by
  have counted : _ + (bag.get key).length = bag.size + _ := size_insert sorted key (bag.get key ++ [message])
  rw [← add_of_not_mem fresh, List.length_append, List.length_singleton] at counted
  omega

end Additions

section Histories

variable {history : List (String × String)} {key message : String}

theorem ofHistory_concat (history : List (String × String)) (key message : String) :
    ofHistory (history ++ [(key, message)]) = (ofHistory history).add key message :=
  List.foldl_concat ..

theorem messagesUnder_concat_self (key message : String) (history : List (String × String)) :
    messagesUnder key (history ++ [(key, message)]) = messagesUnder key history ++ [message] := by
  simp [messagesUnder]

theorem messagesUnder_concat_of_ne {other : String} (different : other ≠ key) :
    messagesUnder key (history ++ [(other, message)]) = messagesUnder key history := by
  simp [messagesUnder, different]

theorem mem_messagesUnder : message ∈ messagesUnder key history ↔ (key, message) ∈ history := by
  simp [messagesUnder]

theorem head?_eraseDups (items : List String) : items.eraseDups.head? = items.head? := by
  cases items with
  | nil => rfl
  | cons first items => rw [List.eraseDups_cons, List.head?_cons, List.head?_cons]

theorem sorted_ofHistory (history : List (String × String)) : Table.Sorted (ofHistory history).messages := by
  induction history using List.reverseRecOn with
  | nil => exact Table.sorted_nil
  | append_singleton history entry ih =>
      rw [ofHistory_concat]
      exact ih.insert ..

/-- Under each key is what the history has under it, each message once. -/
theorem get_ofHistory (history : List (String × String)) (sought : String) :
    (ofHistory history).get sought = (messagesUnder sought history).eraseDups := by
  induction history using List.reverseRecOn with
  | nil => rfl
  | append_singleton history entry ih =>
      obtain ⟨key, message⟩ := entry
      rw [ofHistory_concat]
      by_cases same : sought = key
      · subst same
        rw [messagesUnder_concat_self, Table.eraseDups_concat]
        by_cases member : message ∈ messagesUnder sought history
        · have known := List.mem_eraseDups.mpr member
          rw [← ih] at known
          rw [add_eq_self_of_mem (sorted_ofHistory history) known, ih, if_pos member]
        · have fresh := mt List.mem_eraseDups.mp member
          rw [← ih] at fresh
          rw [add_of_not_mem fresh, get_insert_self, ih, if_neg member]
      · rw [add, get_insert_of_ne same, ih, messagesUnder_concat_of_ne (Ne.symm same)]

theorem mem_get_ofHistory : message ∈ (ofHistory history).get key ↔ (key, message) ∈ history := by
  rw [get_ofHistory, List.mem_eraseDups, mem_messagesUnder]

/-- Each pair of a history counts once. -/
theorem size_ofHistory (history : List (String × String)) : (ofHistory history).size = history.toFinset.card := by
  induction history using List.reverseRecOn with
  | nil => rfl
  | append_singleton history entry ih =>
      have sorted := sorted_ofHistory history
      have pairs : (history ++ [entry]).toFinset = insert entry history.toFinset := by
        ext pair
        simp
      rw [ofHistory_concat, pairs]
      by_cases member : entry ∈ history
      · rw [add_eq_self_of_mem sorted (mem_get_ofHistory.mpr member), ih,
          Finset.insert_eq_of_mem (List.mem_toFinset.mpr member)]
      · rw [size_add_of_not_mem sorted (mt mem_get_ofHistory.mp member), ih,
          Finset.card_insert_of_notMem (mt List.mem_toFinset.mp member)]

theorem has_ofHistory : (ofHistory history).has key = true ↔ ∃ message, (key, message) ∈ history := by
  rw [has, Bool.not_eq_true', List.isEmpty_eq_false_iff_exists_mem]
  exact exists_congr fun message => mem_get_ofHistory

theorem isEmpty_ofHistory : (ofHistory history).isEmpty = true ↔ history = [] := by
  rw [isEmpty, decide_eq_true_eq, size_ofHistory, Finset.card_eq_zero, List.toFinset_eq_empty_iff]

/-- What a bag gives after any history: under each key the messages that the history has under
it, each once, in the order in which they came first; the first of them; whether there are
any; and how many pairs of keys and messages there are.  A pair of the history changes nothing when it
is added again, and the order in which messages are added under different keys does not matter. -/
theorem reads_ofHistory (history : List (String × String)) :
    (∀ key, (ofHistory history).get key = (messagesUnder key history).eraseDups ∧
      (ofHistory history).first? key = (messagesUnder key history).head? ∧
      (ofHistory history).first? key = ((ofHistory history).get key).head? ∧
      ((ofHistory history).has key = true ↔ ∃ message, (key, message) ∈ history) ∧
      ((ofHistory history).has key = true ↔ (ofHistory history).get key ≠ [])) ∧
    (ofHistory history).size = history.toFinset.card ∧
    ((ofHistory history).isEmpty = true ↔ history = []) ∧
    (∀ key message, (key, message) ∈ history → (ofHistory history).add key message = ofHistory history) ∧
    ∀ key other message text, key ≠ other →
      ((ofHistory history).add key message).add other text =
        ((ofHistory history).add other text).add key message := by
  have sorted := sorted_ofHistory history
  refine ⟨fun key => ⟨get_ofHistory history key, ?_, rfl, has_ofHistory, ?_⟩, size_ofHistory history,
    isEmpty_ofHistory, fun key message member => ?_, fun key other message text different => ?_⟩
  · rw [first?, get_ofHistory, head?_eraseDups]
  · rw [has, Bool.not_eq_true', List.isEmpty_eq_false_iff]
  · exact add_eq_self_of_mem sorted (mem_get_ofHistory.mpr member)
  · exact add_add_comm sorted different

end Histories

end MessageBag

end ThemedViews
