import Responses2Chat.Models

/-!
# The conversation store

`ConversationStore` (`internal/storage/storage.go`) keeps, in one BBolt bucket, the JSON of a
message list under a response id.  JSON encoding is the identity on the model's messages, so
the bucket is a map from keys to message lists.  `Store` always succeeds here: the
properties that need it assume it, and a failed `Store` only logs.

`Get` reports a key as absent also when the list stored under it is empty.
`get_store` is the round trip, and `get_store_ne` the frame rule.
-/

namespace Responses2Chat.Storage

open Responses2Chat.Models

/-- The `conversations` bucket: the messages stored under each response id. -/
structure ConversationStore where
  bucket : String → Option (List ChatMessage)

/-- An empty bucket. -/
def ConversationStore.empty : ConversationStore := ⟨fun _ => none⟩

/-- `Store`: `Put` of the messages under the key. -/
def ConversationStore.store (db : ConversationStore) (responseID : String)
    (messages : List ChatMessage) : ConversationStore :=
  ⟨fun k => if k = responseID then some messages else db.bucket k⟩

/-- `Get`: the messages, or `none` for `(nil, false)`, which is also the answer for an empty
list. -/
def ConversationStore.get (db : ConversationStore) (responseID : String) : Option (List ChatMessage) :=
  match db.bucket responseID with
  | some messages => if messages = [] then none else some messages
  | none => none

/-- `Delete`. -/
def ConversationStore.delete (db : ConversationStore) (responseID : String) : ConversationStore :=
  ⟨fun k => if k = responseID then none else db.bucket k⟩

theorem get_store (db : ConversationStore) (responseID : String) (messages : List ChatMessage) :
    (db.store responseID messages).get responseID = if messages = [] then none else some messages := by
  simp [ConversationStore.get, ConversationStore.store]

theorem get_store_of_ne_nil (db : ConversationStore) (responseID : String) {messages : List ChatMessage}
    (h : messages ≠ []) : (db.store responseID messages).get responseID = some messages := by
  rw [get_store, if_neg h]

theorem get_store_ne (db : ConversationStore) {responseID key : String} (messages : List ChatMessage)
    (h : key ≠ responseID) : (db.store responseID messages).get key = db.get key := by
  simp [ConversationStore.get, ConversationStore.store, h]

@[simp] theorem get_empty (key : String) : ConversationStore.empty.get key = none := rfl

theorem get_delete (db : ConversationStore) (responseID : String) :
    (db.delete responseID).get responseID = none := by
  simp [ConversationStore.get, ConversationStore.delete]

end Responses2Chat.Storage
