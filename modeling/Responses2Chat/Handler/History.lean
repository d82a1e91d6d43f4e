import Responses2Chat.Handler.Proxy

/-!
# The history endpoint

`handleGetResponse` (`src/unnamed/part_000`) answers `GET /v1/responses/{id}` with the
messages `ConversationStore.Get` returns under the id, converted by
`convertMessagesToOutput`: the `i`-th message, unless it is a system message, gives one
`function_call` item `fc_<i>` per tool call and then the item `msg_<i>`, which it keeps only
when its content is a non-empty string.

* `ids_messageToOutput` and `mem_ids_messageToOutput`: the ids of one message's items.
* `nodup_ids_convertMessagesToOutput`: the ids of the output are pairwise distinct exactly
  when no message other than a system message carries two tool calls;
  `nodup_ids_responseOutput` is the same count for `ConvertResponse`, whose tool-call items
  all have the id `fc-<id>`.
* `exists_item_convertMessagesToOutput_iff`: which messages get an item at all.  A message
  whose content is a list of parts, and which carries no tool call, gets none.

`CreatedAt`, the time of the request, is a parameter.
-/

namespace Responses2Chat.Handler

open Responses2Chat.Models Responses2Chat.GoRuntime Responses2Chat.Converter Responses2Chat.Storage

/-! ## The conversion -/

/-- The item of a tool call of the `i`-th message. -/
def historyToolItem (i : Nat) (tc : ToolCall) : OutputItem where
  type := "function_call"
  id := "fc_" ++ Nat.repr i
  callID := tc.id
  name := tc.function.name
  arguments := tc.function.arguments
  status := "completed"

/-- The item `msg_<i>` of the `i`-th message: its type is set, to `message`, only for a
non-empty string content, the one case of the type switch. -/
def historyItem (i : Nat) (msg : ChatMessage) : OutputItem :=
  let item : OutputItem := { type := "", id := "msg_" ++ Nat.repr i, role := msg.role }
  match msg.content with
  | .str v => if v ≠ "" then { item with type := "message", content := [{ type := "output_text", text := v }] }
    else item
  | _ => item

/-- The loop body of `convertMessagesToOutput` for the `i`-th message. -/
def messageToOutput (i : Nat) (msg : ChatMessage) : List OutputItem :=
  if msg.role = "system" then []
  else
    msg.toolCalls.map (historyToolItem i) ++
      if (historyItem i msg).type ≠ "" then [historyItem i msg] else []

/-- `convertMessagesToOutput`. -/
def convertMessagesToOutput (messages : List ChatMessage) : List OutputItem :=
  messages.enum.flatMap fun e => messageToOutput e.1 e.2

/-- `handleGetResponse`: the stored messages as a completed response, or `404 not_found`. -/
def handleGetResponse (db : ConversationStore) (responseID : String) (createdAt : Int) : ProxyAction :=
  match db.get responseID with
  | none => handleError 404 "not_found" "Response not found"
  | some messages =>
    let resp : ResponsesResponse :=
      { id := responseID, object := "response", createdAt := createdAt, status := "completed",
        output := convertMessagesToOutput messages }
    .write (.response resp)

/-! ## Item ids -/

@[simp] theorem historyItem_id (i : Nat) (msg : ChatMessage) : (historyItem i msg).id = "msg_" ++ Nat.repr i := by
  unfold historyItem
  split <;> (try split) <;> rfl

theorem historyItem_type_ne (i : Nat) (msg : ChatMessage) :
    (historyItem i msg).type ≠ "" ↔ ∃ v, msg.content = .str v ∧ v ≠ "" := by
  unfold historyItem
  split <;> (try split) <;> simp_all

/-- The ids of the `i`-th message's items: `fc_<i>` once per tool call, then `msg_<i>` for a
non-empty string content. -/
theorem ids_messageToOutput (i : Nat) (msg : ChatMessage) :
    (messageToOutput i msg).map (·.id) =
      if msg.role = "system" then []
      else List.replicate msg.toolCalls.length ("fc_" ++ Nat.repr i) ++
        if (historyItem i msg).type ≠ "" then ["msg_" ++ Nat.repr i] else [] := by
  unfold messageToOutput
  split_ifs <;> simp [historyToolItem, Function.comp_def, List.map_const']

theorem mem_ids_messageToOutput {i : Nat} {msg : ChatMessage} {x : String}
    (h : x ∈ (messageToOutput i msg).map (·.id)) : x = "fc_" ++ Nat.repr i ∨ x = "msg_" ++ Nat.repr i := by
  rw [ids_messageToOutput] at h
  split_ifs at h <;>
    simp only [List.mem_append, List.mem_replicate, List.mem_singleton, List.not_mem_nil, or_false] at h <;> tauto

theorem fc_ne_msg (a b : String) : "fc_" ++ a ≠ "msg_" ++ b := fun h => by
  have := congrArg (fun s => s.data.head?) h
  simp at this

theorem append_repr_injective (p : String) {i j : Nat} (h : p ++ Nat.repr i = p ++ Nat.repr j) : i = j := by
  simp only [String.ext_iff, String.data_append, List.append_cancel_left_eq] at h
  exact repr_injective (String.ext h)

/-- An id of the `j`-th message's items names `j`. -/
theorem index_eq_of_mem_ids {i j : Nat} {msg : ChatMessage} {x : String}
    (hx : x ∈ (messageToOutput j msg).map (·.id)) (hi : x = "fc_" ++ Nat.repr i ∨ x = "msg_" ++ Nat.repr i) :
    j = i := by
  rcases mem_ids_messageToOutput hx with rfl | rfl <;> rcases hi with h | h
  · exact append_repr_injective _ h
  · exact absurd h (fc_ne_msg _ _)
  · exact absurd h.symm (fc_ne_msg _ _)
  · exact append_repr_injective _ h

/-- Items of different messages never share an id. -/
theorem ids_disjoint {i j : Nat} (hij : i ≠ j) {x : String} (msg msg' : ChatMessage)
    (hx : x ∈ (messageToOutput i msg).map (·.id)) (hy : x ∈ (messageToOutput j msg').map (·.id)) : False :=
  hij (index_eq_of_mem_ids hy (mem_ids_messageToOutput hx)).symm

theorem nodup_ids_messageToOutput (i : Nat) (msg : ChatMessage) :
    ((messageToOutput i msg).map (·.id)).Nodup ↔ (msg.role ≠ "system" → msg.toolCalls.length ≤ 1) := by
  have hne : ∀ a b : String, "msg_" ++ a ≠ "fc_" ++ b := fun a b h => fc_ne_msg b a h.symm
  rw [ids_messageToOutput]
  split_ifs with hsys <;> simp [hsys, List.nodup_append, List.nodup_replicate, List.mem_replicate, hne]

theorem nodup_ids_enumFrom (n : Nat) (ms : List ChatMessage) :
    (((ms.enumFrom n).flatMap fun e => messageToOutput e.1 e.2).map (·.id)).Nodup ↔
      ∀ msg ∈ ms, msg.role ≠ "system" → msg.toolCalls.length ≤ 1 := by
  induction ms generalizing n with
  | nil => simp
  | cons msg ms ih =>
    rw [List.enumFrom_cons, List.flatMap_cons, List.map_append, List.nodup_append, ih, nodup_ids_messageToOutput,
      List.forall_mem_cons]
    refine ⟨fun h => ⟨h.1, h.2.1⟩, fun h => ⟨h.1, h.2, fun x hx hy => ?_⟩⟩
    obtain ⟨item, hitem, rfl⟩ := List.mem_map.mp hy
    obtain ⟨e, he, hmem⟩ := List.mem_flatMap.mp hitem
    have hlt : n < e.1 := by
      have := (List.mem_enumFrom he).1
      omega
    exact ids_disjoint (Nat.ne_of_lt hlt) msg e.2 hx (List.mem_map_of_mem _ hmem)

/-- The ids of the history's items are pairwise distinct exactly when no message other than a
system message carries two tool calls. -/
theorem nodup_ids_convertMessagesToOutput (messages : List ChatMessage) :
    ((convertMessagesToOutput messages).map (·.id)).Nodup ↔
      ∀ msg ∈ messages, msg.role ≠ "system" → msg.toolCalls.length ≤ 1 :=
  nodup_ids_enumFrom 0 messages

/-- The ids of `ConvertResponse`'s items are pairwise distinct exactly when the first choice
carries at most one tool call. -/
theorem nodup_ids_responseOutput (requestID : String) (choices : List ChatChoice) :
    ((responseOutput requestID choices).map (·.id)).Nodup ↔
      ∀ choice ∈ choices.head?, choice.message.toolCalls.length ≤ 1 := by
  rcases choices with _ | ⟨choice, _⟩
  · simp [responseOutput]
  · have hne : ∀ a b : String, "msg-" ++ a ≠ "fc-" ++ b := fun a b h => by
      have := congrArg (fun s => s.data.head?) h
      simp at this
    simp [responseOutput, toolCallItem, messageOutputItem, Function.comp_def, List.map_const', List.nodup_append,
      List.nodup_replicate, List.mem_replicate, hne]

/-- Item ids repeat within one response: every tool call of a `ConvertResponse` reply gets
`fc-<id>`, and every tool call of one history message `fc_<i>`.  The ids are distinct exactly
when no reply, and no message other than a system message, carries two tool calls. -/
theorem outputIDs_nodup_iff :
    (∀ (resp : ChatCompletionResponse) (requestID : String),
      ((convertResponse resp requestID).output.map (·.id)).Nodup ↔
        ∀ choice ∈ resp.choices.head?, choice.message.toolCalls.length ≤ 1) ∧
    ∀ messages : List ChatMessage, ((convertMessagesToOutput messages).map (·.id)).Nodup ↔
      ∀ msg ∈ messages, msg.role ≠ "system" → msg.toolCalls.length ≤ 1 :=
  ⟨fun resp requestID => nodup_ids_responseOutput requestID resp.choices, nodup_ids_convertMessagesToOutput⟩

/-! ## Which messages the endpoint shows -/

theorem messageToOutput_ne_nil_iff (i : Nat) (msg : ChatMessage) :
    messageToOutput i msg ≠ [] ↔
      msg.role ≠ "system" ∧ (msg.toolCalls ≠ [] ∨ ∃ v, msg.content = .str v ∧ v ≠ "") := by
  rw [← historyItem_type_ne i]
  unfold messageToOutput
  split_ifs <;> simp_all

/-- The `i`-th message gets an item exactly when it is not a system message and carries a tool
call or a non-empty string: a list of parts alone gets none. -/
theorem exists_item_convertMessagesToOutput_iff {messages : List ChatMessage} {i : Nat} {msg : ChatMessage}
    (hi : messages[i]? = some msg) :
    (∃ item ∈ convertMessagesToOutput messages, item.id = "fc_" ++ Nat.repr i ∨ item.id = "msg_" ++ Nat.repr i) ↔
      msg.role ≠ "system" ∧ (msg.toolCalls ≠ [] ∨ ∃ v, msg.content = .str v ∧ v ≠ "") := by
  rw [← messageToOutput_ne_nil_iff i]
  constructor
  · rintro ⟨item, hitem, hid⟩
    obtain ⟨e, he, hmem⟩ := List.mem_flatMap.mp hitem
    have hj : e.1 = i := index_eq_of_mem_ids (List.mem_map_of_mem (·.id) hmem) hid
    have hmsg : e.2 = msg := by
      rw [List.mem_enum_iff_getElem?, hj, hi] at he
      exact (Option.some.inj he).symm
    rw [← hj, ← hmsg]
    exact List.ne_nil_of_mem hmem
  · intro hne
    obtain ⟨item, hmem⟩ := List.exists_mem_of_ne_nil _ hne
    exact ⟨item, List.mem_flatMap.mpr ⟨(i, msg), List.mem_enum_iff_getElem?.mpr hi, hmem⟩,
      mem_ids_messageToOutput (List.mem_map_of_mem (·.id) hmem)⟩

/-- The multimodal history of the storage test: a user message with a text part and an image
part. -/
def multimodalHistory : List ChatMessage :=
  [{ role := "user", content := .parts [{ type := "text", text := "What\x27s in this image?" },
      { type := "image_url", imageURL := "https://example.com/image.png" }] }]

/-- The message of the multimodal history, a user message whose content is a list of parts,
gets no item. -/
theorem exists_item_convertMessagesToOutput_iff_multimodal :
    ¬ ∃ item ∈ convertMessagesToOutput multimodalHistory,
      item.id = "fc_" ++ Nat.repr 0 ∨ item.id = "msg_" ++ Nat.repr 0 := fun h => by
  obtain ⟨-, hcalls | ⟨v, hv, -⟩⟩ := (@exists_item_convertMessagesToOutput_iff multimodalHistory 0 _ rfl).mp h
  · exact hcalls rfl
  · cases hv

/-- Stored and read back, the multimodal history comes out of the history endpoint with no
item at all: its one message has a list of parts, which `exists_item_convertMessagesToOutput_iff`
gives no item. -/
theorem handleGetResponse_multimodal_empty (createdAt : Int) :
    handleGetResponse (ConversationStore.empty.store "resp-multimodal" multimodalHistory) "resp-multimodal"
        createdAt =
      .write (.response
        { id := "resp-multimodal", object := "response", createdAt := createdAt, status := "completed",
          output := [] }) := by
  rfl

end Responses2Chat.Handler
