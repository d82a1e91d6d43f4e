import Responses2Chat.Handler.Proxy
import Responses2Chat.Handler.WebSearch

/-!
# Continuing a conversation without the store

A client continues a conversation in one of two ways.  It names the last response in
`previous_response_id`, and `handleResponses` loads the messages it stored for that turn; or
it keeps the conversation itself and sends the output items of the last response back in
`input`, where the loop of `ConvertRequest` turns each item into a message.  This file says
what the second way hands upstream.

* `echoItem` is an output item read back as an input item (its JSON decoded as an
  `InputItem`), and `replayMessages` what `ConvertRequest` makes of a list of them.
* `replayMessages_convertResponse`: the output of `ConvertResponse`, with or without the
  `web_search_call` items of a web-search turn, comes back as one assistant message per tool
  call, each with that one call, then an assistant message with no content.  The text is
  lost: the message item holds an `output_text` part, and `convertMessageItem` reads only
  `input_text` and `input_image` parts.
* `replayMessages_handleStreamingResponse`: the `done` items of a stream come back the same
  way.  Their calls are those of the assistant message `handleStreamingResponse` stores for
  the turn, up to the order of the map range, and its text is again not among them.

Both hold for every upstream reply and stream and for both values of the developer-role
flag; they compare the replay with the stored message field by field, so they say exactly
where the two ways of continuing part.
-/

namespace Responses2Chat.Handler

open Responses2Chat.Models Responses2Chat.GoRuntime Responses2Chat.Converter

/-! ## Output items sent back -/

/-- An output item sent back in `input`: its JSON decoded as an `InputItem`.  The two records
share the JSON names `type`, `role`, `content`, `call_id`, `name` and `arguments`. -/
def echoItem (o : OutputItem) : InputItem where
  type := o.type
  role := o.role
  content := o.content
  callID := o.callID
  name := o.name
  arguments := o.arguments

/-- The messages the loop of `ConvertRequest` makes of output items sent back in `input`. -/
def replayMessages (supportsDeveloperRole : Bool) (items : List OutputItem) : List ChatMessage :=
  items.filterMap fun o => convertInputItemToMessage (echoItem o) supportsDeveloperRole

/-- An assistant message that carries one tool call and nothing else. -/
def callMessage (tc : ToolCall) : ChatMessage := { role := "assistant", toolCalls := [tc] }

/-- The call of a `function_call` item, as `convertFunctionCallItem` and the stored message of
a stream both build it. -/
def itemCall (item : OutputItem) : ToolCall :=
  { id := item.callID, type := "function", function := { name := item.name, arguments := item.arguments } }

variable (supportsDeveloperRole : Bool)

@[simp] theorem replayMessages_append (l₁ l₂ : List OutputItem) :
    replayMessages supportsDeveloperRole (l₁ ++ l₂) =
      replayMessages supportsDeveloperRole l₁ ++ replayMessages supportsDeveloperRole l₂ :=
  List.filterMap_append _ _ _

/-- A `function_call` item comes back as an assistant message with its call. -/
theorem convert_echo_functionCall {o : OutputItem} (h : o.type = "function_call") :
    convertInputItemToMessage (echoItem o) supportsDeveloperRole = some (callMessage (itemCall o)) := by
  simp [convertInputItemToMessage, echoItem, h, convertFunctionCallItem, callMessage, itemCall]

/-- Content made of `output_text` parts converts to no content at all. -/
theorem messageItemContent_outputText {cs : List ContentItem} (h : ∀ c ∈ cs, c.type = "output_text") :
    messageItemContent cs = .null := by
  rw [messageItemContent_eq, List.filter_eq_nil_iff.mpr fun c hc => by simp [isRecognizedPart, h c hc]]
  rfl

/-- A `message` item whose parts are all `output_text` comes back as a message of its role,
mapped as `convertMessageItem` maps it, with no content; with no role it is dropped. -/
theorem convert_echo_message {o : OutputItem} (h : o.type = "message")
    (hc : ∀ c ∈ o.content, c.type = "output_text") :
    convertInputItemToMessage (echoItem o) supportsDeveloperRole =
      if o.role = "" then none
      else some { role := if o.role = "developer" ∧ supportsDeveloperRole = false then "user" else o.role } := by
  simp only [convertInputItemToMessage, echoItem, h, if_true, convertMessageItem,
    messageItemContent_outputText hc]

/-! ## The non-streaming path -/

theorem type_of_mem_outputContent {content : MessageContent} {c : ContentItem}
    (hc : c ∈ outputContent content) : c.type = "output_text" := by
  cases content with
  | str v => by_cases hv : v = "" <;> simp_all [outputContent]
  | null | parts _ => simp [outputContent] at hc

theorem replayMessages_toolCallItems (requestID : String) (tcs : List ToolCall) :
    replayMessages supportsDeveloperRole (tcs.map (toolCallItem requestID)) =
      tcs.map fun tc => callMessage { tc with type := "function" } := by
  induction tcs with
  | nil => rfl
  | cons tc tcs ih =>
    rw [List.map_cons, List.map_cons, ← ih, replayMessages, List.filterMap_cons,
      convert_echo_functionCall supportsDeveloperRole rfl]
    rfl

theorem replayMessages_webSearchItems (calls : List WebSearchCall) :
    replayMessages supportsDeveloperRole (buildWebSearchOutputItems calls) = [] :=
  List.filterMap_eq_nil_iff.mpr fun o ho => by
    obtain ⟨call, -, rfl⟩ := List.mem_map.mp ho
    simp [convertInputItemToMessage, echoItem]

/-- The output of `ConvertResponse` sent back in `input`, with or without the
`web_search_call` items `ConvertResponseWithWebSearch` puts first: each tool call of the
first choice comes back as an assistant message of its own, typed `function`, and the
message as a message of its role with no content, where the stored history keeps the first
choice's message as it came. -/
theorem replayMessages_convertResponse (resp : ChatCompletionResponse) (requestID : String)
    (calls : List WebSearchCall) :
    replayMessages supportsDeveloperRole (convertResponseWithWebSearch resp requestID calls).output =
        replayMessages supportsDeveloperRole (convertResponse resp requestID).output ∧
      replayMessages supportsDeveloperRole (convertResponse resp requestID).output =
        resp.choices.head?.toList.flatMap fun choice =>
          choice.message.toolCalls.map (fun tc => callMessage { tc with type := "function" }) ++
            if choice.message.role = "" then []
            else [{ role := if choice.message.role = "developer" ∧ supportsDeveloperRole = false then "user"
                      else choice.message.role }] := by
  refine ⟨by rw [output_convertResponseWithWebSearch, replayMessages_append,
    replayMessages_webSearchItems, List.nil_append, output_convertResponse], ?_⟩
  rw [output_convertResponse]
  cases resp.choices with
  | nil => rfl
  | cons choice rest =>
    simp only [responseOutput, replayMessages_append, replayMessages_toolCallItems, List.head?_cons,
      Option.toList_some, List.flatMap_singleton]
    rw [replayMessages, List.filterMap_cons, convert_echo_message supportsDeveloperRole rfl
      fun _ => type_of_mem_outputContent]
    simp only [messageOutputItem]
    split_ifs <;> rfl

/-! ## The streaming path -/

variable {responseID : String}

/-- The `done` items of a run: the map's items in range order and the message, if a `[DONE]`
line came, and none otherwise; `s` is the state before the first `[DONE]`. -/
theorem doneItems_handleStreamingResponse (doneOrder resultOrder : RangeOrder (Int × OutputItem))
    (body : UpstreamStream) :
    let s := scan responseID doneOrder (initialState responseID) (beforeDone body.lines)
    doneItems (handleStreamingResponse responseID doneOrder resultOrder body).1 =
        (if .done ∈ body.lines then (doneOrder.range s.toolCalls).map (·.2) ++
          [messageDoneItem responseID s.outputText] else []) ∧
      (handleStreamingResponse responseID doneOrder resultOrder body).2.toolCalls =
        (resultOrder.range s.toolCalls).map Prod.snd := by
  have h := @scan_beforeDone_inv responseID doneOrder body.lines
  refine ⟨?_, ?_⟩
  · rw [events_handleStreamingResponse]
    split
    · exact doneItems_closed doneOrder h
    · rw [List.append_nil, doneItems_eq_nil h]
  · simp only [handleStreamingResponse]
    rw [scan_eq]
    split <;> rfl

/-- The `done` items of a stream sent back in `input`: each tool call comes back as an
assistant message of its own and the message as an assistant message with no content.  The
calls are those of the assistant message `handleStreamingResponse` stores for the turn, in
the order of the other map range; the stored message's text is not among them. -/
theorem replayMessages_handleStreamingResponse (doneOrder resultOrder : RangeOrder (Int × OutputItem))
    (body : UpstreamStream) :
    let out : List StreamEvent × StreamResult := handleStreamingResponse responseID doneOrder resultOrder body
    ∃ calls : List ToolCall, calls.Perm (streamAssistantMessage out.2).toolCalls ∧
      replayMessages supportsDeveloperRole (doneItems out.1) =
        if .done ∈ body.lines then calls.map callMessage ++ [{ role := "assistant" }] else [] := by
  intro out
  obtain ⟨hdone, hcalls⟩ := @doneItems_handleStreamingResponse responseID doneOrder resultOrder body
  set s := scan responseID doneOrder (initialState responseID) (beforeDone body.lines)
  have h := @scan_beforeDone_inv responseID doneOrder body.lines
  refine ⟨(doneOrder.range s.toolCalls).map (itemCall ·.2), ?_, ?_⟩
  · have hperm := ((doneOrder.range_perm s.toolCalls).trans (resultOrder.range_perm s.toolCalls).symm).map
      (itemCall ·.2)
    simpa [streamAssistantMessage, out, hcalls, itemCall, List.map_map, Function.comp_def] using hperm
  · simp only [out, hdone]
    split
    · have htools : replayMessages supportsDeveloperRole ((doneOrder.range s.toolCalls).map (·.2)) =
          (doneOrder.range s.toolCalls).map (callMessage ∘ (itemCall ·.2)) := by
        rw [replayMessages, List.filterMap_map]
        exact List.filterMap_eq_map_iff_forall_eq_some.mpr fun e he =>
          convert_echo_functionCall supportsDeveloperRole (range_toolCalls_type doneOrder h e he)
      have hmsg : replayMessages supportsDeveloperRole [messageDoneItem responseID s.outputText] =
          [{ role := "assistant" }] := by
        rw [replayMessages, List.filterMap_cons, convert_echo_message supportsDeveloperRole rfl
          (by simp [messageDoneItem])]
        simp [messageDoneItem]
      rw [replayMessages_append, htools, List.map_map, hmsg]
    · rfl

end Responses2Chat.Handler
