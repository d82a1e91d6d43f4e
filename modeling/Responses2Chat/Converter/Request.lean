import Responses2Chat.Models

/-!
# Request translation

`ConvertRequest` (`internal/converter/streaming.go`, the version with history and the
developer-role flag) builds the Chat Completions request from a Responses request.  Its
message list is the instructions' system message, when there is one to add, then the
history, then the input items that `convertInputItemToMessage` keeps, each turned into one
message.  `messages_convertRequest` says so, and the rest of the file is read off it.

* `ToolCallClosed` is the shape Chat Completions providers require of a message list: every
  assistant message that carries tool calls is followed at once by one tool message per
  call, with the calls' ids.
* `convertRequest_toolCallClosed` proves the list closed when each `function_call` item is
  answered by the next item that is kept, and `convertRequest_parallelCalls_not_closed`
  shows that a run of two calls followed by their two outputs is not: each call becomes an
  assistant message of its own, and the first is followed by the second.
* `convertRequest_messages` is the message list in the spec's terms: the converted items are
  the convertible ones, one message each, in order.  `messageItemContent_eq` says the fast
  path of a single `input_text` item agrees with the filtering path, and
  `convertMessageItem_content` reads the content off the recognized parts.
-/

namespace Responses2Chat.Converter

open Responses2Chat.Models

/-! ## The translation -/

/-- `WebSearchFunctionTool`, the function declaration injected for a `web_search` tool.
`parameters` is the schema as `json.Marshal` writes it. -/
def webSearchFunctionTool : ChatTool where
  type := "function"
  function :=
    { name := "web_search"
      description := "搜索互联网获取实时信息，如新闻、天气、股价等。当用户询问实时信息时使用此工具。"
      parameters := "\x7b\"properties\":\x7b\"query\":\x7b\"description\":\"搜索关键词或问题\",\"type\":\"string\"\x7d\x7d,\"required\":[\"query\"],\"type\":\"object\"\x7d" }

/-- One case of the multimodal loop of `convertMessageItem`: `input_text` and `input_image`
parts are converted, other types are skipped. -/
def convertContentPart (c : ContentItem) : Option ChatContentPart :=
  if c.type = "input_text" then some { type := "text", text := c.text }
  else if c.type = "input_image" then
    some { type := "image_url", imageURL := if c.imageURL = "" ∧ c.data ≠ "" then c.data else c.imageURL }
  else none

/-- The content `convertMessageItem` builds from the converted parts: one text part collapses
to a string, no part leaves the content `nil`. -/
def partsContent : List ChatContentPart → MessageContent
  | [] => .null
  | [p] => if p.type = "text" then .str p.text else .parts [p]
  | ps => .parts ps

/-- The content of a message item. -/
def messageItemContent : List ContentItem → MessageContent
  | [] => .null
  | [c] => if c.type = "input_text" then .str c.text else partsContent ([c].filterMap convertContentPart)
  | cs => partsContent (cs.filterMap convertContentPart)

/-- `convertMessageItem`. -/
def convertMessageItem (item : InputItem) (supportsDeveloperRole : Bool) : Option ChatMessage :=
  if item.role = "" then none
  else
    let role := if item.role = "developer" ∧ supportsDeveloperRole = false then "user" else item.role
    some { role := role, content := messageItemContent item.content }

/-- `convertFunctionCallItem`: an assistant message with exactly one tool call. -/
def convertFunctionCallItem (item : InputItem) : ChatMessage where
  role := "assistant"
  toolCalls := [{ id := item.callID, type := "function",
                  function := { name := item.name, arguments := item.arguments } }]

/-- `convertFunctionCallOutputItem`: a tool message answering `item.callID`. -/
def convertFunctionCallOutputItem (item : InputItem) : ChatMessage where
  role := "tool"
  content := .str item.output
  toolCallID := item.callID

/-- `convertInputItemToMessage`; `none` is Go's `nil`. -/
def convertInputItemToMessage (item : InputItem) (supportsDeveloperRole : Bool) : Option ChatMessage :=
  if item.type = "message" then convertMessageItem item supportsDeveloperRole
  else if item.type = "function_call" then some (convertFunctionCallItem item)
  else if item.type = "function_call_output" then some (convertFunctionCallOutputItem item)
  else none

/-- The system message built from `instructions`, when `ConvertRequest` adds one: only for
non-empty instructions and a history without a system message. -/
def instructionsMessage (req : ResponsesRequest) (history : List ChatMessage) : List ChatMessage :=
  if req.instructions ≠ "" ∧ (history.any fun m => m.role = "system") = false then
    [{ role := "system", content := .str req.instructions }]
  else []

/-- One case of the tool loop of `ConvertRequest`. -/
def convertTool (tool : Tool) : Option ChatTool :=
  if tool.type = "web_search" then some webSearchFunctionTool
  else if tool.type = "function" ∧ tool.function.name ≠ "" then
    some { type := tool.type, function := tool.function }
  else none

/-- `ConvertRequest`.  `modelMapping` is the lookup in the configured map, and the second
component is `hasWebSearchTool`. -/
def convertRequest (req : ResponsesRequest) (modelMapping : String → Option String)
    (history : List ChatMessage) (supportsDeveloperRole : Bool) : ChatCompletionRequest × Bool :=
  let messages := instructionsMessage req history ++ history
  let messages := messages ++ req.input.filterMap (convertInputItemToMessage · supportsDeveloperRole)
  ({ model := (modelMapping req.model).getD req.model
     messages := messages
     tools := req.tools.filterMap convertTool
     stream := req.stream
     temperature := req.temperature
     maxTokens := if req.maxTokens > 0 then req.maxTokens else 0 },
   req.tools.any fun t => t.type = "web_search")

/-- The message list of `ConvertRequest`: instructions, history, converted input. -/
theorem messages_convertRequest (req : ResponsesRequest) (modelMapping : String → Option String)
    (history : List ChatMessage) (flag : Bool) :
    (convertRequest req modelMapping history flag).1.messages =
      instructionsMessage req history ++ history ++
        req.input.filterMap (convertInputItemToMessage · flag) := rfl

@[simp] theorem convertFunctionCallItem_toolCalls (item : InputItem) :
    (convertFunctionCallItem item).toolCalls =
      [{ id := item.callID, type := "function",
         function := { name := item.name, arguments := item.arguments } }] := rfl

/-- Only a `function_call` item gives a message with tool calls. -/
theorem toolCalls_convertInputItemToMessage {item : InputItem} {flag : Bool} {m : ChatMessage}
    (h : convertInputItemToMessage item flag = some m) (hc : item.type ≠ "function_call") :
    m.toolCalls = [] := by
  unfold convertInputItemToMessage convertMessageItem at h
  split_ifs at h <;> cases h <;> rfl

/-! ## Tool-call-closed message lists -/

/-- The messages after an assistant message that carries `calls` answer them: the next
`calls.length` messages are tool messages whose `tool_call_id`s are the calls' ids. -/
def AnsweredBy (calls : List ToolCall) (next : List ChatMessage) : Prop :=
  calls.length ≤ next.length ∧ (∀ m ∈ next.take calls.length, m.role = "tool") ∧
    ((next.take calls.length).map (·.toolCallID)).Perm (calls.map (·.id))

instance (calls : List ToolCall) (next : List ChatMessage) : Decidable (AnsweredBy calls next) :=
  inferInstanceAs (Decidable (_ ∧ _ ∧ _))

/-- Every assistant message that carries tool calls is answered right after it. -/
def ToolCallClosed : List ChatMessage → Prop
  | [] => True
  | m :: rest =>
    (m.role = "assistant" → m.toolCalls ≠ [] → AnsweredBy m.toolCalls rest) ∧ ToolCallClosed rest

/-- Decides `ToolCallClosed` message by message. -/
def ToolCallClosed.dec : (ms : List ChatMessage) → Decidable (ToolCallClosed ms)
  | [] => isTrue trivial
  | _ :: rest =>
    have := ToolCallClosed.dec rest
    inferInstanceAs (Decidable ((_ → _ → _) ∧ ToolCallClosed rest))

instance : DecidablePred ToolCallClosed := ToolCallClosed.dec

@[simp] theorem toolCallClosed_nil : ToolCallClosed [] := trivial

theorem toolCallClosed_cons_of_toolCalls_nil {m : ChatMessage} {rest : List ChatMessage}
    (hm : m.toolCalls = []) (h : ToolCallClosed rest) : ToolCallClosed (m :: rest) :=
  ⟨fun _ hne => absurd hm hne, h⟩

/-! ## Closed lists from answered calls -/

/-- `convertInputItemToMessage` keeps the item. -/
def Kept (flag : Bool) (item : InputItem) : Prop := (convertInputItemToMessage item flag).isSome

/-- Each `function_call` item is answered by the next item that is kept, a
`function_call_output` item with the same call id. -/
def CallsAnswered (flag : Bool) : List InputItem → Prop
  | [] => True
  | item :: rest =>
    (item.type = "function_call" →
      ∃ pre out post, rest = pre ++ out :: post ∧ (∀ i ∈ pre, ¬ Kept flag i) ∧
        out.type = "function_call_output" ∧ out.callID = item.callID) ∧
    CallsAnswered flag rest

private theorem filterMap_dropped {flag : Bool} {pre : List InputItem} (h : ∀ i ∈ pre, ¬ Kept flag i) :
    pre.filterMap (convertInputItemToMessage · flag) = [] := by
  refine List.filterMap_eq_nil_iff.mpr fun i hi => ?_
  simpa [Kept] using h i hi

private theorem closed_filterMap (flag : Bool) :
    ∀ items : List InputItem, CallsAnswered flag items →
      ToolCallClosed (items.filterMap (convertInputItemToMessage · flag))
  | [], _ => trivial
  | item :: rest, ⟨hans, hrest⟩ => by
    have ih := closed_filterMap flag rest hrest
    rw [List.filterMap_cons]
    split
    · exact ih
    · rename_i m hm
      by_cases hc : item.type = "function_call"
      · obtain ⟨pre, out, post, rfl, hpre, hout, hid⟩ := hans hc
        have hmsg : m = convertFunctionCallItem item := by
          simpa [convertInputItemToMessage, hc, eq_comm] using hm
        have hconv : convertInputItemToMessage out flag = some (convertFunctionCallOutputItem out) := by
          simp [convertInputItemToMessage, hout]
        refine ⟨fun _ _ => ?_, ih⟩
        rw [List.filterMap_append, filterMap_dropped hpre, List.filterMap_cons, hconv, hmsg]
        simp [AnsweredBy, convertFunctionCallOutputItem, hid]
      · exact toolCallClosed_cons_of_toolCalls_nil (toolCalls_convertInputItemToMessage hm hc) ih

/-- With an empty history, `ConvertRequest` gives a tool-call-closed message list whenever
each `function_call` item is answered by the next item it keeps. -/
theorem convertRequest_toolCallClosed (req : ResponsesRequest) (modelMapping : String → Option String)
    (flag : Bool) (h : CallsAnswered flag req.input) :
    ToolCallClosed (convertRequest req modelMapping [] flag).1.messages := by
  rw [messages_convertRequest, List.append_nil]
  unfold instructionsMessage
  split
  · exact toolCallClosed_cons_of_toolCalls_nil rfl (closed_filterMap flag _ h)
  · exact closed_filterMap flag _ h

/-- Two calls each answered at once, `[function_call c1, function_call_output c1,
function_call c2, function_call_output c2]`, give a closed list. -/
theorem convertRequest_sequentialCalls_closed :
    CallsAnswered false
        [{ type := "function_call", callID := "c1", name := "f" },
         { type := "function_call_output", callID := "c1", output := "r1" },
         { type := "function_call", callID := "c2", name := "f" },
         { type := "function_call_output", callID := "c2", output := "r2" }] ∧
      ToolCallClosed (convertRequest
        { model := "m",
          input := [{ type := "function_call", callID := "c1", name := "f" },
                    { type := "function_call_output", callID := "c1", output := "r1" },
                    { type := "function_call", callID := "c2", name := "f" },
                    { type := "function_call_output", callID := "c2", output := "r2" }] }
        (fun _ => none) [] false).1.messages := by
  refine ⟨?_, convertRequest_toolCallClosed _ _ _ ?_⟩ <;>
    exact ⟨fun _ => ⟨[], _, _, rfl, nofun, rfl, rfl⟩, fun h => absurd h (by decide),
      fun _ => ⟨[], _, _, rfl, nofun, rfl, rfl⟩, fun h => absurd h (by decide), trivial⟩

/-- Parallel calls sent as `[function_call c1, function_call c2, function_call_output c1,
function_call_output c2]` are well paired, yet the message list is not closed: the assistant
message of `c1` is followed by the one of `c2`. -/
theorem convertRequest_parallelCalls_not_closed :
    ¬ ToolCallClosed (convertRequest
        { model := "m",
          input := [{ type := "function_call", callID := "c1", name := "f" },
                    { type := "function_call", callID := "c2", name := "f" },
                    { type := "function_call_output", callID := "c1", output := "r1" },
                    { type := "function_call_output", callID := "c2", output := "r2" }] }
        (fun _ => none) [] false).1.messages := by
  decide

/-! ## The message list against the spec -/

/-- The input items the spec says are converted: messages with a role, function calls and
their outputs. -/
def isConvertible (item : InputItem) : Bool :=
  (item.type = "message" ∧ item.role ≠ "") ∨ item.type = "function_call" ∨ item.type = "function_call_output"

/-- `m` is what the input item converts to; a message item keeps its role, except that
`developer` becomes `user` for a provider without that role. -/
def ConvertsTo (flag : Bool) (item : InputItem) (m : ChatMessage) : Prop :=
  convertInputItemToMessage item flag = some m ∧
    (item.type = "message" → m.role = if item.role = "developer" ∧ flag = false then "user" else item.role)

theorem isSome_convertInputItemToMessage (item : InputItem) (flag : Bool) :
    (convertInputItemToMessage item flag).isSome = isConvertible item := by
  unfold convertInputItemToMessage convertMessageItem isConvertible
  split_ifs <;> simp_all

theorem convertsTo_of_eq_some {item : InputItem} {flag : Bool} {m : ChatMessage}
    (h : convertInputItemToMessage item flag = some m) : ConvertsTo flag item m := by
  refine ⟨h, fun hmsg => ?_⟩
  simp only [convertInputItemToMessage, hmsg, if_true, convertMessageItem] at h
  split_ifs at h with _ hdev <;> cases h
  · exact (if_pos hdev).symm
  · exact (if_neg hdev).symm

/-- The kept items are the convertible ones, each converted to one message, in order. -/
theorem forall₂_filterMap_convert (flag : Bool) :
    ∀ input : List InputItem,
      List.Forall₂ (ConvertsTo flag) (input.filter isConvertible) (input.filterMap (convertInputItemToMessage · flag))
  | [] => .nil
  | item :: rest => by
    have hsome := isSome_convertInputItemToMessage item flag
    rcases h : convertInputItemToMessage item flag with _ | m
    · rw [h, Option.isSome_none, eq_comm] at hsome
      rw [List.filter_cons_of_neg (by simp [hsome]), List.filterMap_cons, h]
      exact forall₂_filterMap_convert flag rest
    · rw [h, Option.isSome_some, eq_comm] at hsome
      rw [List.filter_cons_of_pos hsome, List.filterMap_cons, h]
      exact .cons (convertsTo_of_eq_some h) (forall₂_filterMap_convert flag rest)

/-- `ConvertRequest`'s message list is the instructions' system message, present when the
instructions are non-empty and the history has no system message, then the history, then the
convertible input items, each converted to one message, in input order. -/
theorem convertRequest_messages (req : ResponsesRequest) (modelMapping : String → Option String)
    (history : List ChatMessage) (flag : Bool) :
    ∃ converted, (convertRequest req modelMapping history flag).1.messages =
        (if req.instructions ≠ "" ∧ ∀ m ∈ history, m.role ≠ "system" then
          [{ role := "system", content := .str req.instructions }] else []) ++ history ++ converted ∧
      List.Forall₂ (ConvertsTo flag) (req.input.filter isConvertible) converted := by
  refine ⟨_, ?_, forall₂_filterMap_convert flag req.input⟩
  simp [messages_convertRequest, instructionsMessage]

/-! ## Message content against the spec -/

/-- The content items the converter recognizes. -/
def isRecognizedPart (c : ContentItem) : Bool := c.type = "input_text" ∨ c.type = "input_image"

/-- The part the spec asks for a recognized item: the text of `input_text`, and for
`input_image` the `image_url` when it is non-empty and the `data` otherwise. -/
def expectedPart (c : ContentItem) : ChatContentPart :=
  if c.type = "input_text" then { type := "text", text := c.text }
  else { type := "image_url", imageURL := if c.imageURL ≠ "" then c.imageURL else c.data }

/-- The content the spec asks for, from the recognized parts `R`: `nil` for none, a string for
exactly one text part, and otherwise the parts of `R`, none of them of another type. -/
def CanonicalContent (R : List ContentItem) (content : MessageContent) : Prop :=
  (content = .null ↔ R = []) ∧
    (∀ s, content = .str s ↔ ∃ c, R = [c] ∧ c.type = "input_text" ∧ c.text = s) ∧
    ∀ ps, content = .parts ps → ps ≠ [] ∧ ps = R.map expectedPart ∧ ∀ p ∈ ps, p.type = "text" ∨ p.type = "image_url"

theorem convertContentPart_eq (c : ContentItem) :
    convertContentPart c = if isRecognizedPart c then some (expectedPart c) else none := by
  unfold convertContentPart isRecognizedPart expectedPart
  by_cases ht : c.type = "input_text" <;> by_cases hi : c.type = "input_image" <;>
    by_cases hu : c.imageURL = "" <;> simp_all

theorem filterMap_convertContentPart (cs : List ContentItem) :
    cs.filterMap convertContentPart = (cs.filter isRecognizedPart).map expectedPart := by
  induction cs with
  | nil => rfl
  | cons c cs ih =>
    rw [List.filterMap_cons, convertContentPart_eq]
    by_cases hc : isRecognizedPart c <;> simp [hc, ih]

/-- The fast path for a single `input_text` item agrees with the filtering path. -/
theorem messageItemContent_eq (cs : List ContentItem) :
    messageItemContent cs = partsContent ((cs.filter isRecognizedPart).map expectedPart) := by
  match cs with
  | [] => rfl
  | [c] =>
    simp only [messageItemContent]
    split_ifs with ht
    · simp [isRecognizedPart, ht, partsContent, expectedPart]
    · rw [filterMap_convertContentPart]
  | c :: d :: cs => simp only [messageItemContent, filterMap_convertContentPart]

theorem expectedPart_type (c : ContentItem) :
    (expectedPart c).type = "text" ∨ (expectedPart c).type = "image_url" := by
  unfold expectedPart
  split_ifs <;> simp

theorem canonicalContent_partsContent (R : List ContentItem) :
    CanonicalContent R (partsContent (R.map expectedPart)) := by
  have htypes : ∀ p ∈ R.map expectedPart, p.type = "text" ∨ p.type = "image_url" := by
    simp only [List.mem_map]
    rintro p ⟨c, -, rfl⟩
    exact expectedPart_type c
  match R with
  | [] => simp [CanonicalContent, partsContent]
  | [c] =>
    by_cases ht : c.type = "input_text"
    · refine ⟨by simp [partsContent, expectedPart, ht], fun s => ?_, by simp [partsContent, expectedPart, ht]⟩
      simp [partsContent, expectedPart, ht, eq_comm]
    · have hne : (expectedPart c).type ≠ "text" := by simp [expectedPart, ht]
      refine ⟨by simp [partsContent, hne], by simp [partsContent, hne, ht], fun ps h => ?_⟩
      simp only [partsContent, List.map_cons, List.map_nil, hne, if_false, MessageContent.parts.injEq] at h
      exact ⟨by simp [← h], h.symm, h ▸ htypes⟩
  | c :: d :: R =>
    refine ⟨by simp [partsContent], by simp [partsContent], fun ps h => ?_⟩
    simp only [partsContent, List.map_cons, MessageContent.parts.injEq] at h
    exact ⟨by simp [← h], h.symm, h ▸ htypes⟩

/-- A message item with a role converts, and its content is read off the recognized parts:
`nil` for none, the text of a single text part, and otherwise the recognized parts in order,
each a text or an image part. -/
theorem convertMessageItem_content (item : InputItem) (flag : Bool) (hrole : item.role ≠ "") :
    ∃ m, convertMessageItem item flag = some m ∧
      CanonicalContent (item.content.filter isRecognizedPart) m.content := by
  rw [convertMessageItem, if_neg hrole]
  refine ⟨_, rfl, ?_⟩
  rw [messageItemContent_eq]
  exact canonicalContent_partsContent _

/-- A message item with a text part, an image given by its data, and a part of a type the
converter does not know. -/
def mixedContentItem : InputItem :=
  { type := "message", role := "user",
    content := [{ type := "input_text", text := "look" }, { type := "input_image", data := "data:image/png;base64,AAAA" },
      { type := "input_file" }] }

theorem convertMessageItem_content_mixed :
    mixedContentItem.role ≠ "" ∧ ∃ m, convertMessageItem mixedContentItem false = some m ∧
      CanonicalContent (mixedContentItem.content.filter isRecognizedPart) m.content :=
  ⟨by decide, convertMessageItem_content mixedContentItem false (by decide)⟩

end Responses2Chat.Converter
