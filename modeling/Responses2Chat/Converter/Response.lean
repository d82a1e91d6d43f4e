import Responses2Chat.Models

/-!
# Response translation

`ConvertResponse` (`internal/converter/streaming.go`) turns a non-streaming Chat Completions
reply into a Responses response: one `function_call` item per tool call of the first choice,
in order, then the message item.  `output_convertResponse` is that equation, and the
streaming and web-search files compare their own item orders with it.
-/

namespace Responses2Chat.Converter

open Responses2Chat.Models

/-- The content of the message item: a non-empty string becomes one `output_text` part. -/
def outputContent : MessageContent → List ContentItem
  | .str v => if v ≠ "" then [{ type := "output_text", text := v }] else []
  | _ => []

/-- The `function_call` item of one tool call.  Every such item of one response has the id
`fc-<requestID>`. -/
def toolCallItem (requestID : String) (tc : ToolCall) : OutputItem where
  type := "function_call"
  id := "fc-" ++ requestID
  callID := tc.id
  name := tc.function.name
  arguments := tc.function.arguments
  status := "completed"

/-- The message item of the first choice. -/
def messageOutputItem (requestID : String) (message : ChatMessage) : OutputItem where
  type := "message"
  id := "msg-" ++ requestID
  role := message.role
  content := outputContent message.content

/-- The output list: the tool calls of the first choice, then its message. -/
def responseOutput (requestID : String) : List ChatChoice → List OutputItem
  | [] => []
  | choice :: _ =>
    choice.message.toolCalls.map (toolCallItem requestID) ++ [messageOutputItem requestID choice.message]

/-- `ConvertResponse`. -/
def convertResponse (resp : ChatCompletionResponse) (requestID : String) : ResponsesResponse where
  id := "resp-" ++ requestID
  object := "response"
  createdAt := resp.created
  status := "completed"
  model := resp.model
  output := responseOutput requestID resp.choices
  usage :=
    if resp.usage.totalTokens > 0 then
      { inputTokens := resp.usage.promptTokens, outputTokens := resp.usage.completionTokens,
        totalTokens := resp.usage.totalTokens }
    else {}

@[simp] theorem output_convertResponse (resp : ChatCompletionResponse) (requestID : String) :
    (convertResponse resp requestID).output = responseOutput requestID resp.choices := rfl

@[simp] theorem id_convertResponse (resp : ChatCompletionResponse) (requestID : String) :
    (convertResponse resp requestID).id = "resp-" ++ requestID := rfl

end Responses2Chat.Converter
