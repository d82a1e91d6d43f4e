import Mathlib.Data.List.Basic

/-!
# The wire data of the two protocols

`internal/models/models.go` and `internal/models/websearch.go` declare the request, response,
message and event records of the Responses API (the front protocol) and of the Chat
Completions API (the back protocol).  This file gives each record the fields that a modelled
function reads or writes, under the Go field names in Lean case.

Go's zero values are the defaults of the fields, so a record literal that leaves a field out
means what the same Go literal means.  JSON encoding is the identity on these records: two
values are equal as JSON exactly when they are equal here.  The one Go field whose dynamic
type matters, `ChatMessage.Content`, is the sum `MessageContent`.

The fields that no modelled function reads (`InputItem.ID`, `InputItem.Status`,
`ResponsesRequest.Truncation` and `Metadata`, the chunk's `ID`, `Object`, `Created`, `Model`,
`Index`, `FinishReason` and `Delta.Role`, the response's `ID` and `Object`, and a choice's
`Index` and `FinishReason`) are left out.
-/

namespace Responses2Chat.Models

/-! ## Responses API -/

/-- `ContentItem`: one typed part of a message, `input_text`, `input_image`, `output_text`. -/
structure ContentItem where
  type : String
  text : String := ""
  imageURL : String := ""
  data : String := ""
  deriving DecidableEq, Repr

/-- `InputItem`: one item of a request's `input` array.  `type` is `message`,
`function_call` or `function_call_output`. -/
structure InputItem where
  type : String
  role : String := ""
  content : List ContentItem := []
  callID : String := ""
  name : String := ""
  arguments : String := ""
  output : String := ""
  deriving DecidableEq, Repr

/-- `FunctionDef`.  `parameters` is the JSON schema, which is only copied, as its text. -/
structure FunctionDef where
  name : String
  description : String := ""
  parameters : String := ""
  strict : Option Bool := none
  deriving DecidableEq, Repr

/-- `Tool`: a tool declaration of the Responses API. -/
structure Tool where
  type : String
  function : FunctionDef := { name := "" }
  deriving DecidableEq, Repr

/-- `ResponsesRequest`, the incoming request. -/
structure ResponsesRequest where
  model : String
  instructions : String := ""
  input : List InputItem := []
  tools : List Tool := []
  stream : Bool := false
  temperature : Option Float := none
  maxTokens : Int := 0
  previousResponseID : String := ""

/-- `OutputItem`: one item of a response's `output` array. -/
structure OutputItem where
  type : String
  id : String
  role : String := ""
  content : List ContentItem := []
  callID : String := ""
  name : String := ""
  arguments : String := ""
  status : String := ""
  deriving DecidableEq, Repr

/-- `UsageInfo`. -/
structure UsageInfo where
  inputTokens : Int := 0
  outputTokens : Int := 0
  totalTokens : Int := 0
  deriving DecidableEq, Repr

/-- `ResponsesResponse`. -/
structure ResponsesResponse where
  id : String
  object : String := ""
  createdAt : Int := 0
  status : String := ""
  model : String := ""
  output : List OutputItem := []
  usage : UsageInfo := {}
  deriving DecidableEq, Repr

/-! ## Chat Completions API -/

/-- `ChatContentPart`.  `imageURL` is the nested `ImageURL.URL`. -/
structure ChatContentPart where
  type : String
  text : String := ""
  imageURL : String := ""
  deriving DecidableEq, Repr

/-- The dynamic type of `ChatMessage.Content`: `nil`, a `string`, or a list of parts. -/
inductive MessageContent where
  | null
  | str (s : String)
  | parts (ps : List ChatContentPart)
  deriving DecidableEq, Repr

/-- The anonymous `Function` record of a `ToolCall`. -/
structure FunctionCall where
  name : String := ""
  arguments : String := ""
  deriving DecidableEq, Repr

/-- `ToolCall`: a tool call in a message or in a stream delta. -/
structure ToolCall where
  id : String := ""
  type : String := ""
  function : FunctionCall := {}
  deriving DecidableEq, Repr

/-- `ChatMessage`. -/
structure ChatMessage where
  role : String
  content : MessageContent := .null
  name : String := ""
  toolCalls : List ToolCall := []
  toolCallID : String := ""
  deriving DecidableEq, Repr

/-- `ChatTool`. -/
structure ChatTool where
  type : String
  function : FunctionDef
  deriving DecidableEq, Repr

/-- `ChatCompletionRequest`, the request sent upstream. -/
structure ChatCompletionRequest where
  model : String
  messages : List ChatMessage := []
  tools : List ChatTool := []
  stream : Bool := false
  temperature : Option Float := none
  maxTokens : Int := 0

/-- `ChatChoice`. -/
structure ChatChoice where
  message : ChatMessage
  deriving DecidableEq, Repr

/-- `ChatUsage`. -/
structure ChatUsage where
  promptTokens : Int := 0
  completionTokens : Int := 0
  totalTokens : Int := 0
  deriving DecidableEq, Repr

/-- `ChatCompletionResponse`, a non-streaming upstream reply. -/
structure ChatCompletionResponse where
  created : Int := 0
  model : String := ""
  choices : List ChatChoice := []
  usage : ChatUsage := {}
  deriving DecidableEq, Repr

/-- `ChatDelta`: the increment one stream chunk carries. -/
structure ChatDelta where
  content : String := ""
  toolCalls : List ToolCall := []
  deriving DecidableEq, Repr

/-- `ChatChunkChoice`. -/
structure ChatChunkChoice where
  delta : ChatDelta
  deriving DecidableEq, Repr

/-- `ChatCompletionChunk`: one decoded `data:` line of an upstream stream. -/
structure ChatCompletionChunk where
  choices : List ChatChunkChoice := []
  deriving DecidableEq, Repr

/-! ## Stream events -/

/-- `ResponseSummary`. -/
structure ResponseSummary where
  id : String
  status : String := ""
  deriving DecidableEq, Repr

/-- The events `HandleStreamingResponse` writes, one constructor per Go event record.  The
SSE event name is always the record's `Type`. -/
inductive StreamEvent where
  | responseCreated (response : ResponseSummary)
  | outputItemAdded (item : OutputItem)
  | outputTextDelta (delta : String) (outputIndex : Nat)
  | outputItemDone (item : OutputItem)
  | responseCompleted (response : ResponsesResponse)
  deriving DecidableEq, Repr

/-- The item of a `response.output_item.added` event. -/
def StreamEvent.added? : StreamEvent → Option OutputItem
  | .outputItemAdded item => some item
  | _ => none

/-- The item of a `response.output_item.done` event. -/
def StreamEvent.done? : StreamEvent → Option OutputItem
  | .outputItemDone item => some item
  | _ => none

/-- The text of a `response.output_text.delta` event. -/
def StreamEvent.delta? : StreamEvent → Option String
  | .outputTextDelta d _ => some d
  | _ => none

/-- A `response.created` event. -/
def StreamEvent.isCreated : StreamEvent → Bool
  | .responseCreated _ => true
  | _ => false

/-- A `response.completed` event. -/
def StreamEvent.isCompleted : StreamEvent → Bool
  | .responseCompleted _ => true
  | _ => false

/-! ## Web search -/

/-- `SearchResult`. -/
structure SearchResult where
  title : String := ""
  url : String := ""
  content : String := ""
  snippet : String := ""
  deriving DecidableEq, Repr

/-- `SearchProviderResult`. -/
structure SearchProviderResult where
  query : String
  results : List SearchResult := []
  error : String := ""
  deriving DecidableEq, Repr

end Responses2Chat.Models
