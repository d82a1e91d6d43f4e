import Responses2Chat.Models
import Responses2Chat.GoRuntime

/-!
# The stream converter

`HandleStreamingResponse` (`internal/converter/streaming.go`) reads the upstream delta stream
line by line and writes Responses events while it accumulates the turn's text and tool calls.
This file is its model.

* `ChunkLine` is a line as the loop sees it after the `data:` prefix, the `[DONE]` test and
  `json.Unmarshal`; `classifyLine` is that reading of a raw line.
* `StreamState` holds the loop variables `outputText`, `currentToolID`, `toolCalls` and
  `messageItemAdded`, and the events written so far.  Its field `toolCalls_keys` is the
  invariant of the `toolCalls` map: its keys are the slots `0 .. currentToolID - 1`, in the
  order they were filled.
* `StreamState.addText`, `StreamState.addToolCall` and `StreamState.finish` are the three
  branches of the loop body, `scan` is the loop, and `handleStreamingResponse` the function.

A tool-call delta is looked up under `hashToolCallID` of its id, or under `currentToolID`
when it has none, but a new item is always stored under `currentToolID`.  The model keeps
that difference: it is what the aggregate properties turn on.  Both `range` statements over
the map take a `RangeOrder` of their own.
-/

namespace Responses2Chat.Converter

open Responses2Chat.Models Responses2Chat.GoRuntime

/-! ## Lines -/

/-- A line of the upstream body as the loop of `HandleStreamingResponse` reads it. -/
inductive ChunkLine where
  /-- A line without the `data:` prefix: `continue`. -/
  | skipped
  /-- The `[DONE]` sentinel. -/
  | done
  /-- A payload that `json.Unmarshal` rejects: logged, `continue`. -/
  | malformed
  /-- A decoded chunk. -/
  | chunk (c : ChatCompletionChunk)
  deriving DecidableEq, Repr

/-- The payload of a `data: ` or `data:` line. -/
def dataPayload (line : String) : Option String :=
  if line.startsWith "data: " then some (line.drop 6)
  else if line.startsWith "data:" then some (line.drop 5)
  else none

/-- The reading of one raw line; `unmarshal` is `json.Unmarshal` into a chunk. -/
def classifyLine (unmarshal : String → Option ChatCompletionChunk) (line : String) : ChunkLine :=
  match dataPayload line with
  | none => .skipped
  | some data =>
    if data = "[DONE]" then .done
    else match unmarshal data with
      | none => .malformed
      | some c => .chunk c

/-- Why `scanner.Scan()` returned `false`. -/
inductive ScanEnd where
  | eof
  | readError
  /-- A line beyond the scanner's 1 MiB buffer. -/
  | tooLong
  deriving DecidableEq, Repr

/-- The lines the scanner delivered, then why it stopped. -/
structure UpstreamStream where
  lines : List ChunkLine
  scanEnd : ScanEnd := .eof
  deriving DecidableEq, Repr

/-! ## Items and ids -/

/-- `fmt.Sprintf("msg-%s", responseID)`. -/
def messageItemID (responseID : String) : String := "msg-" ++ responseID

/-- `fmt.Sprintf("fc-%s-%d", responseID, currentToolID)`. -/
def toolItemID (responseID : String) (n : Nat) : String := "fc-" ++ responseID ++ "-" ++ Nat.repr n

theorem toolItemID_injective (responseID : String) : Function.Injective (toolItemID responseID) :=
  fun a b h => by
    simp only [toolItemID, String.ext_iff, String.data_append, List.append_assoc,
      List.append_cancel_left_eq] at h
    exact repr_injective (String.ext h)

theorem messageItemID_ne_toolItemID (responseID : String) (n : Nat) :
    messageItemID responseID ≠ toolItemID responseID n := fun h => by
  have := congrArg (fun s => s.data.head?) h
  simp [messageItemID, toolItemID] at this

/-- `hashToolCallID`: `hash*31 + rune` over the runes, in Go's 64-bit `int`, then the
absolute value (which leaves the most negative `int` negative). -/
def hashToolCallID (id : String) : Int :=
  let hash : BitVec 64 := id.toList.foldl (fun hash c => hash * 31 + BitVec.ofNat 64 c.toNat) 0
  if hash.toInt < 0 then (-hash).toInt else hash.toInt

/-- The message item announced on the first text delta. -/
def messageAddedItem (responseID : String) : OutputItem :=
  { type := "message", id := messageItemID responseID, role := "assistant", status := "in_progress" }

/-- The message item of the `[DONE]` branch, with the accumulated text. -/
def messageDoneItem (responseID outputText : String) : OutputItem :=
  { type := "message", id := messageItemID responseID, role := "assistant",
    content := [{ type := "output_text", text := outputText }], status := "completed" }

/-- The item allocated for a tool-call delta whose key is not in the map. -/
def newToolItem (responseID : String) (n : Nat) (tc : ToolCall) : OutputItem :=
  { type := "function_call", id := toolItemID responseID n, callID := tc.id, status := "in_progress" }

/-- The update of a tool-call item by one delta: a name replaces, arguments append. -/
def updateToolCall (item : OutputItem) (tc : ToolCall) : OutputItem :=
  let item := if tc.function.name ≠ "" then { item with name := tc.function.name } else item
  if tc.function.arguments ≠ "" then { item with arguments := item.arguments ++ tc.function.arguments }
  else item

/-- The `response.created` event. -/
def createdEvent (responseID : String) : StreamEvent :=
  .responseCreated { id := "resp-" ++ responseID, status := "in_progress" }

/-- The response of the `response.completed` event. -/
def completedResponse (responseID : String) : ResponsesResponse :=
  { id := "resp-" ++ responseID, status := "completed" }

/-! ## The loop -/

/-- The variables of the loop of `HandleStreamingResponse`, and the events written. -/
structure StreamState where
  outputText : String
  currentToolID : Nat
  toolCalls : List (Int × OutputItem)
  messageItemAdded : Bool
  written : List StreamEvent
  toolCalls_keys : toolCalls.map Prod.fst = (List.range currentToolID).map Int.ofNat

/-- The state after `response.created` is written. -/
def initialState (responseID : String) : StreamState where
  outputText := ""
  currentToolID := 0
  toolCalls := []
  messageItemAdded := false
  written := [createdEvent responseID]
  toolCalls_keys := rfl

/-- The map key of a tool-call delta: the hash of its id, or `currentToolID`. -/
def toolCallKey (s : StreamState) (tc : ToolCall) : Int :=
  if tc.id ≠ "" then hashToolCallID tc.id else s.currentToolID

theorem currentToolID_not_mem_keys (s : StreamState) :
    (s.currentToolID : Int) ∉ s.toolCalls.map Prod.fst := by
  rw [s.toolCalls_keys]
  simp

/-- The text branch: the message item is announced on the first text delta, then the delta
is appended and written. -/
def StreamState.addText (responseID : String) (s : StreamState) (content : String) : StreamState :=
  let s : StreamState :=
    if s.messageItemAdded then s
    else { s with messageItemAdded := true,
                  written := s.written ++ [.outputItemAdded (messageAddedItem responseID)] }
  { s with outputText := s.outputText ++ content, written := s.written ++ [.outputTextDelta content 0] }

/-- One iteration of the tool-call loop.  A key found in the map updates its item; otherwise a
new item is stored under `currentToolID`, announced, and updated. -/
def StreamState.addToolCall (responseID : String) (s : StreamState) (tc : ToolCall) : StreamState :=
  match lookup (toolCallKey s tc) s.toolCalls with
  | some _ =>
    { s with
      toolCalls := mapModify s.toolCalls (toolCallKey s tc) (updateToolCall · tc)
      toolCalls_keys := by rw [mapModify_keys]; exact s.toolCalls_keys }
  | none =>
    { s with
      toolCalls := mapSet s.toolCalls s.currentToolID
        (updateToolCall (newToolItem responseID s.currentToolID tc) tc)
      currentToolID := s.currentToolID + 1
      written := s.written ++ [.outputItemAdded (newToolItem responseID s.currentToolID tc)]
      toolCalls_keys := by
        rw [mapSet_of_not_mem (currentToolID_not_mem_keys s), List.map_append, s.toolCalls_keys,
          List.range_succ, List.map_append]
        rfl }

/-- The body of the loop for a decoded chunk. -/
def StreamState.addChunk (responseID : String) (s : StreamState) (chunk : ChatCompletionChunk) :
    StreamState :=
  match chunk.choices with
  | [] => s
  | choice :: _ =>
    let s := if choice.delta.content ≠ "" then s.addText responseID choice.delta.content else s
    choice.delta.toolCalls.foldl (StreamState.addToolCall responseID) s

/-- The `[DONE]` branch: one `done` event per map entry in the order of `order`, the message's
`done` event, and `response.completed`. -/
def StreamState.finish (responseID : String) (order : RangeOrder (Int × OutputItem))
    (s : StreamState) : StreamState :=
  { s with
    written := s.written ++ (order.range s.toolCalls).map (fun e => .outputItemDone e.2) ++
      [.outputItemDone (messageDoneItem responseID s.outputText),
       .responseCompleted (completedResponse responseID)] }

/-- The scanner loop: it stops after the first `[DONE]` line or at the end of the lines. -/
def scan (responseID : String) (order : RangeOrder (Int × OutputItem)) :
    StreamState → List ChunkLine → StreamState
  | s, [] => s
  | s, .done :: _ => s.finish responseID order
  | s, .chunk c :: lines => scan responseID order (s.addChunk responseID c) lines
  | s, .skipped :: lines => scan responseID order s lines
  | s, .malformed :: lines => scan responseID order s lines

/-- `StreamResult`. -/
structure StreamResult where
  outputText : String
  toolCalls : List OutputItem
  deriving DecidableEq, Repr

/-- `HandleStreamingResponse`: the events it writes, and the result it returns.  The scanner's
error is only logged, so `scanEnd` does not reach the result.  `doneOrder` and `resultOrder`
are the orders of the two `range` statements over `toolCalls`. -/
def handleStreamingResponse (responseID : String) (doneOrder resultOrder : RangeOrder (Int × OutputItem))
    (body : UpstreamStream) : List StreamEvent × StreamResult :=
  let s := scan responseID doneOrder (initialState responseID) body.lines
  (s.written, { outputText := s.outputText, toolCalls := (resultOrder.range s.toolCalls).map Prod.snd })

end Responses2Chat.Converter
