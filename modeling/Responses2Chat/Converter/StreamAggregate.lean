import Responses2Chat.Converter.StreamTranscript
import Responses2Chat.Converter.Response

/-!
# What the stream converter returns

`HandleStreamingResponse` returns a `StreamResult`, which the proxy stores as the turn's
assistant message.  This file compares it with what the non-streaming path makes of the same
reply.

* `outputText_handleStreamingResponse`: the returned text is the concatenation of the
  contents of the chunks before the first `[DONE]` line, for every stream.
* `handleStreamingResponse_splits_fragments`: a tool call whose arguments come in two deltas
  comes back as two items.  The first delta's item is stored in slot `0` but looked up under
  `hashToolCallID` of its id, so the second delta, with or without the id, finds no item
  and allocates a new one.
* `handleStreamingResponse_reorders_toolCalls`: the `done` events and the returned tool
  calls follow the order of the map range, not the order the items were added in.
-/

namespace Responses2Chat.Converter

open Responses2Chat.Models Responses2Chat.GoRuntime

variable {responseID : String}

/-! ## The text -/

/-- The text the first choice of a chunk carries. -/
def chunkContent : ChunkLine → String
  | .chunk c =>
    match c.choices with
    | [] => ""
    | choice :: _ => choice.delta.content
  | _ => ""

theorem foldl_addToolCall_outputText (s : StreamState) (tcs : List ToolCall) :
    (tcs.foldl (StreamState.addToolCall responseID) s).outputText = s.outputText := by
  induction tcs generalizing s with
  | nil => rfl
  | cons tc tcs ih => rw [List.foldl_cons, ih, addToolCall_outputText]

theorem addChunk_outputText (s : StreamState) (c : ChatCompletionChunk) :
    (s.addChunk responseID c).outputText = s.outputText ++ chunkContent (.chunk c) := by
  unfold StreamState.addChunk
  rcases hc : c.choices with _ | ⟨choice, _⟩
  · simp [chunkContent, hc]
  · simp only [chunkContent, hc, foldl_addToolCall_outputText]
    split
    · exact (@addText_eq responseID s _).2.2.1
    · simp_all

theorem scan_outputText (order : RangeOrder (Int × OutputItem)) :
    ∀ (s : StreamState) (lines : List ChunkLine), .done ∉ lines →
      (scan responseID order s lines).outputText = s.outputText ++ String.join (lines.map chunkContent)
  | _, [], _ => by simp [scan, String.join]
  | _, .done :: _, hd => absurd (List.mem_cons_self _ _) hd
  | s, .chunk c :: lines, hd => by
    rw [scan, scan_outputText order _ lines fun h => hd (List.mem_cons_of_mem _ h), addChunk_outputText,
      List.map_cons, String.append_assoc, join_cons]
  | s, .skipped :: lines, hd => by
    rw [scan, scan_outputText order _ lines fun h => hd (List.mem_cons_of_mem _ h)]
    simp [chunkContent, String.join]
  | s, .malformed :: lines, hd => by
    rw [scan, scan_outputText order _ lines fun h => hd (List.mem_cons_of_mem _ h)]
    simp [chunkContent, String.join]

/-- The returned text is the concatenation of the contents of the chunks before the first
`[DONE]` line. -/
theorem outputText_handleStreamingResponse (responseID : String)
    (doneOrder resultOrder : RangeOrder (Int × OutputItem)) (body : UpstreamStream) :
    (handleStreamingResponse responseID doneOrder resultOrder body).2.outputText =
      String.join ((beforeDone body.lines).map chunkContent) := by
  simp only [handleStreamingResponse]
  rw [scan_eq]
  have h := @scan_outputText responseID doneOrder (initialState responseID)
    (beforeDone body.lines) (done_not_mem_beforeDone _)
  split <;> simpa [StreamState.finish, initialState] using h

/-! ## Tool calls -/

/-- A tool call whose arguments arrive in two deltas, the second without the id, comes back
as two items, while `ConvertResponse` of the same reply gives one.  The text, by contrast,
comes back whole from every stream (`outputText_handleStreamingResponse`). -/
theorem handleStreamingResponse_splits_fragments :
    let first : ToolCall := { id := "call_1", type := "function", function := { name := "f", arguments := "\x7b\"q\":" } }
    let second : ToolCall := { function := { arguments := "1\x7d" } }
    let whole : ToolCall := { id := "call_1", type := "function", function := { name := "f", arguments := "\x7b\"q\":1\x7d" } }
    let stream : UpstreamStream :=
      { lines := [.chunk { choices := [{ delta := { toolCalls := [first] } }] },
                  .chunk { choices := [{ delta := { toolCalls := [second] } }] }, .done] }
    let reply : ChatCompletionResponse :=
      { choices := [{ message := { role := "assistant", content := .str "", toolCalls := [whole] } }] }
    (handleStreamingResponse "r" .insertion .insertion stream).2.toolCalls.map
        (fun i => (i.callID, i.name, i.arguments)) =
      [("call_1", "f", "\x7b\"q\":"), ("", "", "1\x7d")] ∧
    ((convertResponse reply "r").output.filter (·.type = "function_call")).map
        (fun i => (i.callID, i.name, i.arguments)) =
      [("call_1", "f", "\x7b\"q\":1\x7d")] := by
  decide

/-- Two tool calls added in the order `a`, `b` are done, and returned, in the order `b`,
`a` when the map ranges visit slot `1` first. -/
theorem handleStreamingResponse_reorders_toolCalls :
    let callA : ToolCall := { id := "a", type := "function", function := { name := "f", arguments := "\x7b\x7d" } }
    let callB : ToolCall := { id := "b", type := "function", function := { name := "g", arguments := "\x7b\x7d" } }
    let out := handleStreamingResponse "r" .reversed .reversed
      { lines := [.chunk { choices := [{ delta := { toolCalls := [callA] } }] },
                  .chunk { choices := [{ delta := { toolCalls := [callB] } }] }, .done] }
    (addedItems out.1).map (·.callID) = ["a", "b"] ∧
      ((doneItems out.1).filter (·.type = "function_call")).map (·.callID) = ["b", "a"] ∧
      out.2.toolCalls.map (·.callID) = ["b", "a"] := by
  decide

end Responses2Chat.Converter
