import Responses2Chat.Converter.Streaming

/-!
# Lines the stream converter ignores

The loop of `HandleStreamingResponse` drops a line without the `data:` prefix, a payload that
does not decode, and a chunk with no choice; a chunk whose first delta has no content and no
tool call goes through the loop body without changing anything; and no line after the first
`[DONE]` is read at all.  Inserting or deleting such lines changes neither the events nor the
result.

* `InertLine` is a line whose branch of the loop leaves the state as it is, and
  `scan_insert_inert` the run lemma: such a line can be inserted anywhere.
  `scan_append_of_done` says that nothing after a `[DONE]` line is read.
* `NoiseLine` and `NoiseInsert` are the noise lines and the changes in terms of the raw lines,
  and `handleStreamingResponse_ignores_noise` closes the changes under insertion, deletion
  and repetition.
-/

namespace Responses2Chat.Converter

open Responses2Chat.Models Responses2Chat.GoRuntime

/-! ## Inert lines -/

/-- A line whose branch of the loop leaves the state as it is. -/
inductive InertLine (responseID : String) : ChunkLine → Prop
  | skipped : InertLine responseID .skipped
  | malformed : InertLine responseID .malformed
  | chunk {c : ChatCompletionChunk} (h : ∀ s : StreamState, s.addChunk responseID c = s) :
      InertLine responseID (.chunk c)

variable {responseID : String} {order : RangeOrder (Int × OutputItem)}

theorem scan_inert (s : StreamState) {l : ChunkLine} (hl : InertLine responseID l) (rest : List ChunkLine) :
    scan responseID order s (l :: rest) = scan responseID order s rest := by
  cases hl with
  | chunk h => rw [scan, h s]
  | skipped | malformed => rfl

/-- An inert line can be inserted anywhere. -/
theorem scan_insert_inert {l : ChunkLine} (hl : InertLine responseID l) :
    ∀ (s : StreamState) (pre post : List ChunkLine),
      scan responseID order s (pre ++ l :: post) = scan responseID order s (pre ++ post)
  | s, [], post => scan_inert s hl post
  | _, .done :: _, _ => rfl
  | s, .chunk c :: pre, post => scan_insert_inert hl (s.addChunk responseID c) pre post
  | s, .skipped :: pre, post => scan_insert_inert hl s pre post
  | s, .malformed :: pre, post => scan_insert_inert hl s pre post

/-- Nothing after a `[DONE]` line is read. -/
theorem scan_append_of_done :
    ∀ (s : StreamState) (pre : List ChunkLine), .done ∈ pre → ∀ post post' : List ChunkLine,
      scan responseID order s (pre ++ post) = scan responseID order s (pre ++ post')
  | _, .done :: _, _, _, _ => rfl
  | s, .chunk c :: pre, hd, post, post' =>
    scan_append_of_done (s.addChunk responseID c) pre (List.mem_of_ne_of_mem (by simp) hd) post post'
  | s, .skipped :: pre, hd, post, post' =>
    scan_append_of_done s pre (List.mem_of_ne_of_mem (by simp) hd) post post'
  | s, .malformed :: pre, hd, post, post' =>
    scan_append_of_done s pre (List.mem_of_ne_of_mem (by simp) hd) post post'

/-! ## Noise lines -/

/-- A line the loop drops without a trace: one with neither `data: ` nor `data:` at its start
(the first begins with the second, so these are the lines not starting with `data:`), or one
whose payload is not `[DONE]` and does not decode, or decodes to a chunk with no choice or
with an empty first delta. -/
def NoiseLine (unmarshal : String → Option ChatCompletionChunk) (line : String) : Prop :=
  (line.startsWith "data:" = false ∧ line.startsWith "data: " = false) ∨
    ∃ data, dataPayload line = some data ∧ data ≠ "[DONE]" ∧
      (unmarshal data = none ∨ ∃ c, unmarshal data = some c ∧
        (c.choices = [] ∨ ∃ choice rest, c.choices = choice :: rest ∧
          choice.delta.content = "" ∧ choice.delta.toolCalls = []))

/-- One change of a stream: a noise line inserted anywhere, or any line inserted after a
`[DONE]` line.  Deleting such a line is the change read backwards. -/
inductive NoiseInsert (unmarshal : String → Option ChatCompletionChunk) : List String → List String → Prop
  | noise (pre post : List String) {x : String} (hx : NoiseLine unmarshal x) :
      NoiseInsert unmarshal (pre ++ post) (pre ++ x :: post)
  | afterDone {pre : List String} (post : List String) (x : String)
      (hd : ∃ d ∈ pre, dataPayload d = some "[DONE]") : NoiseInsert unmarshal (pre ++ post) (pre ++ x :: post)

theorem inertLine_classifyLine {unmarshal : String → Option ChatCompletionChunk} {x : String}
    (hx : NoiseLine unmarshal x) : InertLine responseID (classifyLine unmarshal x) := by
  unfold classifyLine
  rcases hx with ⟨h1, h2⟩ | ⟨data, hdata, hne, hdec⟩
  · have hnone : dataPayload x = none := by
      simp only [dataPayload, h1, h2, Bool.false_eq_true, if_false]
    rw [hnone]
    exact .skipped
  · rw [hdata]
    dsimp only
    rw [if_neg hne]
    rcases hdec with hnone | ⟨c, hc, hchoices | ⟨choice, rest, hcs, hcontent, htools⟩⟩
    · rw [hnone]
      exact .malformed
    · rw [hc]
      exact .chunk fun s => by simp only [StreamState.addChunk, hchoices]
    · rw [hc]
      exact .chunk fun s => by
        simp only [StreamState.addChunk, hcs, hcontent, htools, ne_eq, not_true_eq_false, if_false, List.foldl_nil]

theorem classifyLine_done {unmarshal : String → Option ChatCompletionChunk} {d : String}
    (hd : dataPayload d = some "[DONE]") : classifyLine unmarshal d = .done := by
  unfold classifyLine
  rw [hd]
  exact if_pos rfl

/-- One change leaves the loop's final state as it is, from every state. -/
theorem scan_noiseInsert {unmarshal : String → Option ChatCompletionChunk} {L L' : List String}
    (h : NoiseInsert unmarshal L L') (s : StreamState) :
    scan responseID order s (L.map (classifyLine unmarshal)) = scan responseID order s (L'.map (classifyLine unmarshal)) := by
  cases h with
  | noise pre post hx =>
    rw [List.map_append, List.map_append, List.map_cons]
    exact (scan_insert_inert (inertLine_classifyLine hx) s _ _).symm
  | afterDone post x hd =>
    obtain ⟨d, hdm, hdd⟩ := hd
    rw [List.map_append, List.map_append]
    exact scan_append_of_done s _ (List.mem_map.mpr ⟨d, hdm, classifyLine_done hdd⟩) _ _

/-- Streams that differ by inserted and deleted noise lines, and lines after the first
`[DONE]`, give the same events and the same result. -/
theorem handleStreamingResponse_ignores_noise (unmarshal : String → Option ChatCompletionChunk)
    (responseID : String) (doneOrder resultOrder : RangeOrder (Int × OutputItem)) (scanEnd : ScanEnd)
    {L L' : List String} (h : Relation.EqvGen (NoiseInsert unmarshal) L L') :
    handleStreamingResponse responseID doneOrder resultOrder
        { lines := L.map (classifyLine unmarshal), scanEnd := scanEnd } =
      handleStreamingResponse responseID doneOrder resultOrder
        { lines := L'.map (classifyLine unmarshal), scanEnd := scanEnd } := by
  have hscan : scan responseID doneOrder (initialState responseID) (L.map (classifyLine unmarshal)) =
      scan responseID doneOrder (initialState responseID) (L'.map (classifyLine unmarshal)) := by
    induction h with
    | rel _ _ hr => exact scan_noiseInsert hr _
    | refl => rfl
    | symm _ _ _ ih => exact ih.symm
    | trans _ _ _ _ _ ih₁ ih₂ => exact ih₁.trans ih₂
  simp only [handleStreamingResponse, hscan]

/-- The decoding of a stream whose one chunk carries the text `hi`. -/
def helloUnmarshal (data : String) : Option ChatCompletionChunk :=
  if data = "hi" then some { choices := [{ delta := { content := "hi" } }] } else none

/-- A chunk and `[DONE]`, and the same stream with a blank line, the separator of server-sent
events, inserted before `[DONE]` and a chunk inserted after it. -/
theorem handleStreamingResponse_ignores_noise_blankLine :
    Relation.EqvGen (NoiseInsert helloUnmarshal) ["data: hi", "data: [DONE]"]
        ["data: hi", "", "data: [DONE]", "data: hi"] ∧
      handleStreamingResponse "r" .insertion .insertion
          { lines := ["data: hi", "data: [DONE]"].map (classifyLine helloUnmarshal) } =
        handleStreamingResponse "r" .insertion .insertion
          { lines := ["data: hi", "", "data: [DONE]", "data: hi"].map (classifyLine helloUnmarshal) } :=
  have h : Relation.EqvGen (NoiseInsert helloUnmarshal) ["data: hi", "data: [DONE]"]
      ["data: hi", "", "data: [DONE]", "data: hi"] :=
    .trans _ ["data: hi", "", "data: [DONE]"] _
      (.rel _ _ (.noise ["data: hi"] ["data: [DONE]"] (.inl ⟨by decide, by decide⟩)))
      (.rel _ _ (@NoiseInsert.afterDone helloUnmarshal ["data: hi", "", "data: [DONE]"] [] "data: hi"
        ⟨"data: [DONE]", by decide, by decide!⟩))
  ⟨h, handleStreamingResponse_ignores_noise _ "r" .insertion .insertion .eof h⟩

end Responses2Chat.Converter
