import Responses2Chat.Converter.Streaming

/-!
# The transcript the stream converter writes

This file proves what every run of `HandleStreamingResponse` writes, for every sequence of
upstream lines and every order of the two map ranges.

* `ScanInv` is the invariant of the scanner loop before `[DONE]`: after `response.created`
  only `added` events and text deltas are written; the message's `added` event comes first
  among the message events, exactly when some text delta was written; `outputText` is the
  concatenation of the deltas; and the map holds one `function_call` item per slot, still
  `in_progress`, each announced once.  `addText_inv`, `addToolCall_inv` and `addChunk_inv`
  are the step lemmas and `scan_inv` the run lemma.
* `scan_eq` cuts a run at the first `[DONE]` line: the loop is the run over the lines before
  it, followed by `StreamState.finish` when there is a `[DONE]` line at all.
* `WellFormedTranscript` lists the properties of the written events, and
  `handleStreamingResponse_wellFormed` proves them of every run.
* `handleStreamingResponse_doneStatus`: the `[DONE]` branch writes each tool call's `done`
  event with the status `in_progress` it was added with, and the message's with `completed`.

The message's `done` event is written at every `[DONE]` line, also when no text delta came
and its `added` event was never written; `handleStreamingResponse_done_without_added` is the
smallest such stream.
-/

namespace Responses2Chat.Converter

open Responses2Chat.Models Responses2Chat.GoRuntime

/-! ## Splits of a list -/

section Splits

variable {α : Type}

/-- A split of `l₁ ++ l₂` at an element outside `l₁` leaves all of `l₁` before it. -/
theorem mem_pre_of_split {l₁ l₂ pre post : List α} {x : α} (h : l₁ ++ l₂ = pre ++ x :: post)
    (hx : x ∉ l₁) : ∀ y ∈ l₁, y ∈ pre := by
  induction l₁ generalizing pre with
  | nil => simp
  | cons a l₁ ih =>
    cases pre with
    | nil =>
      simp only [List.cons_append, List.nil_append, List.cons.injEq] at h
      exact absurd (h.1 ▸ List.mem_cons_self a l₁) hx
    | cons b pre =>
      simp only [List.cons_append, List.cons.injEq] at h
      intro y hy
      rcases List.mem_cons.mp hy with rfl | hy
      · exact h.1 ▸ List.mem_cons_self _ _
      · exact List.mem_cons_of_mem _ (ih h.2 (fun hm => hx (List.mem_cons_of_mem _ hm)) y hy)

/-- A split at the only element that `p` holds of is the given one. -/
theorem split_eq_of_unique {p : α → Bool} {l₁ l₂ pre post : List α} {x y : α}
    (h : l₁ ++ x :: l₂ = pre ++ y :: post) (hy : p y = true) (h₁ : ∀ z ∈ l₁, p z = false)
    (h₂ : ∀ z ∈ l₂, p z = false) : pre = l₁ ∧ y = x ∧ post = l₂ := by
  induction l₁ generalizing pre with
  | nil =>
    cases pre with
    | nil => simp only [List.nil_append, List.cons.injEq] at h; exact ⟨rfl, h.1.symm, h.2.symm⟩
    | cons b pre =>
      simp only [List.nil_append, List.cons_append, List.cons.injEq] at h
      have := h₂ y (h.2 ▸ List.mem_append_right _ (List.mem_cons_self _ _))
      simp_all
  | cons a l₁ ih =>
    cases pre with
    | nil =>
      simp only [List.cons_append, List.nil_append, List.cons.injEq] at h
      have := h₁ a (List.mem_cons_self _ _)
      simp_all
    | cons b pre =>
      simp only [List.cons_append, List.cons.injEq] at h
      obtain ⟨rfl, h⟩ := h
      obtain ⟨rfl, rfl, rfl⟩ := ih h fun z hz => h₁ z (List.mem_cons_of_mem _ hz)
      exact ⟨rfl, rfl, rfl⟩

/-- In a split at an element that `p` keeps, the first element that `p` keeps is before it,
unless it is that element. -/
theorem mem_pre_of_filter_eq_cons {p : α → Bool} {pre post rest : List α} {x a : α}
    (h : (pre ++ x :: post).filter p = a :: rest) (hx : p x = true) (hne : x ≠ a) : a ∈ pre := by
  rw [List.filter_append, List.filter_cons_of_pos hx] at h
  cases hpre : pre.filter p with
  | nil => rw [hpre, List.nil_append, List.cons.injEq] at h; exact absurd h.1 hne
  | cons b l =>
    rw [hpre, List.cons_append, List.cons.injEq] at h
    exact List.mem_of_mem_filter (h.1 ▸ hpre ▸ List.mem_cons_self b l)

end Splits

/-! ## Projections of a transcript -/

/-- The texts of the `response.output_text.delta` events. -/
def textDeltas (evs : List StreamEvent) : List String := evs.filterMap StreamEvent.delta?

/-- The items of the `response.output_item.added` events. -/
def addedItems (evs : List StreamEvent) : List OutputItem := evs.filterMap StreamEvent.added?

/-- The items of the `response.output_item.done` events. -/
def doneItems (evs : List StreamEvent) : List OutputItem := evs.filterMap StreamEvent.done?

/-- The events of the message item before `[DONE]`: its `added` event and the text deltas. -/
def isMessageEvent : StreamEvent → Bool
  | .outputItemAdded item => item.type == "message"
  | .outputTextDelta _ _ => true
  | _ => false

/-- The events the loop writes before `[DONE]`. -/
def isOpening : StreamEvent → Bool
  | .outputItemAdded _ => true
  | .outputTextDelta _ _ => true
  | _ => false

@[simp] theorem textDeltas_append (l₁ l₂ : List StreamEvent) :
    textDeltas (l₁ ++ l₂) = textDeltas l₁ ++ textDeltas l₂ := List.filterMap_append _ _ _
@[simp] theorem addedItems_append (l₁ l₂ : List StreamEvent) :
    addedItems (l₁ ++ l₂) = addedItems l₁ ++ addedItems l₂ := List.filterMap_append _ _ _
@[simp] theorem doneItems_append (l₁ l₂ : List StreamEvent) :
    doneItems (l₁ ++ l₂) = doneItems l₁ ++ doneItems l₂ := List.filterMap_append _ _ _
@[simp] theorem textDeltas_cons (e : StreamEvent) (l : List StreamEvent) :
    textDeltas (e :: l) = e.delta?.toList ++ textDeltas l := by
  cases h : e.delta? <;> simp [textDeltas, List.filterMap_cons, h]
@[simp] theorem addedItems_cons (e : StreamEvent) (l : List StreamEvent) :
    addedItems (e :: l) = e.added?.toList ++ addedItems l := by
  cases h : e.added? <;> simp [addedItems, List.filterMap_cons, h]
@[simp] theorem doneItems_cons (e : StreamEvent) (l : List StreamEvent) :
    doneItems (e :: l) = e.done?.toList ++ doneItems l := by
  cases h : e.done? <;> simp [doneItems, List.filterMap_cons, h]
@[simp] theorem textDeltas_nil : textDeltas [] = [] := rfl
@[simp] theorem addedItems_nil : addedItems [] = [] := rfl
@[simp] theorem doneItems_nil : doneItems [] = [] := rfl
@[simp] theorem doneItems_map_done {β : Type} (l : List β) (f : β → OutputItem) :
    doneItems (l.map fun e => .outputItemDone (f e)) = l.map f := by
  induction l <;> simp_all [StreamEvent.done?]

private theorem foldl_append_eq (a : String) (l : List String) :
    l.foldl (· ++ ·) a = a ++ l.foldl (· ++ ·) "" := by
  induction l generalizing a with
  | nil => simp
  | cons x l ih => simp only [List.foldl_cons, String.empty_append]; rw [ih, ih x, String.append_assoc]

theorem join_append (l₁ l₂ : List String) :
    String.join (l₁ ++ l₂) = String.join l₁ ++ String.join l₂ := by
  simp only [String.join, List.foldl_append]
  exact foldl_append_eq _ _

@[simp] theorem join_singleton (c : String) : String.join [c] = c := by simp [String.join]

theorem join_cons (c : String) (l : List String) : String.join (c :: l) = c ++ String.join l := by
  rw [← List.singleton_append, join_append, join_singleton]

/-! ## Items of the map -/

/-- The part of a map entry that no later delta changes: its slot, id, type and status. -/
def slotView (e : Int × OutputItem) : Int × String × String × String := (e.1, e.2.id, e.2.type, e.2.status)

/-- The view of the entry allocated in slot `k`. -/
def slotOf (responseID : String) (k : Nat) : Int × String × String × String :=
  (k, toolItemID responseID k, "function_call", "in_progress")

@[simp] theorem updateToolCall_id (item : OutputItem) (tc : ToolCall) :
    (updateToolCall item tc).id = item.id := by
  unfold updateToolCall; split_ifs <;> rfl

@[simp] theorem updateToolCall_type (item : OutputItem) (tc : ToolCall) :
    (updateToolCall item tc).type = item.type := by
  unfold updateToolCall; split_ifs <;> rfl

@[simp] theorem updateToolCall_status (item : OutputItem) (tc : ToolCall) :
    (updateToolCall item tc).status = item.status := by
  unfold updateToolCall; split_ifs <;> rfl

theorem slotView_mapModify (m : List (Int × OutputItem)) (k : Int) (tc : ToolCall) :
    (mapModify m k (updateToolCall · tc)).map slotView = m.map slotView := by
  simp only [mapModify, List.map_map]
  exact List.map_congr_left fun e _ => by by_cases h : e.1 = k <;> simp [h, slotView]

/-! ## The loop invariant -/

/-- The invariant of the scanner loop before `[DONE]`. -/
structure ScanInv (responseID : String) (s : StreamState) : Prop where
  written_eq : s.written = createdEvent responseID :: s.written.tail
  opening : ∀ e ∈ s.written.tail, isOpening e = true
  messageEvents : s.written.filter isMessageEvent =
    (if s.messageItemAdded then [.outputItemAdded (messageAddedItem responseID)] else []) ++
      (textDeltas s.written).map (.outputTextDelta · 0)
  added_iff : s.messageItemAdded = true ↔ textDeltas s.written ≠ []
  outputText_eq : s.outputText = String.join (textDeltas s.written)
  toolCalls_view : s.toolCalls.map slotView = (List.range s.currentToolID).map (slotOf responseID)
  addedIDs : ((addedItems s.written).map (·.id)).Perm
    ((if s.messageItemAdded then [messageItemID responseID] else []) ++
      (List.range s.currentToolID).map (toolItemID responseID))

variable {responseID : String}

theorem initialState_inv : ScanInv responseID (initialState responseID) where
  written_eq := rfl
  opening := by simp [initialState]
  messageEvents := by simp [initialState, createdEvent, isMessageEvent, textDeltas, StreamEvent.delta?]
  added_iff := by simp [initialState, textDeltas, createdEvent, StreamEvent.delta?]
  outputText_eq := rfl
  toolCalls_view := rfl
  addedIDs := by simp [initialState, addedItems, createdEvent, StreamEvent.added?]

theorem written_append {s : StreamState} (h : ScanInv responseID s) (l : List StreamEvent) :
    s.written ++ l = createdEvent responseID :: (s.written.tail ++ l) := by
  rw [h.written_eq]; rfl

/-- Events appended to the transcript keep `response.created` first, and are `added` events
or text deltas. -/
theorem written_inv_append {s : StreamState} (h : ScanInv responseID s) {l : List StreamEvent}
    (hl : ∀ e ∈ l, isOpening e = true) :
    s.written ++ l = createdEvent responseID :: (s.written ++ l).tail ∧
      ∀ e ∈ (s.written ++ l).tail, isOpening e = true := by
  rw [written_append h]
  refine ⟨rfl, fun e he => ?_⟩
  rcases List.mem_append.mp he with he | he
  · exact h.opening e he
  · exact hl e he

/-- What the text branch does to the state. -/
theorem addText_eq (s : StreamState) (content : String) :
    (s.addText responseID content).written = s.written ++
        ((if s.messageItemAdded then [] else [.outputItemAdded (messageAddedItem responseID)]) ++
          [.outputTextDelta content 0]) ∧
      (s.addText responseID content).messageItemAdded = true ∧
      (s.addText responseID content).outputText = s.outputText ++ content ∧
      (s.addText responseID content).toolCalls = s.toolCalls ∧
      (s.addText responseID content).currentToolID = s.currentToolID := by
  unfold StreamState.addText
  cases h : s.messageItemAdded <;> simp [h]

@[simp] theorem isMessageEvent_delta (d : String) (i : Nat) :
    isMessageEvent (.outputTextDelta d i) = true := rfl

@[simp] theorem isMessageEvent_messageAdded (responseID : String) :
    isMessageEvent (.outputItemAdded (messageAddedItem responseID)) = true := by
  simp [isMessageEvent, messageAddedItem]

@[simp] theorem isMessageEvent_toolAdded (responseID : String) (n : Nat) (tc : ToolCall) :
    isMessageEvent (.outputItemAdded (newToolItem responseID n tc)) = false := by
  simp [isMessageEvent, newToolItem]

theorem addText_inv {s : StreamState} (h : ScanInv responseID s) (content : String) :
    ScanInv responseID (s.addText responseID content) := by
  obtain ⟨hw, hadded, hout, htc, hcur⟩ := @addText_eq responseID s content
  have hopen := written_inv_append h (l := (if s.messageItemAdded then [] else
    [.outputItemAdded (messageAddedItem responseID)]) ++ [.outputTextDelta content 0])
    (by cases s.messageItemAdded <;> simp [isOpening])
  have hmsg := h.messageEvents
  have hids := h.addedIDs
  constructor
  · rw [hw]; exact hopen.1
  · rw [hw]; exact hopen.2
  · rw [hw, hadded]
    cases hs : s.messageItemAdded
    · have h0 : textDeltas s.written = [] := by simpa [hs] using h.added_iff
      simp only [hs, h0, Bool.false_eq_true, if_false, List.map_nil, List.append_nil] at hmsg
      simp [List.filter_append, hmsg, h0, StreamEvent.delta?]
    · simp only [hs, if_true] at hmsg
      simp [List.filter_append, hmsg, StreamEvent.delta?]
  · rw [hw, hadded]; simp [StreamEvent.delta?]
  · rw [hw, hout, h.outputText_eq]
    cases s.messageItemAdded <;> simp [StreamEvent.delta?, join_append]
  · rw [htc, hcur]; exact h.toolCalls_view
  · rw [hw, hadded, hcur]
    cases hs : s.messageItemAdded
    · simp only [hs, if_false, Bool.false_eq_true, List.nil_append] at hids
      simpa [StreamEvent.added?, messageAddedItem] using
        (hids.append_right [messageItemID responseID]).trans List.perm_append_comm
    · simpa [hs, StreamEvent.added?] using hids

/-- What one iteration of the tool-call loop does: update an item in place, or allocate,
announce and store a new one in slot `currentToolID`. -/
theorem addToolCall_cases (s : StreamState) (tc : ToolCall) :
    ((s.addToolCall responseID tc).toolCalls = mapModify s.toolCalls (toolCallKey s tc) (updateToolCall · tc) ∧
      (s.addToolCall responseID tc).currentToolID = s.currentToolID ∧
      (s.addToolCall responseID tc).written = s.written) ∨
    ((s.addToolCall responseID tc).toolCalls =
        s.toolCalls ++ [((s.currentToolID : Int), updateToolCall (newToolItem responseID s.currentToolID tc) tc)] ∧
      (s.addToolCall responseID tc).currentToolID = s.currentToolID + 1 ∧
      (s.addToolCall responseID tc).written =
        s.written ++ [.outputItemAdded (newToolItem responseID s.currentToolID tc)]) := by
  unfold StreamState.addToolCall
  split
  · exact .inl ⟨rfl, rfl, rfl⟩
  · exact .inr ⟨mapSet_of_not_mem (currentToolID_not_mem_keys s) _, rfl, rfl⟩

@[simp] theorem addToolCall_outputText (s : StreamState) (tc : ToolCall) :
    (s.addToolCall responseID tc).outputText = s.outputText := by
  unfold StreamState.addToolCall; split <;> rfl

@[simp] theorem addToolCall_messageItemAdded (s : StreamState) (tc : ToolCall) :
    (s.addToolCall responseID tc).messageItemAdded = s.messageItemAdded := by
  unfold StreamState.addToolCall; split <;> rfl

theorem addToolCall_inv {s : StreamState} (h : ScanInv responseID s) (tc : ToolCall) :
    ScanInv responseID (s.addToolCall responseID tc) := by
  rcases @addToolCall_cases responseID s tc with ⟨htc, hcur, hw⟩ | ⟨htc, hcur, hw⟩
  · refine ⟨?_, ?_, ?_, ?_, ?_, ?_, ?_⟩ <;>
      simp only [hw, hcur, htc, addToolCall_messageItemAdded, addToolCall_outputText, slotView_mapModify]
    exacts [h.written_eq, h.opening, h.messageEvents, h.added_iff, h.outputText_eq, h.toolCalls_view,
      h.addedIDs]
  · have hopen := written_inv_append h (l := [.outputItemAdded (newToolItem responseID s.currentToolID tc)])
      (by simp [isOpening])
    have hmsg := h.messageEvents
    have hids := h.addedIDs
    refine ⟨?_, ?_, ?_, ?_, ?_, ?_, ?_⟩ <;>
      simp only [hw, hcur, htc, addToolCall_messageItemAdded, addToolCall_outputText]
    · exact hopen.1
    · exact hopen.2
    · simp [List.filter_append, hmsg, StreamEvent.delta?]
    · simpa [StreamEvent.delta?] using h.added_iff
    · simpa [StreamEvent.delta?] using h.outputText_eq
    · rw [List.map_append, h.toolCalls_view, List.range_succ, List.map_append]
      simp [slotView, slotOf, newToolItem]
    · rw [List.range_succ, List.map_append, ← List.append_assoc]
      simpa [StreamEvent.added?, newToolItem] using hids.append_right [toolItemID responseID s.currentToolID]

theorem foldl_addToolCall_inv {s : StreamState} (h : ScanInv responseID s) (tcs : List ToolCall) :
    ScanInv responseID (tcs.foldl (StreamState.addToolCall responseID) s) := by
  induction tcs generalizing s with
  | nil => exact h
  | cons tc tcs ih => exact ih (addToolCall_inv h tc)

theorem addChunk_inv {s : StreamState} (h : ScanInv responseID s) (c : ChatCompletionChunk) :
    ScanInv responseID (s.addChunk responseID c) := by
  unfold StreamState.addChunk
  split
  · exact h
  · refine foldl_addToolCall_inv ?_ _
    split
    · exact addText_inv h _
    · exact h

/-! ## Runs of the loop -/

/-- The loop over lines without `[DONE]` keeps the invariant. -/
theorem scan_inv (order : RangeOrder (Int × OutputItem)) :
    ∀ {s : StreamState} (lines : List ChunkLine), ScanInv responseID s → .done ∉ lines →
      ScanInv responseID (scan responseID order s lines)
  | _, [], h, _ => h
  | _, .done :: _, _, hd => absurd (List.mem_cons_self _ _) hd
  | _, .chunk c :: lines, h, hd =>
    scan_inv order lines (addChunk_inv h c) fun hm => hd (List.mem_cons_of_mem _ hm)
  | _, .skipped :: lines, h, hd => scan_inv order lines h fun hm => hd (List.mem_cons_of_mem _ hm)
  | _, .malformed :: lines, h, hd => scan_inv order lines h fun hm => hd (List.mem_cons_of_mem _ hm)

/-- The lines the loop reads before the first `[DONE]`. -/
def beforeDone (lines : List ChunkLine) : List ChunkLine := lines.takeWhile (· != .done)

theorem done_not_mem_beforeDone (lines : List ChunkLine) : .done ∉ beforeDone lines := fun h => by
  simpa using List.mem_takeWhile_imp h

/-- A run is the run over the lines before the first `[DONE]`, closed by
`StreamState.finish` if a `[DONE]` line comes. -/
theorem scan_eq (order : RangeOrder (Int × OutputItem)) :
    ∀ (s : StreamState) (lines : List ChunkLine),
      scan responseID order s lines =
        if .done ∈ lines then (scan responseID order s (beforeDone lines)).finish responseID order
        else scan responseID order s (beforeDone lines)
  | _, [] => rfl
  | _, .done :: _ => by simp [beforeDone, scan]
  | s, .chunk c :: lines => by
    simp only [beforeDone, List.takeWhile_cons, scan, List.mem_cons, reduceCtorEq, false_or] at *
    exact scan_eq order _ lines
  | s, .skipped :: lines => by
    simp only [beforeDone, List.takeWhile_cons, scan, List.mem_cons, reduceCtorEq, false_or] at *
    exact scan_eq order _ lines
  | s, .malformed :: lines => by
    simp only [beforeDone, List.takeWhile_cons, scan, List.mem_cons, reduceCtorEq, false_or] at *
    exact scan_eq order _ lines

/-- The loop over the lines before the first `[DONE]`, from the start, keeps the invariant. -/
theorem scan_beforeDone_inv (order : RangeOrder (Int × OutputItem)) (lines : List ChunkLine) :
    ScanInv responseID (scan responseID order (initialState responseID) (beforeDone lines)) :=
  scan_inv order _ initialState_inv (done_not_mem_beforeDone _)

/-! ## Facts of the invariant -/

theorem mem_addedItems {a : OutputItem} {l : List StreamEvent} :
    a ∈ addedItems l ↔ .outputItemAdded a ∈ l := by
  simp only [addedItems, List.mem_filterMap]
  constructor
  · rintro ⟨e, he, h⟩; cases e <;> simp_all [StreamEvent.added?]
  · exact fun h => ⟨_, h, rfl⟩

theorem mem_doneItems {a : OutputItem} {l : List StreamEvent} :
    a ∈ doneItems l ↔ .outputItemDone a ∈ l := by
  simp only [doneItems, List.mem_filterMap]
  constructor
  · rintro ⟨e, he, h⟩; cases e <;> simp_all [StreamEvent.done?]
  · exact fun h => ⟨_, h, rfl⟩

/-- Before `[DONE]` the transcript is `response.created` and opening events. -/
theorem written_cases {s : StreamState} (h : ScanInv responseID s) :
    ∀ e ∈ s.written, e = createdEvent responseID ∨ isOpening e = true := by
  rw [h.written_eq]
  intro e he
  rcases List.mem_cons.mp he with rfl | he
  · exact .inl rfl
  · exact .inr (h.opening e he)

theorem done_not_mem {s : StreamState} (h : ScanInv responseID s) (item : OutputItem) :
    .outputItemDone item ∉ s.written := fun hm => by
  rcases written_cases h _ hm with he | he <;> simp [createdEvent, isOpening] at he

theorem completed_not_mem {s : StreamState} (h : ScanInv responseID s) (r : ResponsesResponse) :
    .responseCompleted r ∉ s.written := fun hm => by
  rcases written_cases h _ hm with he | he <;> simp [createdEvent, isOpening] at he

theorem doneItems_eq_nil {s : StreamState} (h : ScanInv responseID s) : doneItems s.written = [] :=
  List.eq_nil_iff_forall_not_mem.mpr fun item hi => done_not_mem h item (mem_doneItems.mp hi)

theorem toolCalls_ids {s : StreamState} (h : ScanInv responseID s) :
    s.toolCalls.map (·.2.id) = (List.range s.currentToolID).map (toolItemID responseID) := by
  simpa [List.map_map, Function.comp_def, slotView, slotOf] using congrArg (List.map (·.2.1)) h.toolCalls_view

/-- Every entry of the map is a `function_call` item, still `in_progress`. -/
theorem toolCalls_slot {s : StreamState} (h : ScanInv responseID s) :
    ∀ e ∈ s.toolCalls, e.2.type = "function_call" ∧ e.2.status = "in_progress" := by
  intro e he
  have hm : slotView e ∈ (List.range s.currentToolID).map (slotOf responseID) :=
    h.toolCalls_view ▸ List.mem_map_of_mem _ he
  obtain ⟨k, -, hk⟩ := List.mem_map.mp hm
  simp only [slotView, slotOf, Prod.mk.injEq] at hk
  exact ⟨hk.2.2.1.symm, hk.2.2.2.symm⟩

theorem toolCalls_type {s : StreamState} (h : ScanInv responseID s) :
    ∀ e ∈ s.toolCalls, e.2.type = "function_call" :=
  fun e he => (toolCalls_slot h e he).1

/-- The message events and the text of any transcript that extends `s.written` by events
of neither kind. -/
theorem message_facts {s : StreamState} (h : ScanInv responseID s) {evs : List StreamEvent}
    (hf : evs.filter isMessageEvent = s.written.filter isMessageEvent)
    (hd : textDeltas evs = textDeltas s.written) :
    (∀ pre d i post, evs = pre ++ .outputTextDelta d i :: post →
      .outputItemAdded (messageAddedItem responseID) ∈ pre) ∧
    (.outputItemAdded (messageAddedItem responseID) ∈ evs ↔ textDeltas evs ≠ []) := by
  have hmsg := h.messageEvents
  rw [← hf, ← hd] at hmsg
  have hiff := h.added_iff
  rw [← hd] at hiff
  constructor
  · intro pre d i post heq
    have hne : textDeltas evs ≠ [] := by
      rw [heq]; simp [StreamEvent.delta?]
    rw [hiff.mpr hne, if_pos rfl, List.singleton_append, heq] at hmsg
    exact mem_pre_of_filter_eq_cons hmsg rfl (by simp)
  · rw [← hiff, ← List.mem_filter.trans (and_iff_left (isMessageEvent_messageAdded responseID)), hmsg]
    cases s.messageItemAdded <;> simp

/-! ## The transcript -/

/-- What the `[DONE]` branch writes. -/
def closingEvents (responseID : String) (order : RangeOrder (Int × OutputItem)) (s : StreamState) :
    List StreamEvent :=
  (order.range s.toolCalls).map (fun e => .outputItemDone e.2) ++
    [.outputItemDone (messageDoneItem responseID s.outputText),
     .responseCompleted (completedResponse responseID)]

theorem finish_written (order : RangeOrder (Int × OutputItem)) (s : StreamState) :
    (s.finish responseID order).written = s.written ++ closingEvents responseID order s := by
  simp [StreamState.finish, closingEvents]

/-- The properties of a transcript of `HandleStreamingResponse`.  `sawDone` says that a
`[DONE]` line was read. -/
structure WellFormedTranscript (responseID : String) (sawDone : Prop) (evs : List StreamEvent) :
    Prop where
  /-- Exactly one `response.created`, and it comes first. -/
  created_first : ∃ rest, evs = createdEvent responseID :: rest ∧ ∀ e ∈ rest, e.isCreated = false
  /-- A `function_call` item is done only after it was added. -/
  added_before_toolDone : ∀ pre item post, evs = pre ++ .outputItemDone item :: post →
    item.type = "function_call" → ∃ a, .outputItemAdded a ∈ pre ∧ a.id = item.id
  /-- The only other item done is the message, completed, with the text of the deltas. -/
  messageDone : ∀ item ∈ doneItems evs, item.type ≠ "function_call" →
    item = messageDoneItem responseID (String.join (textDeltas evs))
  /-- No item is done twice. -/
  done_once : ((doneItems evs).map (·.id)).Nodup
  /-- The message is added before every text delta. -/
  messageAdded_before_delta : ∀ pre d i post, evs = pre ++ .outputTextDelta d i :: post →
    .outputItemAdded (messageAddedItem responseID) ∈ pre
  /-- The message is added exactly when some text delta is written. -/
  messageAdded_iff : .outputItemAdded (messageAddedItem responseID) ∈ evs ↔ textDeltas evs ≠ []
  /-- No `function_call` item is done after the message. -/
  toolDone_before_messageDone : ∀ pre item post, evs = pre ++ .outputItemDone item :: post →
    item.type = "message" → ∀ it ∈ doneItems post, it.type ≠ "function_call"
  /-- At `[DONE]` the message is done, every added item is done exactly once, and
  `response.completed` is the last event. -/
  closed_at_sentinel : sawDone →
    messageDoneItem responseID (String.join (textDeltas evs)) ∈ doneItems evs ∧
    (∀ a ∈ addedItems evs, ((doneItems evs).map (·.id)).count a.id = 1) ∧
    evs.getLast? = some (.responseCompleted (completedResponse responseID))
  /-- `response.completed` is only ever the last event, and only after `[DONE]`. -/
  completed_last : ∀ pre r post, evs = pre ++ .responseCompleted r :: post → post = [] ∧ sawDone

theorem isCreated_of_opening {e : StreamEvent} (h : isOpening e = true) : e.isCreated = false := by
  cases e <;> simp_all [isOpening, StreamEvent.isCreated]

/-- A transcript cut off before `[DONE]`. -/
theorem wellFormed_open {s : StreamState} (h : ScanInv responseID s) {sawDone : Prop}
    (hn : ¬ sawDone) : WellFormedTranscript responseID sawDone s.written := by
  obtain ⟨hbefore, hiff⟩ := message_facts h rfl rfl
  refine ⟨⟨_, h.written_eq, fun e he => isCreated_of_opening (h.opening e he)⟩, ?_, ?_, ?_, hbefore,
    hiff, ?_, fun hs => absurd hs hn, ?_⟩
  · intro pre item post heq
    exact absurd (heq ▸ List.mem_append_right _ (List.mem_cons_self _ _)) (done_not_mem h item)
  · simp [doneItems_eq_nil h]
  · simp [doneItems_eq_nil h]
  · intro pre item post heq
    exact absurd (heq ▸ List.mem_append_right _ (List.mem_cons_self _ _)) (done_not_mem h item)
  · intro pre r post heq
    exact absurd (heq ▸ List.mem_append_right _ (List.mem_cons_self _ _)) (completed_not_mem h r)

/-- The ids of the items done at `[DONE]`: the map's items in range order, then the message. -/
theorem doneIDs_closing (order : RangeOrder (Int × OutputItem)) {s : StreamState} (h : ScanInv responseID s) :
    (doneItems (s.written ++ closingEvents responseID order s)).map (·.id) =
      (order.range s.toolCalls).map (·.2.id) ++ [messageItemID responseID] := by
  rw [doneItems_append, doneItems_eq_nil h, List.nil_append]
  simp [closingEvents, StreamEvent.done?, messageDoneItem]

theorem doneIDs_closing_nodup (order : RangeOrder (Int × OutputItem)) {s : StreamState}
    (h : ScanInv responseID s) :
    ((order.range s.toolCalls).map (·.2.id) ++ [messageItemID responseID]).Nodup := by
  have hperm := (order.range_perm s.toolCalls).map (·.2.id)
  rw [toolCalls_ids h] at hperm
  refine List.nodup_append.mpr ⟨hperm.nodup_iff.mpr ((List.nodup_range _).map (toolItemID_injective _)),
    List.nodup_singleton _, ?_⟩
  intro a ha hb
  rw [List.mem_singleton.mp hb] at ha
  obtain ⟨k, _, hk⟩ := List.mem_map.mp (hperm.subset ha)
  exact messageItemID_ne_toolItemID _ _ hk.symm

/-- A `done` event of the message item. -/
def isMessageDone : StreamEvent → Bool
  | .outputItemDone item => item.type == "message"
  | _ => false

theorem closing_facts (order : RangeOrder (Int × OutputItem)) (s : StreamState) :
    (closingEvents responseID order s).filter isMessageEvent = [] ∧
      textDeltas (closingEvents responseID order s) = [] ∧
      addedItems (closingEvents responseID order s) = [] := by
  refine ⟨?_, ?_, ?_⟩ <;>
    simp [closingEvents, isMessageEvent, textDeltas, addedItems, StreamEvent.delta?, StreamEvent.added?,
      List.filter_map, List.filterMap_map, Function.comp_def]

/-- The written events of a run that reads `[DONE]`, split at the message's `done` event. -/
theorem closing_split_message (order : RangeOrder (Int × OutputItem)) (s : StreamState) :
    s.written ++ closingEvents responseID order s =
      (s.written ++ (order.range s.toolCalls).map (fun e => .outputItemDone e.2)) ++
        .outputItemDone (messageDoneItem responseID s.outputText) ::
          [.responseCompleted (completedResponse responseID)] := by
  simp [closingEvents]

/-- The written events of a run that reads `[DONE]`, split at `response.completed`. -/
theorem closing_split_completed (order : RangeOrder (Int × OutputItem)) (s : StreamState) :
    s.written ++ closingEvents responseID order s =
      (s.written ++ (order.range s.toolCalls).map (fun e => .outputItemDone e.2) ++
        [.outputItemDone (messageDoneItem responseID s.outputText)]) ++
      .responseCompleted (completedResponse responseID) :: [] := by
  simp [closingEvents]

/-- Nothing written before `[DONE]` is a `done` event or `response.completed`. -/
theorem written_not_closing {s : StreamState} (h : ScanInv responseID s) :
    ∀ z ∈ s.written, isMessageDone z = false ∧ z.isCompleted = false := by
  intro z hz
  rcases written_cases h z hz with rfl | hz
  · exact ⟨rfl, rfl⟩
  · cases z <;> simp_all [isOpening, isMessageDone, StreamEvent.isCompleted]

/-- The items done at `[DONE]`: the map's items in range order, then the message. -/
theorem doneItems_closed (order : RangeOrder (Int × OutputItem)) {s : StreamState} (h : ScanInv responseID s) :
    doneItems (s.written ++ closingEvents responseID order s) =
      (order.range s.toolCalls).map (·.2) ++ [messageDoneItem responseID s.outputText] := by
  rw [doneItems_append, doneItems_eq_nil h, List.nil_append]
  simp [closingEvents, StreamEvent.done?]

theorem textDeltas_closed (order : RangeOrder (Int × OutputItem)) (s : StreamState) :
    textDeltas (s.written ++ closingEvents responseID order s) = textDeltas s.written := by
  simp [(@closing_facts responseID order s).2.1]

theorem range_toolCalls_type (order : RangeOrder (Int × OutputItem)) {s : StreamState}
    (h : ScanInv responseID s) : ∀ e ∈ order.range s.toolCalls, e.2.type = "function_call" :=
  fun e he => toolCalls_type h e ((order.range_perm _).subset he)

/-- Only `response.created` opens a closed transcript. -/
theorem closed_created_first (order : RangeOrder (Int × OutputItem)) {s : StreamState}
    (h : ScanInv responseID s) :
    ∃ rest, s.written ++ closingEvents responseID order s = createdEvent responseID :: rest ∧
      ∀ e ∈ rest, e.isCreated = false := by
  refine ⟨s.written.tail ++ closingEvents responseID order s, written_append h _, fun e he => ?_⟩
  rcases List.mem_append.mp he with he | he
  · exact isCreated_of_opening (h.opening e he)
  · simp only [closingEvents, List.mem_append, List.mem_map, List.mem_cons, List.mem_singleton,
      List.not_mem_nil, or_false] at he
    rcases he with ⟨_, _, rfl⟩ | rfl | rfl <;> rfl

/-- Every `function_call` item done at `[DONE]` was added before. -/
theorem closed_added_before_toolDone (order : RangeOrder (Int × OutputItem)) {s : StreamState}
    (h : ScanInv responseID s) :
    ∀ pre item post, s.written ++ closingEvents responseID order s = pre ++ .outputItemDone item :: post →
      item.type = "function_call" → ∃ a, .outputItemAdded a ∈ pre ∧ a.id = item.id := by
  intro pre item post heq htype
  have hpre := mem_pre_of_split heq (done_not_mem h item)
  have hmem : item ∈ doneItems (s.written ++ closingEvents responseID order s) :=
    mem_doneItems.mpr (heq ▸ List.mem_append_right _ (List.mem_cons_self _ _))
  rw [doneItems_closed order h] at hmem
  rcases List.mem_append.mp hmem with hmem | hmem
  · obtain ⟨e, he, rfl⟩ := List.mem_map.mp hmem
    have hid : e.2.id ∈ (List.range s.currentToolID).map (toolItemID responseID) :=
      toolCalls_ids h ▸ List.mem_map_of_mem _ ((order.range_perm _).subset he)
    obtain ⟨a, ha, haid⟩ := List.mem_map.mp (h.addedIDs.symm.subset (List.mem_append_right _ hid))
    exact ⟨a, hpre _ (mem_addedItems.mp ha), haid⟩
  · rw [List.mem_singleton.mp hmem] at htype
    simp [messageDoneItem] at htype

/-- The item done at `[DONE]` that is not a `function_call` is the message, with the text of
the deltas. -/
theorem closed_messageDone (order : RangeOrder (Int × OutputItem)) {s : StreamState}
    (h : ScanInv responseID s) :
    ∀ item ∈ doneItems (s.written ++ closingEvents responseID order s), item.type ≠ "function_call" →
      item = messageDoneItem responseID
        (String.join (textDeltas (s.written ++ closingEvents responseID order s))) := by
  intro item hitem htype
  rw [doneItems_closed order h] at hitem
  rcases List.mem_append.mp hitem with hitem | hitem
  · obtain ⟨e, he, rfl⟩ := List.mem_map.mp hitem
    exact absurd (range_toolCalls_type order h e he) htype
  · rw [List.mem_singleton.mp hitem, textDeltas_closed, ← h.outputText_eq]

/-- After the message's `done` event no `function_call` item is done. -/
theorem closed_toolDone_before_messageDone (order : RangeOrder (Int × OutputItem)) {s : StreamState}
    (h : ScanInv responseID s) :
    ∀ pre item post, s.written ++ closingEvents responseID order s = pre ++ .outputItemDone item :: post →
      item.type = "message" → ∀ it ∈ doneItems post, it.type ≠ "function_call" := by
  intro pre item post heq htype it hit
  rw [closing_split_message] at heq
  obtain ⟨-, -, rfl⟩ := split_eq_of_unique (p := isMessageDone) heq (by simp [isMessageDone, htype])
    (by
      intro z hz
      rcases List.mem_append.mp hz with hz | hz
      · exact (written_not_closing h z hz).1
      · obtain ⟨e, he, rfl⟩ := List.mem_map.mp hz
        simp [isMessageDone, range_toolCalls_type order h e he])
    (by simp [isMessageDone])
  simp [StreamEvent.done?] at hit

/-- At `[DONE]` every item added is done exactly once. -/
theorem closed_done_once (order : RangeOrder (Int × OutputItem)) {s : StreamState}
    (h : ScanInv responseID s) :
    ∀ a ∈ addedItems (s.written ++ closingEvents responseID order s),
      ((doneItems (s.written ++ closingEvents responseID order s)).map (·.id)).count a.id = 1 := by
  intro a ha
  rw [doneIDs_closing order h]
  refine List.count_eq_one_of_mem (doneIDs_closing_nodup order h) ?_
  rw [addedItems_append, (@closing_facts responseID order s).2.2, List.append_nil] at ha
  have hperm := (order.range_perm s.toolCalls).map (·.2.id)
  rw [toolCalls_ids h] at hperm
  have hid := h.addedIDs.subset (List.mem_map_of_mem (·.id) ha)
  rcases List.mem_append.mp hid with hid | hid
  · split at hid
    · exact List.mem_append_right _ hid
    · simp at hid
  · exact List.mem_append_left _ (hperm.symm.subset hid)

/-- `response.completed` is the last event of a closed transcript. -/
theorem closed_completed_last (order : RangeOrder (Int × OutputItem)) {s : StreamState}
    (h : ScanInv responseID s) :
    ∀ pre r post, s.written ++ closingEvents responseID order s = pre ++ .responseCompleted r :: post →
      post = [] := by
  intro pre r post heq
  rw [closing_split_completed] at heq
  obtain ⟨-, -, rfl⟩ := split_eq_of_unique (p := StreamEvent.isCompleted) heq rfl
    (by
      intro z hz
      simp only [List.mem_append, List.mem_map, List.mem_singleton] at hz
      rcases hz with (hz | ⟨_, _, rfl⟩) | rfl
      · exact (written_not_closing h z hz).2
      · rfl
      · rfl)
    (by simp)
  rfl

/-- A transcript closed by `[DONE]`. -/
theorem wellFormed_closed (order : RangeOrder (Int × OutputItem)) {s : StreamState}
    (h : ScanInv responseID s) {sawDone : Prop} (hs : sawDone) :
    WellFormedTranscript responseID sawDone (s.written ++ closingEvents responseID order s) := by
  obtain ⟨hbefore, hiff⟩ := message_facts h
    (by simp [List.filter_append, (@closing_facts responseID order s).1]) (@textDeltas_closed responseID order s)
  refine ⟨closed_created_first order h, closed_added_before_toolDone order h, closed_messageDone order h,
    doneIDs_closing order h ▸ doneIDs_closing_nodup order h, hbefore, hiff,
    closed_toolDone_before_messageDone order h, fun _ => ⟨?_, closed_done_once order h, by simp [closingEvents]⟩,
    fun pre r post heq => ⟨closed_completed_last order h pre r post heq, hs⟩⟩
  rw [doneItems_closed order h, textDeltas_closed, ← h.outputText_eq]
  simp

/-- The events of a run: what the loop wrote before the first `[DONE]` line, then the
closing events if such a line comes. -/
theorem events_handleStreamingResponse (doneOrder resultOrder : RangeOrder (Int × OutputItem))
    (body : UpstreamStream) :
    (handleStreamingResponse responseID doneOrder resultOrder body).1 =
      let s := scan responseID doneOrder (initialState responseID) (beforeDone body.lines)
      s.written ++ if .done ∈ body.lines then closingEvents responseID doneOrder s else [] := by
  simp only [handleStreamingResponse]
  rw [scan_eq]
  split
  · exact finish_written doneOrder _
  · rw [List.append_nil]

/-- After a `[DONE]` line, `response.completed` is written. -/
theorem completed_mem_handleStreamingResponse (doneOrder resultOrder : RangeOrder (Int × OutputItem))
    {body : UpstreamStream} (hd : .done ∈ body.lines) :
    .responseCompleted (completedResponse responseID) ∈
      (handleStreamingResponse responseID doneOrder resultOrder body).1 := by
  simp [events_handleStreamingResponse, hd, closingEvents]

/-- Without a `[DONE]` line, no `response.completed` is written. -/
theorem completed_not_mem_handleStreamingResponse (doneOrder resultOrder : RangeOrder (Int × OutputItem))
    {body : UpstreamStream} (hd : .done ∉ body.lines) (r : ResponsesResponse) :
    .responseCompleted r ∉ (handleStreamingResponse responseID doneOrder resultOrder body).1 := by
  simp only [events_handleStreamingResponse, if_neg hd, List.append_nil]
  exact completed_not_mem (scan_beforeDone_inv doneOrder _) r

/-- Every run of `HandleStreamingResponse` writes a well-formed transcript, for every
sequence of upstream lines and every order of the two map ranges. -/
theorem handleStreamingResponse_wellFormed (responseID : String)
    (doneOrder resultOrder : RangeOrder (Int × OutputItem)) (body : UpstreamStream) :
    WellFormedTranscript responseID (.done ∈ body.lines)
      (handleStreamingResponse responseID doneOrder resultOrder body).1 := by
  have h := @scan_beforeDone_inv responseID doneOrder body.lines
  rw [events_handleStreamingResponse]
  split
  · exact wellFormed_closed doneOrder h ‹_›
  · rw [List.append_nil]; exact wellFormed_open h ‹_›

/-- Every item done is a `function_call` item with the status `in_progress` it was added with,
or the message with the status `completed`: the `[DONE]` branch closes the tool calls without
completing them. -/
theorem handleStreamingResponse_doneStatus (responseID : String)
    (doneOrder resultOrder : RangeOrder (Int × OutputItem)) (body : UpstreamStream) :
    ∀ item ∈ doneItems (handleStreamingResponse responseID doneOrder resultOrder body).1,
      (item.type = "function_call" ∧ item.status = "in_progress") ∨
        (item.type = "message" ∧ item.status = "completed") := by
  have h := @scan_beforeDone_inv responseID doneOrder body.lines
  rw [events_handleStreamingResponse]
  split
  · intro item hitem
    rw [doneItems_closed doneOrder h] at hitem
    rcases List.mem_append.mp hitem with hitem | hitem
    · obtain ⟨e, he, rfl⟩ := List.mem_map.mp hitem
      exact .inl (toolCalls_slot h e ((doneOrder.range_perm _).subset he))
    · rw [List.mem_singleton.mp hitem]
      exact .inr ⟨rfl, rfl⟩
  · rw [List.append_nil, doneItems_eq_nil h]
    simp

/-- One tool call and `[DONE]`. -/
def toolCallStream : UpstreamStream :=
  { lines := [.chunk { choices := [{ delta := { toolCalls :=
      [{ id := "a", type := "function", function := { name := "f", arguments := "\x7b\x7d" } }] } }] }, .done] }

/-- The tool call of `toolCallStream` is done `in_progress`. -/
theorem handleStreamingResponse_doneStatus_toolCall :
    ∃ item ∈ doneItems (handleStreamingResponse "r" .insertion .insertion toolCallStream).1,
      item.type = "function_call" ∧ item.status = "in_progress" := by
  obtain ⟨item, hitem, htype⟩ : ∃ item ∈ doneItems (handleStreamingResponse "r" .insertion .insertion
      toolCallStream).1, item.type = "function_call" := by decide
  rcases handleStreamingResponse_doneStatus "r" .insertion .insertion toolCallStream item hitem with h | h
  · exact ⟨item, hitem, h⟩
  · exact absurd (h.1.symm.trans htype) (by decide)

/-- A stream that is only `[DONE]` writes the message's `done` event, and no `added` event
at all. -/
theorem handleStreamingResponse_done_without_added :
    doneItems (handleStreamingResponse "r" .insertion .insertion { lines := [.done] }).1 =
        [messageDoneItem "r" ""] ∧
      addedItems (handleStreamingResponse "r" .insertion .insertion { lines := [.done] }).1 = [] := by
  decide

end Responses2Chat.Converter
