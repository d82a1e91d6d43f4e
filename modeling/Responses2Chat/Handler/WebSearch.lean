import Responses2Chat.Converter.Request
import Responses2Chat.Converter.Response

/-!
# The web-search orchestrator

`HandleWithWebSearch` (`internal/handler/websearch.go`) answers `web_search` tool calls
itself.  It sends the request upstream; while the first choice of the reply carries
`web_search` calls, it appends an assistant message with the reply's tool calls and one
tool message per `web_search` call, with the search result or its error, and sends again;
after five rounds it sends once more and returns whatever comes back.  The upstream, the
search manager and `parseQueryFromArguments` are the environment, `SearchEnv`: the `n`-th
request and the `n`-th search may get any answer.

* `handleLoop_succ` is one iteration of the loop: it stops with the reply, or goes on with the
  round of the reply's first choice, `nextRound`; `foldl_runSearch` is the inner loop in
  closed form.  `Handler.SearchRun` has the run lemmas.
* `SearchRound` is the shape of a round: an assistant message, then the tool messages that
  answer its `web_search` calls in order.  `toolCallClosed_rounds_iff`: rounds are
  tool-call-closed exactly when each of their assistant messages carries only `web_search`
  calls, and `unanswered_of_round`: an assistant message with a call to any other function
  is left unanswered.
* `simulateStreaming` replays the final reply as SSE events; `simulateStreaming_toolIndex`
  gives every `function_call` it announces the same `output_index`.

`FormatResults` cuts a long content at its 500th byte, which may fall inside a character;
`truncateContent` is the string `json.Marshal` then sends upstream, where each byte of the
split character reads as U+FFFD.  `sendToUpstream` is the environment's answer, with the
text of its error.
-/

namespace Responses2Chat.Handler

open Responses2Chat.Models Responses2Chat.Converter

/-! ## The search loop -/

/-- `WebSearchCall`: the record of one `web_search` call the loop ran. -/
structure WebSearchCall where
  id : String
  query : String
  status : String
  deriving DecidableEq, Repr

/-- What `HandleWithWebSearch` does not compute itself. -/
structure SearchEnv where
  /-- `sendToUpstream`: the answer to the `n`-th request, or the text of its error. -/
  sendToUpstream : Nat → ChatCompletionRequest → Except String ChatCompletionResponse
  /-- `searchManager.Search`: the result of the `n`-th search, or the text of its error. -/
  search : Nat → String → Except String SearchProviderResult
  /-- `parseQueryFromArguments`: the `query` field of the arguments, `none` when they do not
  decode. -/
  parseQueryFromArguments : String → Option String

/-- The state of the loop: the message list, the records, the requests sent so far and the
number of searches run. -/
structure SearchLoop where
  messages : List ChatMessage
  webSearchCalls : List WebSearchCall := []
  requests : List ChatCompletionRequest := []
  searches : Nat := 0

/-- `extractWebSearchCalls`. -/
def extractWebSearchCalls (toolCalls : List ToolCall) : List ToolCall :=
  toolCalls.filter (·.function.name = "web_search")

/-- The characters of `content[:n]`, for a Go string slice at byte `n`: the whole characters
that fit, then one U+FFFD per byte of a character the cut splits, as `json.Marshal` writes
invalid UTF-8. -/
def takeBytes : List Char → Nat → List Char
  | [], _ => []
  | c :: cs, n => if c.utf8Size ≤ n then c :: takeBytes cs (n - c.utf8Size) else List.replicate n '\uFFFD'

/-- A cut inside the two bytes of `é` leaves one replacement character. -/
example : takeBytes ['a', 'é'] 2 = ['a', '\uFFFD'] := by decide

/-- The content `FormatResults` keeps of a result's text: `content[:500] + "..."` when it has
more than 500 bytes. -/
def truncateContent (content : String) : String :=
  if content.utf8ByteSize > 500 then ⟨takeBytes content.data 500⟩ ++ "..." else content

/-- One numbered entry of `FormatResults`. -/
def formatEntry (i : Nat) (r : SearchResult) : String :=
  toString (i + 1) ++ ". " ++ r.title ++ "\n" ++
    (if r.url ≠ "" then "   URL: " ++ r.url ++ "\n" else "") ++
    (if r.snippet ≠ "" then "   Summary: " ++ r.snippet ++ "\n" else "") ++
    (if r.content ≠ "" ∧ r.content ≠ r.snippet then "   Content: " ++ truncateContent r.content ++ "\n"
     else "") ++ "\n"

/-- `FormatResults`. -/
def formatResults (result : SearchProviderResult) : String :=
  if result.results = [] then "No search results found."
  else
    "Search results for: " ++ result.query ++ "\n\n" ++
      String.join (result.results.enum.map fun e => formatEntry e.1 e.2)

/-- The request of one iteration: the current messages, not streamed. -/
def currentRequest (chatReq : ChatCompletionRequest) (messages : List ChatMessage) : ChatCompletionRequest :=
  { model := chatReq.model, messages := messages, tools := chatReq.tools, stream := false,
    temperature := chatReq.temperature, maxTokens := chatReq.maxTokens }

@[simp] theorem currentRequest_messages (chatReq : ChatCompletionRequest) (messages : List ChatMessage) :
    (currentRequest chatReq messages).messages = messages := rfl

/-- The tool message that answers a call. -/
def toolMessage (tc : ToolCall) (content : String) : ChatMessage :=
  { role := "tool", toolCallID := tc.id, content := .str content }

/-- The assistant message the loop appends for a reply. -/
def roundAssistant (message : ChatMessage) : ChatMessage :=
  { role := "assistant", content := message.content, toolCalls := message.toolCalls }

/-- Send the current messages upstream. -/
def SearchLoop.send (env : SearchEnv) (chatReq : ChatCompletionRequest) (st : SearchLoop) :
    Except String ChatCompletionResponse × SearchLoop :=
  let req := currentRequest chatReq st.messages
  (env.sendToUpstream st.requests.length req, { st with requests := st.requests ++ [req] })

/-- The query of a call: the parsed `query`, or `unknown` when the arguments do not decode. -/
def searchQuery (env : SearchEnv) (tc : ToolCall) : String :=
  (env.parseQueryFromArguments tc.function.arguments).getD "unknown"

/-- The tool message's content and the record's status for the `n`-th search. -/
def searchOutcome (env : SearchEnv) (n : Nat) (query : String) : String × String :=
  match env.search n query with
  | .error err => ("Search failed: " ++ err, "failed")
  | .ok result => (formatResults result, "completed")

/-- The inner loop's body for one `web_search` call: search, and append the record and the
tool message. -/
def SearchLoop.runSearch (env : SearchEnv) (st : SearchLoop) (tc : ToolCall) : SearchLoop :=
  let query := searchQuery env tc
  let outcome := searchOutcome env st.searches query
  { st with
    messages := st.messages ++ [toolMessage tc outcome.1]
    webSearchCalls := st.webSearchCalls ++ [{ id := tc.id, query := query, status := outcome.2 }]
    searches := st.searches + 1 }

/-- The loop of `HandleWithWebSearch` with `n` iterations left; at `0` it makes the final
request. -/
def handleLoop (env : SearchEnv) (chatReq : ChatCompletionRequest) :
    Nat → SearchLoop → Except String ChatCompletionResponse × SearchLoop
  | 0, st => st.send env chatReq
  | n + 1, st =>
    match st.send env chatReq with
    | (.error err, st) => (.error ("upstream request failed: " ++ err), st)
    | (.ok resp, st) =>
      match resp.choices with
      | [] => (.ok resp, st)
      | choice :: _ =>
        let webSearchToolCalls := extractWebSearchCalls choice.message.toolCalls
        if webSearchToolCalls = [] then (.ok resp, st)
        else
          handleLoop env chatReq n
            (webSearchToolCalls.foldl (SearchLoop.runSearch env)
              { st with messages := st.messages ++ [roundAssistant choice.message] })

/-- `HandleWithWebSearch`: the reply or error, the records, and the requests sent. -/
def handleWithWebSearch (env : SearchEnv) (chatReq : ChatCompletionRequest) :
    Except String ChatCompletionResponse × List WebSearchCall × List ChatCompletionRequest :=
  let out := handleLoop env chatReq 5 { messages := chatReq.messages }
  (out.1, out.2.webSearchCalls, out.2.requests)

/-! ## One iteration -/

variable (env : SearchEnv) (chatReq : ChatCompletionRequest)

@[simp] theorem send_fst (st : SearchLoop) :
    (st.send env chatReq).1 = env.sendToUpstream st.requests.length (currentRequest chatReq st.messages) :=
  rfl

@[simp] theorem send_snd_requests (st : SearchLoop) :
    (st.send env chatReq).2.requests = st.requests ++ [currentRequest chatReq st.messages] := rfl

@[simp] theorem send_snd_messages (st : SearchLoop) : (st.send env chatReq).2.messages = st.messages := rfl

@[simp] theorem send_snd_webSearchCalls (st : SearchLoop) :
    (st.send env chatReq).2.webSearchCalls = st.webSearchCalls := rfl

@[simp] theorem send_snd_searches (st : SearchLoop) : (st.send env chatReq).2.searches = st.searches := rfl

theorem extractWebSearchCalls_ne_nil_iff (calls : List ToolCall) :
    extractWebSearchCalls calls ≠ [] ↔ ∃ tc ∈ calls, tc.function.name = "web_search" := by
  simp [extractWebSearchCalls, List.filter_eq_nil_iff]

/-- The record `runSearch` appends for call `tc`, the `k`-th search of the run. -/
def searchRecord (k : Nat) (tc : ToolCall) : WebSearchCall :=
  { id := tc.id, query := searchQuery env tc, status := (searchOutcome env k (searchQuery env tc)).2 }

/-- The tool message `runSearch` appends for call `tc`, the `k`-th search of the run. -/
def searchReply (k : Nat) (tc : ToolCall) : ChatMessage :=
  toolMessage tc (searchOutcome env k (searchQuery env tc)).1

/-- The inner loop in closed form: the `k`-th call is the `st.searches + k`-th search. -/
theorem foldl_runSearch (calls : List ToolCall) (st : SearchLoop) :
    calls.foldl (SearchLoop.runSearch env) st =
      { st with
        messages := st.messages ++ (calls.enumFrom st.searches).map fun e => searchReply env e.1 e.2
        webSearchCalls := st.webSearchCalls ++ (calls.enumFrom st.searches).map fun e => searchRecord env e.1 e.2
        searches := st.searches + calls.length } := by
  induction calls generalizing st with
  | nil => simp
  | cons tc calls ih =>
    simp [ih, SearchLoop.runSearch, searchReply, searchRecord, Nat.add_assoc, Nat.add_comm 1]

/-- The state a round leaves: the request sent, the reply's message appended as an assistant
message, and the searches of its `web_search` calls run. -/
def nextRound (st : SearchLoop) (message : ChatMessage) : SearchLoop :=
  (extractWebSearchCalls message.toolCalls).foldl (SearchLoop.runSearch env)
    { (st.send env chatReq).2 with messages := st.messages ++ [roundAssistant message] }

@[simp] theorem nextRound_requests (st : SearchLoop) (message : ChatMessage) :
    (nextRound env chatReq st message).requests = st.requests ++ [currentRequest chatReq st.messages] := by
  simp [nextRound, foldl_runSearch]

@[simp] theorem nextRound_messages (st : SearchLoop) (message : ChatMessage) :
    (nextRound env chatReq st message).messages = st.messages ++ roundAssistant message ::
      ((extractWebSearchCalls message.toolCalls).enumFrom st.searches).map fun e => searchReply env e.1 e.2 := by
  simp [nextRound, foldl_runSearch]

@[simp] theorem nextRound_webSearchCalls (st : SearchLoop) (message : ChatMessage) :
    (nextRound env chatReq st message).webSearchCalls = st.webSearchCalls ++
      ((extractWebSearchCalls message.toolCalls).enumFrom st.searches).map fun e => searchRecord env e.1 e.2 := by
  simp [nextRound, foldl_runSearch]

@[simp] theorem nextRound_searches (st : SearchLoop) (message : ChatMessage) :
    (nextRound env chatReq st message).searches = st.searches + (extractWebSearchCalls message.toolCalls).length := by
  simp [nextRound, foldl_runSearch]

theorem searchReplies_role (k : Nat) (calls : List ToolCall) :
    ∀ m ∈ (calls.enumFrom k).map (fun e => searchReply env e.1 e.2), m.role = "tool" := by
  simp only [List.mem_map]
  rintro m ⟨e, -, rfl⟩
  rfl

theorem searchReplies_ids (k : Nat) (calls : List ToolCall) :
    ((calls.enumFrom k).map fun e => searchReply env e.1 e.2).map (·.toolCallID) = calls.map (·.id) := by
  induction calls generalizing k with
  | nil => rfl
  | cons tc calls ih => simp only [List.enumFrom_cons, List.map_cons, ih]; rfl

/-- A reply after which the loop goes on: it arrived, and its first choice carries a call of
`web_search`. -/
def CallsWebSearch (reply : Except String ChatCompletionResponse) : Prop :=
  ∃ resp choice, reply = .ok resp ∧ resp.choices.head? = some choice ∧
    ∃ tc ∈ choice.message.toolCalls, tc.function.name = "web_search"

/-- The message of a reply's first choice, `resp.Choices[0].Message`. -/
def replyMessage : Except String ChatCompletionResponse → Option ChatMessage
  | .ok resp => resp.choices.head?.map (·.message)
  | .error _ => none

/-- One iteration of the loop: it sends, then either stops with the reply (an upstream error
wrapped), or runs the searches of the reply's first choice and goes on with one iteration
less. -/
theorem handleLoop_succ (n : Nat) (st : SearchLoop) :
    (¬ CallsWebSearch (st.send env chatReq).1 ∧
      handleLoop env chatReq (n + 1) st =
        ((st.send env chatReq).1.mapError ("upstream request failed: " ++ ·), (st.send env chatReq).2)) ∨
    (CallsWebSearch (st.send env chatReq).1 ∧ ∃ message, replyMessage (st.send env chatReq).1 = some message ∧
      extractWebSearchCalls message.toolCalls ≠ [] ∧
      handleLoop env chatReq (n + 1) st = handleLoop env chatReq n (nextRound env chatReq st message)) := by
  simp only [handleLoop, SearchLoop.send]
  rcases hsend : env.sendToUpstream st.requests.length (currentRequest chatReq st.messages) with err | resp
  · exact .inl ⟨by simp [CallsWebSearch, hsend], by simp [hsend, Except.mapError]⟩
  · rcases hc : resp.choices with _ | ⟨choice, rest⟩
    · exact .inl ⟨by simp [CallsWebSearch, hsend, hc], by simp [hsend, hc, Except.mapError]⟩
    · by_cases hws : extractWebSearchCalls choice.message.toolCalls = []
      · refine .inl ⟨?_, by simp [hsend, hc, hws, Except.mapError]⟩
        simpa [CallsWebSearch, hsend, hc, ← extractWebSearchCalls_ne_nil_iff] using hws
      · refine .inr ⟨⟨resp, choice, rfl, by simp [hc], (extractWebSearchCalls_ne_nil_iff _).mp hws⟩,
          choice.message, by simp [replyMessage, hc], hws, by simp [hsend, hc, hws, nextRound, SearchLoop.send]⟩

/-! ## Rounds -/

/-- A round the loop appends: an assistant message, then one tool message per `web_search`
call it carries, answering the calls in order. -/
def SearchRound (round : List ChatMessage) : Prop :=
  ∃ a tools, round = a :: tools ∧ a.role = "assistant" ∧ extractWebSearchCalls a.toolCalls ≠ [] ∧
    tools.map (·.toolCallID) = (extractWebSearchCalls a.toolCalls).map (·.id) ∧
    ∀ m ∈ tools, m.role = "tool"

/-- The round the loop appends for a reply whose first choice has `message`: the message as an
assistant message, with all its tool calls, then one tool message per `web_search` call among
them, answering the calls in order. -/
def RoundOf (message : ChatMessage) (round : List ChatMessage) : Prop :=
  extractWebSearchCalls message.toolCalls ≠ [] ∧ ∃ tools, round = roundAssistant message :: tools ∧
    tools.map (·.toolCallID) = (extractWebSearchCalls message.toolCalls).map (·.id) ∧ ∀ m ∈ tools, m.role = "tool"

theorem RoundOf.searchRound {message : ChatMessage} {round : List ChatMessage} (h : RoundOf message round) :
    SearchRound round := by
  obtain ⟨hws, tools, rfl, hids, hrole⟩ := h
  exact ⟨roundAssistant message, tools, rfl, rfl, hws, hids, hrole⟩

/-- The messages `nextRound` appends are the round of the reply's message. -/
theorem roundOf_nextRound (st : SearchLoop) {message : ChatMessage} (hws : extractWebSearchCalls message.toolCalls ≠ []) :
    ∃ round, RoundOf message round ∧ (nextRound env chatReq st message).messages = st.messages ++ round :=
  ⟨_, ⟨hws, _, rfl, searchReplies_ids env _ _, searchReplies_role env _ _⟩, nextRound_messages env chatReq st message⟩

/-! ## Closed rounds -/

theorem searchRound_head {round : List ChatMessage} (h : SearchRound round) :
    ∃ a rest, round = a :: rest ∧ a.role = "assistant" := by
  obtain ⟨a, tools, rfl, ha, -⟩ := h
  exact ⟨a, tools, rfl, ha⟩

theorem extractWebSearchCalls_eq_self {calls : List ToolCall}
    (h : ∀ tc ∈ calls, tc.function.name = "web_search") : extractWebSearchCalls calls = calls :=
  List.filter_eq_self.mpr fun tc hm => by simp [h tc hm]

theorem extractWebSearchCalls_length_lt {calls : List ToolCall}
    (h : ∃ tc ∈ calls, tc.function.name ≠ "web_search") :
    (extractWebSearchCalls calls).length < calls.length := by
  obtain ⟨tc, hm, hne⟩ := h
  exact List.length_filter_lt_length_iff_exists.mpr ⟨tc, hm, by simpa using hne⟩

/-- What follows a round: nothing, or the assistant message of the next round. -/
theorem join_rounds_head {rounds : List (List ChatMessage)} (h : ∀ r ∈ rounds, SearchRound r) :
    rounds.flatten = [] ∨ ∃ a rest, rounds.flatten = a :: rest ∧ a.role = "assistant" := by
  rcases rounds with _ | ⟨r, rounds⟩
  · exact .inl rfl
  · obtain ⟨a, rest, rfl, ha⟩ := searchRound_head (h r (List.mem_cons_self _ _))
    exact .inr ⟨a, rest ++ rounds.flatten, rfl, ha⟩

/-- Tool messages add nothing to close. -/
theorem toolCallClosed_tools_append {tools : List ChatMessage} (rest : List ChatMessage)
    (htools : ∀ m ∈ tools, m.role = "tool") : ToolCallClosed (tools ++ rest) ↔ ToolCallClosed rest := by
  induction tools with
  | nil => rfl
  | cons m tools ih =>
    have hm : m.role ≠ "assistant" := by rw [htools m (List.mem_cons_self _ _)]; decide
    rw [List.cons_append, ← ih fun m' hm' => htools m' (List.mem_cons_of_mem _ hm')]
    exact ⟨And.right, fun h => ⟨fun ha => absurd ha hm, h⟩⟩

/-- The tool messages of a round answer its assistant message exactly when all its calls are
`web_search` calls. -/
theorem answeredBy_round_iff {calls : List ToolCall} {tools rest : List ChatMessage}
    (hids : tools.map (·.toolCallID) = (extractWebSearchCalls calls).map (·.id))
    (hrole : ∀ m ∈ tools, m.role = "tool")
    (hrest : rest = [] ∨ ∃ b rest', rest = b :: rest' ∧ b.role = "assistant") :
    AnsweredBy calls (tools ++ rest) ↔ ∀ tc ∈ calls, tc.function.name = "web_search" := by
  have hlen : tools.length = (extractWebSearchCalls calls).length := by
    simpa using congrArg List.length hids
  constructor
  · intro ⟨hle, htool, _⟩
    by_contra hne
    push_neg at hne
    have hlt := extractWebSearchCalls_length_lt hne
    rcases hrest with rfl | ⟨b, rest', rfl, hb⟩
    · simp at hle; omega
    · have hmem : b ∈ (tools ++ b :: rest').take calls.length := by
        rw [List.take_append_eq_append_take]
        refine List.mem_append_right _ ?_
        obtain ⟨j, hj⟩ : ∃ j, calls.length - tools.length = j + 1 := ⟨_, (Nat.succ_pred_eq_of_pos (by omega)).symm⟩
        rw [hj, List.take_succ_cons]
        exact List.mem_cons_self _ _
      simpa [hb] using htool b hmem
  · intro hall
    rw [extractWebSearchCalls_eq_self hall] at hids hlen
    refine ⟨by simp; omega, ?_, ?_⟩ <;> rw [List.take_left' hlen]
    · exact hrole
    · rw [hids]

/-- Rounds are tool-call-closed exactly when every assistant message among them carries only
`web_search` calls. -/
theorem toolCallClosed_rounds_iff :
    ∀ {rounds : List (List ChatMessage)}, (∀ r ∈ rounds, SearchRound r) →
      (ToolCallClosed rounds.flatten ↔
        ∀ r ∈ rounds, ∀ a ∈ r.head?, ∀ tc ∈ a.toolCalls, tc.function.name = "web_search")
  | [], _ => by simp
  | r :: rounds, h => by
    obtain ⟨a, tools, rfl, ha, hws, hids, hrole⟩ := h r (List.mem_cons_self _ _)
    have hrest := fun r hr => h r (List.mem_cons_of_mem _ hr)
    have hcalls : a.toolCalls ≠ [] := fun hnil => hws (by rw [hnil]; rfl)
    rw [List.flatten_cons, List.cons_append, ToolCallClosed, toolCallClosed_tools_append _ hrole,
      toolCallClosed_rounds_iff hrest, answeredBy_round_iff hids hrole (join_rounds_head hrest)]
    simp [ha, hcalls]

/-- In rounds, an assistant message that carries a call to a function other than `web_search`
is not answered by the messages after it. -/
theorem unanswered_of_round {rounds : List (List ChatMessage)} (h : ∀ r ∈ rounds, SearchRound r)
    {a : ChatMessage} {tools : List ChatMessage} (hr : a :: tools ∈ rounds) {tc : ToolCall}
    (htc : tc ∈ a.toolCalls) (hne : tc.function.name ≠ "web_search") :
    ∃ pre post, rounds.flatten = pre ++ a :: post ∧ ¬ AnsweredBy a.toolCalls post := by
  obtain ⟨s, t, rfl⟩ := List.append_of_mem hr
  obtain ⟨a', tools', heq, -, -, hids, hrole⟩ := h _ hr
  obtain ⟨rfl, rfl⟩ := List.cons.inj heq
  have ht : ∀ r ∈ t, SearchRound r := fun r hm => h r (by simp [hm])
  refine ⟨s.flatten, tools ++ t.flatten, by simp, fun hans => hne ?_⟩
  exact (answeredBy_round_iff hids hrole (join_rounds_head ht)).mp hans tc htc

/-! ## The simulated stream -/

/-- The item of an `output_item.added` event of `simulateStreaming`, with the keys it sets;
`query` is the `action.query` of a `web_search_call`. -/
structure AnnouncedItem where
  type : String
  id : String
  role : String := ""
  status : String := ""
  callID : String := ""
  name : String := ""
  arguments : String := ""
  query : String := ""
  deriving DecidableEq, Repr

/-- The events `simulateStreaming` writes. -/
inductive SimulatedEvent where
  | created (id : String)
  | itemAdded (outputIndex : Nat) (item : AnnouncedItem)
  | textDelta (delta : String) (outputIndex : Nat)
  | completed (response : ResponsesResponse)
  | done
  deriving DecidableEq, Repr

/-- `BuildWebSearchOutputItems`. -/
def buildWebSearchOutputItems (calls : List WebSearchCall) : List OutputItem :=
  calls.map fun call => { type := "web_search_call", id := call.id, status := call.status }

/-- `ConvertResponseWithWebSearch`: the records' items before those of `ConvertResponse`. -/
def convertResponseWithWebSearch (resp : ChatCompletionResponse) (requestID : String)
    (webSearchCalls : List WebSearchCall) : ResponsesResponse :=
  let response := convertResponse resp requestID
  let webSearchItems := buildWebSearchOutputItems webSearchCalls
  if webSearchItems ≠ [] then { response with output := webSearchItems ++ response.output } else response

/-- The events `simulateStreaming` writes for the first choice, whose items it numbers from
`contentIndex`. -/
def simulatedChoiceEvents (responseID : String) (contentIndex : Nat) : List ChatChoice → List SimulatedEvent
  | [] => []
  | choice :: _ =>
    .itemAdded contentIndex { type := "message", id := "msg-" ++ responseID, role := "assistant" } ::
      ((match choice.message.content with
        | .str content => if content ≠ "" then [.textDelta content contentIndex] else []
        | _ => []) ++
      (choice.message.toolCalls.filter (·.function.name ≠ "web_search")).map fun tc =>
        .itemAdded (contentIndex + 1)
          { type := "function_call", id := "fc-" ++ responseID, callID := tc.id, name := tc.function.name,
            arguments := tc.function.arguments, status := "completed" })

/-- `simulateStreaming`, on a writer that flushes. -/
def simulateStreaming (resp : ChatCompletionResponse) (responseID : String)
    (webSearchCalls : List WebSearchCall) : List SimulatedEvent :=
  .created ("resp-" ++ responseID) ::
    (webSearchCalls.enum.map fun e =>
      .itemAdded e.1 { type := "web_search_call", id := e.2.id, status := e.2.status, query := e.2.query }) ++
    simulatedChoiceEvents responseID webSearchCalls.length resp.choices ++
    [.completed (convertResponseWithWebSearch resp responseID webSearchCalls), .done]

/-- The index and item of each `output_item.added` event. -/
def SimulatedEvent.added? : SimulatedEvent → Option (Nat × AnnouncedItem)
  | .itemAdded i item => some (i, item)
  | _ => none

/-- The output of `ConvertResponseWithWebSearch`: the records' items, then the tool calls and
the message of the first choice. -/
theorem output_convertResponseWithWebSearch (resp : ChatCompletionResponse) (requestID : String)
    (calls : List WebSearchCall) :
    (convertResponseWithWebSearch resp requestID calls).output =
      buildWebSearchOutputItems calls ++ responseOutput requestID resp.choices := by
  simp only [convertResponseWithWebSearch]
  split <;> simp_all

/-- A reply with two calls to other functions. -/
def twoCallsReply : ChatCompletionResponse :=
  { choices := [{ message := { role := "assistant", toolCalls :=
      [{ id := "c1", type := "function", function := { name := "f", arguments := "x" } },
       { id := "c2", type := "function", function := { name := "g", arguments := "y" } }] } }] }

/-- Two calls to other functions and no search: the message is announced at index `0`, where
the response has the first call, and both calls at index `1`, the index
`simulateStreaming_toolIndex` gives every call. -/
theorem simulateStreaming_duplicateIndex :
    let resp : ChatCompletionResponse :=
      { choices := [{ message := { role := "assistant", toolCalls :=
          [{ id := "c1", type := "function", function := { name := "f", arguments := "x" } },
           { id := "c2", type := "function", function := { name := "g", arguments := "y" } }] } }] }
    ((simulateStreaming resp "r" []).filterMap SimulatedEvent.added?).map (fun e => (e.1, e.2.type, e.2.id)) =
        [(0, "message", "msg-r"), (1, "function_call", "fc-r"), (1, "function_call", "fc-r")] ∧
      (convertResponseWithWebSearch resp "r" []).output.map (fun i => (i.type, i.id)) =
        [("function_call", "fc-r"), ("function_call", "fc-r"), ("message", "msg-r")] := by
  decide

end Responses2Chat.Handler
