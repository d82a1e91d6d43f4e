import Responses2Chat.Handler.WebSearch

/-!
# What one run of the web-search loop sends and records

`HandleWithWebSearch` sends a request, and sends the next one only after a reply whose first
choice calls `web_search`; after five such rounds it sends once more and returns whatever
comes back.  This file says what a whole run does, for every upstream and every search
manager:

* Every run lemma is an induction on the iterations left that cites `handleLoop_succ`, the
  one iteration: the loop stops with the reply, or runs the searches of the reply's first
  choice and goes on.
* `handleLoop_requests`, `handleLoop_sends_after` and `handleLoop_result` count the requests
  of a run, say when the next one is sent, and what the run returns: the last reply, with an
  error wrapped unless it was the final request's.
* `handleLoop_linked` ties each request to the one before it: it carries that one's messages
  followed by the round of that one's reply, the reply's message as an assistant message and
  the tool messages of its searches.  `handleWithWebSearch_requests_rounds` says what this
  makes of every request: the original messages, then one round per earlier reply, closed
  exactly when those replies call only `web_search`, and a call to any other function left
  unanswered in every later request.
* `handleLoop_records` is the loop invariant that ties the records to the tool messages
  appended and to the `web_search` calls they answer.
-/

namespace Responses2Chat.Handler

open Responses2Chat.Models Responses2Chat.Converter

variable (env : SearchEnv) (chatReq : ChatCompletionRequest)

/-! ## Requests -/

/-- A run with `n` iterations left sends between one and `n + 1` requests. -/
theorem handleLoop_requests :
    ∀ (n : Nat) (st : SearchLoop), ∃ new, (handleLoop env chatReq n st).2.requests = st.requests ++ new ∧
      1 ≤ new.length ∧ new.length ≤ n + 1
  | 0, _ => ⟨_, rfl, le_rfl, le_rfl⟩
  | n + 1, st => by
    rcases handleLoop_succ env chatReq n st with ⟨-, h⟩ | ⟨-, message, -, -, h⟩ <;> rw [h]
    · exact ⟨_, rfl, le_rfl, by simp⟩
    · obtain ⟨new, hnew, h1, h2⟩ := handleLoop_requests n (nextRound env chatReq st message)
      exact ⟨currentRequest chatReq st.messages :: new, by simp [hnew], by simp, by simp; omega⟩

/-- The run sends the request after the `j`-th exactly when an iteration was left for it and
the `j`-th reply calls `web_search`. -/
theorem handleLoop_sends_after :
    ∀ (n : Nat) (st : SearchLoop) (j : Nat), st.requests.length ≤ j →
      (j + 1 < (handleLoop env chatReq n st).2.requests.length ↔ j < st.requests.length + n ∧
        ∃ req, (handleLoop env chatReq n st).2.requests[j]? = some req ∧ CallsWebSearch (env.sendToUpstream j req))
  | 0, st, j, hj => iff_of_false (by simp [handleLoop]; omega) (fun h => absurd h.1 (by omega))
  | n + 1, st, j, hj => by
    rcases handleLoop_succ env chatReq n st with ⟨hstop, h⟩ | ⟨hgo, message, -, -, h⟩ <;> rw [h]
    · refine iff_of_false (by simp; omega) ?_
      rintro ⟨-, req, hreq, hcalls⟩
      rw [send_snd_requests, List.getElem?_append_right hj, List.getElem?_cons] at hreq
      split_ifs at hreq with h0
      · obtain ⟨rfl, rfl⟩ : j = st.requests.length ∧ _ := ⟨by omega, Option.some.inj hreq⟩
        exact hstop hcalls
      · simp at hreq
    · obtain ⟨new, hnew, h1, -⟩ := handleLoop_requests env chatReq n (nextRound env chatReq st message)
      rcases Nat.lt_or_ge st.requests.length j with hlt | hle
      · rw [handleLoop_sends_after n _ j (by simp; omega)]
        exact and_congr_left' (by simp; omega)
      · obtain rfl : j = st.requests.length := by omega
        rw [hnew]
        refine iff_of_true (by simp; omega) ⟨by omega, currentRequest chatReq st.messages, ?_, hgo⟩
        rw [nextRound_requests, List.append_assoc, List.getElem?_append_right le_rfl, Nat.sub_self,
          List.singleton_append, List.getElem?_cons_zero]

/-- What a run returns: the reply to its last request, with an upstream error wrapped unless
that request was the final one, sent with no iteration left. -/
theorem handleLoop_result :
    ∀ (n : Nat) (st : SearchLoop), ∃ req, (handleLoop env chatReq n st).2.requests.getLast? = some req ∧
      (handleLoop env chatReq n st).1 =
        if (handleLoop env chatReq n st).2.requests.length = st.requests.length + n + 1 then
          env.sendToUpstream ((handleLoop env chatReq n st).2.requests.length - 1) req
        else (env.sendToUpstream ((handleLoop env chatReq n st).2.requests.length - 1) req).mapError
          ("upstream request failed: " ++ ·)
  | 0, st => ⟨currentRequest chatReq st.messages, by simp [handleLoop], by simp [handleLoop]⟩
  | n + 1, st => by
    rcases handleLoop_succ env chatReq n st with ⟨-, h⟩ | ⟨-, message, -, -, h⟩ <;> rw [h]
    · exact ⟨currentRequest chatReq st.messages, by simp, by simp⟩
    · obtain ⟨req, hlast, hres⟩ := handleLoop_result n (nextRound env chatReq st message)
      refine ⟨req, hlast, ?_⟩
      rw [hres, nextRound_requests, List.length_append, List.length_singleton, Nat.add_right_comm _ 1 n,
        Nat.add_assoc _ n 1]

/-! ## The rounds of a run -/

/-- Requests sent one after another, the first of them the `base`-th of the run: each after the
first carries the messages of the one before it, followed by the round of that one's reply. -/
def Linked (base : Nat) (reqs : List ChatCompletionRequest) : Prop :=
  ∀ k req req', reqs[k]? = some req → reqs[k + 1]? = some req' → ∃ message round,
    replyMessage (env.sendToUpstream (base + k) req) = some message ∧ RoundOf message round ∧
      req'.messages = req.messages ++ round

theorem linked_singleton (base : Nat) (req : ChatCompletionRequest) : Linked env base [req] := by
  intro k _ _ _ h
  simp at h

theorem linked_cons {base : Nat} {req : ChatCompletionRequest} {reqs : List ChatCompletionRequest}
    (h : Linked env (base + 1) reqs)
    (hhead : ∀ req' ∈ reqs.head?, ∃ message round, replyMessage (env.sendToUpstream base req) = some message ∧
      RoundOf message round ∧ req'.messages = req.messages ++ round) :
    Linked env base (req :: reqs) := by
  rintro (_ | k) r r' hk hk'
  · rw [List.getElem?_cons_zero, Option.some.injEq] at hk
    subst hk
    exact hhead r' (by simpa [List.head?_eq_getElem?] using hk')
  · rw [List.getElem?_cons_succ] at hk hk'
    rw [Nat.add_comm k 1, ← Nat.add_assoc]
    exact h k r r' hk hk'

/-- The requests of a run are linked: each after the first carries the messages of the one
before it, followed by the round of that one's reply. -/
theorem handleLoop_linked :
    ∀ (n : Nat) (st : SearchLoop), ∃ new, (handleLoop env chatReq n st).2.requests = st.requests ++ new ∧
      new.head? = some (currentRequest chatReq st.messages) ∧ Linked env st.requests.length new
  | 0, _ => ⟨_, rfl, rfl, linked_singleton env _ _⟩
  | n + 1, st => by
    rcases handleLoop_succ env chatReq n st with ⟨-, h⟩ | ⟨-, message, hmsg, hws, h⟩ <;> rw [h]
    · exact ⟨_, rfl, rfl, linked_singleton env _ _⟩
    · obtain ⟨new, hnew, hhead, hlinked⟩ := handleLoop_linked n (nextRound env chatReq st message)
      obtain ⟨round, hround, hms⟩ := roundOf_nextRound env chatReq st hws
      refine ⟨currentRequest chatReq st.messages :: new, by simp [hnew], rfl, linked_cons env ?_ ?_⟩
      · simpa using hlinked
      · rw [hhead]
        rintro _ ⟨⟩
        exact ⟨message, round, hmsg, hround, hms⟩

/-- In linked requests, the `j`-th carries the messages of the first followed by rounds: each
the round of the reply to an earlier request, and the reply to each earlier request has its
round among them. -/
theorem linked_rounds {base : Nat} {reqs : List ChatCompletionRequest} (h : Linked env base reqs)
    {first : ChatCompletionRequest} (hfirst : reqs.head? = some first) :
    ∀ j req, reqs[j]? = some req → ∃ rounds : List (List ChatMessage),
      req.messages = first.messages ++ rounds.flatten ∧ (∀ r ∈ rounds, SearchRound r) ∧
      (∀ r ∈ rounds, ∃ i < j, ∃ req' message, reqs[i]? = some req' ∧
        replyMessage (env.sendToUpstream (base + i) req') = some message ∧ RoundOf message r) ∧
      ∀ i < j, ∀ req' message, reqs[i]? = some req' →
        replyMessage (env.sendToUpstream (base + i) req') = some message → ∃ r ∈ rounds, RoundOf message r
  | 0, req, hreq => by
    rw [List.head?_eq_getElem?, hreq, Option.some.injEq] at hfirst
    exact ⟨[], by simp [hfirst], by simp, by simp, fun i hi => absurd hi (Nat.not_lt_zero i)⟩
  | j + 1, req', hreq' => by
    obtain ⟨hj, -⟩ := List.getElem?_eq_some_iff.mp hreq'
    have hreq := List.getElem?_eq_getElem (show j < reqs.length by omega)
    obtain ⟨rounds, hms, hsr, hback, hfwd⟩ := linked_rounds h hfirst j _ hreq
    obtain ⟨message, round, hmsg, hround, hms'⟩ := h j _ req' hreq hreq'
    refine ⟨rounds ++ [round], by simp [hms', hms], ?_, fun r hr => ?_, fun i hi r' m hi' hm => ?_⟩
    · exact fun r hr => (List.mem_append.mp hr).elim (hsr r) fun h => List.mem_singleton.mp h ▸ hround.searchRound
    · rcases List.mem_append.mp hr with hr | hr
      · obtain ⟨i, hi, rest⟩ := hback r hr
        exact ⟨i, by omega, rest⟩
      · obtain rfl := List.mem_singleton.mp hr
        exact ⟨j, by omega, _, message, hreq, hmsg, hround⟩
    · rcases Nat.lt_succ_iff_lt_or_eq.mp hi with hi | rfl
      · obtain ⟨r, hr, hr'⟩ := hfwd i hi r' m hi' hm
        exact ⟨r, List.mem_append_left _ hr, hr'⟩
      · obtain rfl : reqs[i] = r' := Option.some.inj (hreq.symm.trans hi')
        obtain rfl : message = m := Option.some.inj (hmsg.symm.trans hm)
        exact ⟨round, by simp, hround⟩

/-- Every request `HandleWithWebSearch` sends, in a loop iteration or in the forced final call,
is built from the one before it: the first carries the original messages, and each later one
the messages of the one before it followed by the round of that one's reply, the reply's
message with all its tool calls and one tool message per `web_search` call among them.  The
messages the loop appended to the `j`-th request are therefore tool-call-closed exactly when
every earlier reply calls only `web_search`; a reply that also calls another function leaves
that call unanswered in every later request. -/
theorem handleWithWebSearch_requests_rounds :
    let reqs : List ChatCompletionRequest := (handleWithWebSearch env chatReq).2.2
    (∀ req ∈ reqs.head?, req.messages = chatReq.messages) ∧
      (∀ k req req', reqs[k]? = some req → reqs[k + 1]? = some req' → ∃ message round,
        replyMessage (env.sendToUpstream k req) = some message ∧ RoundOf message round ∧
          req'.messages = req.messages ++ round) ∧
      (∀ j req, reqs[j]? = some req →
        (ToolCallClosed (req.messages.drop chatReq.messages.length) ↔
          ∀ k < j, ∀ req' message, reqs[k]? = some req' → replyMessage (env.sendToUpstream k req') = some message →
            ∀ tc ∈ message.toolCalls, tc.function.name = "web_search")) ∧
      ∀ k j req req' message tc, k < j → reqs[k]? = some req → reqs[j]? = some req' →
        replyMessage (env.sendToUpstream k req) = some message → tc ∈ message.toolCalls →
        tc.function.name ≠ "web_search" →
        ∃ pre post, req'.messages = pre ++ roundAssistant message :: post ∧ ¬ AnsweredBy message.toolCalls post := by
  obtain ⟨reqs, hreqs, hhead, hlinked⟩ := handleLoop_linked env chatReq 5 { messages := chatReq.messages }
  simp only [List.nil_append, List.length_nil] at hreqs hlinked
  have hrounds := linked_rounds env hlinked hhead
  simp only [Nat.zero_add, currentRequest_messages] at hrounds
  simp only [handleWithWebSearch, hreqs]
  refine ⟨by simp [hhead], fun k req req' hk hk' => by simpa using hlinked k req req' hk hk',
    fun j req hj => ?_, fun k j req req' message tc hkj hk hj hmsg htc hne => ?_⟩
  · obtain ⟨rounds, hms, hsr, hback, hfwd⟩ := hrounds j req hj
    rw [hms, List.drop_left, toolCallClosed_rounds_iff hsr]
    constructor
    · intro hall k hkj req' message hk hmsg tc htc
      obtain ⟨r, hr, -, tools, rfl, -⟩ := hfwd k hkj req' message hk hmsg
      exact hall _ hr _ rfl tc htc
    · intro hall r hr a ha tc htc
      obtain ⟨k, hkj, req', message, hk, hmsg, -, tools, rfl, -⟩ := hback r hr
      obtain rfl : roundAssistant message = a := Option.some.inj ha
      exact hall k hkj req' message hk hmsg tc htc
  · obtain ⟨rounds, hms, hsr, -, hfwd⟩ := hrounds j req' hj
    obtain ⟨r, hr, -, tools, rfl, -⟩ := hfwd k hkj req message hk hmsg
    obtain ⟨pre, post, hflat, hnot⟩ := unanswered_of_round hsr hr htc hne
    exact ⟨chatReq.messages ++ pre, post, by rw [hms, hflat, List.append_assoc], hnot⟩

/-- The first reply calls `web_search` and `f` together. -/
def mixedCallsReply : ChatMessage :=
  { role := "assistant", toolCalls :=
      [{ id := "w1", type := "function", function := { name := "web_search", arguments := "q" } },
       { id := "f1", type := "function", function := { name := "f", arguments := "x" } }] }

/-- An upstream that answers the first request with `mixedCallsReply` and later ones with text. -/
def mixedCallsEnv : SearchEnv where
  sendToUpstream n _ :=
    .ok (if n = 0 then { choices := [{ message := mixedCallsReply }] }
      else { choices := [{ message := { role := "assistant", content := .str "done" } }] })
  search _ query := .ok { query := query }
  parseQueryFromArguments _ := some "lean"

/-- A user message to start from. -/
def mixedCallsRequest : ChatCompletionRequest :=
  { model := "m", messages := [{ role := "user", content := .str "q" }] }

/-- The call to `f` is unanswered in the second request. -/
theorem handleWithWebSearch_requests_rounds_mixedCalls :
    ∃ req pre post, (handleWithWebSearch mixedCallsEnv mixedCallsRequest).2.2[1]? = some req ∧
      req.messages = pre ++ roundAssistant mixedCallsReply :: post ∧ ¬ AnsweredBy mixedCallsReply.toolCalls post := by
  obtain ⟨-, -, -, hmixed⟩ := handleWithWebSearch_requests_rounds mixedCallsEnv mixedCallsRequest
  obtain ⟨pre, post, hms, hnot⟩ := hmixed 0 1 _ _ mixedCallsReply
    { id := "f1", type := "function", function := { name := "f", arguments := "x" } } Nat.one_pos rfl rfl rfl
    (by decide) (by decide)
  exact ⟨_, pre, post, rfl, hms, hnot⟩

/-- After a reply that mixes a `web_search` call with a call to `f`, the next request carries
the assistant message with both calls and a tool message for the search only. -/
theorem handleWithWebSearch_mixedCalls_not_closed :
    ∃ req ∈ (handleWithWebSearch mixedCallsEnv mixedCallsRequest).2.2, ¬ ToolCallClosed req.messages := by
  decide

/-! ## The traffic of a run -/

/-- `HandleWithWebSearch` sends one to six requests.  It sends the request after the `i`-th
exactly when `i < 5` and the `i`-th reply calls `web_search`, so it sends six exactly when the
first five replies all do.  It returns the reply to its last request, with an upstream error
wrapped unless that request was the sixth. -/
theorem handleWithWebSearch_traffic :
    let reqs : List ChatCompletionRequest := (handleWithWebSearch env chatReq).2.2
    1 ≤ reqs.length ∧ reqs.length ≤ 6 ∧
      (∀ i, i + 1 < reqs.length ↔ i < 5 ∧ ∃ req, reqs[i]? = some req ∧ CallsWebSearch (env.sendToUpstream i req)) ∧
      (reqs.length = 6 ↔ ∀ i < 5, ∃ req, reqs[i]? = some req ∧ CallsWebSearch (env.sendToUpstream i req)) ∧
      ∃ req, reqs.getLast? = some req ∧
        (handleWithWebSearch env chatReq).1 =
          if reqs.length = 6 then env.sendToUpstream 5 req
          else (env.sendToUpstream (reqs.length - 1) req).mapError ("upstream request failed: " ++ ·) := by
  have hlen := handleLoop_requests env chatReq 5 { messages := chatReq.messages }
  have hnext := handleLoop_sends_after env chatReq 5 { messages := chatReq.messages }
  have hres := handleLoop_result env chatReq 5 { messages := chatReq.messages }
  simp only [handleWithWebSearch]
  generalize handleLoop env chatReq 5 { messages := chatReq.messages } = out at hlen hnext hres
  simp only [List.nil_append, List.length_nil, Nat.zero_le, true_implies, Nat.zero_add] at hlen hnext hres
  obtain ⟨new, hnew, h1, h6⟩ := hlen
  obtain ⟨req, hlast, hout⟩ := hres
  rw [hnew] at hnext hlast hout ⊢
  refine ⟨h1, h6, hnext, ⟨fun h i hi => ((hnext i).mp (by omega)).2, fun hall => ?_⟩, req, hlast, ?_⟩
  · have := (hnext 4).mpr ⟨by omega, hall 4 (by omega)⟩
    omega
  · rw [hout]
    split_ifs with h <;> simp [h]

/-! ## The records of a run -/

/-- The `web_search` calls the assistant messages of `ms` carry, in order. -/
def webSearchCallsOf (ms : List ChatMessage) : List ToolCall :=
  (ms.filter (·.role = "assistant")).flatMap fun a => extractWebSearchCalls a.toolCalls

/-- The `k`-th record, the `k`-th tool message appended and the `k`-th `web_search` call agree:
one id, the query parsed from the call's arguments or `unknown`, and the status and content of
the `k`-th search's outcome, `failed` with its error or `completed` with the results. -/
def RecordMatches (k : Nat) (record : WebSearchCall) (tool : ChatMessage) (tc : ToolCall) : Prop :=
  record.id = tool.toolCallID ∧ tool.toolCallID = tc.id ∧
    record.query = (env.parseQueryFromArguments tc.function.arguments).getD "unknown" ∧
    match env.search k record.query with
    | .error err => record.status = "failed" ∧ tool.content = .str ("Search failed: " ++ err)
    | .ok result => record.status = "completed" ∧ tool.content = .str (formatResults result)

theorem recordMatches_search (k : Nat) (tc : ToolCall) :
    RecordMatches env k (searchRecord env k tc) (searchReply env k tc) tc := by
  refine ⟨rfl, rfl, rfl, ?_⟩
  cases h : env.search k (searchQuery env tc) <;>
    simp [searchRecord, searchReply, searchOutcome, toolMessage, h]

/-- Between rounds, the records, the tool messages appended and the number of searches are
those of the `web_search` calls the appended assistant messages carry, the `k`-th call being
the `k`-th search. -/
def RecordsInv (init : List ChatMessage) (st : SearchLoop) : Prop :=
  ∃ appended, st.messages = init ++ appended ∧ st.searches = (webSearchCallsOf appended).length ∧
    st.webSearchCalls = (webSearchCallsOf appended).enum.map (fun e => searchRecord env e.1 e.2) ∧
    appended.filter (·.role = "tool") = (webSearchCallsOf appended).enum.map (fun e => searchReply env e.1 e.2)

theorem webSearchCallsOf_append (ms ms' : List ChatMessage) :
    webSearchCallsOf (ms ++ ms') = webSearchCallsOf ms ++ webSearchCallsOf ms' := by
  simp [webSearchCallsOf, List.filter_append, List.flatMap_append]

theorem webSearchCallsOf_eq_nil {ms : List ChatMessage} (h : ∀ m ∈ ms, m.role = "tool") :
    webSearchCallsOf ms = [] := by
  rw [webSearchCallsOf, List.filter_eq_nil_iff.mpr fun m hm => by simp [h m hm], List.flatMap_nil]

/-- A round keeps the records invariant: its assistant message brings the calls, and its tool
messages and records are those of the next searches. -/
theorem nextRound_records {init : List ChatMessage} {st : SearchLoop} (h : RecordsInv env init st)
    (message : ChatMessage) : RecordsInv env init (nextRound env chatReq st message) := by
  obtain ⟨appended, hms, hs, hrec, htools⟩ := h
  let replies := ((extractWebSearchCalls message.toolCalls).enumFrom st.searches).map fun e => searchReply env e.1 e.2
  have hreplies : ∀ m ∈ replies, m.role = "tool" := searchReplies_role env _ _
  have hcalls : webSearchCallsOf (appended ++ roundAssistant message :: replies) =
      webSearchCallsOf appended ++ extractWebSearchCalls message.toolCalls := by
    rw [← List.singleton_append, webSearchCallsOf_append, webSearchCallsOf_append, webSearchCallsOf_eq_nil hreplies]
    simp [webSearchCallsOf, roundAssistant]
  refine ⟨appended ++ roundAssistant message :: replies, ?_, ?_, ?_, ?_⟩
  · simp [hms, replies]
  · simp [hcalls, hs]
  · simp [hcalls, hrec, hs, List.enum_append]
  · rw [List.filter_append, htools, hcalls, List.enum_append, List.map_append, ← hs]
    simp [roundAssistant, List.filter_eq_self.mpr fun m hm => decide_eq_true (hreplies m hm), replies]

/-- The records invariant holds when the loop ends. -/
theorem handleLoop_records {init : List ChatMessage} :
    ∀ (n : Nat) (st : SearchLoop), RecordsInv env init st → RecordsInv env init (handleLoop env chatReq n st).2
  | 0, _, h => h
  | n + 1, st, h => by
    rcases handleLoop_succ env chatReq n st with ⟨-, hl⟩ | ⟨-, message, -, -, hl⟩ <;> rw [hl]
    · exact h
    · exact handleLoop_records n _ (nextRound_records env chatReq h message)

/-- The last request of a run carries the messages the run ends with. -/
theorem handleLoop_lastRequest :
    ∀ (n : Nat) (st : SearchLoop), (handleLoop env chatReq n st).2.requests.getLast? =
      some (currentRequest chatReq (handleLoop env chatReq n st).2.messages)
  | 0, st => by simp [handleLoop]
  | n + 1, st => by
    rcases handleLoop_succ env chatReq n st with ⟨-, h⟩ | ⟨-, message, -, -, h⟩ <;> rw [h]
    · simp
    · exact handleLoop_lastRequest n _

/-- The records `HandleWithWebSearch` returns match, one to one and in order, the tool messages
the loop appended to the messages of its last request, and the `web_search` calls those
answer; a record is `failed` exactly when its search failed. -/
theorem handleWithWebSearch_records :
    ∃ last appended, (handleWithWebSearch env chatReq).2.2.getLast? = some last ∧
      last.messages = chatReq.messages ++ appended ∧
      (handleWithWebSearch env chatReq).2.1.length = (appended.filter (·.role = "tool")).length ∧
      (appended.filter (·.role = "tool")).length = (webSearchCallsOf appended).length ∧
      ∀ k record tool tc, (handleWithWebSearch env chatReq).2.1[k]? = some record →
        (appended.filter (·.role = "tool"))[k]? = some tool → (webSearchCallsOf appended)[k]? = some tc →
        RecordMatches env k record tool tc := by
  obtain ⟨appended, hms, -, hrec, htools⟩ :=
    handleLoop_records env chatReq 5 { messages := chatReq.messages }
      (⟨[], by simp, rfl, rfl, rfl⟩ : RecordsInv env chatReq.messages _)
  refine ⟨_, appended, handleLoop_lastRequest env chatReq 5 _, hms, ?_, ?_, ?_⟩
  · simp [handleWithWebSearch, hrec, htools]
  · simp [htools]
  · intro k record tool tc hr ht hc
    simp only [handleWithWebSearch, hrec, htools, List.getElem?_map, List.getElem?_enum, hc, Option.map_some',
      Option.some.injEq] at hr ht
    rw [← hr, ← ht]
    exact recordMatches_search env k tc

end Responses2Chat.Handler
