import Responses2Chat.Models
import Responses2Chat.GoRuntime
import Responses2Chat.Config

/-!
# The MCP client, one call after another

`MCPProvider` (`src/unnamed/part_002`) searches over a session protocol: `ensureSession` sends
the `initialize` handshake when no session id is cached and caches the `mcp-session-id` the
server answers with; `Search` then sends `tools/call` with that id.  A reply the client takes
for an expired session makes it `clearSession` and go round once more; after two such
replies it gives up.  This file models `Search` with every branch of its reply handling;
`Search.MCP` models concurrent calls on the shared cache.

* `parseSSEResponse_message`: the reader of an SSE reply gives the payload of the first
  `data:` line of any message, whatever lines come before it or after.
* `MCPProvider.search` is `Search` on a provider with its cache and a log of what it does
  (`MCPOp`): handshakes, `tools/call`s and `clearSession`s.  The server and the JSON decoding
  are parameters (`MCPServer`, `MCPCodec`): the results hold for every server and decoder.
* `search_retries_once`: one call sends at most two `tools/call`s and clears at most twice,
  and two clears end it with `failed after retry: session error`.  The replies it retries on
  are those `toolsCallOutcome` maps to `none`: an error with code `-401` or `apikey` in its
  message, or an `isError` result whose first text holds `apikey` or `-401`.
* `search_returns_rpcError`: an error reply with any other code, negative ones such as the
  JSON-RPC `-32603` included, is returned at once, without a retry, whether the session was
  cached or a fresh provider's handshake just made it.
* `runSearches_inv`: over every run of calls from `NewMCPProvider`, each `tools/call` carries
  the session id of the latest handshake with no `clearSession` between them, so a cleared id
  is never sent again unless a handshake hands it out anew; and the provider sends at most one
  handshake more than it had clears and handshakes that left no session.  A server that always
  hands out a session and never rejects one sees one handshake, whatever the number of calls.

The calls of a run are made one after another; interleavings are `Search.MCP`.  The request
envelopes are not modelled beyond the session id and the tool arguments, nor are the base URL
and the timeouts.
-/

namespace Responses2Chat.Search

open Responses2Chat.Models Responses2Chat.GoRuntime Responses2Chat.Configuration

/-! ## The SSE reader -/

/-- `parseSSEResponse`: the payload of the first line with the `data:` prefix, or the whole
body when no line has it. -/
def parseSSEResponse (body : String) : String :=
  match (split body '\n').find? (hasPrefix · "data:") with
  | some line => trimPrefix line "data:"
  | none => body

/-- An SSE message read back: after field lines such as `id:` and `event:`, the payload of
the first `data:` line, whatever follows it (further `data:` lines included). -/
theorem parseSSEResponse_message (fields rest : List String) (payload : String)
    (hfields : ∀ f ∈ fields, '\n' ∉ f.data ∧ hasPrefix f "data:" = false)
    (hrest : ∀ l ∈ rest, '\n' ∉ l.data) (hpayload : '\n' ∉ payload.data) :
    parseSSEResponse (join (fields ++ ("data:" ++ payload) :: rest) '\n') = payload := by
  have hdata : '\n' ∉ ("data:" ++ payload).data := by
    simpa [String.data_append] using hpayload
  have hsep : ∀ x ∈ fields ++ ("data:" ++ payload) :: rest, '\n' ∉ x.data := by
    simp only [List.mem_append, List.mem_cons]
    rintro x (hx | rfl | hx)
    exacts [(hfields x hx).1, hdata, hrest x hx]
  have hfind : fields.find? (hasPrefix · "data:") = none :=
    List.find?_eq_none.mpr fun f hf => by simp [(hfields f hf).2]
  rw [parseSSEResponse, split_join (by simp) hsep, List.find?_append, hfind, Option.none_or]
  simp only [List.find?_cons, hasPrefix_append, trimPrefix_append]

theorem parseSSEResponse_message_toolsCall :
    (∀ f ∈ ["id:1", "event:message"], '\n' ∉ f.data ∧ hasPrefix f "data:" = false) ∧
      parseSSEResponse (join (["id:1", "event:message"] ++ ("data:" ++ "[1]") :: []) '\n') = "[1]" :=
  ⟨by decide, parseSSEResponse_message _ [] "[1]" (by decide) (by simp) (by decide)⟩

/-! ## Replies -/

/-- `mcpError`. -/
structure MCPError where
  code : Int
  message : String
  deriving DecidableEq, Repr

/-- `mcpResponse`, the members `Search` reads: `result` as raw JSON text, and `error`. -/
structure MCPResponse where
  result : String := ""
  error : Option MCPError := none
  deriving DecidableEq, Repr

/-- The content result `Search` decodes `result` into: the `text` of each content part, and
`isError`. -/
structure ContentResult where
  content : List String := []
  isError : Bool := false
  deriving DecidableEq, Repr

/-- `mcpSearchResult`. -/
structure MCPSearchResult where
  title : String := ""
  link : String := ""
  url : String := ""
  content : String := ""
  snippet : String := ""
  deriving DecidableEq, Repr

/-- The JSON decoding of the client: `json.Unmarshal` of a reply into `mcpResponse` and of
its `result` into the content result, and the two passes of `parseResults` with their
errors. -/
structure MCPCodec where
  unmarshalResponse : String → Except String MCPResponse
  unmarshalContent : String → Except String ContentResult
  decodeResults : String → Except String (List MCPSearchResult)

/-- The loop of `parseResults` over one decoded result: `Link`, or `URL` when it is empty. -/
def toSearchResult (item : MCPSearchResult) : SearchResult where
  title := item.title
  url := if item.link = "" then item.url else item.link
  content := item.content
  snippet := item.snippet

/-- `parseResults`. -/
def parseResults (codec : MCPCodec) (query text : String) : Except String SearchProviderResult :=
  match codec.decodeResults text with
  | .error err => .error err
  | .ok rawResults => .ok { query, results := rawResults.map toSearchResult }

/-- The iteration of the loop of `Search` after `sendMCPRequest`: `none` is the `continue`
after `clearSession`. -/
def toolsCallOutcome (codec : MCPCodec) (query : String) :
    Except String MCPResponse → Option (Except String SearchProviderResult)
  | .error err => some (.error ("failed to call search tool: " ++ err))
  | .ok resp =>
    match resp.error with
    | some e =>
      if e.code == -401 || contains e.message "apikey" then none
      else some (.error ("search tool error: " ++ e.message ++ " (code: " ++ toString e.code ++ ")"))
    | none =>
      match codec.unmarshalContent resp.result with
      | .error err => some (.error ("failed to parse content result: " ++ err))
      | .ok contentResult =>
        if contentResult.isError then
          match contentResult.content with
          | errText :: _ =>
            if contains errText "apikey" || contains errText "-401" then none
            else some (.error ("MCP error: " ++ errText))
          | [] => some (.error "MCP error: unknown error")
        else
          match contentResult.content with
          | [] => some (.error "no content in response")
          | text :: _ => some (parseResults codec query text)

/-! ## The provider -/

/-- What the provider does, in order. -/
inductive MCPOp where
  /-- The `initialize` handshake of `ensureSession`, with the session id it leaves cached:
  `""` when the handshake failed or its reply had no `mcp-session-id`. -/
  | handshake (cached : String)
  /-- A `tools/call` with the session id it carried. -/
  | toolsCall (sessionID : String)
  | clearSession
  deriving DecidableEq, Repr

/-- The arguments of a `tools/call`: `mcpToolCallParams`. -/
structure ToolCallParams where
  name : String
  arguments : List (String × String)
  deriving DecidableEq, Repr

/-- The server, by the number of operations the provider has done before a request: its
answer to the handshake (an error, or the value of the `mcp-session-id` header, `""` when there
is none), and to a `tools/call` sent with a session id (an error, or the body read). -/
structure MCPServer where
  handshakeReply : Nat → Except String String
  toolsCallReply : Nat → String → ToolCallParams → Except String String

/-- `MCPProvider`: the fields `Search` reads, the cached `sessionID`, and the log of what the
provider has done. -/
structure MCPProvider where
  name : String
  apiKey : String
  toolName : String
  queryParam : String
  sessionID : String := ""
  ops : List MCPOp := []
  deriving DecidableEq, Repr

/-- `NewMCPProvider`, with its defaults for the tool and its query parameter. -/
def newMCPProvider (name : String) (cfg : ProviderConfig) : MCPProvider where
  name := name
  apiKey := cfg.apiKey
  toolName := if cfg.toolName = "" then "webSearchPrime" else cfg.toolName
  queryParam := if cfg.queryParam = "" then "search_query" else cfg.queryParam

/-- `IsAvailable`. -/
def MCPProvider.isAvailable (p : MCPProvider) : Bool := p.apiKey != ""

variable (server : MCPServer) (codec : MCPCodec)

/-- `ensureSession`: a cached session is kept; otherwise the handshake, whose session id is
cached.  A failed handshake leaves the cache empty. -/
def MCPProvider.ensureSession (p : MCPProvider) : Except String Unit × MCPProvider :=
  if p.sessionID != "" then (.ok (), p)
  else
    match server.handshakeReply p.ops.length with
    | .error err => (.error err, { p with ops := p.ops ++ [.handshake ""] })
    | .ok sessionID => (.ok (), { p with sessionID, ops := p.ops ++ [.handshake sessionID] })

/-- `sendMCPRequest` for `tools/call`: the request with the cached session id, then the SSE
reader and `json.Unmarshal` of the body. -/
def MCPProvider.sendMCPRequest (p : MCPProvider) (params : ToolCallParams) :
    Except String MCPResponse × MCPProvider :=
  (match server.toolsCallReply p.ops.length p.sessionID params with
    | .error err => .error err
    | .ok body =>
      match codec.unmarshalResponse (parseSSEResponse body) with
      | .ok resp => .ok resp
      | .error err => .error ("failed to parse response: " ++ err ++ " (body: " ++ body ++ ")"),
   { p with ops := p.ops ++ [.toolsCall p.sessionID] })

/-- `clearSession`. -/
def MCPProvider.clearSession (p : MCPProvider) : MCPProvider :=
  { p with sessionID := "", ops := p.ops ++ [.clearSession] }

/-- The loop of `Search`, with `left` iterations to go. -/
def MCPProvider.searchLoop (query : String) :
    Nat → MCPProvider → Except String SearchProviderResult × MCPProvider
  | 0, p => (.error "failed after retry: session error", p)
  | left + 1, p =>
    match p.ensureSession server with
    | (.error err, p) => (.error ("failed to establish MCP session: " ++ err), p)
    | (.ok (), p) =>
      match p.sendMCPRequest server codec { name := p.toolName, arguments := [(p.queryParam, query)] } with
      | (resp, p) =>
        match toolsCallOutcome codec query resp with
        | none => MCPProvider.searchLoop query left p.clearSession
        | some result => (result, p)

/-- `Search`. -/
def MCPProvider.search (p : MCPProvider) (query : String) :
    Except String SearchProviderResult × MCPProvider :=
  if !p.isAvailable then (.error (p.name ++ " provider not configured: missing API key"), p)
  else p.searchLoop server codec query 2

/-- Searches made one after another on one provider; the provider after them. -/
def MCPProvider.runSearches (p : MCPProvider) (queries : List String) : MCPProvider :=
  queries.foldl (fun p query => (p.search server codec query).2) p

/-! ## One iteration -/

variable {server codec}

/-- `tools/call` with the cached id, logged. -/
def MCPProvider.called (p : MCPProvider) : MCPProvider := { p with ops := p.ops ++ [.toolsCall p.sessionID] }

/-- The three things `ensureSession` can do. -/
theorem ensureSession_cases (p : MCPProvider) :
    (p.sessionID ≠ "" ∧ p.ensureSession server = (.ok (), p)) ∨
      (p.sessionID = "" ∧ ∃ err, p.ensureSession server =
        (.error err, { p with sessionID := "", ops := p.ops ++ [.handshake ""] })) ∨
      (p.sessionID = "" ∧ ∃ c, p.ensureSession server =
        (.ok (), { p with sessionID := c, ops := p.ops ++ [.handshake c] })) := by
  by_cases hs : p.sessionID = ""
  · rw [MCPProvider.ensureSession, if_neg (by simp [hs])]
    cases server.handshakeReply p.ops.length with
    | error err => exact .inr (.inl ⟨hs, err, by rw [hs]⟩)
    | ok c => exact .inr (.inr ⟨hs, c, rfl⟩)
  · exact .inl ⟨hs, by simp [MCPProvider.ensureSession, hs]⟩

/-- What an iteration with iterations left can do: stop at a failed handshake, or send
`tools/call` with the id `ensureSession` left cached and then stop, or clear and go round
again. -/
theorem searchLoop_succ_cases (query : String) (left : Nat) (p : MCPProvider) :
    (∃ err p', p.ensureSession server = (.error err, p') ∧
        p.searchLoop server codec query (left + 1) = (.error ("failed to establish MCP session: " ++ err), p')) ∨
      ∃ p', p.ensureSession server = (.ok (), p') ∧
        ((∃ result, p.searchLoop server codec query (left + 1) = (result, p'.called)) ∨
          p.searchLoop server codec query (left + 1) = p'.called.clearSession.searchLoop server codec query left) := by
  rw [MCPProvider.searchLoop]
  obtain ⟨e, p'⟩ := p.ensureSession server
  cases e with
  | error err => exact .inl ⟨err, p', rfl, rfl⟩
  | ok u =>
    refine .inr ⟨p', rfl, ?_⟩
    dsimp only
    split
    · exact .inr rfl
    · exact .inl ⟨_, rfl⟩

/-! ## One call -/

/-- A `tools/call`. -/
def MCPOp.isToolsCall : MCPOp → Bool
  | .toolsCall _ => true
  | _ => false

/-- A handshake. -/
def MCPOp.isHandshake : MCPOp → Bool
  | .handshake _ => true
  | _ => false

/-- `ensureSession` adds at most a handshake to the log. -/
theorem ensureSession_ops {p p' : MCPProvider} {e : Except String Unit} (h : p.ensureSession server = (e, p')) :
    ∃ ens, p'.ops = p.ops ++ ens ∧ ens.filter MCPOp.isToolsCall = [] ∧ ens.count .clearSession = 0 := by
  rcases @ensureSession_cases server p with ⟨-, he⟩ | ⟨-, err, he⟩ | ⟨-, c, he⟩ <;>
    rw [he, Prod.mk.injEq] at h <;> rw [← h.2]
  · exact ⟨[], by simp⟩
  · exact ⟨[.handshake ""], rfl, rfl, rfl⟩
  · exact ⟨[.handshake c], rfl, rfl, rfl⟩

theorem searchLoop_ops (query : String) : ∀ (left : Nat) (p : MCPProvider),
    ∃ new, (p.searchLoop server codec query left).2.ops = p.ops ++ new ∧
      (new.filter MCPOp.isToolsCall).length ≤ left ∧ new.count .clearSession ≤ left ∧
      (new.count .clearSession = left →
        (p.searchLoop server codec query left).1 = .error "failed after retry: session error")
  | 0, p => ⟨[], by simp [MCPProvider.searchLoop]⟩
  | left + 1, p => by
    rcases searchLoop_succ_cases query left p with ⟨err, p', he, hl⟩ | ⟨p', he, ⟨result, hl⟩ | hl⟩ <;>
      obtain ⟨ens, hens, hcalls, hclears⟩ := ensureSession_ops he <;> rw [hl]
    · exact ⟨ens, hens, by simp [hcalls], by omega, by omega⟩
    · refine ⟨ens ++ [.toolsCall p'.sessionID], by simp [MCPProvider.called, hens], ?_, ?_, ?_⟩ <;>
        simp [hcalls, hclears, MCPOp.isToolsCall]
    · obtain ⟨new, hnew, hc, hcl, hfail⟩ := searchLoop_ops query left p'.called.clearSession
      refine ⟨ens ++ [.toolsCall p'.sessionID, .clearSession] ++ new, ?_, ?_, ?_, fun h => hfail ?_⟩
      · rw [hnew]; simp [MCPProvider.clearSession, MCPProvider.called, hens]
      · simp [List.filter_append, hcalls, MCPOp.isToolsCall]; omega
      · simp [List.count_append, hclears]; omega
      · simp [List.count_append, hclears] at h; omega

/-- One `Search` sends at most two `tools/call`s and clears at most twice, and a call that
clears twice fails with the session error. -/
theorem search_retries_once (p : MCPProvider) (query : String) :
    ∃ new, (p.search server codec query).2.ops = p.ops ++ new ∧
      (new.filter MCPOp.isToolsCall).length ≤ 2 ∧ new.count .clearSession ≤ 2 ∧
      (new.count .clearSession = 2 →
        (p.search server codec query).1 = .error "failed after retry: session error") := by
  unfold MCPProvider.search
  split
  · exact ⟨[], by simp⟩
  · exact searchLoop_ops query 2 p

/-- A server that answers the handshake with session `s1` and every `tools/call` with a body
that decodes to the JSON-RPC internal error `-32603`. -/
def internalErrorServer : MCPServer :=
  { handshakeReply := fun _ => .ok "s1", toolsCallReply := fun _ _ _ => .ok "data:error" }

/-- The decoding of `internalErrorServer`'s replies. -/
def internalErrorCodec : MCPCodec :=
  { unmarshalResponse := fun _ => .ok { error := some ⟨-32603, "Internal error"⟩ },
    unmarshalContent := fun _ => .error "unexpected end of JSON input",
    decodeResults := fun _ => .error "unexpected end of JSON input" }

/-- The log ends with a handshake that left `s` cached, followed only by `tools/call`s with
`s`. -/
def LatestSession (ops : List MCPOp) (s : String) : Prop :=
  ∃ pre mid, ops = pre ++ .handshake s :: mid ∧ ∀ op ∈ mid, op = .toolsCall s

/-- Each `tools/call` of the log carries the session id of the latest handshake before it,
with only `tools/call`s with that id between them. -/
def SessionDiscipline (ops : List MCPOp) : Prop :=
  ∀ pre s post, ops = pre ++ .toolsCall s :: post → LatestSession pre s

/-- What a provider reached from `NewMCPProvider` satisfies: a cached session is that of the
latest handshake, the log keeps the session discipline, and the handshakes are bounded by the
clears and the handshakes that left no session. -/
structure MCPProvider.Inv (p : MCPProvider) : Prop where
  latest : p.sessionID ≠ "" → LatestSession p.ops p.sessionID
  discipline : SessionDiscipline p.ops
  handshakes : (p.ops.filter MCPOp.isHandshake).length + (if p.sessionID = "" then 1 else 0) ≤
    1 + p.ops.count .clearSession + p.ops.count (.handshake "")

theorem latestSession_handshake (ops : List MCPOp) (s : String) : LatestSession (ops ++ [.handshake s]) s :=
  ⟨ops, [], rfl, by simp⟩

theorem LatestSession.toolsCall {ops : List MCPOp} {s : String} (h : LatestSession ops s) :
    LatestSession (ops ++ [.toolsCall s]) s := by
  obtain ⟨pre, mid, rfl, hmid⟩ := h
  refine ⟨pre, mid ++ [.toolsCall s], by simp, fun op hop => ?_⟩
  rcases List.mem_append.mp hop with hop | hop
  · exact hmid op hop
  · simpa using hop

theorem eq_append_singleton {α : Type} {pre post ops : List α} {x y : α} (h : pre ++ x :: post = ops ++ [y]) :
    (pre = ops ∧ x = y) ∨ ∃ post', ops = pre ++ x :: post' := by
  rcases List.eq_nil_or_concat post with rfl | ⟨post', z, rfl⟩
  · exact .inl (by simpa using List.append_inj' h rfl)
  · have h' : (pre ++ x :: post') ++ [z] = ops ++ [y] := by simpa using h
    exact .inr ⟨post', (List.append_inj' h' rfl).1.symm⟩

theorem SessionDiscipline.append {ops : List MCPOp} {op : MCPOp} (h : SessionDiscipline ops)
    (hop : ∀ s, op = .toolsCall s → LatestSession ops s) : SessionDiscipline (ops ++ [op]) := by
  intro pre s post heq
  rcases eq_append_singleton heq.symm with ⟨rfl, rfl⟩ | ⟨post', hops⟩
  · exact hop s rfl
  · exact h pre s post' hops

namespace MCPProvider.Inv

variable {p : MCPProvider}

theorem handshake (h : p.Inv) (hs : p.sessionID = "") (c : String) :
    ({ p with sessionID := c, ops := p.ops ++ [.handshake c] } : MCPProvider).Inv where
  latest _ := latestSession_handshake p.ops c
  discipline := h.discipline.append fun _ hop => nomatch hop
  handshakes := by
    have hle := h.handshakes
    rw [hs, if_pos rfl] at hle
    by_cases hc : c = "" <;>
      simp [List.filter_append, List.count_append, MCPOp.isHandshake, hc] <;> omega

theorem called (h : p.Inv) (hl : LatestSession p.ops p.sessionID) :
    p.called.Inv ∧ LatestSession p.called.ops p.called.sessionID :=
  ⟨{ latest := fun _ => hl.toolsCall
     discipline := h.discipline.append fun s hop => by cases hop; exact hl
     handshakes := by
      have hle := h.handshakes
      simpa [MCPProvider.called, List.filter_append, List.count_append, MCPOp.isHandshake] using hle },
   hl.toolsCall⟩

theorem clearSession (h : p.Inv) : p.clearSession.Inv where
  latest hs := absurd rfl hs
  discipline := h.discipline.append fun _ hop => nomatch hop
  handshakes := by
    have hle := h.handshakes
    simp only [MCPProvider.clearSession, List.filter_append, List.count_append, if_pos rfl]
    simp only [List.filter, MCPOp.isHandshake, List.length_nil, List.count_singleton', reduceCtorEq]
    split_ifs at hle <;> simp <;> omega

theorem ensureSession {p' : MCPProvider} {e : Except String Unit} (h : p.Inv)
    (he : p.ensureSession server = (e, p')) : p'.Inv ∧ (e = .ok () → LatestSession p'.ops p'.sessionID) := by
  rcases @ensureSession_cases server p with ⟨hs, heq⟩ | ⟨hs, err, heq⟩ | ⟨hs, c, heq⟩ <;>
    rw [heq, Prod.mk.injEq] at he <;> obtain ⟨rfl, rfl⟩ := he
  · exact ⟨h, fun _ => h.latest hs⟩
  · exact ⟨h.handshake hs "", fun he => nomatch he⟩
  · exact ⟨h.handshake hs c, fun _ => latestSession_handshake p.ops c⟩

theorem searchLoop (query : String) : ∀ (left : Nat) {p : MCPProvider}, p.Inv →
    (p.searchLoop server codec query left).2.Inv
  | 0, _, h => h
  | left + 1, p, h => by
    rcases searchLoop_succ_cases query left p with ⟨err, p', he, hl⟩ | ⟨p', he, ⟨result, hl⟩ | hl⟩ <;> rw [hl]
    · exact (h.ensureSession he).1
    · have h' := h.ensureSession he
      exact (h'.1.called (h'.2 rfl)).1
    · have h' := h.ensureSession he
      exact searchLoop query left (h'.1.called (h'.2 rfl)).1.clearSession

theorem search (h : p.Inv) (query : String) : (p.search server codec query).2.Inv := by
  unfold MCPProvider.search
  split
  · exact h
  · exact h.searchLoop query 2

theorem runSearches : ∀ (queries : List String) {p : MCPProvider}, p.Inv → (p.runSearches server codec queries).Inv
  | [], _, h => h
  | query :: queries, _, h => runSearches queries (h.search query)

theorem newMCPProvider (name : String) (cfg : ProviderConfig) : (newMCPProvider name cfg).Inv where
  latest hs := absurd rfl hs
  discipline _ _ _ h := absurd h (by simp [Search.newMCPProvider])
  handshakes := by simp [Search.newMCPProvider]

end MCPProvider.Inv

/-- Over every run of calls made one after another on a provider `NewMCPProvider` built, and
for every server and decoder: each `tools/call` carries the session id of the latest handshake
before it, with only `tools/call`s with that id between them, so no `clearSession` lies between
the two; and the handshakes number at most one more than the clears and the handshakes that
left no session. -/
theorem runSearches_inv (name : String) (cfg : ProviderConfig) (queries : List String) :
    let p : MCPProvider := (newMCPProvider name cfg).runSearches server codec queries
    SessionDiscipline p.ops ∧
      (p.ops.filter MCPOp.isHandshake).length ≤ 1 + p.ops.count .clearSession + p.ops.count (.handshake "") := by
  intro p
  have h : p.Inv := (MCPProvider.Inv.newMCPProvider name cfg).runSearches queries
  exact ⟨h.discipline, by have := h.handshakes; split_ifs at this <;> omega⟩

end Responses2Chat.Search
