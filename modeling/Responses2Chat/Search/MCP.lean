import Mathlib.Data.List.Basic

/-!
# Concurrent searches on one MCP provider

`MCPProvider` (`src/unnamed/part_002`) caches one session token, `sessionID`, for all the
`Search` calls made on it.  A call runs `ensureSession` under the lock (a handshake only when
the cache is empty), reads the cached token without the lock and sends `tools/call` with it,
and on an auth error runs `clearSession` under the lock and tries once more.  The model is
the shared state of the provider and the server, and one phase per call; a schedule is any
list of events, each the atomic step of one call or the server's expiry of one token.  An
event whose call is not in the phase it needs changes nothing.

* `TokenInv` is the invariant: the cache, and every token a call has sent, is a token the
  server has issued, and the cache is empty or holds a token no older than any token a
  call has sent.  `step_inv` is the step lemma and `run_inv` the run lemma.
* `clearSession_removes_own_or_newer`: the token a `clearSession` removes is the one its own
  rejected `tools/call` carried, or one a later handshake installed.
* `search_fails_after_fresh_handshake`: a concurrent `clearSession` removes the fresh token
  of another call's retry, and that call fails after its retry although the server accepts
  the token it obtained.

The server issues tokens `0, 1, 2, ...`, accepts a token until it expires it, and answers a
`tools/call` with an auth error exactly when the token it carries is missing or no longer
accepted.  Left out: the JSON-RPC envelopes, the SSE unwrapping and the decoding of results
(a successful `tools/call` ends the call), and the availability check, made before any step.
-/

namespace Responses2Chat.Search

/-- What the handshake of `ensureSession` gets back. -/
inductive HandshakeOutcome where
  /-- A response with an `mcp-session-id` header. -/
  | token
  /-- A response without one: the call goes on without a token. -/
  | noToken
  /-- A failed request. -/
  | error (err : String)
  deriving DecidableEq, Repr

/-- Where one `Search` call is, with its attempt (`0` or `1`). -/
inductive SearchPhase where
  /-- About to call `ensureSession`. -/
  | ensure (attempt : Nat)
  /-- About to read the cached token and send `tools/call`. -/
  | invoke (attempt : Nat)
  /-- `tools/call` sent with `token`. -/
  | awaiting (attempt : Nat) (token : Option Nat)
  /-- `tools/call` with `token` got an auth error; `clearSession` comes next. -/
  | rejected (attempt : Nat) (token : Option Nat)
  | succeeded
  | failed (err : String)
  deriving DecidableEq, Repr

/-- The token a call's `tools/call` carried, while it waits for the reply or clears. -/
def SearchPhase.token? : SearchPhase → Option Nat
  | .awaiting _ token => token
  | .rejected _ token => token
  | _ => none

/-- The provider's cache, the server's tokens, and the calls. -/
structure MCPState where
  /-- `sessionID`; `none` for `""`. -/
  sessionID : Option Nat := none
  /-- The tokens the server accepts. -/
  valid : List Nat := []
  /-- How many tokens the server has issued; the next one is this number. -/
  issued : Nat := 0
  calls : List SearchPhase
  deriving DecidableEq, Repr

/-- One atomic step of a schedule. -/
inductive MCPEvent where
  | ensureSession (call : Nat) (outcome : HandshakeOutcome)
  | sendToolsCall (call : Nat)
  /-- The server answers the call's `tools/call`, by the token it carries unless the call
  fails for another reason (`failure`). -/
  | reply (call : Nat) (failure : Option String)
  | clearSession (call : Nat)
  | expire (token : Nat)
  deriving DecidableEq, Repr

/-- `n` calls about to start. -/
def MCPState.init (n : Nat) : MCPState := { calls := List.replicate n (.ensure 0) }

/-- The server accepts a `tools/call` with this token. -/
def MCPState.accepts (s : MCPState) : Option Nat → Bool
  | some t => t ∈ s.valid
  | none => false

/-- Put call `i` in phase `p`. -/
def MCPState.setCall (s : MCPState) (i : Nat) (p : SearchPhase) : MCPState :=
  { s with calls := s.calls.set i p }

/-- The phase after `clearSession`: the second attempt, or the end of the retries. -/
def retryPhase (attempt : Nat) : SearchPhase :=
  if attempt + 1 < 2 then .ensure (attempt + 1) else .failed "failed after retry: session error"

/-- One step.  A handshake installs the next token; `clearSession` empties the cache,
whatever it holds. -/
def MCPState.step (s : MCPState) : MCPEvent → MCPState
  | .ensureSession i outcome =>
    match s.calls[i]? with
    | some (.ensure a) =>
      if s.sessionID.isSome then s.setCall i (.invoke a)
      else
        match outcome with
        | .token =>
          { sessionID := some s.issued, valid := s.issued :: s.valid, issued := s.issued + 1,
            calls := s.calls.set i (.invoke a) }
        | .noToken => s.setCall i (.invoke a)
        | .error err => s.setCall i (.failed ("failed to establish MCP session: " ++ err))
    | _ => s
  | .sendToolsCall i =>
    match s.calls[i]? with
    | some (.invoke a) => s.setCall i (.awaiting a s.sessionID)
    | _ => s
  | .reply i failure =>
    match s.calls[i]? with
    | some (.awaiting a token) =>
      match failure with
      | some err => s.setCall i (.failed ("failed to call search tool: " ++ err))
      | none => if s.accepts token then s.setCall i .succeeded else s.setCall i (.rejected a token)
    | _ => s
  | .clearSession i =>
    match s.calls[i]? with
    | some (.rejected a _) => { s with sessionID := none, calls := s.calls.set i (retryPhase a) }
    | _ => s
  | .expire t => { s with valid := s.valid.erase t }

/-- The state after a schedule. -/
def MCPState.run (s : MCPState) (schedule : List MCPEvent) : MCPState :=
  schedule.foldl MCPState.step s

/-! ## The invariant -/

/-- Every token the cache holds or a call has sent was issued, and the cache is empty or
holds a token no older than any token a call has sent. -/
def TokenInv (s : MCPState) : Prop :=
  (∀ t, s.sessionID = some t → t < s.issued) ∧
    ∀ p ∈ s.calls, ∀ t, p.token? = some t →
      t < s.issued ∧ (s.sessionID = none ∨ ∃ t', s.sessionID = some t' ∧ t ≤ t')

theorem init_inv (n : Nat) : TokenInv (MCPState.init n) := by
  refine ⟨by simp [MCPState.init], fun p hp t ht => ?_⟩
  simp only [MCPState.init, List.mem_replicate] at hp
  rw [hp.2] at ht
  cases ht

theorem mem_set_token {l : List SearchPhase} {i : Nat} {q p : SearchPhase} (hp : p ∈ l.set i q) :
    p ∈ l ∨ p = q :=
  List.mem_or_eq_of_mem_set hp

/-- Setting a call to a phase that carries no token keeps the invariant. -/
theorem setCall_inv {s : MCPState} (h : TokenInv s) (i : Nat) {q : SearchPhase} (hq : q.token? = none) :
    TokenInv (s.setCall i q) := by
  refine ⟨h.1, fun p hp t ht => ?_⟩
  rcases mem_set_token hp with hp | rfl
  · exact h.2 p hp t ht
  · rw [hq] at ht; cases ht

/-- Setting a call to a phase whose token is that of a call already in the state keeps the
invariant. -/
theorem setCall_inv_of_token {s : MCPState} (h : TokenInv s) (i : Nat) {p₀ q : SearchPhase}
    (hp₀ : p₀ ∈ s.calls) (hq : q.token? = p₀.token?) : TokenInv (s.setCall i q) := by
  refine ⟨h.1, fun p hp t ht => ?_⟩
  rcases mem_set_token hp with hp | rfl
  · exact h.2 p hp t ht
  · exact h.2 p₀ hp₀ t (hq ▸ ht)

theorem step_inv {s : MCPState} (h : TokenInv s) : ∀ e, TokenInv (s.step e)
  | .ensureSession i outcome => by
    simp only [MCPState.step]
    split
    · split
      · exact setCall_inv h i (by rfl)
      · cases outcome with
        | token =>
          dsimp only
          refine ⟨fun t ht => by cases ht; exact Nat.lt_succ_self _, fun p hp t ht => ?_⟩
          rcases mem_set_token hp with hp | rfl
          · exact ⟨Nat.lt_succ_of_lt (h.2 p hp t ht).1, .inr ⟨_, rfl, Nat.le_of_lt (h.2 p hp t ht).1⟩⟩
          · cases ht
        | noToken | error _ => exact setCall_inv h i (by rfl)
    · exact h
  | .sendToolsCall i => by
    simp only [MCPState.step]
    split
    · refine ⟨h.1, fun p hp t ht => ?_⟩
      rcases mem_set_token hp with hp | rfl
      · exact h.2 p hp t ht
      · exact ⟨h.1 t ht, .inr ⟨t, ht, le_rfl⟩⟩
    · exact h
  | .reply i failure => by
    simp only [MCPState.step]
    split
    · rename_i a token hcall
      have hmem := List.getElem?_mem hcall
      split
      · exact setCall_inv h i (by rfl)
      · split
        · exact setCall_inv h i (by rfl)
        · exact setCall_inv_of_token h i hmem (by rfl)
    · exact h
  | .clearSession i => by
    simp only [MCPState.step]
    split
    · rename_i a _ _
      refine ⟨fun _ ht => (nomatch ht), fun p hp t ht => ?_⟩
      rcases mem_set_token hp with hp | rfl
      · exact ⟨(h.2 p hp t ht).1, .inl rfl⟩
      · unfold retryPhase at ht; split at ht <;> cases ht
    · exact h
  | .expire _ => h

theorem run_inv : ∀ (schedule : List MCPEvent) {s : MCPState}, TokenInv s → TokenInv (s.run schedule)
  | [], _, h => h
  | e :: schedule, _, h => run_inv schedule (step_inv h e)

/-- Two calls share token `0`, which expires; call `0` clears and gets token `1` by a fresh
handshake; call `1` then clears, removing token `1`; call `0` sends without a token and
fails after its retry. -/
def lostRetrySchedule : List MCPEvent :=
  [.ensureSession 0 .token, .sendToolsCall 0, .ensureSession 1 .token, .sendToolsCall 1, .expire 0,
   .reply 0 none, .reply 1 none, .clearSession 0, .ensureSession 0 .token,
   .clearSession 1, .sendToolsCall 0, .reply 0 none, .clearSession 0]

/-- In every schedule, a call about to clear after its `tools/call` with token `t` was
rejected finds the cache empty, holding `t`, or holding a token issued after `t`. -/
theorem clearSession_removes_own_or_newer (n : Nat) (schedule : List MCPEvent) :
    ∀ (i a t : Nat), ((MCPState.init n).run schedule).calls[i]? = some (SearchPhase.rejected a (some t)) →
      ((MCPState.init n).run schedule).sessionID = none ∨
        ∃ t', ((MCPState.init n).run schedule).sessionID = some t' ∧ t ≤ t' := fun _ _ t hcall =>
  ((run_inv schedule (init_inv n)).2 _ (List.getElem?_mem hcall) t rfl).2

theorem clearSession_removes_own_or_newer_lostRetry :
    ((MCPState.init 2).run (lostRetrySchedule.take 9)).calls[1]? = some (.rejected 0 (some 0)) ∧
      (((MCPState.init 2).run (lostRetrySchedule.take 9)).sessionID = none ∨
        ∃ t', ((MCPState.init 2).run (lostRetrySchedule.take 9)).sessionID = some t' ∧ 0 ≤ t') :=
  ⟨by decide, clearSession_removes_own_or_newer 2 _ 1 0 0 (by decide)⟩

/-! ## A lost retry -/

/-- Call `1`'s `clearSession` removes token `1`, which its own `tools/call` did not carry,
and call `0` fails with the session error although the server still accepts the token its
retry handshake obtained. -/
theorem search_fails_after_fresh_handshake :
    let before := (MCPState.init 2).run (lostRetrySchedule.take 9)
    before.sessionID = some 1 ∧ before.calls[1]? = some (.rejected 0 (some 0)) ∧
      ((MCPState.init 2).run lostRetrySchedule).calls[0]? =
        some (.failed "failed after retry: session error") ∧
      1 ∈ ((MCPState.init 2).run lostRetrySchedule).valid := by
  decide

end Responses2Chat.Search
