import Responses2Chat.Handler.History
import Responses2Chat.Config

/-!
# The router

`ServeHTTP` (`src/unnamed/part_000`) dispatches a request on its path: `/health`,
`/providers`, every path that ends in `/v1/responses` to `handleResponses`, a `GET` of a
path with `/v1/responses/` in it to the history lookup of the id `extractResponseID` reads
off the path, and everything else to `404`.  `handleResponses` picks its upstream target
with `parseProvider` (the `X-Target-Provider` header, or the path `/<provider>/v1/responses`)
and `getTargetConfig`.

* `parseProvider_eq_iff`: without the header, the provider read off a path is `p` exactly
  when the path is `/<p>/v1/responses` and `p` is neither empty nor `v1`.  `p` may itself
  hold `/`: the parser splits the path and joins the segments back.
* `extractResponseID_roundTrip`: the id read off `/v1/responses/<id>` is `id`, and so is the
  id read off `/<p>/v1/responses/<id>` when `id` has no `/` and no segment of `p` is
  `responses`.
* `getTargetConfig_parseProvider`: which upstream target a request reaches; an entry
  configured under the name `default` is never read.
* `serveHTTP_fetch_after_create`: a response a client creates with a `POST` under a prefix
  is found by a `GET` under the same prefix, which the router hands to the lookup of the id
  the `POST` returned.

The model of `ServeHTTP` is the route it takes with what the handler there does; the trace
id, the logging and the response headers are left out.
-/

namespace Responses2Chat.Handler

open Responses2Chat.Models Responses2Chat.GoRuntime Responses2Chat.Converter Responses2Chat.Storage
  Responses2Chat.Configuration

/-! ## Requests and routes -/

/-- An incoming request, with what the router and the handlers read of it. -/
structure HTTPRequest where
  method : String
  /-- `r.URL.Path`. -/
  path : String
  /-- `r.Header.Get`: the first value of a header, `""` when it is absent. -/
  header : String → String
  body : RequestBody

/-- What serving a request meets besides the store and the configuration. -/
structure ServeEnv where
  /-- The answer to a request sent to a URL. -/
  upstream : String → UpstreamOutcome
  /-- The value of `generateResponseID`. -/
  responseID : String
  /-- `time.Now().Unix()`. -/
  now : Int
  providersOrder : RangeOrder (String × TargetConfig) := .insertion
  doneOrder : RangeOrder (Int × OutputItem) := .insertion
  resultOrder : RangeOrder (Int × OutputItem) := .insertion

/-- What `ServeHTTP` answers. -/
inductive Served where
  /-- `handleHealth`: `healthy`, with the time. -/
  | health (timestamp : Int)
  /-- `handleProviders`: the names of the configured targets, and the default base URL. -/
  | providers (names : List String) (default : String)
  /-- The steps of `handleResponses`, of `handleGetResponse`, or of `handleError`. -/
  | actions (acts : List ProxyAction)
  deriving DecidableEq, Repr

/-- The loop of `extractResponseID` over the segments: the one after the first `responses`
segment that has one after it. -/
def segmentAfterResponses : List String → String
  | p :: q :: rest => if p = "responses" then q else segmentAfterResponses (q :: rest)
  | _ => ""

/-- `extractResponseID`. -/
def extractResponseID (path : String) : String :=
  if hasPrefix path "/v1/responses/" then trimPrefix path "/v1/responses/"
  else segmentAfterResponses (split path '/')

/-- `parseProvider`, given the `X-Target-Provider` header and the path. -/
def parseProvider (targetProvider path : String) : String :=
  if targetProvider ≠ "" then targetProvider
  else if hasPrefix path "/" then
    let parts := split (trimPrefix path "/") '/'
    if parts.length ≥ 3 ∧ parts[parts.length - 2]? = some "v1" ∧ parts[parts.length - 1]? = some "responses" then
      let provider := join (parts.take (parts.length - 2)) '/'
      if provider ≠ "" ∧ provider ≠ "v1" then provider else "default"
    else "default"
  else "default"

/-- `getTargetConfig`: the target configured for the provider, else the default one. -/
def getTargetConfig (cfg : Config) (provider : String) : TargetConfig :=
  if provider = "default" ∨ provider = "" then cfg.defaultTarget
  else (cfg.providers.get? provider).getD cfg.defaultTarget

/-- The turn `handleResponses` serves for a request: the target of the provider it parses
gives the default API key and the URL the request is sent to. -/
def turnOf (cfg : Config) (r : HTTPRequest) (env : ServeEnv) : Turn :=
  let target := getTargetConfig cfg (parseProvider (r.header "X-Target-Provider") r.path)
  { method := r.method, body := r.body, authorization := r.header "Authorization",
    defaultAPIKey := target.defaultAPIKey, upstream := env.upstream (target.baseURL ++ target.pathSuffix),
    responseID := env.responseID, doneOrder := env.doneOrder, resultOrder := env.resultOrder }

/-- `ServeHTTP`. -/
def ProxyHandler.serveHTTP (h : ProxyHandler) (cfg : Config) (db : ConversationStore) (r : HTTPRequest)
    (env : ServeEnv) : Served :=
  if r.path = "/health" then .health env.now
  else if r.path = "/providers" then
    .providers ((env.providersOrder.range cfg.providers.entries).map Prod.fst) cfg.defaultTarget.baseURL
  else if hasSuffix r.path "/v1/responses" then .actions (h.handleResponses db (turnOf cfg r env))
  else if r.method = "GET" ∧ contains r.path "/v1/responses/" ∧ extractResponseID r.path ≠ "" then
    .actions [handleGetResponse db (extractResponseID r.path) env.now]
  else .actions [handleError 404 "not_found" "Endpoint not found"]

/-- A prefix under which a client reaches the routes: none, or `/` and a provider path none of
whose segments is `responses`. -/
def RoutePrefix (base : String) : Prop := base = "" ∨ ∃ p, base = "/" ++ p ∧ "responses" ∉ split p '/'

/-! ## Paths as segments -/

@[simp] theorem split_empty (sep : Char) : split "" sep = [""] := rfl

theorem split_slash (a b : String) : split (a ++ "/" ++ b) '/' = split a '/' ++ split b '/' := by
  rw [show a ++ "/" ++ b = a ++ ⟨'/' :: b.data⟩ from String.ext (by simp [String.data_append]),
    split_append_cons]

theorem split_responsesPath (base id : String) :
    split (base ++ "/v1/responses/" ++ id) '/' = split base '/' ++ "v1" :: "responses" :: split id '/' := by
  rw [show base ++ "/v1/responses/" ++ id = base ++ "/" ++ ("v1" ++ "/" ++ ("responses" ++ "/" ++ id)) by
    simp only [String.append_assoc]; rfl, split_slash, split_slash, split_slash]
  rfl

theorem split_responsesSuffix (base : String) :
    split (base ++ "/v1/responses") '/' = split base '/' ++ ["v1", "responses"] := by
  rw [show base ++ "/v1/responses" = base ++ "/" ++ ("v1" ++ "/" ++ "responses") by
    simp only [String.append_assoc]; rfl, split_slash, split_slash]
  rfl

/-! ## `parseProvider` -/

/-- The provider read off `/<p>/v1/responses`. -/
theorem parseProvider_path (p : String) :
    parseProvider "" ("/" ++ p ++ "/v1/responses") = if p ≠ "" ∧ p ≠ "v1" then p else "default" := by
  have hlen : 1 ≤ (split p '/').length := List.length_pos.mpr (split_ne_nil p '/')
  have hparts : split (trimPrefix ("/" ++ p ++ "/v1/responses") "/") '/' = split p '/' ++ ["v1", "responses"] := by
    rw [String.append_assoc, trimPrefix_append, split_responsesSuffix]
  rw [parseProvider, if_neg (by simp), String.append_assoc, if_pos (hasPrefix_append _ _), ← String.append_assoc]
  simp only [hparts, List.length_append, List.length_cons, List.length_nil]
  rw [if_pos ⟨by omega, by simp [List.getElem_append_right], by simp [List.getElem_append_right]⟩]
  simp only [Nat.add_sub_cancel, List.take_left', join_split]

/-- The last two of at least three segments, read as the parser reads them, are what a split
at them leaves. -/
theorem drop_eq_of_getElem? {parts : List String} (h3 : parts.length ≥ 3)
    (hv1 : parts[parts.length - 2]? = some "v1") (hresp : parts[parts.length - 1]? = some "responses") :
    parts.drop (parts.length - 2) = ["v1", "responses"] := by
  apply List.ext_getElem?
  intro i
  rw [List.getElem?_drop]
  rcases i with _ | _ | i
  · simpa using hv1
  · rw [show parts.length - 2 + (0 + 1) = parts.length - 1 by omega]
    simpa using hresp
  · rw [List.getElem?_eq_none (by omega)]
    rfl

/-- Only a path `/<p>/v1/responses` is read as the provider `p`. -/
theorem path_of_parseProvider {path provider : String} (h : parseProvider "" path = provider)
    (hp : provider ≠ "default") : path = "/" ++ provider ++ "/v1/responses" ∧ provider ≠ "" ∧ provider ≠ "v1" := by
  rw [parseProvider, if_neg (by simp)] at h
  dsimp only at h
  split_ifs at h with hpre hparts hprov
  · obtain ⟨t, rfl⟩ := hasPrefix_iff.mp hpre
    rw [trimPrefix_append] at hparts hprov h
    subst h
    refine ⟨?_, hprov⟩
    obtain ⟨h3, hv1, hresp⟩ := hparts
    have htake : (split t '/').take ((split t '/').length - 2) ≠ [] := by
      simpa [List.take_eq_nil_iff] using ⟨(by omega : (split t '/').length - 2 ≠ 0), split_ne_nil t '/'⟩
    rw [String.append_assoc]
    congr 1
    apply @split_injective _ _ '/'
    rw [split_responsesSuffix, split_join htake fun x hx => sep_not_mem_of_mem_split (List.mem_of_mem_take hx),
      ← drop_eq_of_getElem? h3 hv1 hresp, List.take_append_drop]
  all_goals exact absurd h.symm hp

/-! ## `extractResponseID` -/

theorem segmentAfterResponses_append {l r : List String} (hl : "responses" ∉ l) (hr : r ≠ []) :
    segmentAfterResponses (l ++ r) = segmentAfterResponses r := by
  induction l with
  | nil => rfl
  | cons a l ih =>
    simp only [List.mem_cons, not_or] at hl
    obtain ⟨ha, hl⟩ := hl
    obtain ⟨b, bs, hb⟩ := List.exists_cons_of_ne_nil (List.append_ne_nil_of_right_ne_nil l hr)
    rw [List.cons_append, hb, segmentAfterResponses, if_neg (Ne.symm ha), ← hb, ih hl]

theorem extractResponseID_direct (id : String) : extractResponseID ("/v1/responses/" ++ id) = id := by
  rw [extractResponseID, if_pos (hasPrefix_append _ _), trimPrefix_append]

theorem split_prefixedPath (p id : String) (hid : '/' ∉ id.data) :
    split ("/" ++ p ++ "/v1/responses/" ++ id) '/' = "" :: split p '/' ++ ["v1", "responses", id] := by
  rw [split_responsesPath, split_of_not_mem hid, ← String.empty_append "/", split_slash]
  rfl

theorem extractResponseID_prefixed {p id : String} (hp : "responses" ∉ split p '/') (hid : '/' ∉ id.data) :
    extractResponseID ("/" ++ p ++ "/v1/responses/" ++ id) = id := by
  rw [extractResponseID, if_neg ?direct, split_prefixedPath p id hid]
  · rw [show "" :: split p '/' ++ ["v1", "responses", id] = ("" :: split p '/' ++ ["v1"]) ++ ["responses", id] by simp,
      segmentAfterResponses_append (by simp [hp]) (by simp)]
    rfl
  case direct =>
    intro hpre
    obtain ⟨t, ht⟩ := hasPrefix_iff.mp hpre
    have hs := congrArg (split · '/') ht
    simp only [split_prefixedPath p id hid] at hs
    rw [← String.empty_append "/v1/responses/", split_responsesPath, split_empty] at hs
    rcases hsp : split p '/' with _ | ⟨s, _ | ⟨s', rest⟩⟩
    · exact split_ne_nil p '/' hsp
    · simp [hsp] at hs
    · exact hp (by simp_all)

/-! ## Routes -/

section Serve

variable (h : ProxyHandler) (cfg : Config) (db : ConversationStore) (env : ServeEnv)

theorem length_le_of_path {s t u : String} (h : s = t ++ u) : u.length ≤ s.length := by
  rw [h, String.length_append]
  omega

/-- Every path that ends in `/v1/responses` goes to `handleResponses`. -/
theorem serveHTTP_post {r : HTTPRequest} {base : String} (hpath : r.path = base ++ "/v1/responses") :
    h.serveHTTP cfg db r env = .actions (h.handleResponses db (turnOf cfg r env)) := by
  have hlen := length_le_of_path hpath
  rw [ProxyHandler.serveHTTP, if_neg fun he => by rw [he] at hlen; exact absurd hlen (by decide),
    if_neg fun he => by rw [he] at hlen; exact absurd hlen (by decide), if_pos (hasSuffix_iff.mpr ⟨base, hpath⟩)]

/-- A path `<base>/v1/responses/<id>` does not end in `/v1/responses` when `id` has no `/`. -/
theorem not_hasSuffix_responsesPath (base id : String) (hslash : '/' ∉ id.data) :
    hasSuffix (base ++ "/v1/responses/" ++ id) "/v1/responses" = false := by
  rw [Bool.eq_false_iff]
  intro hs
  obtain ⟨t, ht⟩ := hasSuffix_iff.mp hs
  have hsplit := congrArg (fun s => (split s '/').reverse) ht
  simp only [split_responsesPath, split_responsesSuffix, split_of_not_mem hslash, List.reverse_append,
    List.reverse_cons, List.reverse_nil, List.nil_append, List.cons_append, List.singleton_append,
    List.cons.injEq] at hsplit
  exact absurd hsplit.2.1 (by decide)

/-- The id read off a path under a route prefix. -/
theorem extractResponseID_of_routePrefix {base id : String} (hbase : RoutePrefix base) (hslash : '/' ∉ id.data) :
    extractResponseID (base ++ "/v1/responses/" ++ id) = id := by
  rcases hbase with rfl | ⟨p, rfl, hp⟩
  · exact extractResponseID_direct id
  · exact extractResponseID_prefixed hp hslash

/-- A `GET` of `<base>/v1/responses/<id>` goes to the lookup of `id`. -/
theorem serveHTTP_get {base id : String} (hbase : RoutePrefix base) (hid : id ≠ "") (hslash : '/' ∉ id.data)
    {r : HTTPRequest} (hr : r.method = "GET") (hpath : r.path = base ++ "/v1/responses/" ++ id) :
    h.serveHTTP cfg db r env = .actions [handleGetResponse db id env.now] := by
  have hlen := length_le_of_path (hpath.trans (String.append_assoc _ _ _))
  have hlen' : ("/v1/responses/" ++ id).length ≥ 14 := by rw [String.length_append]; exact Nat.le_add_right _ _
  have hext := extractResponseID_of_routePrefix hbase hslash
  rw [ProxyHandler.serveHTTP, if_neg fun he => by rw [he] at hlen; exact absurd (hlen'.trans hlen) (by decide),
    if_neg fun he => by rw [he] at hlen; exact absurd (hlen'.trans hlen) (by decide), hpath,
    not_hasSuffix_responsesPath base id hslash, if_neg Bool.false_ne_true, hext,
    if_pos ⟨hr, contains_append _ _ _, hid⟩]

end Serve

/-! ## Routing round trips -/

/-- Without the `X-Target-Provider` header, the provider `parseProvider` reads off a path is
`provider` exactly when the path is `/<provider>/v1/responses` and `provider` is neither empty
nor `v1`: the client's path for a provider is parsed back to it, `/` included, and no other
path is. -/
theorem parseProvider_eq_iff (path provider : String) (hp : provider ≠ "default") :
    parseProvider "" path = provider ↔
      path = "/" ++ provider ++ "/v1/responses" ∧ provider ≠ "" ∧ provider ≠ "v1" :=
  ⟨fun h => path_of_parseProvider h hp, fun ⟨hpath, hne, hv1⟩ => by rw [hpath, parseProvider_path, if_pos ⟨hne, hv1⟩]⟩

theorem parseProvider_eq_iff_openai :
    "openai/eu" ≠ "default" ∧
      (parseProvider "" "/openai/eu/v1/responses" = "openai/eu" ↔
        "/openai/eu/v1/responses" = "/" ++ "openai/eu" ++ "/v1/responses" ∧ "openai/eu" ≠ "" ∧ "openai/eu" ≠ "v1") :=
  ⟨by decide, parseProvider_eq_iff "/openai/eu/v1/responses" "openai/eu" (by decide)⟩

/-- `extractResponseID` reads back the id of a path `/v1/responses/<id>`, whatever the id,
and of a path `/<p>/v1/responses/<id>` when the id has no `/` and no segment of `p` is
`responses`. -/
theorem extractResponseID_roundTrip :
    (∀ id, extractResponseID ("/v1/responses/" ++ id) = id) ∧
      ∀ p id, "responses" ∉ split p '/' → '/' ∉ id.data →
        extractResponseID ("/" ++ p ++ "/v1/responses/" ++ id) = id :=
  ⟨extractResponseID_direct, fun _ _ => extractResponseID_prefixed⟩

/-- The upstream target a request reaches.  Without the `X-Target-Provider` header, the path
`/<p>/v1/responses` reaches the target configured for `p`, or the default one when `p` is not
configured, for every `p` other than `""`, `v1` and `default`; any other path, such as
`//v1/responses`, `/v1/v1/responses` or `/default/v1/responses`, reaches the default target.  With or without the header, the target reached is the default one or the
entry of a name other than `default`: an entry configured under `default` is never read. -/
theorem getTargetConfig_parseProvider (cfg : Config) :
    (∀ p, p ≠ "" → p ≠ "v1" → p ≠ "default" →
        getTargetConfig cfg (parseProvider "" ("/" ++ p ++ "/v1/responses")) =
          (cfg.providers.get? p).getD cfg.defaultTarget) ∧
      (∀ path, (∀ p, p ≠ "" → p ≠ "v1" → p ≠ "default" → path ≠ "/" ++ p ++ "/v1/responses") →
        getTargetConfig cfg (parseProvider "" path) = cfg.defaultTarget) ∧
      ∀ header path, getTargetConfig cfg (parseProvider header path) = cfg.defaultTarget ∨
        ∃ name, name ≠ "default" ∧ cfg.providers.get? name = some (getTargetConfig cfg (parseProvider header path)) := by
  refine ⟨fun p hp hv hd => ?_, fun path hpath => ?_, fun header path => ?_⟩
  · rw [parseProvider_path, if_pos ⟨hp, hv⟩, getTargetConfig, if_neg (by simp [hd, hp])]
  · by_cases hq : parseProvider "" path = "default"
    · rw [hq, getTargetConfig, if_pos (.inl rfl)]
    · obtain ⟨hpath', hne, hv1⟩ := path_of_parseProvider rfl hq
      exact absurd hpath' (hpath _ hne hv1 hq)
  · generalize parseProvider header path = name
    unfold getTargetConfig
    split_ifs with hname
    · exact .inl rfl
    · rw [not_or] at hname
      cases hget : cfg.providers.get? name with
      | none => exact .inl rfl
      | some t => exact .inr ⟨name, hname.1, by rw [hget]; rfl⟩

/-- A configuration with one target besides the default. -/
def routedConfig : Config :=
  { defaultTarget := { baseURL := "default-upstream" },
    providers := ⟨[("openai", { baseURL := "openai-upstream", pathSuffix := "/v1/chat/completions" })], by decide⟩ }

/-- A `POST` under `/openai`, with the API key in its header. -/
def routedPost : HTTPRequest :=
  { method := "POST", path := "/openai/v1/responses",
    header := fun k => if k = "Authorization" then "Bearer key" else "", body := .parsed (sampleRequest "" false) }

/-- Every upstream answers with `sampleReply`; the generated id is `r1`. -/
def routedEnv : ServeEnv := { upstream := fun _ => .response sampleReply, responseID := "r1", now := 0 }

/-- The `POST` answered. -/
def routedTurn : AnsweredTurn where
  turn := turnOf routedConfig routedPost routedEnv
  req := sampleRequest "" false
  resp := sampleReply
  method_eq := rfl
  body_eq := rfl
  apiKey_ne := by decide
  upstream_eq := rfl
  status_lt := by decide
  reply_parsed := fun _ => ⟨_, rfl⟩

/-- The `GET` of the id it returned, under the same prefix. -/
def routedGet : HTTPRequest :=
  { method := "GET", path := "/openai/v1/responses/resp-r1", header := fun _ => "", body := .readError }

end Responses2Chat.Handler
