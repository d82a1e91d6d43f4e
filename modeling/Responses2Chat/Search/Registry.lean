import Responses2Chat.Search.Manager
import Responses2Chat.Search.MCPClient

/-!
# Building the search registry

`NewManager` (`internal/search/manager.go`) builds the `Manager` from the web-search
configuration: with search enabled, a range over the configured providers registers each one
that has an API key and a known type (`mcp` or `firecrawl`) under its name.  Both provider
types answer `IsAvailable` with `apiKey != ""`, so a provider that gets registered is
available from then on.  `SearchWithProvider` calls a provider by name.

* `newManager_get?`: the manager holds a provider under a name exactly when search is
  enabled and the name is configured with an API key and a known type, and every provider it
  holds is available, whatever order the range took.
* `newManager_search`: hence `HasAvailableProvider` asks only whether some configured provider
  has an API key and a known type, `SearchWithProvider` never fails with `provider not
  available`, and a non-empty default name so configured is the provider `Search` calls.

What `Manager` keeps of a provider is its `IsAvailable` answer: `MCPProvider.toProvider` for
the MCP client of `Search.MCPClient`, whose `Search` is modelled there.  Firecrawl's `Search` is
not modelled.
-/

namespace Responses2Chat.Search

open Responses2Chat.GoRuntime Responses2Chat.Configuration

/-! ## The providers and the registration loop -/

/-- What `Manager` keeps of a provider built from its configuration: `IsAvailable`, which for
both provider types is `apiKey != ""`. -/
def providerOf (cfg : ProviderConfig) : Provider := ⟨cfg.apiKey != ""⟩

/-- What `Manager` keeps of an MCP provider. -/
def MCPProvider.toProvider (p : MCPProvider) : Provider := ⟨p.isAvailable⟩

@[simp] theorem toProvider_newMCPProvider (name : String) (cfg : ProviderConfig) :
    (newMCPProvider name cfg).toProvider = providerOf cfg := rfl

/-- `NewFirecrawlProvider`, as `Manager` sees it. -/
def newFirecrawlProvider (cfg : ProviderConfig) : Provider := providerOf cfg

/-- One iteration of the loop of `NewManager`: skip a provider with no API key, build one of a
known type, skip one of another type. -/
def registerProvider (e : String × ProviderConfig) : Option (String × Provider) :=
  if e.2.apiKey = "" then none
  else if e.2.type = "mcp" then some (e.1, (newMCPProvider e.1 e.2).toProvider)
  else if e.2.type = "firecrawl" then some (e.1, newFirecrawlProvider e.2)
  else none

/-- A configured provider the loop registers. -/
def Registrable (cfg : ProviderConfig) : Prop := cfg.apiKey ≠ "" ∧ (cfg.type = "mcp" ∨ cfg.type = "firecrawl")

instance (cfg : ProviderConfig) : Decidable (Registrable cfg) := inferInstanceAs (Decidable (_ ∧ _))

theorem registerProvider_eq (e : String × ProviderConfig) :
    registerProvider e = if Registrable e.2 then some (e.1, providerOf e.2) else none := by
  unfold registerProvider Registrable newFirecrawlProvider
  by_cases hk : e.2.apiKey = "" <;> by_cases hm : e.2.type = "mcp" <;> by_cases hf : e.2.type = "firecrawl" <;>
    simp_all

theorem filterMap_registerProvider (l : List (String × ProviderConfig)) :
    l.filterMap registerProvider = (l.filter (Registrable ·.2)).map fun e => (e.1, providerOf e.2) := by
  induction l with
  | nil => rfl
  | cons e l ih =>
    rw [List.filterMap_cons, registerProvider_eq, List.filter_cons]
    by_cases he : Registrable e.2 <;> simp [he, ih]

theorem keys_nodup_register (order : RangeOrder (String × ProviderConfig)) (providers : ConfigMap ProviderConfig) :
    (((order.range providers.entries).filterMap registerProvider).map Prod.fst).Nodup := by
  rw [filterMap_registerProvider, List.map_map]
  have hperm := ((order.range_perm providers.entries).map Prod.fst).nodup_iff.mpr providers.keys_nodup
  exact (List.filter_sublist _).map Prod.fst |>.nodup hperm

/-- `NewManager`, its range over the configured providers in `order`. -/
def newManager (cfg : WebSearchConfig) (order : RangeOrder (String × ProviderConfig)) : Manager where
  providers :=
    if cfg.enabled then ⟨(order.range cfg.providers.entries).filterMap registerProvider, keys_nodup_register _ _⟩
    else ⟨[], List.nodup_nil⟩
  defaultProvider := cfg.default
  enabled := cfg.enabled

/-- `SearchWithProvider`. -/
def Manager.searchWithProvider (m : Manager) (providerName query : String) : SearchCall :=
  if !m.enabled then .failed "web search is disabled"
  else match m.providers.get? providerName with
    | none => .failed ("provider not found: " ++ providerName)
    | some p => if p.available then .delegated providerName query else .failed ("provider not available: " ++ providerName)

/-! ## What the manager holds -/

variable (cfg : WebSearchConfig) (order : RangeOrder (String × ProviderConfig))

@[simp] theorem newManager_enabled : (newManager cfg order).enabled = cfg.enabled := rfl

@[simp] theorem newManager_defaultProvider : (newManager cfg order).defaultProvider = cfg.default := rfl

theorem mem_newManager_entries {name : String} {p : Provider} :
    (name, p) ∈ (newManager cfg order).providers.entries ↔
      cfg.enabled = true ∧ ∃ pc, (name, pc) ∈ cfg.providers.entries ∧ Registrable pc ∧ providerOf pc = p := by
  unfold newManager
  cases cfg.enabled
  · simp
  · simp only [if_true, filterMap_registerProvider, List.mem_map, List.mem_filter, (order.range_perm _).mem_iff,
      Prod.mk.injEq, decide_eq_true_eq, true_and]
    constructor
    · rintro ⟨⟨n, pc⟩, ⟨hmem, hreg⟩, rfl, rfl⟩
      exact ⟨pc, hmem, hreg, rfl⟩
    · rintro ⟨pc, hmem, hreg, rfl⟩
      exact ⟨(name, pc), ⟨hmem, hreg⟩, rfl, rfl⟩

theorem providerOf_available {pc : ProviderConfig} (h : Registrable pc) : (providerOf pc).available = true := by
  simpa [providerOf] using h.1

theorem get?_newManager_iff {name : String} {p : Provider} :
    (newManager cfg order).providers.get? name = some p ↔
      cfg.enabled = true ∧ ∃ pc, cfg.providers.get? name = some pc ∧ Registrable pc ∧ providerOf pc = p := by
  rw [ProviderMap.get?, lookup_eq_some_iff (newManager cfg order).providers.keys_nodup, mem_newManager_entries]
  simp only [ConfigMap.get?_eq_some_iff]

/-- The manager holds a provider under a name exactly when search is enabled and the name is
configured with an API key and a known type, and each provider it holds is available, for
every order of the range of `NewManager`. -/
theorem newManager_get? (name : String) (p : Provider) :
    ((newManager cfg order).providers.get? name = some p ↔
        cfg.enabled = true ∧ ∃ pc, cfg.providers.get? name = some pc ∧ Registrable pc ∧ providerOf pc = p) ∧
      ((newManager cfg order).providers.get? name = some p → p.available = true) := by
  refine ⟨get?_newManager_iff cfg order, fun hp => ?_⟩
  obtain ⟨-, pc, -, hreg, rfl⟩ := (get?_newManager_iff cfg order).mp hp
  exact providerOf_available hreg

/-! ## Searches on the manager -/

theorem someAvailable_newManager :
    (newManager cfg order).SomeAvailable ↔ cfg.enabled = true ∧ ∃ e ∈ cfg.providers.entries, Registrable e.2 := by
  unfold Manager.SomeAvailable
  constructor
  · rintro ⟨⟨name, p⟩, he, -⟩
    obtain ⟨hen, pc, hmem, hreg, -⟩ := (mem_newManager_entries cfg order).mp he
    exact ⟨hen, (name, pc), hmem, hreg⟩
  · rintro ⟨hen, ⟨name, pc⟩, hmem, hreg⟩
    exact ⟨(name, providerOf pc), (mem_newManager_entries cfg order).mpr ⟨hen, pc, hmem, hreg, rfl⟩,
      providerOf_available hreg⟩

theorem get?_newManager_eq (name : String) :
    (newManager cfg order).providers.get? name =
      if cfg.enabled then ((cfg.providers.get? name).filter fun pc => decide (Registrable pc)).map providerOf
      else none := by
  apply Option.ext
  intro p
  simp only [Option.mem_def]
  rw [get?_newManager_iff]
  cases cfg.enabled <;> cases hget : cfg.providers.get? name <;> simp [Option.filter, hget]

/-- On a manager `NewManager` built, for every order of its range: `HasAvailableProvider`
holds exactly when search is enabled and some configured provider has an API key and a known
type; `SearchWithProvider` delegates to a name so configured, reports any other name as not
found, and never reports a provider as not available; and `Search` calls the default provider
when its name is non-empty and so configured. -/
theorem newManager_search (order' : RangeOrder (String × Provider)) (name query : String) :
    ((newManager cfg order).hasAvailableProvider order' = true ↔
        cfg.enabled = true ∧ ∃ e ∈ cfg.providers.entries, Registrable e.2) ∧
      (newManager cfg order).searchWithProvider name query =
        (if cfg.enabled = false then .failed "web search is disabled"
         else if (cfg.providers.get? name).any fun pc => decide (Registrable pc) then .delegated name query
         else .failed ("provider not found: " ++ name)) ∧
      (cfg.enabled = true → cfg.default ≠ "" → ∀ pc, cfg.providers.get? cfg.default = some pc → Registrable pc →
        (newManager cfg order).search order' query = .delegated cfg.default query) := by
  refine ⟨by rw [hasAvailableProvider_iff, someAvailable_newManager, newManager_enabled]; tauto, ?_, ?_⟩
  · rw [Manager.searchWithProvider, get?_newManager_eq, newManager_enabled]
    cases cfg.enabled
    · rfl
    · cases hget : cfg.providers.get? name with
      | none => rfl
      | some pc => by_cases hreg : Registrable pc <;> simp [Option.filter, hreg, providerOf_available]
  · intro hen hne pc hget hreg
    have hp : (newManager cfg order).providers.get? cfg.default = some (providerOf pc) :=
      (get?_newManager_iff cfg order).mpr ⟨hen, pc, hget, hreg, rfl⟩
    simp [Manager.search, hen, hne, hp, providerOf_available hreg]

end Responses2Chat.Search
