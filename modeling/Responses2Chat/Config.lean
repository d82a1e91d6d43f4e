import Mathlib.Data.List.Basic

/-!
# The configuration

`internal/config/config.go` declares the configuration the proxy is started with: the
default upstream target, the other targets by provider name, and the web-search providers.
This file gives each record the fields a modelled function reads, under the Go names in Lean
case.  Left out: the timeouts, the server and logging settings, the storage path, the model
mapping (which the handler carries), the base URLs of the search providers (the MCP client
model takes its server as given) and Firecrawl's `max_results`.  How `Load` fills the records
(viper, the environment, `setDefaults`) is not modelled; the results hold for every
configuration.

A `map[string]V` of the configuration is `ConfigMap`: its entries, with the invariant of a
Go map that no key occurs twice, and `get?` for `v, ok := m[k]`.
-/

namespace Responses2Chat.Configuration

/-- A `map[string]V` of the configuration. -/
structure ConfigMap (ν : Type) where
  entries : List (String × ν)
  keys_nodup : (entries.map Prod.fst).Nodup

/-- `v, ok := m[k]`. -/
def ConfigMap.get? {ν : Type} (m : ConfigMap ν) (k : String) : Option ν := m.entries.lookup k

theorem lookup_eq_some_iff {ν : Type} {entries : List (String × ν)} (hnd : (entries.map Prod.fst).Nodup)
    {k : String} {v : ν} : entries.lookup k = some v ↔ (k, v) ∈ entries := by
  induction entries with
  | nil => simp
  | cons e entries ih =>
    obtain ⟨k', v'⟩ := e
    obtain ⟨hne, hnd⟩ := List.nodup_cons.mp hnd
    by_cases hk : k = k'
    · subst hk
      rw [List.lookup_cons_self, Option.some.injEq, List.mem_cons, Prod.mk.injEq]
      exact ⟨fun h => .inl ⟨rfl, h.symm⟩, fun h => h.elim (fun h => h.2.symm)
        fun hm => absurd (List.mem_map_of_mem Prod.fst hm) hne⟩
    · have hb : (k == k') = false := beq_eq_false_iff_ne.mpr hk
      simp only [List.lookup_cons, hb, ih hnd, List.mem_cons, Prod.mk.injEq, hk, false_and, false_or]

/-- A value is under a key of the map exactly when the entry is there. -/
theorem ConfigMap.get?_eq_some_iff {ν : Type} (m : ConfigMap ν) {k : String} {v : ν} :
    m.get? k = some v ↔ (k, v) ∈ m.entries :=
  lookup_eq_some_iff m.keys_nodup

/-- `TargetConfig`: an upstream Chat Completions endpoint. -/
structure TargetConfig where
  baseURL : String
  pathSuffix : String := ""
  defaultAPIKey : String := ""
  deriving DecidableEq, Repr

/-- `Config`, the fields of it the router reads. -/
structure Config where
  defaultTarget : TargetConfig
  providers : ConfigMap TargetConfig

/-- `ProviderConfig`: one configured search provider, with the fields `NewManager` and
`NewMCPProvider` read. -/
structure ProviderConfig where
  type : String
  apiKey : String := ""
  toolName : String := ""
  queryParam : String := ""
  deriving DecidableEq, Repr

/-- `WebSearchConfig`. -/
structure WebSearchConfig where
  enabled : Bool
  default : String
  providers : ConfigMap ProviderConfig

end Responses2Chat.Configuration
