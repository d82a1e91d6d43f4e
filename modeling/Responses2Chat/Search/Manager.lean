import Responses2Chat.GoRuntime

/-!
# The search registry

`Manager` (`internal/search/manager.go`) holds the configured search providers in a map from
names to providers, a default provider name and an `enabled` flag.  `HasAvailableProvider`
asks whether some provider is available; `Search` calls the default provider when the name is
set and that provider is registered and available, and otherwise the first available provider
a range over the map meets.  Each range takes an order of its own.

* `search_cases` says what a search can do, and the lemmas after it cite it.
* `hasAvailableProvider_iff` and `search_delegated_iff`: the check holds, and the search
  delegates, exactly when the manager is enabled and some provider is available; so the two
  agree, whatever the orders.
* `search_delegated_available`: a search delegates only to a registered, available provider.
* `hasAvailableProvider_iff_search_delegated` puts them together with the default: with a
  non-empty default name, a registered and available default provider is the one called.
  With the empty name the default is never tried: `search_skips_unnamed_default` has a
  provider registered under `""`, available, and a search that calls another one.

A provider is what `Manager` reads of it, `IsAvailable`; its own `Search` is not modelled, and
`Search`'s result is the call it makes.
-/

namespace Responses2Chat.Search

open Responses2Chat.GoRuntime

/-- A registered provider, as `Manager` sees it. -/
structure Provider where
  /-- `IsAvailable()`. -/
  available : Bool
  deriving DecidableEq, Repr

/-- `map[string]Provider`: the entries, their names distinct. -/
structure ProviderMap where
  entries : List (String × Provider)
  keys_nodup : (entries.map Prod.fst).Nodup

/-- `p, ok := providers[name]`. -/
def ProviderMap.get? (providers : ProviderMap) (name : String) : Option Provider :=
  providers.entries.lookup name

/-- `Manager`. -/
structure Manager where
  providers : ProviderMap
  defaultProvider : String
  enabled : Bool

/-- What `Manager.Search` does: fail with its own error, or return the answer of the call
`p.Search(query)` of the provider `p` registered under `name`. -/
inductive SearchCall where
  | failed (err : String)
  | delegated (name query : String)
  deriving DecidableEq, Repr

/-- `HasAvailableProvider`, its range over the map in `order`. -/
def Manager.hasAvailableProvider (m : Manager) (order : RangeOrder (String × Provider)) : Bool :=
  if !m.enabled then false else (order.range m.providers.entries).any fun e => e.2.available

/-- The fallback of `Search`: the first available provider of the range, in `order`. -/
def Manager.fallback (m : Manager) (order : RangeOrder (String × Provider)) (query : String) : SearchCall :=
  match (order.range m.providers.entries).find? fun e => e.2.available with
  | some e => .delegated e.1 query
  | none => .failed "no available search provider"

/-- `Search`, its range over the map in `order`. -/
def Manager.search (m : Manager) (order : RangeOrder (String × Provider)) (query : String) : SearchCall :=
  if !m.enabled then .failed "web search is disabled"
  else if m.defaultProvider ≠ "" then
    match m.providers.get? m.defaultProvider with
    | some p => if p.available then .delegated m.defaultProvider query else m.fallback order query
    | none => m.fallback order query
  else m.fallback order query

/-! ## Lookups -/

theorem lookup_of_mem {entries : List (String × Provider)} (hnd : (entries.map Prod.fst).Nodup)
    {name : String} {p : Provider} (h : (name, p) ∈ entries) : entries.lookup name = some p := by
  induction entries with
  | nil => cases h
  | cons e entries ih =>
    obtain ⟨k, v⟩ := e
    obtain ⟨hne, hnd⟩ := List.nodup_cons.mp hnd
    rcases List.mem_cons.mp h with h | h
    · cases h
      exact List.lookup_cons_self
    · have hb : (name == k) = false :=
        beq_eq_false_iff_ne.mpr fun heq => hne (heq ▸ List.mem_map_of_mem Prod.fst h :)
      simp only [List.lookup_cons, hb, ih hnd h]

theorem mem_of_lookup {entries : List (String × Provider)} {name : String} {p : Provider}
    (h : entries.lookup name = some p) : (name, p) ∈ entries := by
  induction entries with
  | nil => cases h
  | cons e entries ih =>
    obtain ⟨k, v⟩ := e
    by_cases he : name = k
    · subst he
      rw [List.lookup_cons_self, Option.some.injEq] at h
      exact h ▸ List.mem_cons_self _ _
    · have hb : (name == k) = false := beq_eq_false_iff_ne.mpr he
      simp only [List.lookup_cons, hb] at h
      exact List.mem_cons_of_mem _ (ih h)

/-! ## The check and the search agree -/

variable (m : Manager) (order : RangeOrder (String × Provider)) (query : String)

/-- Some registered provider is available. -/
def Manager.SomeAvailable : Prop := ∃ e ∈ m.providers.entries, e.2.available = true

theorem hasAvailableProvider_iff :
    m.hasAvailableProvider order = true ↔ m.enabled = true ∧ m.SomeAvailable := by
  unfold Manager.hasAvailableProvider Manager.SomeAvailable
  cases m.enabled <;> simp [(order.range_perm _).mem_iff]

theorem fallback_delegated_iff :
    (∃ name, m.fallback order query = .delegated name query) ↔ m.SomeAvailable := by
  unfold Manager.fallback Manager.SomeAvailable
  split
  · rename_i e he
    exact iff_of_true ⟨_, rfl⟩ ⟨e, (order.range_perm _).mem_iff.mp (List.mem_of_find?_eq_some he),
      by simpa using List.find?_some he⟩
  · rename_i he
    refine iff_of_false (by simp) fun ⟨e, hmem, hav⟩ => ?_
    exact absurd hav (by simpa using List.find?_eq_none.mp he e ((order.range_perm _).mem_iff.mpr hmem))

/-- The fallback calls an available, registered provider. -/
theorem fallback_available {name q : String} (h : m.fallback order query = .delegated name q) :
    q = query ∧ ∃ p, m.providers.get? name = some p ∧ p.available = true := by
  unfold Manager.fallback at h
  split at h
  · rename_i e he
    cases h
    have hmem := (order.range_perm _).mem_iff.mp (List.mem_of_find?_eq_some he)
    exact ⟨rfl, e.2, lookup_of_mem m.providers.keys_nodup hmem, by simpa using List.find?_some he⟩
  · cases h

/-- What a search can do: fail when the manager is disabled, call the default provider when it
is registered and available, and otherwise fall back to the range. -/
theorem search_cases :
    (m.enabled = false ∧ m.search order query = .failed "web search is disabled") ∨
      (m.enabled = true ∧ (∃ p, m.providers.get? m.defaultProvider = some p ∧ p.available = true) ∧
        m.search order query = .delegated m.defaultProvider query) ∨
      (m.enabled = true ∧ m.search order query = m.fallback order query) := by
  unfold Manager.search
  cases m.enabled
  · exact .inl ⟨rfl, rfl⟩
  · simp only [Bool.not_true, Bool.false_eq_true, if_false]
    split
    · split
      · rename_i p hget
        split
        · exact .inr (.inl ⟨trivial, ⟨p, hget, ‹_›⟩, rfl⟩)
        · exact .inr (.inr ⟨trivial, rfl⟩)
      · exact .inr (.inr ⟨trivial, rfl⟩)
    · exact .inr (.inr ⟨trivial, rfl⟩)

/-- The search delegates exactly when the manager is enabled and some provider is available. -/
theorem search_delegated_iff :
    (∃ name, m.search order query = .delegated name query) ↔ m.enabled = true ∧ m.SomeAvailable := by
  rcases search_cases m order query with ⟨hen, h⟩ | ⟨hen, ⟨p, hget, hav⟩, h⟩ | ⟨hen, h⟩ <;> rw [h, hen]
  · simp
  · exact iff_of_true ⟨_, rfl⟩ ⟨rfl, _, mem_of_lookup hget, hav⟩
  · simpa using fallback_delegated_iff m order query

/-- A search delegates only to a registered, available provider, with the query it got. -/
theorem search_delegated_available {name q : String} (h : m.search order query = .delegated name q) :
    q = query ∧ ∃ p, m.providers.get? name = some p ∧ p.available = true := by
  rcases search_cases m order query with ⟨-, h'⟩ | ⟨-, ⟨p, hget, hav⟩, h'⟩ | ⟨-, h'⟩ <;> rw [h'] at h
  · cases h
  · cases h
    exact ⟨rfl, p, hget, hav⟩
  · exact fallback_available m order query h

/-- `HasAvailableProvider` and `Search` agree, whatever the orders of their ranges: the check
holds exactly when the search delegates.  A search delegates only to a registered, available
provider; it calls the default provider when the name is non-empty and the provider is
registered and available; and a disabled manager calls none. -/
theorem hasAvailableProvider_iff_search_delegated (order' : RangeOrder (String × Provider)) :
    (m.hasAvailableProvider order = true ↔ ∃ name, m.search order' query = .delegated name query) ∧
      (∀ name q, m.search order' query = .delegated name q →
        q = query ∧ ∃ p, m.providers.get? name = some p ∧ p.available = true) ∧
      (m.enabled = true → m.defaultProvider ≠ "" → ∀ p, m.providers.get? m.defaultProvider = some p →
        p.available = true → m.search order' query = .delegated m.defaultProvider query) ∧
      (m.enabled = false → ∃ err, m.search order' query = .failed err) := by
  refine ⟨by rw [hasAvailableProvider_iff, search_delegated_iff], fun name q h =>
    search_delegated_available m order' query h, fun hen hne p hget hav => ?_, fun hen => ?_⟩
  · simp [Manager.search, hen, hne, hget, hav]
  · exact ⟨"web search is disabled", by simp [Manager.search, hen]⟩

/-- A provider registered under the empty name, available, as the default: the search never
tries it and calls the first provider of the range instead. -/
theorem search_skips_unnamed_default :
    let m : Manager :=
      { providers := ⟨[("a", ⟨true⟩), ("", ⟨true⟩)], by decide⟩, defaultProvider := "", enabled := true }
    m.providers.get? m.defaultProvider = some ⟨true⟩ ∧ m.search .insertion "q" = .delegated "a" "q" := by
  decide

end Responses2Chat.Search
