import Mathlib.Data.List.Perm.Basic
import Mathlib.Data.List.Infix
import Mathlib.Data.Nat.Digits

/-!
# The parts of the Go runtime that the code leans on

Four things of the language and its library reach the properties of this repository.

* A `range` over a map visits the entries in an order the language leaves open, and the
  runtime picks a fresh one for every `range` statement.  `RangeOrder` is one such pick:
  any permutation of the entries.  A result proved for every `RangeOrder` holds whatever
  order the runtime chose.
* A map with `int` keys is kept as the list of its entries in insertion order.  `lookup`
  is `m[k]` with its `ok` flag, `mapSet` is `m[k] = v`, and `mapModify` is a write through
  the pointer that an entry holds.
* `fmt.Sprintf("%d", n)` of a non-negative `int` is `Nat.repr`.  `repr_injective` is what
  makes the streaming item ids `fc-<id>-<n>` distinct.
* The `strings` functions the router and the MCP client call, on the characters of a
  string.  `split_append_cons`, `split_join` and `join_split` are what their parsers are
  proved with.
-/

namespace Responses2Chat.GoRuntime

/-! ## Map iteration order -/

/-- An order the runtime may pick for one `range` over a map: a permutation of the
entries. -/
structure RangeOrder (α : Type) where
  range : List α → List α
  range_perm : ∀ es, (range es).Perm es

/-- The insertion order, one of the orders the runtime may pick. -/
def RangeOrder.insertion {α : Type} : RangeOrder α := ⟨id, fun _ => List.Perm.refl _⟩

/-- The reverse of the insertion order. -/
def RangeOrder.reversed {α : Type} : RangeOrder α := ⟨List.reverse, List.reverse_perm⟩

@[simp] theorem RangeOrder.insertion_range {α : Type} (es : List α) :
    RangeOrder.insertion.range es = es := rfl

@[simp] theorem RangeOrder.reversed_range {α : Type} (es : List α) :
    RangeOrder.reversed.range es = es.reverse := rfl

/-! ## Maps with `int` keys -/

section Map

variable {ν : Type}

/-- `v, ok := m[k]`: the value under `k`, if there is one. -/
def lookup (k : Int) : List (Int × ν) → Option ν
  | [] => none
  | (k', v) :: es => if k' = k then some v else lookup k es

/-- `m[k] = v`: replace the value under `k`, or add the entry at the end. -/
def mapSet (m : List (Int × ν)) (k : Int) (v : ν) : List (Int × ν) :=
  if k ∈ m.map Prod.fst then m.map (fun e => if e.1 = k then (k, v) else e) else m ++ [(k, v)]

/-- A write through the pointer stored under `k`. -/
def mapModify (m : List (Int × ν)) (k : Int) (f : ν → ν) : List (Int × ν) :=
  m.map (fun e => if e.1 = k then (e.1, f e.2) else e)

theorem lookup_eq_none {k : Int} {m : List (Int × ν)} (h : k ∉ m.map Prod.fst) :
    lookup k m = none := by
  induction m with
  | nil => rfl
  | cons e m ih =>
    simp only [List.map_cons, List.mem_cons, not_or] at h
    simp only [lookup, if_neg (Ne.symm h.1), ih h.2]

theorem lookup_isSome {k : Int} {m : List (Int × ν)} (h : (lookup k m).isSome) :
    k ∈ m.map Prod.fst := by
  by_contra hk
  rw [lookup_eq_none hk] at h
  exact Bool.false_ne_true h

theorem mapSet_of_not_mem {k : Int} {m : List (Int × ν)} (h : k ∉ m.map Prod.fst) (v : ν) :
    mapSet m k v = m ++ [(k, v)] := if_neg h

@[simp] theorem mapModify_keys (m : List (Int × ν)) (k : Int) (f : ν → ν) :
    (mapModify m k f).map Prod.fst = m.map Prod.fst := by
  simp only [mapModify, List.map_map]
  exact List.map_congr_left fun e _ => by by_cases h : e.1 = k <;> simp [h]

@[simp] theorem mapModify_length (m : List (Int × ν)) (k : Int) (f : ν → ν) :
    (mapModify m k f).length = m.length := List.length_map _ _

end Map

/-! ## Decimal formatting -/

/-- The value of a list of decimal digit characters, most significant first. -/
def digitsValue (ds : List Char) : Nat :=
  ds.foldl (fun acc c => 10 * acc + (c.toNat - 48)) 0

private theorem foldl_digits_shift (ds : List Char) (a : Nat) :
    ds.foldl (fun acc c => 10 * acc + (c.toNat - 48)) a = a * 10 ^ ds.length + digitsValue ds := by
  induction ds generalizing a with
  | nil => simp [digitsValue]
  | cons c ds ih =>
    simp only [List.foldl_cons, digitsValue, List.length_cons] at ih ⊢
    rw [ih, ih (10 * 0 + (c.toNat - 48)), pow_succ]
    ring

private theorem digitChar_value {d : Nat} (h : d < 10) : (Nat.digitChar d).toNat - 48 = d := by
  interval_cases d <;> rfl

private theorem digitsValue_toDigitsCore :
    ∀ (fuel n : Nat) (ds : List Char), n < fuel →
      digitsValue (Nat.toDigitsCore 10 fuel n ds) = n * 10 ^ ds.length + digitsValue ds
  | 0, _, _, h => absurd h (Nat.not_lt_zero _)
  | fuel + 1, n, ds, h => by
    have hd : (Nat.digitChar (n % 10)).toNat - 48 = n % 10 := digitChar_value (Nat.mod_lt _ (by decide))
    have hcons : digitsValue (Nat.digitChar (n % 10) :: ds) = n % 10 * 10 ^ ds.length + digitsValue ds := by
      simp only [digitsValue, List.foldl_cons, Nat.mul_zero, Nat.zero_add, hd]
      exact foldl_digits_shift ds (n % 10)
    simp only [Nat.toDigitsCore]
    split
    · rw [hcons]; congr 2; omega
    · rw [digitsValue_toDigitsCore fuel (n / 10) _ (by omega), hcons, List.length_cons, pow_succ]
      have := Nat.div_add_mod n 10
      calc n / 10 * (10 ^ ds.length * 10) + (n % 10 * 10 ^ ds.length + digitsValue ds)
          = (10 * (n / 10) + n % 10) * 10 ^ ds.length + digitsValue ds := by ring
        _ = n * 10 ^ ds.length + digitsValue ds := by rw [this]

/-- `digitsValue` reads back the digits that `Nat.repr` writes. -/
theorem digitsValue_repr (n : Nat) : digitsValue (Nat.repr n).data = n := by
  have := digitsValue_toDigitsCore (n + 1) n [] (Nat.lt_succ_self n)
  simpa [Nat.repr, Nat.toDigits, digitsValue] using this

theorem repr_injective : Function.Injective Nat.repr := fun a b h => by
  rw [← digitsValue_repr a, ← digitsValue_repr b, h]

/-! ## The `strings` package

Go compares and cuts strings byte by byte.  The paths the router reads are UTF-8 and its
separator `/` is ASCII, so comparing and cutting characters gives the same answers; the
functions below work on `String.data`. -/

/-- `strings.HasPrefix`. -/
def hasPrefix (s pre : String) : Bool := pre.data.isPrefixOf s.data

/-- `strings.HasSuffix`. -/
def hasSuffix (s suf : String) : Bool := suf.data.isSuffixOf s.data

/-- `strings.TrimPrefix`. -/
def trimPrefix (s pre : String) : String := if hasPrefix s pre then ⟨s.data.drop pre.length⟩ else s

/-- `strings.Contains`. -/
def contains (s substr : String) : Bool := decide (substr.data <:+: s.data)

/-- `strings.Split` with a one-character separator. -/
def split (s : String) (sep : Char) : List String := (s.data.splitOn sep).map String.mk

/-- `strings.Join`. -/
def join (elems : List String) (sep : Char) : String := ⟨[sep].intercalate (elems.map String.data)⟩

theorem hasPrefix_append (pre t : String) : hasPrefix (pre ++ t) pre = true := by
  simp [hasPrefix, List.prefix_append]

theorem hasPrefix_iff {s pre : String} : hasPrefix s pre = true ↔ ∃ t, s = pre ++ t := by
  simp only [hasPrefix, List.isPrefixOf_iff_prefix, List.IsPrefix, String.ext_iff, String.data_append]
  exact ⟨fun ⟨t, ht⟩ => ⟨⟨t⟩, ht.symm⟩, fun ⟨t, ht⟩ => ⟨t.data, ht.symm⟩⟩

theorem trimPrefix_append (pre t : String) : trimPrefix (pre ++ t) pre = t := by
  rw [trimPrefix, if_pos (hasPrefix_append pre t)]
  exact String.ext (List.drop_left' rfl)

theorem hasSuffix_iff {s suf : String} : hasSuffix s suf = true ↔ ∃ t, s = t ++ suf := by
  simp only [hasSuffix, List.isSuffixOf_iff_suffix, List.IsSuffix, String.ext_iff, String.data_append]
  exact ⟨fun ⟨t, ht⟩ => ⟨⟨t⟩, ht.symm⟩, fun ⟨t, ht⟩ => ⟨t.data, ht.symm⟩⟩

theorem contains_append (a b c : String) : contains (a ++ b ++ c) b = true := by
  simp only [contains, String.data_append, decide_eq_true_eq]
  exact ⟨a.data, c.data, rfl⟩

theorem splitOn_append_cons {α : Type} [DecidableEq α] (x : α) (a b : List α) :
    (a ++ x :: b).splitOn x = a.splitOn x ++ b.splitOn x := by
  induction a with
  | nil => simp [List.splitOn]
  | cons y a ih =>
    simp only [List.splitOn] at ih ⊢
    rw [List.cons_append, List.splitOnP_cons, List.splitOnP_cons, ih]
    split
    · rfl
    · obtain ⟨u, us, hu⟩ := List.exists_cons_of_ne_nil (List.splitOnP_ne_nil (· == x) a)
      rw [hu]
      rfl

/-- Splitting at a separator put between two strings splits each of them. -/
theorem split_append_cons (a b : String) (sep : Char) :
    split (a ++ ⟨sep :: b.data⟩) sep = split a sep ++ split b sep := by
  simp [split, String.data_append, splitOn_append_cons]

theorem split_of_not_mem {s : String} {sep : Char} (h : sep ∉ s.data) : split s sep = [s] := by
  rw [split, List.splitOn, List.splitOnP_eq_single _ _ fun c hc => by simpa using ne_of_mem_of_not_mem hc h]
  rfl

theorem split_ne_nil (s : String) (sep : Char) : split s sep ≠ [] := by
  simpa [split] using List.splitOnP_ne_nil _ s.data

/-- `strings.Join` undoes `strings.Split`. -/
theorem join_split (s : String) (sep : Char) : join (split s sep) sep = s := by
  simp [join, split, List.map_map, Function.comp_def, List.intercalate_splitOn]

theorem not_mem_of_mem_splitOnP {α : Type} (p : α → Bool) :
    ∀ (xs : List α), ∀ l ∈ xs.splitOnP p, ∀ a ∈ l, p a = false
  | [] => by simp
  | x :: xs => by
    rw [List.splitOnP_cons]
    split
    · simpa using not_mem_of_mem_splitOnP p xs
    · rename_i hx
      obtain ⟨u, us, hu⟩ := List.exists_cons_of_ne_nil (List.splitOnP_ne_nil p xs)
      have ih := not_mem_of_mem_splitOnP p xs
      rw [hu] at ih ⊢
      simp only [List.modifyHead_cons, List.mem_cons, forall_eq_or_imp] at ih ⊢
      exact ⟨⟨by simpa using hx, ih.1⟩, ih.2⟩

/-- A segment holds no separator. -/
theorem sep_not_mem_of_mem_split {s x : String} {sep : Char} (hx : x ∈ split s sep) : sep ∉ x.data := by
  obtain ⟨l, hl, rfl⟩ := List.mem_map.mp hx
  exact fun hm => by simpa using not_mem_of_mem_splitOnP (· == sep) s.data l hl sep hm

/-- Splitting the join of segments gives them back. -/
theorem split_join {parts : List String} {sep : Char} (hne : parts ≠ [])
    (hsep : ∀ x ∈ parts, sep ∉ x.data) : split (join parts sep) sep = parts := by
  rw [split, join, List.splitOn_intercalate _ sep (by simpa using hsep) (by simpa using hne)]
  simp [List.map_map, Function.comp_def]

theorem split_injective {s t : String} {sep : Char} (h : split s sep = split t sep) : s = t := by
  rw [← join_split s sep, h, join_split]

end Responses2Chat.GoRuntime
