import PredictionMarket.Table
import Mathlib.Algebra.BigOperators.Group.Finset.Basic

/-!
# Tables as finite maps

Entries stand in the order of their keys, so a key is found in at most one place. This file says
what insertion and erasure do to a lookup and to the sum over a class of keys. Balances are kept in
tables, and all that is proved about totals of balances goes back to the two sum laws here.
-/

namespace PredictionMarket.Table

variable {κ ν : Type} [Ord κ]

/-- The empty table has no entries. -/
@[simp] theorem entries_empty : (empty : Table κ ν).entries = [] := rfl

/-! ## Lookups -/

/-- An entry list whose keys are all above a key has no entry for it. -/
theorem find?_eq_none_of_lt {key : κ} {entries : List (κ × ν)}
    (h : ∀ e ∈ entries, compare key e.1 = .lt) :
    (entries.find? fun e => compare key e.1 == .eq) = none := by
  rw [List.find?_eq_none]
  intro e he
  simp [h e he]

/-- The entries that pass a test are entries. -/
theorem mem_entries_of_filter {t : Table κ ν} {p : κ → ν → Bool} {e : κ × ν}
    (h : e ∈ (t.filter p).entries) : e ∈ t.entries :=
  (List.mem_filter.1 h).1

section Lawful

variable [Std.LawfulEqOrd κ]

/-- An inserted entry is found under its key. -/
theorem find?_insertEntry_self (key : κ) (value : ν) (entries : List (κ × ν)) :
    ((insertEntry key value entries).find? fun e => compare key e.1 == .eq) =
      some (key, value) := by
  induction entries with
  | nil => simp [insertEntry]
  | cons entry rest ih =>
    simp only [insertEntry]
    cases hkey : compare key entry.1 with
    | lt => simp
    | eq => simp
    | gt => simp [hkey, ih]

/-- Under any other key, insertion changes nothing. -/
theorem find?_insertEntry_of_ne {key other : κ} (hne : other ≠ key) (value : ν)
    (entries : List (κ × ν)) :
    ((insertEntry key value entries).find? fun e => compare other e.1 == .eq) =
      entries.find? fun e => compare other e.1 == .eq := by
  have hother : (compare other key == .eq) = false := by simpa using hne
  induction entries with
  | nil => simp [insertEntry, hother]
  | cons entry rest ih =>
    simp only [insertEntry]
    cases hkey : compare key entry.1 with
    | lt => simp [hother]
    | eq =>
      have hentry : key = entry.1 := Std.LawfulEqCmp.eq_of_compare hkey
      simp [hother, ← hentry]
    | gt => simp [List.find?_cons, ih]

/-- The inserted value is the one under its key. -/
@[simp] theorem get?_insert_self [Std.TransOrd κ] (t : Table κ ν) (key : κ) (value : ν) :
    (t.insert key value).get? key = some value := by
  simp [get?, insert, find?_insertEntry_self]

/-- Insertion leaves the values under all other keys. -/
theorem get?_insert_of_ne [Std.TransOrd κ] (t : Table κ ν) {key other : κ} (hne : other ≠ key)
    (value : ν) :
    (t.insert key value).get? other = t.get? other := by
  simp [get?, insert, find?_insertEntry_of_ne hne]

/-- A table without the keys of a class has the values under all other keys. -/
theorem get?_filter (t : Table κ ν) (p : κ → Bool) (key : κ) :
    (t.filter fun k _ => p k).get? key = if p key then t.get? key else none := by
  have htest : ∀ e : κ × ν,
      (p e.1 && (compare key e.1 == .eq)) = (p key && (compare key e.1 == .eq)) := by
    intro e
    by_cases hkey : key = e.1
    · rw [hkey]
    · have hkey : (compare key e.1 == .eq) = false := by simpa using hkey
      rw [hkey, Bool.and_false, Bool.and_false]
  unfold get? filter
  rw [List.find?_filter]
  simp only [Bool.decide_and, Bool.decide_eq_true, htest]
  cases p key <;> simp

/-- An erased key has no value, and all other keys have theirs. -/
theorem get?_erase (t : Table κ ν) (key other : κ) :
    (t.erase key).get? other = if compare key other != .eq then t.get? other else none :=
  t.get?_filter (fun k => compare key k != .eq) other

/-- Insertion sets the value under its key only. -/
theorem getD_insert [Std.TransOrd κ] [DecidableEq κ] (t : Table κ ν) (key other : κ)
    (value default : ν) :
    (t.insert key value).getD other default =
      if other = key then value else t.getD other default := by
  unfold getD
  by_cases hsame : other = key
  · rw [if_pos hsame, hsame, get?_insert_self, Option.getD_some]
  · rw [if_neg hsame, get?_insert_of_ne _ hsame]

/-- Erasure leaves the default under its key only. -/
theorem getD_erase [DecidableEq κ] (t : Table κ ν) (key other : κ) (default : ν) :
    (t.erase key).getD other default = if other = key then default else t.getD other default := by
  unfold getD
  rw [get?_erase]
  by_cases hsame : other = key
  · rw [if_pos hsame, hsame, Std.ReflOrd.compare_self]
    rfl
  · have hne : compare key other ≠ .eq := fun h =>
      hsame (Std.LawfulEqCmp.eq_of_compare h).symm
    rw [if_neg hsame, bne_iff_ne.2 hne, if_pos rfl]

/-- A value that is found comes from an entry. -/
theorem mem_entries_of_get? {t : Table κ ν} {key : κ} {value : ν}
    (h : t.get? key = some value) : (key, value) ∈ t.entries := by
  simp only [get?, Option.map_eq_some_iff] at h
  obtain ⟨entry, hfind, rfl⟩ := h
  have hkey : key = entry.1 := by simpa using List.find?_some hfind
  rw [hkey]
  exact List.mem_of_find?_eq_some hfind

/-- The value of an entry is the one under its key. -/
theorem get?_of_mem_entries [Std.TransOrd κ] {t : Table κ ν} {e : κ × ν} (h : e ∈ t.entries) :
    t.get? e.1 = some e.2 := by
  unfold get?
  obtain ⟨entries, sorted⟩ := t
  dsimp only at h ⊢
  induction entries with
  | nil => cases h
  | cons entry rest ih =>
    obtain ⟨hhead, htail⟩ := List.pairwise_cons.1 sorted
    rcases List.mem_cons.1 h with rfl | hrest
    · simp
    · have habove : compare e.1 entry.1 = .gt := Std.OrientedCmp.gt_of_lt (hhead e hrest)
      rw [List.find?_cons_of_neg (by simp [habove]), ih htail hrest]

/-- What is under the key of an entry is the value of the entry. -/
theorem getD_of_mem_entries [Std.TransOrd κ] {t : Table κ ν} {e : κ × ν} (h : e ∈ t.entries)
    (default : ν) : t.getD e.1 default = e.2 := by
  rw [getD, get?_of_mem_entries h, Option.getD_some]

/-- The entries of a table after an insertion are the new one and old ones. -/
theorem mem_entries_insert [Std.TransOrd κ] {t : Table κ ν} {key : κ} {value : ν} {e : κ × ν}
    (h : e ∈ (t.insert key value).entries) : e = (key, value) ∨ e ∈ t.entries :=
  mem_insertEntry h

end Lawful

/-! ## Sums over a class of keys -/

/-- The sum of the amounts under the keys of a class. -/
def sumOver (p : κ → Bool) (entries : List (κ × Int)) : Int :=
  Amounts.sum ((entries.filter fun e => p e.1).map Prod.snd)

omit [Ord κ] in
/-- The first entry counts if its key is in the class. -/
theorem sumOver_cons (p : κ → Bool) (entry : κ × Int) (rest : List (κ × Int)) :
    sumOver p (entry :: rest) = (if p entry.1 then entry.2 else 0) + sumOver p rest := by
  by_cases h : p entry.1 <;> simp [sumOver, h]

omit [Ord κ] in
/-- Amounts that are not negative have a sum that is not. -/
theorem sumOver_nonneg {p : κ → Bool} {entries : List (κ × Int)} (h : ∀ e ∈ entries, 0 ≤ e.2) :
    0 ≤ sumOver p entries := by
  induction entries with
  | nil => simp [sumOver]
  | cons entry rest ih =>
    have hrest := ih fun e he => h e (List.mem_cons_of_mem _ he)
    have hentry := h entry List.mem_cons_self
    rw [sumOver_cons]
    split <;> omega

/-- The amount that an entry list has under a key, zero if none. -/
def amountAt (key : κ) (entries : List (κ × Int)) : Int :=
  ((entries.find? fun e => compare key e.1 == .eq).map Prod.snd).getD 0

/-- A class of amounts that are not negative has a total that is not. -/
theorem total_filter_nonneg {t : Table κ Int} (h : ∀ e ∈ t.entries, 0 ≤ e.2) (p : κ → Bool) :
    0 ≤ (t.filter fun k _ => p k).total :=
  sumOver_nonneg h

variable [Std.LawfulEqOrd κ]

/-- Insertion changes the sum over a class that has the key by the change of the amount, and the sum
over any other class not at all. -/
theorem sumOver_insertEntry [Std.TransOrd κ] (p : κ → Bool) (key : κ) (value : Int)
    {entries : List (κ × Int)}
    (sorted : entries.Pairwise (fun a b => compare a.1 b.1 = .lt)) :
    sumOver p (insertEntry key value entries) =
      sumOver p entries + if p key then value - amountAt key entries else 0 := by
  induction entries with
  | nil =>
    rw [insertEntry, sumOver_cons]
    simp [amountAt, sumOver]
  | cons entry rest ih =>
    obtain ⟨hhead, htail⟩ := List.pairwise_cons.1 sorted
    simp only [insertEntry]
    cases hkey : compare key entry.1 with
    | lt =>
      have hnone : amountAt key (entry :: rest) = 0 := by
        have habove : ∀ e ∈ entry :: rest, compare key e.1 = .lt := by
          intro e he
          rcases List.mem_cons.1 he with rfl | he
          · exact hkey
          · exact Std.TransCmp.lt_trans hkey (hhead e he)
        simp [amountAt, find?_eq_none_of_lt habove]
      rw [sumOver_cons p (key, value), hnone]
      split <;> omega
    | eq =>
      have hentry : key = entry.1 := Std.LawfulEqCmp.eq_of_compare hkey
      have hsome : amountAt key (entry :: rest) = entry.2 := by simp [amountAt, hkey]
      rw [sumOver_cons, sumOver_cons, hsome, hentry]
      dsimp only
      split <;> omega
    | gt =>
      have hsame : amountAt key (entry :: rest) = amountAt key rest := by
        simp [amountAt, hkey]
      simp only [sumOver_cons, ih htail, hsame]
      omega

/-- Erasure takes the amount under the key off the sum over a class that has the key. -/
theorem sumOver_erase (p : κ → Bool) (key : κ) {entries : List (κ × Int)}
    (sorted : entries.Pairwise (fun a b => compare a.1 b.1 = .lt)) :
    sumOver p (entries.filter fun e => compare key e.1 != .eq) =
      sumOver p entries - if p key then amountAt key entries else 0 := by
  induction entries with
  | nil => simp [sumOver, amountAt]
  | cons entry rest ih =>
    obtain ⟨hhead, htail⟩ := List.pairwise_cons.1 sorted
    by_cases hkey : key = entry.1
    · -- All later keys are above this one, so nothing else is erased.
      have hkeep : (rest.filter fun e => compare key e.1 != .eq) = rest := by
        rw [List.filter_eq_self]
        intro e he
        simp [hkey, hhead e he]
      have hfilter : ((entry :: rest).filter fun e => compare key e.1 != .eq) = rest := by
        rw [List.filter_cons_of_neg (by simp [hkey]), hkeep]
      have hsome : amountAt key (entry :: rest) = entry.2 := by simp [amountAt, hkey]
      rw [hfilter, sumOver_cons, hsome, hkey]
      split <;> omega
    · have htest : (compare key entry.1 == .eq) = false := by simpa using hkey
      have hsame : amountAt key (entry :: rest) = amountAt key rest := by
        simp [amountAt, htest]
      rw [List.filter_cons_of_pos (by simpa using hkey)]
      simp only [sumOver_cons, ih htail, hsame]
      omega

/-- Insertion changes the total of a class that has the key by the change of the amount. -/
theorem total_filter_insert [Std.TransOrd κ] (t : Table κ Int) (p : κ → Bool) (key : κ)
    (value : Int) :
    ((t.insert key value).filter fun k _ => p k).total =
      (t.filter fun k _ => p k).total + if p key then value - t.getD key 0 else 0 :=
  sumOver_insertEntry p key value t.sorted

/-- Erasure takes the amount off the total of a class that has the key. -/
theorem total_filter_erase (t : Table κ Int) (p : κ → Bool) (key : κ) :
    ((t.erase key).filter fun k _ => p k).total =
      (t.filter fun k _ => p k).total - if p key then t.getD key 0 else 0 :=
  sumOver_erase p key t.sorted

/-! ## Totals -/

omit [Std.LawfulEqOrd κ] in
/-- The class of all keys leaves nothing out. -/
theorem filter_true (t : Table κ ν) : (t.filter fun _ _ => true) = t :=
  ext (List.filter_eq_self.2 fun _ _ => rfl)

/-- Insertion changes the total by the change of the amount. -/
theorem total_insert [Std.TransOrd κ] (t : Table κ Int) (key : κ) (value : Int) :
    (t.insert key value).total = t.total + (value - t.getD key 0) := by
  simpa only [filter_true, if_true] using t.total_filter_insert (fun _ => true) key value

/-- Erasure takes the amount off the total. -/
theorem total_erase (t : Table κ Int) (key : κ) :
    (t.erase key).total = t.total - t.getD key 0 := by
  simpa only [filter_true, if_true] using t.total_filter_erase (fun _ => true) key

/-- A table of positive amounts. -/
def Positive (t : Table κ Int) : Prop :=
  ∀ e ∈ t.entries, 0 < e.2

omit [Std.LawfulEqOrd κ] in
/-- A table without entries has positive amounts only. -/
theorem positive_empty : (empty : Table κ Int).Positive :=
  fun _ he => nomatch he

/-- A positive amount joins a table of such. -/
theorem Positive.insert [Std.TransOrd κ] {t : Table κ Int} (h : t.Positive) (key : κ) {value : Int}
    (hvalue : 0 < value) : (t.insert key value).Positive := by
  intro e he
  rcases mem_entries_insert he with rfl | hold
  · exact hvalue
  · exact h e hold

omit [Std.LawfulEqOrd κ] in
/-- Erasure leaves positive amounts. -/
theorem Positive.erase {t : Table κ Int} (h : t.Positive) (key : κ) : (t.erase key).Positive :=
  fun e he => h e (mem_entries_of_filter he)

omit [Std.LawfulEqOrd κ] in
/-- Positive amounts have a total that is not negative. -/
theorem Positive.total_nonneg {t : Table κ Int} (h : t.Positive) : 0 ≤ t.total := by
  rw [← t.filter_true]
  exact total_filter_nonneg (fun e he => (h e he).le) fun _ => true

/-- Under no key is there a negative amount. -/
theorem Positive.getD_nonneg {t : Table κ Int} (h : t.Positive) (key : κ) : 0 ≤ t.getD key 0 := by
  unfold getD
  cases hget : t.get? key with
  | none => exact le_rfl
  | some amount => exact (h _ (mem_entries_of_get? hget)).le

/-- Each of some positive amounts is at most their total. -/
theorem Positive.getD_le_total {t : Table κ Int} (h : t.Positive) (key : κ) :
    t.getD key 0 ≤ t.total := by
  have hothers := (h.erase key).total_nonneg
  rw [total_erase] at hothers
  omega

/-! ## Sums over the keys -/

/-- The keys of a table, in order. -/
def keys (t : Table κ ν) : List κ :=
  t.entries.map Prod.fst

/-- Each key stands once. -/
theorem nodup_keys (t : Table κ ν) : t.keys.Nodup := by
  refine List.pairwise_map.2 (t.sorted.imp fun {a b} hlt hsame => ?_)
  rw [hsame, Std.ReflOrd.compare_self] at hlt
  cases hlt

/-- The keys of a table after an insertion are the new one and old ones. -/
theorem mem_keys_insert [Std.TransOrd κ] {t : Table κ ν} {key other : κ} {value : ν}
    (h : other ∈ (t.insert key value).keys) : other = key ∨ other ∈ t.keys := by
  obtain ⟨e, he, rfl⟩ := List.mem_map.1 h
  rcases mem_entries_insert he with rfl | hold
  · exact .inl rfl
  · exact .inr (List.mem_map_of_mem hold)

omit [Std.LawfulEqOrd κ] in
/-- The keys of a table after an erasure are old ones. -/
theorem mem_keys_of_erase {t : Table κ ν} {key other : κ} (h : other ∈ (t.erase key).keys) :
    other ∈ t.keys := by
  obtain ⟨e, he, rfl⟩ := List.mem_map.1 h
  exact List.mem_map_of_mem (mem_entries_of_filter he)

/-- What is found under a key is found under one of the keys of the table. -/
theorem mem_keys_of_get? {t : Table κ ν} {key : κ} {value : ν} (h : t.get? key = some value) :
    key ∈ t.keys :=
  List.mem_map_of_mem (mem_entries_of_get? h)

/-- A key with an amount is one of the keys of the table. -/
theorem mem_keys_of_getD_ne_zero {t : Table κ Int} {key : κ} (h : t.getD key 0 ≠ 0) :
    key ∈ t.keys := by
  cases hget : t.get? key with
  | none =>
    rw [getD, hget] at h
    exact absurd rfl h
  | some _ => exact mem_keys_of_get? hget

/-- Under each key of a table of positive amounts there is a positive one. -/
theorem Positive.getD_pos [Std.TransOrd κ] {t : Table κ Int} (h : t.Positive) {key : κ}
    (hmem : key ∈ t.keys) : 0 < t.getD key 0 := by
  obtain ⟨e, he, rfl⟩ := List.mem_map.1 hmem
  rw [getD_of_mem_entries he]
  exact h e he

variable [DecidableEq κ]

/-- What is summed up over the keys of a table may be summed up over more keys, if it is zero where
the table has no entry. -/
theorem sum_keys_eq_sum (t : Table κ ν) {keys : Finset κ} (hkeys : t.keys.toFinset ⊆ keys)
    {f : κ → Int} (hzero : ∀ key, t.get? key = none → f key = 0) :
    Amounts.sum (t.keys.map f) = ∑ key ∈ keys, f key := by
  have hnone : ∀ key ∈ keys, key ∉ t.keys.toFinset → f key = 0 := by
    intro key _ hnot
    refine hzero key (Option.eq_none_iff_forall_ne_some.2 fun value hget => hnot ?_)
    exact List.mem_toFinset.2 (mem_keys_of_get? hget)
  rw [← Finset.sum_subset hkeys hnone, List.sum_toFinset _ t.nodup_keys]
  rfl

/-- The total of a table is the sum of the amounts under its keys, and more keys add nothing. -/
theorem total_eq_sum [Std.TransOrd κ] (t : Table κ Int) {keys : Finset κ}
    (hkeys : t.keys.toFinset ⊆ keys) : t.total = ∑ key ∈ keys, t.getD key 0 := by
  have hvalues : t.entries.map Prod.snd = t.keys.map fun key => t.getD key 0 := by
    unfold Table.keys
    rw [List.map_map]
    refine List.map_congr_left fun e he => ?_
    rw [Function.comp_apply, getD_of_mem_entries he]
  rw [total, hvalues]
  refine t.sum_keys_eq_sum hkeys fun key hget => ?_
  rw [getD, hget, Option.getD_none]

end PredictionMarket.Table
