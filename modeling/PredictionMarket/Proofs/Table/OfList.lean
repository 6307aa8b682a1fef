import PredictionMarket.Proofs.Table

/-!
# Tables of given entries

A table that is made of a list of entries has under each key what stands last under it in the list.
The order of the other entries is lost, so tables are equal as soon as the same is found in them.
-/

namespace PredictionMarket.Table

/-! ## The last entry under a key -/

section Last

variable {κ ν μ : Type} [DecidableEq κ] {key : κ} {entries : List (κ × ν)}

/-- What stands last under a key among some entries. -/
def lastOf (key : κ) : List (κ × ν) → Option ν
  | [] => none
  | (k, value) :: rest => (lastOf key rest).or (if k = key then some value else none)

/-- What stands last under a key is one of the entries. -/
theorem mem_of_lastOf {value : ν} (h : lastOf key entries = some value) :
    (key, value) ∈ entries := by
  induction entries with
  | nil => cases h
  | cons entry rest ih =>
    obtain ⟨k, v⟩ := entry
    rcases Option.or_eq_some_iff.1 h with hrest | ⟨-, hhead⟩
    · exact List.mem_cons_of_mem _ (ih hrest)
    · by_cases hsame : k = key
      · rw [if_pos hsame, Option.some.injEq] at hhead
        rw [hsame, hhead]
        exact List.mem_cons_self
      · rw [if_neg hsame] at hhead
        cases hhead

/-- Where nothing stands last under a key, no entry has it. -/
theorem ne_of_lastOf_eq_none (h : lastOf key entries = none) : ∀ e ∈ entries, e.1 ≠ key := by
  induction entries with
  | nil => exact List.forall_mem_nil _
  | cons entry rest ih =>
    obtain ⟨hrest, hhead⟩ := Option.or_eq_none_iff.1 h
    refine List.forall_mem_cons.2 ⟨fun hsame => ?_, ih hrest⟩
    rw [if_pos hsame] at hhead
    cases hhead

/-- What stands last under a key among values that are replaced is replaced. -/
theorem lastOf_map (f : ν → μ) :
    lastOf key (entries.map fun e => (e.1, f e.2)) = (lastOf key entries).map f := by
  induction entries with
  | nil => rfl
  | cons entry rest ih =>
    obtain ⟨k, v⟩ := entry
    rw [List.map_cons, lastOf, lastOf, ih, Option.map_or]
    by_cases hsame : k = key
    · rw [if_pos hsame, if_pos hsame, Option.map_some]
    · rw [if_neg hsame, if_neg hsame, Option.map_none]

end Last

variable {κ ν μ : Type} [Ord κ]

/-! ## Lookups -/

section Lookup

variable [Std.TransOrd κ] [Std.LawfulEqOrd κ]

/-- Tables in which the same is found under each key are the same. -/
theorem ext_get? {s t : Table κ ν} (h : ∀ key, s.get? key = t.get? key) : s = t := by
  have hmem (t : Table κ ν) (e : κ × ν) : e ∈ t.entries ↔ t.get? e.1 = some e.2 :=
    ⟨get?_of_mem_entries, mem_entries_of_get?⟩
  have hsame : ∀ e, e ∈ s.entries ↔ e ∈ t.entries := fun e => by rw [hmem, hmem, h]
  have hperm := (List.perm_ext_iff_of_nodup s.nodup_keys.of_map t.nodup_keys.of_map).2 hsame
  refine Table.ext (hperm.eq_of_pairwise (fun a b _ _ hab hba => ?_) s.sorted t.sorted)
  rw [Std.OrientedCmp.gt_of_lt hba] at hab
  cases hab

variable [DecidableEq κ]

/-- What stands last under a key among the entries of a table is found under it. -/
theorem lastOf_entries (t : Table κ ν) (key : κ) : lastOf key t.entries = t.get? key := by
  cases hlast : lastOf key t.entries with
  | some value => exact (get?_of_mem_entries (mem_of_lastOf hlast)).symm
  | none =>
    refine (Option.eq_none_iff_forall_ne_some.2 fun value hget => ?_).symm
    exact ne_of_lastOf_eq_none hlast _ (mem_entries_of_get? hget) rfl

/-- In a table of given entries, what stands last under a key is found under it. -/
theorem get?_ofList (key : κ) (entries : List (κ × ν)) :
    (ofList entries).get? key = lastOf key entries := by
  have hfold (t : Table κ ν) :
      (entries.foldl (fun t entry => t.insert entry.1 entry.2) t).get? key =
        (lastOf key entries).or (t.get? key) := by
    induction entries generalizing t with
    | nil => rw [List.foldl_nil, lastOf, Option.none_or]
    | cons entry rest ih =>
      obtain ⟨k, value⟩ := entry
      rw [List.foldl_cons, ih, lastOf, Option.or_assoc]
      by_cases hsame : k = key
      · rw [if_pos hsame, ← hsame, get?_insert_self, Option.some_or]
      · rw [if_neg hsame, get?_insert_of_ne t (Ne.symm hsame), Option.none_or]
  exact (hfold empty).trans Option.or_none

/-- The key of a given entry is in the table of all of them. -/
theorem exists_mem_ofList {entries : List (κ × ν)} {e : κ × ν} (he : e ∈ entries) :
    ∃ value, (e.1, value) ∈ (ofList entries).entries := by
  cases hlast : lastOf e.1 entries with
  | none => exact absurd rfl (ne_of_lastOf_eq_none hlast e he)
  | some value =>
    rw [← get?_ofList] at hlast
    exact ⟨value, mem_entries_of_get? hlast⟩

/-- The entry that stands first in a table of given entries is one of them, and none of them has a
key below its key. -/
theorem head?_ofList {entries : List (κ × ν)} {e : κ × ν}
    (h : (ofList entries).entries.head? = some e) :
    e ∈ entries ∧ ∀ f ∈ entries, compare f.1 e.1 ≠ .lt := by
  constructor
  · have hlast := get?_of_mem_entries (List.mem_of_head? h)
    rw [get?_ofList] at hlast
    exact mem_of_lastOf hlast
  · intro f hf hlt
    obtain ⟨value, hvalue⟩ := exists_mem_ofList hf
    obtain ⟨rest, hentries⟩ := List.head?_eq_some_iff.1 h
    have hsorted := (ofList entries).sorted
    rw [hentries] at hsorted hvalue
    rcases List.mem_cons.1 hvalue with hsame | hrest
    · rw [← hsame, Std.ReflOrd.compare_self] at hlt
      cases hlt
    · have hgt := (List.pairwise_cons.1 hsorted).1 _ hrest
      rw [Std.OrientedOrd.eq_swap, hlt] at hgt
      cases hgt

end Lookup

/-! ## Related entries -/

/-- Entries with the same keys, whose values are related. -/
abbrev Alike (R : ν → μ → Prop) : List (κ × ν) → List (κ × μ) → Prop :=
  List.Forall₂ fun e f => e.1 = f.1 ∧ R e.2 f.2

/-- Entries that are alike stay so when related values are put under one key. -/
theorem alike_insertEntry {R : ν → μ → Prop} {key : κ} {v : ν} {w : μ} (hnew : R v w)
    {entries : List (κ × ν)} {others : List (κ × μ)} (h : Alike R entries others) :
    Alike R (insertEntry key v entries) (insertEntry key w others) := by
  induction h with
  | nil => exact .cons ⟨rfl, hnew⟩ .nil
  | cons hhead hrest ih =>
    simp only [insertEntry, hhead.1]
    split
    · exact .cons ⟨rfl, hnew⟩ (.cons hhead hrest)
    · exact .cons ⟨rfl, hnew⟩ hrest
    · exact .cons hhead ih

/-- Tables of entries that are alike have entries that are alike. -/
theorem alike_ofList [Std.TransOrd κ] [Std.LawfulEqOrd κ] {R : ν → μ → Prop}
    {entries : List (κ × ν)} {others : List (κ × μ)} (h : Alike R entries others) :
    Alike R (ofList entries).entries (ofList others).entries := by
  have hfold (s : Table κ ν) (t : Table κ μ) (hst : Alike R s.entries t.entries) :
      Alike R (entries.foldl (fun t entry => t.insert entry.1 entry.2) s).entries
        (others.foldl (fun t entry => t.insert entry.1 entry.2) t).entries := by
    induction h generalizing s t with
    | nil => exact hst
    | @cons e f entries others hhead _ ih =>
      refine ih _ _ ?_
      show Alike R (insertEntry e.1 e.2 s.entries) (insertEntry f.1 f.2 t.entries)
      rw [hhead.1]
      exact alike_insertEntry hhead.2 hst
  exact hfold empty empty .nil

omit [Ord κ] in
/-- What stands last under a key among entries that are alike is related. -/
theorem rel_lastOf [DecidableEq κ] {R : ν → μ → Prop} (key : κ) {entries : List (κ × ν)}
    {others : List (κ × μ)} (h : Alike R entries others) :
    Option.Rel R (lastOf key entries) (lastOf key others) := by
  induction h with
  | nil => exact .none
  | @cons e f entries others hhead _ ih =>
    rw [lastOf, lastOf, hhead.1]
    generalize lastOf key entries = later, lastOf key others = later' at ih ⊢
    cases ih with
    | some hlater => exact .some hlater
    | none =>
      rw [Option.none_or, Option.none_or]
      by_cases hsame : f.1 = key
      · rw [if_pos hsame, if_pos hsame]
        exact .some hhead.2
      · rw [if_neg hsame, if_neg hsame]
        exact .none

end PredictionMarket.Table
