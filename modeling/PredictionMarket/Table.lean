import PredictionMarket.Amounts

/-!
# Tables

A table maps keys to values and keeps its entries in the order of the keys, each key once. Equal
contents are therefore equal tables, whatever the history that led to them, and listing a table
needs no sorting.
-/

namespace PredictionMarket

/-- A finite map whose entries stand in strictly ascending order of their keys. -/
structure Table (κ ν : Type) [Ord κ] where
  /-- The keys and their values, in order. -/
  entries : List (κ × ν) := []
  /-- Every key is below the keys after it. -/
  sorted : entries.Pairwise (fun a b => compare a.1 b.1 = .lt) := by exact List.Pairwise.nil

namespace Table

/-- Puts a value at its place among ordered entries; an entry with the same key is replaced. -/
def insertEntry {κ ν : Type} [Ord κ] (key : κ) (value : ν) : List (κ × ν) → List (κ × ν)
  | [] => [(key, value)]
  | entry :: rest =>
    match compare key entry.1 with
    | .lt => (key, value) :: entry :: rest
    | .eq => (key, value) :: rest
    | .gt => entry :: insertEntry key value rest

/-- An inserted entry list holds the new entry and old ones. -/
theorem mem_insertEntry {κ ν : Type} [Ord κ] {key : κ} {value : ν} {entries : List (κ × ν)}
    {e : κ × ν} (h : e ∈ insertEntry key value entries) : e = (key, value) ∨ e ∈ entries := by
  induction entries with
  | nil => simpa [insertEntry] using h
  | cons entry rest ih =>
    simp only [insertEntry] at h
    split at h
    · simpa using h
    · rcases List.mem_cons.1 h with h | h
      · exact .inl h
      · exact .inr (List.mem_cons_of_mem _ h)
    · rcases List.mem_cons.1 h with h | h
      · exact .inr (h ▸ List.mem_cons_self)
      · exact (ih h).imp_right (List.mem_cons_of_mem _)

/-- Insertion keeps the order. -/
theorem insertEntry_sorted {κ ν : Type} [Ord κ] [Std.TransOrd κ] [Std.LawfulEqOrd κ] {key : κ}
    {value : ν} {entries : List (κ × ν)}
    (h : entries.Pairwise (fun a b => compare a.1 b.1 = .lt)) :
    (insertEntry key value entries).Pairwise (fun a b => compare a.1 b.1 = .lt) := by
  induction entries with
  | nil => simp [insertEntry]
  | cons entry rest ih =>
    obtain ⟨hhead, htail⟩ := List.pairwise_cons.1 h
    simp only [insertEntry]
    split
    next hlt =>
      refine List.pairwise_cons.2 ⟨fun e he => ?_, h⟩
      rcases List.mem_cons.1 he with rfl | he
      · exact hlt
      · exact Std.TransCmp.lt_trans hlt (hhead e he)
    next heq =>
      have hkey : key = entry.1 := Std.LawfulEqCmp.eq_of_compare heq
      exact List.pairwise_cons.2 ⟨fun e he => hkey ▸ hhead e he, htail⟩
    next hgt =>
      refine List.pairwise_cons.2 ⟨fun e he => ?_, ih htail⟩
      rcases mem_insertEntry he with rfl | he
      · exact Std.OrientedCmp.lt_of_gt hgt
      · exact hhead e he

variable {κ ν : Type} [Ord κ]

/-- The table without entries. -/
def empty : Table κ ν := {}

instance : Inhabited (Table κ ν) := ⟨empty⟩

/-- The value under a key. -/
def get? (t : Table κ ν) (key : κ) : Option ν :=
  (t.entries.find? fun entry => compare key entry.1 == .eq).map Prod.snd

/-- The value under a key, or the given one where the table has none. -/
def getD (t : Table κ ν) (key : κ) (default : ν) : ν :=
  (t.get? key).getD default

/-- The table with the value under the key, in place of any value that was there. -/
def insert [Std.TransOrd κ] [Std.LawfulEqOrd κ] (t : Table κ ν) (key : κ) (value : ν) :
    Table κ ν :=
  ⟨insertEntry key value t.entries, insertEntry_sorted t.sorted⟩

/-- The entries that satisfy a test. -/
def filter (t : Table κ ν) (p : κ → ν → Bool) : Table κ ν :=
  ⟨t.entries.filter fun entry => p entry.1 entry.2, t.sorted.filter _⟩

/-- The table without the key. -/
def erase (t : Table κ ν) (key : κ) : Table κ ν :=
  t.filter fun other _ => compare key other != .eq

/-- The table of the given entries; of two with one key, the later stays. -/
def ofList [Std.TransOrd κ] [Std.LawfulEqOrd κ] (entries : List (κ × ν)) : Table κ ν :=
  entries.foldl (fun t entry => t.insert entry.1 entry.2) empty

/-- The number of entries. -/
def size (t : Table κ ν) : Nat :=
  t.entries.length

/-- The values in the order of their keys. -/
def values (t : Table κ ν) : List ν :=
  t.entries.map Prod.snd

/-- The sum of a table of amounts. -/
def total (t : Table κ Int) : Int :=
  Amounts.sum (t.entries.map Prod.snd)

/-- Tables are equal when their entries are. -/
@[ext]
theorem ext {s t : Table κ ν} (h : s.entries = t.entries) : s = t := by
  cases s
  cases t
  simp_all

end Table

end PredictionMarket
