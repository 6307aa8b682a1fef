import PredictionMarket.Proofs.Canonical.Parts

/-!
# What a value means as JSON

Values that are told apart here can be the same as JSON: a tuple is a list there, and the members of
a dictionary have no order. The meaning of a value is what is left when such differences are gone.
This file says what a value means, and what it looks like once it was written and read back.
-/

namespace PredictionMarket

/-! ## Meanings -/

/-- What a value is as JSON. -/
inductive Datum where
  /-- The absent value. -/
  | null
  /-- A truth value. -/
  | bool (b : Bool)
  /-- An integer. -/
  | int (n : Int)
  /-- A text. -/
  | text (t : Text)
  /-- A list, which may have been a tuple. -/
  | list (items : List Datum)
  /-- A dictionary, as what it has under each key. -/
  | dictionary (members : Text → Option Datum)
  /-- Anything that cannot be encoded, as it is. -/
  | foreign (v : Value)

namespace Value

mutual

/-- What a value means as JSON. -/
def meaning : Value → Datum
  | .null => .null
  | .bool b => .bool b
  | .int n => .int n
  | .text t => .text t
  | .list items => .list (meanings items)
  | .tuple items => .list (meanings items)
  | .object entries => .dictionary (meaningUnder entries)
  | v => .foreign v

/-- What the items of a list mean. -/
def meanings : List Value → List Datum
  | [] => []
  | v :: rest => v.meaning :: meanings rest

/-- What stands under each key of a dictionary means; a key that occurs again takes the later
value. -/
def meaningUnder : List (Value × Value) → Text → Option Datum
  | [], _ => none
  | (.text k, v) :: rest, key =>
    (meaningUnder rest key).or (if k = key then some v.meaning else none)
  | _ :: rest, key => meaningUnder rest key

end

/-- The items of a list mean what each of them means. -/
theorem meanings_eq_map (items : List Value) : meanings items = items.map meaning := by
  induction items with
  | nil => rfl
  | cons v rest ih => rw [meanings, ih, List.map_cons]

/-- A dictionary means what stands last under each key. -/
theorem meaningUnder_keyed (members : List (Text × Value)) (key : Text) :
    meaningUnder (keyed members) key = (Table.lastOf key members).map meaning := by
  induction members with
  | nil => rfl
  | cons m members ih =>
    have hrest : meaningUnder (members.map fun m => (.text m.1, m.2)) key = _ := ih
    rw [keyed, List.map_cons, meaningUnder, hrest, Table.lastOf, Option.map_or]
    by_cases hsame : m.1 = key
    · rw [if_pos hsame, if_pos hsame, Option.map_some]
    · rw [if_neg hsame, if_neg hsame, Option.map_none]

/-! ## Plain values -/

mutual

/-- A value as JSON has it: lists for tuples, and each key of a dictionary once and in its place. -/
def plain : Value → Value
  | .list items => .list (plainItems items)
  | .tuple items => .list (plainItems items)
  | .object entries => .object (keyed (Table.ofList (plainMembers entries)).entries)
  | v => v

/-- The items of a list as JSON has them. -/
def plainItems : List Value → List Value
  | [] => []
  | v :: rest => v.plain :: plainItems rest

/-- The members of a dictionary as JSON has them. -/
def plainMembers : List (Value × Value) → List (Text × Value)
  | [] => []
  | (.text key, v) :: rest => (key, v.plain) :: plainMembers rest
  | _ :: rest => plainMembers rest

end

/-- Each item of a list is made plain. -/
theorem plainItems_eq_map (items : List Value) : plainItems items = items.map plain := by
  induction items with
  | nil => rfl
  | cons v rest ih => rw [plainItems, ih, List.map_cons]

/-- The value of each member is made plain. -/
theorem plainMembers_keyed (members : List (Text × Value)) :
    plainMembers (keyed members) = members.map fun m => (m.1, m.2.plain) := by
  induction members with
  | nil => rfl
  | cons m members ih =>
    have hrest : plainMembers (members.map fun m => (.text m.1, m.2)) = _ := ih
    rw [keyed, List.map_cons, plainMembers, hrest, List.map_cons]

/-- A plain value means what the value means. -/
theorem Encodable.meaning_plain {v : Value} (h : v.Encodable) : v.plain.meaning = v.meaning := by
  induction h with
  | null | bool | int | text => rfl
  | list _ ih | tuple _ ih =>
    rw [plain, meaning, meaning, meanings_eq_map, meanings_eq_map, plainItems_eq_map, List.map_map]
    exact congrArg Datum.list (List.map_congr_left ih)
  | object _ _ ih =>
    rw [plain, meaning, meaning]
    refine congrArg Datum.dictionary (funext fun key => ?_)
    rw [meaningUnder_keyed, meaningUnder_keyed, Table.lastOf_entries, Table.get?_ofList,
      plainMembers_keyed, Table.lastOf_map, Option.map_map]
    exact Option.map_congr fun v hv => ih _ (Table.mem_of_lastOf hv)

end Value

end PredictionMarket
