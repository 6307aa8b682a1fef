import PredictionMarket.Proofs.Canonical
import PredictionMarket.Proofs.Guard
import PredictionMarket.Proofs.Table.OfList

/-!
# The parts of a value

Whether a value can be encoded is decided by its parts. Some are refused before anything is written.
Others stop the writer when it comes to them, and which of them it comes to first says how the
encoding fails. A value without such parts has a canonical text.
-/

namespace PredictionMarket

namespace Value

/-! ## Induction -/

/-- What holds of every value that is made of parts of which it holds, holds of all values. -/
@[elab_as_elim]
theorem induction {P : Value → Prop} (null : P .null) (bool : ∀ b, P (.bool b))
    (int : ∀ n, P (.int n)) (float : ∀ x, P (.float x)) (text : ∀ t, P (.text t))
    (bytes : ∀ octets, P (.bytes octets)) (moment : ∀ m, P (.moment m))
    (list : ∀ items, (∀ v ∈ items, P v) → P (.list items))
    (tuple : ∀ items, (∀ v ∈ items, P v) → P (.tuple items))
    (set : ∀ members, (∀ v ∈ members, P v) → P (.set members))
    (object : ∀ entries, (∀ e ∈ entries, P e.2) → P (.object entries))
    (again : ∀ isList, P (.again isList)) (v : Value) : P v :=
  @Value.rec P (fun items => ∀ v ∈ items, P v) (fun entries => ∀ e ∈ entries, P e.2)
    (fun e => P e.2) null bool int float text bytes moment list tuple set object again
    (List.forall_mem_nil _) (fun _ _ hv hrest => List.forall_mem_cons.2 ⟨hv, hrest⟩)
    (List.forall_mem_nil _) (fun _ _ he hrest => List.forall_mem_cons.2 ⟨he, hrest⟩)
    (fun _ _ _ hv => hv) v

/-! ## What stands in a value -/

/-- What stands somewhere in a value: the value itself, or what stands in one of its items or under
one of its keys. -/
inductive Within : Value → Value → Prop where
  /-- A value stands in itself. -/
  | self (v : Value) : Within v v
  /-- It stands in an item of a list. -/
  | item {u v : Value} {items : List Value} (hv : v ∈ items) (hu : Within u v) :
      Within u (.list items)
  /-- It stands in an item of a tuple. -/
  | place {u v : Value} {items : List Value} (hv : v ∈ items) (hu : Within u v) :
      Within u (.tuple items)
  /-- It stands under a key of a dictionary. -/
  | member {u key v : Value} {entries : List (Value × Value)} (hv : (key, v) ∈ entries)
      (hu : Within u v) : Within u (.object entries)

/-- What is refused before anything is written. -/
inductive Barred : Value → Prop where
  /-- A float has many spellings. -/
  | float (x : Binary64) : Barred (.float x)
  /-- A surrogate in a text has no octets. -/
  | text {t : Text} (h : t.hasSurrogate = true) : Barred (.text t)
  /-- A surrogate in a key has no octets. -/
  | key {t : Text} {v : Value} {entries : List (Value × Value)} (hv : (.text t, v) ∈ entries)
      (h : t.hasSurrogate = true) : Barred (.object entries)
  /-- Only texts can be keys. -/
  | keyNotText {key v : Value} {entries : List (Value × Value)} (hv : (key, v) ∈ entries)
      (h : ∀ t, key ≠ .text t) : Barred (.object entries)

/-- What stops the writer, and the kind of the error that this is. -/
inductive Stops : Value → ErrorKind → Prop where
  /-- An integer has too many digits. -/
  | int {n : Int} (h : Text.canWrite n = false) : Stops (.int n) .badValue
  /-- Octets have no JSON form. -/
  | bytes (octets : List UInt8) : Stops (.bytes octets) .badType
  /-- Moments have no JSON form. -/
  | moment (m : Moment) : Stops (.moment m) .badType
  /-- Sets have no JSON form. -/
  | set (members : List Value) : Stops (.set members) .badType
  /-- What stands in itself has no end. -/
  | again (isList : Bool) : Stops (.again isList) .badType

/-- Nothing in a value stops the writer. -/
def Flows (v : Value) : Prop :=
  ∀ u : Value, u.Within v → ∀ kind, ¬u.Stops kind

/-- What the writer comes to in a value while nothing has stopped it: items one after another, and
the members of a dictionary in the order of their keys. -/
inductive Reached : Value → Value → Prop where
  /-- It comes to the value itself. -/
  | self (v : Value) : Reached v v
  /-- It comes to an item of a list. -/
  | item {u v : Value} {front back : List Value} (hfront : ∀ w ∈ front, w.Flows)
      (hu : Reached u v) : Reached u (.list (front ++ v :: back))
  /-- It comes to an item of a tuple. -/
  | place {u v : Value} {front back : List Value} (hfront : ∀ w ∈ front, w.Flows)
      (hu : Reached u v) : Reached u (.tuple (front ++ v :: back))
  /-- It comes to what stands under a key of a dictionary. -/
  | member {u v : Value} {key : Text} {entries : List (Value × Value)}
      (hv : (.text key, v) ∈ entries)
      (hfront : ∀ k w, (.text k, w) ∈ entries → compare k key = .lt → w.Flows)
      (hu : Reached u v) : Reached u (.object entries)

/-- What the writer comes to in a value stands in it. -/
theorem Reached.within {u v : Value} (h : u.Reached v) : u.Within v := by
  induction h with
  | self => exact .self u
  | item _ _ ih => exact .item (List.mem_append_right _ List.mem_cons_self) ih
  | place _ _ ih => exact .place (List.mem_append_right _ List.mem_cons_self) ih
  | member hv _ _ ih => exact .member hv ih

/-- In a list whose first item stops it, the writer comes to nothing but the list and this item. -/
theorem Reached.of_stopped_head {u v : Value} {items : List Value} {kind : ErrorKind}
    (hv : v.Stops kind) (h : u.Reached (.list (v :: items))) :
    u = .list (v :: items) ∨ u.Reached v := by
  generalize hwhole : Value.list (v :: items) = whole at h
  cases h with
  | self => exact .inl rfl
  | @item _ front _ hfront hu =>
    rw [Value.list.injEq] at hwhole
    cases front with
    | nil =>
      obtain ⟨rfl, -⟩ := List.cons.inj hwhole
      exact .inr hu
    | cons first front =>
      obtain ⟨rfl, -⟩ := List.cons.inj hwhole
      exact absurd hv (hfront _ List.mem_cons_self _ (.self _) _)
  | place | member => cases hwhole

/-! ## What has a canonical text -/

/-- The entries of a dictionary with texts as keys. -/
def keyed (members : List (Text × Value)) : List (Value × Value) :=
  members.map fun m => (.text m.1, m.2)

/-- What has a canonical text. -/
inductive Encodable : Value → Prop where
  /-- The absent value has one. -/
  | null : Encodable .null
  /-- Truth values have one. -/
  | bool (b : Bool) : Encodable (.bool b)
  /-- Integers without too many digits have one. -/
  | int {n : Int} (h : Text.canWrite n = true) : Encodable (.int n)
  /-- A text without surrogates has one. -/
  | text {t : Text} (h : t.hasSurrogate = false) : Encodable (.text t)
  /-- A list has one if its items do. -/
  | list {items : List Value} (h : ∀ v ∈ items, Encodable v) : Encodable (.list items)
  /-- A tuple has one if its items do. -/
  | tuple {items : List Value} (h : ∀ v ∈ items, Encodable v) : Encodable (.tuple items)
  /-- A dictionary has one if its keys are texts without surrogates and its values have one. -/
  | object {members : List (Text × Value)} (hkeys : ∀ m ∈ members, m.1.hasSurrogate = false)
      (h : ∀ m ∈ members, Encodable m.2) : Encodable (.object (keyed members))

/-- Entries whose keys are texts are those of some members. -/
theorem exists_keyed {entries : List (Value × Value)} (h : ∀ e ∈ entries, ∃ t, e.1 = .text t) :
    ∃ members, entries = keyed members := by
  induction entries with
  | nil => exact ⟨[], rfl⟩
  | cons e entries ih =>
    obtain ⟨⟨t, ht⟩, hrest⟩ := List.forall_mem_cons.1 h
    obtain ⟨members, rfl⟩ := ih hrest
    exact ⟨(t, e.2) :: members, congrArg (· :: keyed members) (Prod.ext ht rfl)⟩

/-- The entries of a dictionary with texts as keys are those of its members. -/
theorem mem_keyed {members : List (Text × Value)} {key v : Value} :
    (key, v) ∈ keyed members ↔ ∃ t, key = .text t ∧ (t, v) ∈ members := by
  constructor
  · intro h
    obtain ⟨m, hm, hentry⟩ := List.mem_map.1 h
    cases hentry
    exact ⟨m.1, rfl, hm⟩
  · rintro ⟨t, rfl, hm⟩
    exact List.mem_map_of_mem hm

/-- The keys of a dictionary that is not refused are texts. -/
theorem texts_of_not_barred {entries : List (Value × Value)} (h : ¬(object entries).Barred) :
    ∀ e ∈ entries, ∃ t, e.1 = .text t := by
  intro e he
  by_contra hnone
  exact h (.keyNotText he (not_exists.1 hnone))

/-- What stands in something that can be encoded can be encoded. -/
theorem Within.encodable {u v : Value} (h : u.Within v) (hv : v.Encodable) : u.Encodable := by
  induction h with
  | self => exact hv
  | item hmem _ ih =>
    cases hv with
    | list hitems => exact ih (hitems _ hmem)
  | place hmem _ ih =>
    cases hv with
    | tuple hitems => exact ih (hitems _ hmem)
  | member hmem _ ih =>
    cases hv with
    | object _ hvalues =>
      obtain ⟨t, -, hm⟩ := mem_keyed.1 hmem
      exact ih (hvalues _ hm)

/-- What can be encoded is not refused. -/
theorem Encodable.not_barred {v : Value} (h : v.Encodable) : ¬v.Barred := by
  intro hbarred
  cases hbarred with
  | float => cases h
  | text hsurrogate =>
    cases h with
    | text hclear => cases hsurrogate.symm.trans hclear
  | key hmem hsurrogate =>
    cases h with
    | object hkeys _ =>
      obtain ⟨t, htext, hm⟩ := mem_keyed.1 hmem
      cases htext
      cases hsurrogate.symm.trans (hkeys _ hm)
  | keyNotText hmem hkey =>
    cases h with
    | object _ _ =>
      obtain ⟨t, htext, -⟩ := mem_keyed.1 hmem
      exact hkey t htext

/-- What can be encoded does not stop the writer. -/
theorem Encodable.not_stops {v : Value} (h : v.Encodable) (kind : ErrorKind) :
    ¬v.Stops kind := by
  intro hstops
  cases hstops with
  | int hlong =>
    cases h with
    | int hshort => cases hlong.symm.trans hshort
  | bytes | moment | set | again => cases h

/-- Nothing in what can be encoded stops the writer. -/
theorem Encodable.flows {v : Value} (h : v.Encodable) : v.Flows :=
  fun _ hu kind => (hu.encodable h).not_stops kind

/-- A value has a canonical text as soon as nothing in it is refused and nothing stops the
writer. -/
theorem encodable_of_flows {v : Value} (hbarred : ∀ u : Value, u.Within v → ¬u.Barred)
    (hflows : v.Flows) : v.Encodable := by
  induction v using Value.induction with
  | null => exact .null
  | bool b => exact .bool b
  | int n =>
    cases hshort : Text.canWrite n with
    | true => exact .int hshort
    | false => exact absurd (.int hshort) (hflows _ (.self _) _)
  | float x => exact absurd (.float x) (hbarred _ (.self _))
  | bytes octets => exact absurd (.bytes octets) (hflows _ (.self _) _)
  | moment m => exact absurd (.moment m) (hflows _ (.self _) _)
  | set members => exact absurd (.set members) (hflows _ (.self _) _)
  | again isList => exact absurd (.again isList) (hflows _ (.self _) _)
  | text t =>
    exact .text (Bool.eq_false_iff.2 fun hsurrogate => hbarred _ (.self _) (.text hsurrogate))
  | list items ih =>
    exact .list fun v hv =>
      ih v hv (fun u hu => hbarred u (.item hv hu)) fun u hu => hflows u (.item hv hu)
  | tuple items ih =>
    exact .tuple fun v hv =>
      ih v hv (fun u hu => hbarred u (.place hv hu)) fun u hu => hflows u (.place hv hu)
  | object entries ih =>
    obtain ⟨members, rfl⟩ := exists_keyed (texts_of_not_barred (hbarred _ (.self _)))
    have hmem {m : Text × Value} (hm : m ∈ members) : (.text m.1, m.2) ∈ keyed members :=
      List.mem_map_of_mem hm
    refine .object (fun m hm => Bool.eq_false_iff.2 fun hsurrogate => ?_) fun m hm => ?_
    · exact hbarred _ (.self _) (.key (hmem hm) hsurrogate)
    · exact ih _ (hmem hm) (fun u hu => hbarred u (.member (hmem hm) hu))
        fun u hu => hflows u (.member (hmem hm) hu)

/-- A value has a canonical text exactly if nothing in it is refused and nothing stops the
writer. -/
theorem encodable_iff {v : Value} :
    v.Encodable ↔ (∀ u : Value, u.Within v → ¬u.Barred) ∧ v.Flows :=
  ⟨fun hv => ⟨fun _ hu => (hu.encodable hv).not_barred, hv.flows⟩,
    fun h => encodable_of_flows h.1 h.2⟩

/-- What has a canonical text passes the check of all its parts. -/
theorem Encodable.isEncodable {v : Value} (h : v.Encodable) : v.isEncodable = true := by
  induction h with
  | null | bool => rfl
  | int h => exact h
  | text h => exact (isEncodable_text _).2 h
  | list _ ih => exact (isEncodable_list _).2 ih
  | tuple _ ih => exact (areEncodable_iff _).2 ih
  | object hkeys _ ih =>
    exact (isEncodable_object_map Prod.fst Prod.snd _).2 fun m hm => ⟨hkeys m hm, ih m hm⟩

/-- The keys of entries that pass the check are texts. -/
theorem texts_of_areEntriesEncodable {entries : List (Value × Value)}
    (h : areEntriesEncodable entries = true) : ∀ e ∈ entries, ∃ t, e.1 = .text t := by
  induction entries with
  | nil => exact List.forall_mem_nil _
  | cons e entries ih =>
    obtain ⟨key, v⟩ := e
    cases key with
    | text t =>
      rw [areEntriesEncodable, Bool.and_eq_true] at h
      exact List.forall_mem_cons.2 ⟨⟨t, rfl⟩, ih h.2⟩
    | _ => cases h

/-- What passes the check of all its parts has a canonical text. -/
theorem encodable_of_isEncodable {v : Value} (h : v.isEncodable = true) : v.Encodable := by
  induction v using Value.induction with
  | null => exact .null
  | bool b => exact .bool b
  | int n => exact .int h
  | text t => exact .text ((isEncodable_text t).1 h)
  | float | bytes | moment | set | again => cases h
  | list items ih => exact .list fun v hv => ih v hv ((isEncodable_list items).1 h v hv)
  | tuple items ih => exact .tuple fun v hv => ih v hv ((areEncodable_iff items).1 h v hv)
  | object entries ih =>
    obtain ⟨members, rfl⟩ := exists_keyed (texts_of_areEntriesEncodable h)
    have hmembers := (isEncodable_object_map Prod.fst Prod.snd members).1 h
    exact .object (fun m hm => (hmembers m hm).1) fun m hm =>
      ih _ (List.mem_map_of_mem hm) (hmembers m hm).2

/-! ## What is refused -/

/-- Items pass the check if each of them does. -/
theorem checkItems_eq_ok {items : List Value} :
    checkItems items = .ok () ↔ ∀ v ∈ items, v.checkCanonical = .ok () := by
  induction items with
  | nil => simp [checkItems]
  | cons v items ih =>
    rw [checkItems, bind_eq_ok, List.forall_mem_cons, ← ih]
    constructor
    · rintro ⟨_, hv, hrest⟩
      exact ⟨hv, hrest⟩
    · rintro ⟨hv, hrest⟩
      exact ⟨(), hv, hrest⟩

/-- Members pass the check if their keys have no surrogates and their values pass it. -/
theorem checkEntries_keyed {members : List (Text × Value)} :
    checkEntries (keyed members) = .ok () ↔
      ∀ m ∈ members, m.1.hasSurrogate = false ∧ m.2.checkCanonical = .ok () := by
  induction members with
  | nil => simp [keyed, checkEntries]
  | cons m members ih =>
    rw [keyed] at ih
    simp only [keyed, List.map_cons, checkEntries, bind_eq_ok, checkText_eq_ok, ih,
      List.forall_mem_cons]
    constructor
    · rintro ⟨_, hkey, _, hv, hrest⟩
      exact ⟨⟨hkey, hv⟩, hrest⟩
    · rintro ⟨⟨hkey, hv⟩, hrest⟩
      exact ⟨(), hkey, (), hv, hrest⟩

/-- The keys of entries that pass the check are texts. -/
theorem texts_of_checkEntries {entries : List (Value × Value)}
    (h : checkEntries entries = .ok ()) : ∀ e ∈ entries, ∃ t, e.1 = .text t := by
  induction entries with
  | nil => exact List.forall_mem_nil _
  | cons e entries ih =>
    obtain ⟨key, v⟩ := e
    cases key with
    | text t =>
      simp only [checkEntries, bind_eq_ok] at h
      obtain ⟨_, -, _, -, hrest⟩ := h
      exact List.forall_mem_cons.2 ⟨⟨t, rfl⟩, ih hrest⟩
    | _ => cases h

/-- What stands in a value that passes the check passes it. -/
theorem Within.checkCanonical {u v : Value} (h : u.Within v) (hv : v.checkCanonical = .ok ()) :
    u.checkCanonical = .ok () := by
  induction h with
  | self => exact hv
  | item hmem _ ih | place hmem _ ih => exact ih (checkItems_eq_ok.1 hv _ hmem)
  | member hmem _ ih =>
    obtain ⟨members, rfl⟩ := exists_keyed (texts_of_checkEntries hv)
    obtain ⟨t, -, hm⟩ := mem_keyed.1 hmem
    exact ih (checkEntries_keyed.1 hv _ hm).2

/-- What is refused does not pass the check. -/
theorem Barred.not_checkCanonical {v : Value} (h : v.Barred) : v.checkCanonical ≠ .ok () := by
  intro hv
  cases h with
  | float => cases hv
  | text hsurrogate => cases hsurrogate.symm.trans (checkText_eq_ok.1 hv)
  | key hmem hsurrogate =>
    obtain ⟨members, rfl⟩ := exists_keyed (texts_of_checkEntries hv)
    obtain ⟨t, htext, hm⟩ := mem_keyed.1 hmem
    cases htext
    cases hsurrogate.symm.trans (checkEntries_keyed.1 hv _ hm).1
  | keyNotText hmem hkey =>
    obtain ⟨t, htext⟩ := texts_of_checkEntries hv _ hmem
    exact hkey t htext

/-- What holds nothing that is refused passes the check. -/
theorem checkCanonical_of_forall_within {v : Value} (h : ∀ u : Value, u.Within v → ¬u.Barred) :
    v.checkCanonical = .ok () := by
  induction v using Value.induction with
  | null | bool | int | bytes | moment | set | again => rfl
  | float x => exact absurd (.float x) (h _ (.self _))
  | text t =>
    exact checkText_eq_ok.2 (Bool.eq_false_iff.2 fun hsurrogate => h _ (.self _) (.text hsurrogate))
  | list items ih => exact checkItems_eq_ok.2 fun v hv => ih v hv fun u hu => h u (.item hv hu)
  | tuple items ih => exact checkItems_eq_ok.2 fun v hv => ih v hv fun u hu => h u (.place hv hu)
  | object entries ih =>
    obtain ⟨members, rfl⟩ := exists_keyed (texts_of_not_barred (h _ (.self _)))
    refine checkEntries_keyed.2 fun m hm => ?_
    have hmem : (.text m.1, m.2) ∈ keyed members := List.mem_map_of_mem hm
    have hkey := fun hsurrogate => h _ (.self _) (.key hmem hsurrogate)
    exact ⟨Bool.eq_false_iff.2 hkey, ih _ hmem fun u hu => h u (.member hmem hu)⟩

/-- A text that fails the check is of the wrong type. -/
theorem failsIn_checkText (t : Text) : FailsIn (fun e => e.kind = .badType) (checkText t) := by
  unfold checkText
  split
  · exact .of_error rfl rfl
  · exact .of_ok rfl

mutual

/-- What fails the check is of the wrong type. -/
theorem failsIn_checkCanonical : (v : Value) →
    FailsIn (fun e => e.kind = .badType) v.checkCanonical
  | .float _ => .of_error rfl rfl
  | .text t => failsIn_checkText t
  | .list items | .tuple items => failsIn_checkItems items
  | .object entries => failsIn_checkEntries entries
  | .null | .bool _ | .int _ | .bytes _ | .moment _ | .set _ | .again _ => .of_ok rfl

/-- Items that fail the check are of the wrong type. -/
theorem failsIn_checkItems : (items : List Value) →
    FailsIn (fun e => e.kind = .badType) (checkItems items)
  | [] => .of_ok rfl
  | v :: rest => (failsIn_checkCanonical v).bind fun _ _ => failsIn_checkItems rest

/-- Entries that fail the check are of the wrong type. -/
theorem failsIn_checkEntries : (entries : List (Value × Value)) →
    FailsIn (fun e => e.kind = .badType) (checkEntries entries)
  | [] => .of_ok rfl
  | (.text key, v) :: rest =>
    (failsIn_checkText key).bind fun _ _ =>
      (failsIn_checkCanonical v).bind fun _ _ => failsIn_checkEntries rest
  | (.null, _) :: _ | (.bool _, _) :: _ | (.int _, _) :: _ | (.float _, _) :: _
  | (.bytes _, _) :: _ | (.moment _, _) :: _ | (.list _, _) :: _ | (.tuple _, _) :: _
  | (.set _, _) :: _ | (.object _, _) :: _ | (.again _, _) :: _ => .of_error rfl rfl

end

/-! ## What stops the writer -/

/-- What stops the writer under the keys of a dictionary. -/
theorem mem_obstaclesUnder {members : List (Text × Value)} {key : Text} {e : EncodingError} :
    (key, e) ∈ obstaclesUnder (keyed members) ↔
      ∃ v, (key, v) ∈ members ∧ v.obstacle? = some e := by
  induction members with
  | nil => simp [keyed, obstaclesUnder]
  | cons m members ih =>
    rw [keyed] at ih
    rw [keyed, List.map_cons, obstaclesUnder]
    split
    · next e' hobstacle =>
      rw [List.mem_cons, ih]
      constructor
      · rintro (hsame | ⟨v, hv, hstops⟩)
        · cases hsame
          exact ⟨m.2, List.mem_cons_self, hobstacle⟩
        · exact ⟨v, List.mem_cons_of_mem _ hv, hstops⟩
      · rintro ⟨v, hv, hstops⟩
        rcases List.mem_cons.1 hv with rfl | hv
        · rw [hstops, Option.some.injEq] at hobstacle
          exact .inl (congrArg _ hobstacle)
        · exact .inr ⟨v, hv, hstops⟩
    · next hnone =>
      rw [ih]
      constructor
      · rintro ⟨v, hv, hstops⟩
        exact ⟨v, List.mem_cons_of_mem _ hv, hstops⟩
      · rintro ⟨v, hv, hstops⟩
        rcases List.mem_cons.1 hv with rfl | hv
        · cases hstops.symm.trans hnone
        · exact ⟨v, hv, hstops⟩

/-- Where nothing stops the writing of items in a row, nothing stops the writing of any of them. -/
theorem obstacleAmong?_eq_none {items : List Value} :
    obstacleAmong? items = none ↔ ∀ v ∈ items, v.obstacle? = none := by
  induction items with
  | nil => simp [obstacleAmong?]
  | cons v items ih => rw [obstacleAmong?, Option.or_eq_none_iff, List.forall_mem_cons, ih]

/-- What stops the writing of items in a row stops it at one of them, and not before. -/
theorem obstacleAmong?_eq_some {items : List Value} {e : EncodingError}
    (h : obstacleAmong? items = some e) : ∃ front v back, items = front ++ v :: back ∧
      (∀ w ∈ front, w.obstacle? = none) ∧ v.obstacle? = some e := by
  induction items with
  | nil => cases h
  | cons v items ih =>
    rw [obstacleAmong?, Option.or_eq_some_iff] at h
    rcases h with hv | ⟨hnone, hrest⟩
    · exact ⟨[], v, items, rfl, List.forall_mem_nil _, hv⟩
    · obtain ⟨front, w, back, rfl, hfront, hw⟩ := ih hrest
      exact ⟨v :: front, w, back, rfl, List.forall_mem_cons.2 ⟨hnone, hfront⟩, hw⟩

/-- What passes the check and meets no obstacle has a canonical text. -/
theorem encodable_of_obstacle? {v : Value} (hcheck : v.checkCanonical = .ok ())
    (hnone : v.obstacle? = none) : v.Encodable := by
  induction v using Value.induction with
  | null => exact .null
  | bool b => exact .bool b
  | int n =>
    rw [obstacle?, ite_eq_left_iff] at hnone
    exact .int (by_contra fun hlong => nomatch hnone hlong)
  | text t => exact .text (checkText_eq_ok.1 hcheck)
  | float => cases hcheck
  | bytes | moment | set | again => cases hnone
  | list items ih =>
    exact .list fun v hv =>
      ih v hv (checkItems_eq_ok.1 hcheck v hv) (obstacleAmong?_eq_none.1 hnone v hv)
  | tuple items ih =>
    exact .tuple fun v hv =>
      ih v hv (checkItems_eq_ok.1 hcheck v hv) (obstacleAmong?_eq_none.1 hnone v hv)
  | object entries ih =>
    obtain ⟨members, rfl⟩ := exists_keyed (texts_of_checkEntries hcheck)
    have hmembers := checkEntries_keyed.1 hcheck
    rw [obstacle?, Option.map_eq_none_iff, List.head?_eq_none_iff] at hnone
    refine .object (fun m hm => (hmembers m hm).1) fun m hm => ?_
    refine ih _ (List.mem_map_of_mem hm) (hmembers m hm).2 ?_
    cases hobstacle : m.2.obstacle? with
    | none => rfl
    | some e =>
      -- What stops the writing under the key stands in the table, which is empty.
      obtain ⟨_, hmem⟩ := Table.exists_mem_ofList (mem_obstaclesUnder.2 ⟨m.2, hm, hobstacle⟩)
      rw [hnone] at hmem
      cases hmem

/-- What stops the writing of a value that passes the check is a part of it that the writer comes to
while nothing has stopped it. -/
theorem exists_reached_of_obstacle? {v : Value} {e : EncodingError}
    (hcheck : v.checkCanonical = .ok ()) (h : v.obstacle? = some e) :
    ∃ u : Value, u.Reached v ∧ u.Stops e.kind := by
  have hflows {w : Value} (hcheck : w.checkCanonical = .ok ()) (hnone : w.obstacle? = none) :
      w.Flows := (encodable_of_obstacle? hcheck hnone).flows
  have hrow {items : List Value} (hcheck : checkItems items = .ok ())
      (h : obstacleAmong? items = some e) : ∃ front v back, items = front ++ v :: back ∧
        (∀ w ∈ front, w.Flows) ∧ v ∈ items ∧ v.obstacle? = some e := by
    obtain ⟨front, v, back, rfl, hfront, hv⟩ := obstacleAmong?_eq_some h
    refine ⟨front, v, back, rfl, fun w hw => ?_, by simp, hv⟩
    exact hflows (checkItems_eq_ok.1 hcheck w (List.mem_append_left _ hw)) (hfront w hw)
  induction v using Value.induction with
  | null | bool | float | text => cases h
  | int n =>
    obtain ⟨hlong, he⟩ := Option.ite_none_left_eq_some.1 h
    cases he
    exact ⟨_, .self _, .int (Bool.eq_false_iff.2 hlong)⟩
  | bytes octets =>
    cases h
    exact ⟨_, .self _, .bytes octets⟩
  | moment m =>
    cases h
    exact ⟨_, .self _, .moment m⟩
  | set members =>
    cases h
    exact ⟨_, .self _, .set members⟩
  | again isList =>
    cases h
    exact ⟨_, .self _, .again isList⟩
  | list items ih =>
    obtain ⟨front, v, back, rfl, hfront, hmem, hv⟩ := hrow hcheck h
    obtain ⟨u, hu, hstops⟩ := ih v hmem (checkItems_eq_ok.1 hcheck v hmem) hv
    exact ⟨u, .item hfront hu, hstops⟩
  | tuple items ih =>
    obtain ⟨front, v, back, rfl, hfront, hmem, hv⟩ := hrow hcheck h
    obtain ⟨u, hu, hstops⟩ := ih v hmem (checkItems_eq_ok.1 hcheck v hmem) hv
    exact ⟨u, .place hfront hu, hstops⟩
  | object entries ih =>
    obtain ⟨members, rfl⟩ := exists_keyed (texts_of_checkEntries hcheck)
    have hmembers := checkEntries_keyed.1 hcheck
    obtain ⟨⟨key, e'⟩, hhead, rfl⟩ := Option.map_eq_some_iff.1 h
    obtain ⟨hkey, hfirst⟩ := Table.head?_ofList hhead
    obtain ⟨v, hv, hobstacle⟩ := mem_obstaclesUnder.1 hkey
    have hmem : (.text key, v) ∈ keyed members := mem_keyed.2 ⟨key, rfl, hv⟩
    obtain ⟨u, hu, hstops⟩ := ih _ hmem (hmembers _ hv).2 hobstacle
    refine ⟨u, .member hmem (fun k w hw hlt => ?_) hu, hstops⟩
    obtain ⟨t, htext, hw⟩ := mem_keyed.1 hw
    cases htext
    refine hflows (hmembers _ hw).2 ?_
    cases hnone : w.obstacle? with
    | none => rfl
    | some e'' => exact absurd hlt (hfirst _ (mem_obstaclesUnder.2 ⟨w, hw, hnone⟩))

/-! ## How encodings fail -/

/-- What holds something that is refused is of the wrong type. -/
theorem canonicalOctets_of_barred {u v : Value} (hu : u.Within v) (hbarred : u.Barred) :
    ∃ e, v.canonicalOctets = .error e ∧ e.kind = .badType := by
  cases hcheck : v.checkCanonical with
  | ok _ => exact absurd (hu.checkCanonical hcheck) hbarred.not_checkCanonical
  | error e =>
    refine ⟨e, ?_, failsIn_checkCanonical v e hcheck⟩
    rw [canonicalOctets, canonicalText, hcheck, error_bind, error_bind]

/-- What passes the check of all its parts but cannot be encoded fails at a part that stops the
writer, to which the writer comes first. -/
theorem canonicalOctets_of_not_encodable {v : Value} (hcheck : v.checkCanonical = .ok ())
    (hv : ¬v.Encodable) :
    ∃ (e : EncodingError) (u : Value), v.canonicalOctets = .error e ∧ u.Reached v ∧
      u.Stops e.kind := by
  cases hobstacle : v.obstacle? with
  | none => exact absurd (encodable_of_obstacle? hcheck hobstacle) hv
  | some e =>
    obtain ⟨u, hu, hstops⟩ := exists_reached_of_obstacle? hcheck hobstacle
    refine ⟨e, u, ?_, hu, hstops⟩
    cases hwritten : Json.write? Json.compact v with
    | some t => exact absurd (encodable_of_isEncodable (isEncodable_of_write? v hcheck hwritten)) hv
    | none =>
      rw [canonicalOctets, canonicalText, hcheck, ok_bind, hwritten, hobstacle]
      rfl

/-- An integer of too many digits has no octets. -/
theorem canonicalOctets_int {n : Int} (h : Text.canWrite n = false) :
    (int n).canonicalOctets = .error .tooManyDigits := by
  have hlong := Bool.eq_false_iff.1 h
  have hwritten : Json.write? Json.compact (.int n) = none := if_neg hlong
  have hobstacle : (int n).obstacle? = some .tooManyDigits := if_neg hlong
  have hcheck : (int n).checkCanonical = .ok () := rfl
  rw [canonicalOctets, canonicalText, hcheck, ok_bind, hwritten, hobstacle]
  rfl

end Value

end PredictionMarket
