import PredictionMarket.Config
import PredictionMarket.Proofs.Guard
import PredictionMarket.Proofs.Table.OfList
import Mathlib.Data.List.Induction
import Mathlib.Data.Nat.Digits.Defs

/-!
# What configurations are refused for

Settings are read in stages: their keys, the collateral tokens, the bond, the bounds of each
setting. A configuration that is accepted is within all bounds, and a bond in a text is the number
that its digits denote. All other settings are refused as invalid, with two exceptions. A bond can
be made of digits that are no number, because some of them have no place value or because there are
too many. And a refusal that is to show an integer with too many digits cannot be put into words.
-/

namespace PredictionMarket

/-! ## Values -/

namespace Value

/-- Some values can be written if each of them can. -/
theorem areWritable_iff {vs : List Value} :
    areWritable vs = true ↔ ∀ v ∈ vs, v.isWritable = true := by
  induction vs with
  | nil => simp [areWritable]
  | cons v vs ih => simp [areWritable, ih]

/-- A dictionary can be written if its keys and its values can. -/
theorem isWritable_object {entries : List (Value × Value)} :
    (Value.object entries).isWritable = true ↔
      ∀ e ∈ entries, e.1.isWritable = true ∧ e.2.isWritable = true := by
  rw [isWritable]
  induction entries with
  | nil => simp [areWritableEntries]
  | cons e entries ih => simp [areWritableEntries, ih, and_assoc]

/-- What is found under a key is one of the entries. -/
theorem mem_of_lookup {key : Text} {entries : List (Value × Value)} {v : Value}
    (h : lookup key entries = some v) : (.text key, v) ∈ entries := by
  induction entries with
  | nil => cases h
  | cons e entries ih =>
    obtain ⟨k, w⟩ := e
    unfold lookup at h
    split at h
    · cases ‹_›
    · next t _ _ heq =>
      obtain ⟨⟨rfl, rfl⟩, rfl⟩ : (k = .text t ∧ w = _) ∧ entries = _ := by simpa using heq
      split at h
      · next hkey =>
        cases h
        rw [hkey]
        exact List.mem_cons_self
      · exact List.mem_cons_of_mem _ (ih h)
    · next heq =>
      obtain ⟨-, rfl⟩ := List.cons.inj heq
      exact List.mem_cons_of_mem _ (ih h)

/-- Values that are texts are those of a list of texts. -/
theorem exists_eq_map_text {vs : List Value} (h : ∀ v ∈ vs, ∃ t, v = .text t) :
    ∃ ts : List Text, vs = ts.map .text := by
  induction vs with
  | nil => exact ⟨[], rfl⟩
  | cons v vs ih =>
    obtain ⟨⟨t, rfl⟩, hrest⟩ := List.forall_mem_cons.1 h
    obtain ⟨ts, rfl⟩ := ih hrest
    exact ⟨t :: ts, rfl⟩

/-- A text with its place in an order. -/
def placed (t : Text) : Rank × Value :=
  (⟨1, t.map fun c => (c.val : Int)⟩, .text t)

/-- Texts can be put in order. -/
theorem exists_inOrder? {keys : List Value} (h : ∀ key ∈ keys, ∃ t, key = .text t) :
    ∃ ordered, inOrder? keys = some ordered ∧ ordered.Perm keys := by
  obtain ⟨ts, rfl⟩ := exists_eq_map_text h
  unfold inOrder?
  split
  · exact ⟨_, rfl, .refl _⟩
  · have hranked : (ts.map Value.text).mapM (fun k => k.rank?.map (·, k)) =
        some (ts.map placed) := by
      rw [mapM_eq_some, List.forall₂_map_left_iff, List.forall₂_map_right_iff]
      exact List.forall₂_same.2 fun t _ => rfl
    have hsorts : ((ts.map placed).map fun r => r.1.sort).all
        (· = ((ts.map placed).map fun r => r.1.sort).headD 0) = true := by
      cases ts <;> simp [placed]
    rw [hranked]
    simp only [Option.bind_eq_bind, Option.bind_some, hsorts, if_true]
    refine ⟨_, rfl, ?_⟩
    have hperm := (List.mergeSort_perm (ts.map placed)
      fun a b => (compare a.1.place b.1.place).isLE).map Prod.snd
    rwa [List.map_map] at hperm

end Value

/-! ## Digits -/

/-- A text of decimal digits, of any scripts, and the number that it denotes. -/
structure Text.Denotes (t : Text) (n : Int) : Prop where
  /-- There is a digit. -/
  ne_nil : t ≠ []
  /-- The digits have place values in base ten, which make up the number. -/
  digits : ∃ ds : List Nat, List.Forall₂ (fun c d => c.decimalValue? = some d) t ds ∧
    (∀ d ∈ ds, d < 10) ∧ n = (Nat.ofDigits 10 ds.reverse : Nat)

/-- Digits denote no negative number. -/
theorem Text.Denotes.nonneg {t : Text} {n : Int} (h : t.Denotes n) : 0 ≤ n := by
  obtain ⟨ds, -, -, rfl⟩ := h.digits
  exact Int.natCast_nonneg _

/-- The value of a decimal digit is one of the ten. -/
theorem CodePoint.decimalValue?_lt {c : CodePoint} {d : Nat} (h : c.decimalValue? = some d) :
    d < 10 := by
  obtain ⟨base, hbase, rfl⟩ := Option.map_eq_some_iff.1 h
  have hrange := List.find?_some hbase
  simp only [Bool.and_eq_true, decide_eq_true_eq] at hrange
  omega

namespace Text

/-- Code points that have place values, one after another: each has one, which is one of ten. -/
theorem forall_of_forall₂ {t : Text} {ds : List Nat}
    (h : List.Forall₂ (fun c d => c.decimalValue? = some d) t ds) :
    (∀ c ∈ t, c.decimalValue? ≠ none) ∧ ∀ d ∈ ds, d < 10 := by
  induction h with
  | nil => exact ⟨List.forall_mem_nil _, List.forall_mem_nil _⟩
  | cons hc _ ih =>
    refine ⟨List.forall_mem_cons.2 ⟨?_, ih.1⟩,
      List.forall_mem_cons.2 ⟨CodePoint.decimalValue?_lt hc, ih.2⟩⟩
    rw [hc]
    exact Option.some_ne_none _

/-- Digits from the first to the last denote what they are as the digits of a number. -/
theorem ofDigitValues_eq (ds : List Nat) : ofDigitValues ds = Nat.ofDigits 10 ds.reverse := by
  induction ds using List.reverseRecOn with
  | nil => rfl
  | append_singleton ds d ih =>
    rw [ofDigitValues, List.foldl_concat, List.reverse_concat, Nat.ofDigits_cons, ← ih]
    exact Nat.add_comm _ _

/-- A text is read as a number if it is not too long and denotes the number. -/
theorem natural?_eq_some {t : Text} {n : Nat} :
    t.natural? = some n ↔ t.length ≤ digitLimit ∧ t.Denotes n := by
  unfold natural?
  split
  · next h =>
    rw [Bool.or_eq_true, List.isEmpty_iff, decide_eq_true_eq] at h
    refine iff_of_false nofun fun ⟨hlength, hdenotes⟩ => ?_
    exact h.elim hdenotes.ne_nil (Nat.not_lt.2 hlength)
  · next h =>
    rw [Bool.or_eq_true, List.isEmpty_iff, decide_eq_true_eq, not_or, Nat.not_lt] at h
    rw [Option.map_eq_some_iff]
    constructor
    · rintro ⟨ds, hds, rfl⟩
      have hvalues := mapM_eq_some.1 hds
      exact ⟨h.2, h.1, ds, hvalues, (forall_of_forall₂ hvalues).2, by rw [ofDigitValues_eq]⟩
    · rintro ⟨-, -, ds, hvalues, -, hn⟩
      refine ⟨ds, mapM_eq_some.2 hvalues, ?_⟩
      rw [ofDigitValues_eq]
      exact (Int.natCast_inj.1 hn).symm

/-- Digits that are not too many are read as a number if all of them have place values. -/
theorem exists_natural? {t : Text} (h : t.isDigits = true) :
    (∃ n, t.natural? = some n) ↔ t.length ≤ digitLimit ∧ ∀ c ∈ t, c.decimalValue? ≠ none := by
  have hne : t ≠ [] := by
    rintro rfl
    cases h
  simp only [natural?_eq_some, exists_and_left]
  refine and_congr_right fun _ => ⟨?_, fun hvalues => ?_⟩
  · rintro ⟨n, -, ds, hvalues, -⟩
    exact (forall_of_forall₂ hvalues).1
  · have hall : List.Forall₂ (fun c d => c.decimalValue? = some d) t
        (t.map fun c => c.decimalValue?.getD 0) := by
      rw [List.forall₂_map_right_iff, List.forall₂_same]
      intro c hc
      obtain ⟨d, hd⟩ := Option.ne_none_iff_exists'.1 (hvalues c hc)
      rw [hd, Option.getD_some]
    exact ⟨_, hne, _, hall, (forall_of_forall₂ hall).2, rfl⟩

/-- Digits are not read as a number if there are too many, or one of them has no place value. -/
theorem natural?_eq_none {t : Text} (h : t.isDigits = true) :
    t.natural? = none ↔ digitLimit < t.length ∨ ∃ c ∈ t, c.decimalValue? = none := by
  rw [Option.eq_none_iff_forall_ne_some, ← not_exists, exists_natural? h, not_and_or, Nat.not_le]
  simp only [not_forall, not_not, exists_prop]

end Text

/-! ## Settings -/

namespace Config

/-- Settings under texts as keys, with a dictionary for the collateral tokens, or none. -/
structure IsRaw (raw : List (Value × Value)) : Prop where
  /-- Every key is a text. -/
  keys : ∀ e ∈ raw, ∃ t, e.1 = .text t
  /-- The collateral tokens are a dictionary, if they are given at all and not null. -/
  whitelist : ∀ v, Value.lookup "collateral_whitelist" raw = some v →
    v = .null ∨ ∃ entries, v = .object entries

/-- A configuration within all bounds. -/
structure Sound (c : Config) : Prop where
  /-- A market can have two outcomes or more. -/
  outcomes : 2 ≤ c.minOutcomes ∧ c.minOutcomes ≤ c.maxOutcomes
  /-- A fee is not negative, and does not take everything. -/
  swapFee : 0 ≤ c.maxSwapFee ∧ c.maxSwapFee < 10000
  /-- The bond is not negative. -/
  validityBond : 0 ≤ c.validityBond
  /-- Nor is the challenge period. -/
  challengePeriod : 0 ≤ c.challengePeriod
  /-- Collateral tokens have names, and up to thirty-eight decimals. -/
  whitelist : ∀ e ∈ c.whitelist.entries, e.1 ≠ [] ∧ 0 ≤ e.2 ∧ e.2 ≤ 38

/-- Settings with known keys, and a bond of digits that are no number: there are too many, or one of
them has no place value. -/
def UnreadableBond (raw : List (Value × Value)) : Prop :=
  (∀ e ∈ raw, isKey e.1 = true) ∧
    ∃ t, Value.lookup "validity_bond" raw = some (.text t) ∧ t.isDigits = true ∧
      (Text.digitLimit < t.length ∨ ∃ c ∈ t, c.decimalValue? = none)

/-- A setting is what is given, or what stands for it. -/
theorem setting_cases (raw : List (Value × Value)) (key : String) (missing : Value) :
    Value.lookup key raw = some (setting raw key missing) ∨
      Value.lookup key raw = none ∧ setting raw key missing = missing := by
  unfold setting
  cases Value.lookup key raw with
  | none => exact .inr ⟨rfl, rfl⟩
  | some v => exact .inl rfl

/-! ### What is accepted -/

/-- A setting that is an amount is an integer that is not negative. -/
theorem readAmount_eq_ok {name : String} {v : Value} {n : Int} :
    readAmount name v = .ok n ↔ v = .int n ∧ 0 ≤ n := by
  constructor
  · intro h
    unfold readAmount at h
    split at h
    · split at h
      · cases h
      · next hn =>
        cases h
        exact ⟨rfl, Int.not_lt.1 hn⟩
    · cases h
  · rintro ⟨rfl, hn⟩
    exact if_neg (Int.not_lt.2 hn)

/-- A bond is given as an integer, or by its digits. -/
theorem readBond_ok {v bond : Value} (h : readBond v = .ok bond) :
    ∃ n : Int, bond = .int n ∧ (v = .int n ∨ ∃ t : Text, v = .text t ∧ t.Denotes n) := by
  unfold readBond at h
  split at h
  · cases h
    exact ⟨_, rfl, .inl rfl⟩
  · next t =>
    split at h
    · split at h
      · next n hn =>
        cases h
        exact ⟨n, rfl, .inr ⟨t, rfl, (Text.natural?_eq_some.1 hn).2⟩⟩
      · cases h
    · cases h
  · cases h

/-- A collateral token that is accepted has a name, and up to thirty-eight decimals. -/
theorem readToken_ok {e : Value × Value} {token : Text × Int} (h : readToken e = .ok token) :
    token.1 ≠ [] ∧ 0 ≤ token.2 ∧ token.2 ≤ 38 := by
  unfold readToken at h
  split at h
  · cases h
  · next hne =>
    split at h
    · next hrange =>
      cases h
      exact ⟨hne, hrange⟩
    · cases h
  · cases h
  · cases h

/-- A configuration that is accepted is within all bounds, and has the bond that is given. -/
theorem read_ok {raw : List (Value × Value)} {c : Config} (h : read raw = .ok c) :
    c.Sound ∧ ∀ t, Value.lookup "validity_bond" raw = some (.text t) →
      t.Denotes c.validityBond := by
  simp only [read, bind_eq_ok, refuseIf_eq_ok, pure, Except.pure, Except.ok.injEq, Int.not_lt,
    Int.not_le] at h
  obtain ⟨_, -, pairs, -, bond, hbond, least, hleast, most, hmost, fee, hfee, amount, hamount,
    period, hperiod, _, htwo, _, hordered, _, hpart, tokens, htokens, _, -, rfl⟩ := h
  obtain ⟨n, rfl, hgiven⟩ := readBond_ok hbond
  obtain ⟨hbondEq, hbondNonneg⟩ := readAmount_eq_ok.1 hamount
  obtain rfl := Value.int.inj hbondEq
  constructor
  · refine ⟨⟨htwo, hordered⟩, ⟨(readAmount_eq_ok.1 hfee).2, hpart⟩, hbondNonneg,
      (readAmount_eq_ok.1 hperiod).2, fun e he => ?_⟩
    have hfound := Table.get?_of_mem_entries he
    rw [Table.get?_ofList] at hfound
    obtain ⟨_, -, htoken⟩ := exists_mem_of_mapM htokens (Table.mem_of_lastOf hfound)
    exact readToken_ok htoken
  · intro t ht
    rw [setting, ht] at hgiven
    rcases hgiven with hint | ⟨_, htext, hdenotes⟩
    · cases hint
    · cases htext
      exact hdenotes

/-! ### What is refused -/

/-- An error for some settings that is meant as a refusal, and shows nothing but what is given. -/
structure IsRefusalOf (raw : List (Value × Value)) (e : ConfigError) : Prop where
  /-- The error is meant as a refusal. -/
  meant : e.notice.meant = .refusal .validation
  /-- It can be put into words if all that is given can be written. -/
  worded : (Value.object raw).isWritable = true → e.isWorded = true

variable {raw : List (Value × Value)}

/-- A value that can be written if all that is given can. -/
def Showable (raw : List (Value × Value)) (v : Value) : Prop :=
  (Value.object raw).isWritable = true → v.isWritable = true

/-- An error that is meant as a refusal and shows such values is a refusal of what is given. -/
theorem IsRefusalOf.of_shown {e : ConfigError} (hmeant : e.notice.meant = .refusal .validation)
    (hshown : ∀ v ∈ e.notice.shown, Showable raw v) : IsRefusalOf raw e :=
  ⟨hmeant, fun hraw => Value.areWritable_iff.2 fun v hv => hshown v hv hraw⟩

/-- So is one that shows one such value. -/
theorem IsRefusalOf.of_shown_one {e : ConfigError} {v : Value}
    (hmeant : e.notice.meant = .refusal .validation) (hshown : e.notice.shown = [v])
    (hv : Showable raw v) : IsRefusalOf raw e := by
  refine .of_shown hmeant ?_
  rw [hshown]
  exact List.forall_mem_singleton.2 hv

/-- A setting can be shown, if what stands for it can. -/
theorem showable_setting (raw : List (Value × Value)) (key : String) {missing : Value}
    (hmissing : missing.isWritable = true) : Showable raw (setting raw key missing) := by
  intro hraw
  rcases setting_cases raw key missing with hgiven | ⟨-, hnone⟩
  · exact (Value.isWritable_object.1 hraw _ (Value.mem_of_lookup hgiven)).2
  · rw [hnone]
    exact hmissing

/-- An amount can be shown, if the setting that it was read from can. -/
theorem showable_amount {name : String} {v : Value} {n : Int} (hv : Showable raw v)
    (hn : readAmount name v = .ok n) : Showable raw (.int n) :=
  (readAmount_eq_ok.1 hn).1 ▸ hv

/-- Keys that are texts are known, or they are refused. -/
theorem checkKeys_cases (hkeys : ∀ e ∈ raw, ∃ t, e.1 = .text t) :
    (checkKeys raw = .ok () ∧ ∀ e ∈ raw, isKey e.1 = true) ∨
      ∃ unknown, checkKeys raw = .error (.unknownKeys unknown) ∧
        (∀ key ∈ unknown, ∃ t, key = .text t) ∧ ¬∀ e ∈ raw, isKey e.1 = true := by
  have hmem (key : Value) : key ∈ (raw.map Prod.fst).filter (fun key => !isKey key) ↔
      (∃ e ∈ raw, e.1 = key) ∧ isKey key = false := by
    simp
  have htexts : ∀ key ∈ (raw.map Prod.fst).filter fun key => !isKey key, ∃ t, key = .text t := by
    intro key hkey
    obtain ⟨⟨e, he, rfl⟩, -⟩ := (hmem key).1 hkey
    exact hkeys e he
  obtain ⟨unknown, horder, hperm⟩ := Value.exists_inOrder? htexts
  rw [checkKeys, horder]
  cases unknown with
  | nil =>
    refine .inl ⟨rfl, fun e he => ?_⟩
    by_contra hne
    have hstrange := (hmem e.1).2 ⟨⟨e, he, rfl⟩, Bool.eq_false_iff.2 hne⟩
    exact List.not_mem_nil (hperm.mem_iff.2 hstrange)
  | cons key rest =>
    obtain ⟨⟨e, he, rfl⟩, hne⟩ := (hmem key).1 (hperm.mem_iff.1 List.mem_cons_self)
    refine .inr ⟨_, rfl, fun key hkey => htexts key (hperm.mem_iff.1 hkey), fun hall => ?_⟩
    rw [hall e he] at hne
    cases hne

/-- What is given for the collateral tokens is read as pairs. -/
theorem exists_readWhitelist (h : IsRaw raw) :
    ∃ pairs, readWhitelist (setting raw "collateral_whitelist" .null) = .ok pairs ∧
      ∀ e ∈ pairs, Showable raw e.1 ∧ Showable raw e.2 := by
  have hvalue : setting raw "collateral_whitelist" .null = .null ∨
      ∃ entries, setting raw "collateral_whitelist" .null = .object entries := by
    rcases setting_cases raw "collateral_whitelist" .null with hgiven | ⟨-, hnone⟩
    · exact h.whitelist _ hgiven
    · exact .inl hnone
  rcases hvalue with hnull | ⟨entries, hentries⟩
  · exact ⟨[], by rw [hnull]; rfl, List.forall_mem_nil _⟩
  · refine ⟨entries, ?_, fun e he => ?_⟩
    · rw [hentries]
      cases entries <;> rfl
    · have hshowable : Showable raw (setting raw "collateral_whitelist" .null) :=
        showable_setting raw _ rfl
      rw [hentries] at hshowable
      exact ⟨fun hraw => (Value.isWritable_object.1 (hshowable hraw) e he).1,
        fun hraw => (Value.isWritable_object.1 (hshowable hraw) e he).2⟩

/-- A setting that is no amount is refused. -/
theorem readAmount_failsIn {name : String} {v : Value} (hv : Showable raw v) :
    FailsIn (IsRefusalOf raw) (readAmount name v) := by
  have hrefusal : IsRefusalOf raw (.notAmount name v) := .of_shown_one rfl rfl hv
  unfold readAmount
  split
  · split
    · exact .of_error rfl hrefusal
    · exact .of_ok rfl
  · exact .of_error rfl hrefusal

/-- A collateral token is refused for its name or its decimals. -/
theorem readToken_failsIn {e : Value × Value} (hname : Showable raw e.1)
    (hvalue : Showable raw e.2) : FailsIn (IsRefusalOf raw) (readToken e) := by
  have hid : IsRefusalOf raw (.badTokenId e.1) := .of_shown_one rfl rfl hname
  have hdecimals (name : Text) : IsRefusalOf raw (.badDecimals name e.2) :=
    .of_shown_one rfl rfl hvalue
  unfold readToken
  split
  · exact .of_error rfl hid
  · split
    · exact .of_ok rfl
    · exact .of_error rfl (hdecimals _)
  · exact .of_error rfl (hdecimals _)
  · exact .of_error rfl hid

/-- A format that the log does not have is refused. -/
theorem readFormat_failsIn {v : Value} (hv : Showable raw v) :
    FailsIn (IsRefusalOf raw) (readFormat v) := by
  have hrefusal : IsRefusalOf raw (.badFormat v) := .of_shown_one rfl rfl hv
  unfold readFormat
  split
  · split
    · exact .of_ok rfl
    · split
      · exact .of_ok rfl
      · exact .of_error rfl hrefusal
  · exact .of_error rfl hrefusal

/-- A bond is refused if it is no integer, or it is made of digits that are no number. -/
theorem readBond_failsIn {v : Value} (hv : Showable raw v) :
    FailsIn (fun e => IsRefusalOf raw e ∨ e = .bondUnreadable ∧
      ∃ t, v = .text t ∧ t.isDigits = true ∧
        (Text.digitLimit < t.length ∨ ∃ c ∈ t, c.decimalValue? = none)) (readBond v) := by
  have hrefusal : IsRefusalOf raw (.bondNotInteger v) := .of_shown_one rfl rfl hv
  unfold readBond
  split
  · exact .of_ok rfl
  · next t =>
    split
    · next hdigits =>
      split
      · exact .of_ok rfl
      · next hnone =>
        exact .of_error rfl (.inr ⟨rfl, t, rfl, hdigits, (Text.natural?_eq_none hdigits).1 hnone⟩)
    · exact .of_error rfl (.inl hrefusal)
  · exact .of_error rfl (.inl hrefusal)

/-- A bond that was read is refused if it is negative. -/
theorem readAmount_bond_failsIn {name : String} {v bond : Value} (hbond : readBond v = .ok bond)
    (hv : Showable raw v) : FailsIn (IsRefusalOf raw) (readAmount name bond) := by
  obtain ⟨n, rfl, rfl | ⟨t, rfl, hdenotes⟩⟩ := readBond_ok hbond
  · exact readAmount_failsIn hv
  · exact .of_ok (readAmount_eq_ok.2 ⟨rfl, hdenotes.nonneg⟩)

/-- Settings are refused, unless the bond is made of digits that are no number. -/
theorem read_failsIn (h : IsRaw raw) :
    FailsIn (fun e => IsRefusalOf raw e ∨ e = .bondUnreadable ∧ UnreadableBond raw)
      (read raw) := by
  have hset {key : String} {n : Int} (hn : (Value.int n).isWritable = true) :
      Showable raw (setting raw key (.int n)) := showable_setting raw key hn
  unfold read
  rcases checkKeys_cases h.keys with ⟨hcheck, hknown⟩ | ⟨unknown, hcheck, htexts, -⟩
  · rw [hcheck, ok_bind]
    obtain ⟨pairs, hpairs, hshowable⟩ := exists_readWhitelist h
    rw [hpairs, ok_bind]
    refine .bind ?_ fun bond hbond => FailsIn.imp (P := IsRefusalOf raw) ?_ fun e he => .inl he
    · refine (readBond_failsIn (hset (by decide))).imp fun e he => ?_
      refine he.imp id fun ⟨hbond, t, ht, hdigits, hunreadable⟩ =>
        ⟨hbond, hknown, t, ?_, hdigits, hunreadable⟩
      rcases setting_cases raw "validity_bond" (.int 0) with hgiven | ⟨-, hnone⟩
      · rw [hgiven, ht]
      · cases hnone.symm.trans ht
    · refine .bind (readAmount_failsIn (hset (by decide))) fun least hleast => ?_
      refine .bind (readAmount_failsIn (hset (by decide))) fun most hmost => ?_
      refine .bind (readAmount_failsIn (hset (by decide))) fun fee hfee => ?_
      refine .bind (readAmount_bond_failsIn hbond (hset (by decide))) fun amount _ => ?_
      refine .bind (readAmount_failsIn (hset (by decide))) fun period _ => ?_
      have hleast := showable_amount (hset (by decide)) hleast
      have hmost := showable_amount (hset (by decide)) hmost
      have hfee := showable_amount (hset (by decide)) hfee
      refine .bind (.refuse fun _ => .of_shown_one rfl rfl hleast) fun _ _ => ?_
      refine .bind (.refuse fun _ => .of_shown rfl ?_) fun _ _ => ?_
      · exact List.forall_mem_cons.2 ⟨hmost, List.forall_mem_singleton.2 hleast⟩
      refine .bind (.refuse fun _ => .of_shown_one rfl rfl hfee) fun _ _ => ?_
      refine .bind (.mapM fun e he => ?_) fun _ _ => ?_
      · exact readToken_failsIn (hshowable e he).1 (hshowable e he).2
      exact .bind (readFormat_failsIn (showable_setting raw _ rfl)) fun _ _ => .of_ok rfl
  · rw [hcheck]
    refine .of_error rfl (.inl (.of_shown_one rfl rfl fun _ => Value.areWritable_iff.2 ?_))
    intro key hkey
    obtain ⟨t, rfl⟩ := htexts key hkey
    rfl

/-- Settings with an unreadable bond fail for it. -/
theorem read_of_unreadableBond (h : IsRaw raw) (hbond : UnreadableBond raw) :
    read raw = .error .bondUnreadable := by
  obtain ⟨hknown, t, hgiven, hdigits, hunreadable⟩ := hbond
  have hcheck : checkKeys raw = .ok () := by
    rcases checkKeys_cases h.keys with ⟨hcheck, -⟩ | ⟨_, -, -, hunknown⟩
    · exact hcheck
    · exact absurd hknown hunknown
  obtain ⟨pairs, hpairs, -⟩ := exists_readWhitelist h
  have hsetting : setting raw "validity_bond" (.int 0) = .text t := by
    rw [setting, hgiven, Option.getD_some]
  have hnone : t.natural? = none := (Text.natural?_eq_none hdigits).2 hunreadable
  have hread : readBond (.text t) = .error .bondUnreadable := by
    simp only [readBond, hdigits, if_true, hnone]
  rw [read, hcheck, ok_bind, hpairs, ok_bind, hsetting, hread]
  rfl

/-- **Bad settings are refused**: for settings under texts as keys, with a dictionary for the
collateral tokens or none, and any values otherwise. A configuration that is accepted is within all
bounds, and a bond in a text is the number that its digits denote. All other settings are refused as
invalid, with two exceptions: those with a bond of digits that are no number, and those whose error
would show an integer that has too many digits to be written. There is no such error for settings
without such an integer. -/
theorem bad_settings_refused_iff (h : IsRaw raw) :
    (∀ c, read raw = .ok c → c.Sound ∧
      ∀ t, Value.lookup "validity_bond" raw = some (.text t) → t.Denotes c.validityBond) ∧
    ((∀ e, read raw = .error e → e.kind = .refusal .validation) ↔
      ¬UnreadableBond raw ∧ ∀ e, read raw = .error e → e.isWorded = true) ∧
    ((Value.object raw).isWritable = true → ∀ e, read raw = .error e → e.isWorded = true) := by
  refine ⟨fun c => read_ok, ⟨fun hrefused => ⟨fun hbond => ?_, fun e he => ?_⟩, ?_⟩, ?_⟩
  · exact nomatch hrefused _ (read_of_unreadableBond h hbond)
  · exact (Notice.kind_eq_refusal.1 (hrefused e he)).1
  · rintro ⟨hbond, hworded⟩ e he
    have hrefusal := (read_failsIn h e he).resolve_right fun hunreadable => hbond hunreadable.2
    exact Notice.kind_eq_refusal.2 ⟨hworded e he, hrefusal.meant⟩
  · intro hraw e he
    rcases read_failsIn h e he with hrefusal | ⟨rfl, -⟩
    · exact hrefusal.worded hraw
    · rfl

/-- A bond can be written in the digits of another script. -/
theorem bad_settings_refused_arabic :
    let raw : List (Value × Value) := [(.text "validity_bond", .text "١٢"),
      (.text "collateral_whitelist", .object [(.text "T", .int 6)])]
    IsRaw raw ∧ ∃ c, read raw = .ok c ∧ c.validityBond = 12 ∧ c.Sound ∧
      Text.Denotes "١٢" c.validityBond := by
  intro raw
  have hraw : IsRaw raw := {
    keys := by simp [raw]
    whitelist := by
      intro v hv
      cases hv
      exact .inr ⟨_, rfl⟩ }
  have htwelve : (read raw).toOption.map Config.validityBond = some 12 := by decide +kernel
  cases hread : read raw with
  | error e =>
    rw [hread] at htwelve
    cases htwelve
  | ok c =>
    rw [hread] at htwelve
    obtain ⟨hsound, hdenotes⟩ := (bad_settings_refused_iff hraw).1 c hread
    exact ⟨hraw, c, rfl, Option.some.inj htwelve, hsound, hdenotes _ rfl⟩

/-- A superscript is a digit without a place value: a bond that is one fails, and not as a
refusal. -/
theorem superscript_bond_escapes :
    let raw : List (Value × Value) := [(.text "validity_bond", .text "²")]
    IsRaw raw ∧ read raw = .error .bondUnreadable ∧
      ConfigError.kind .bondUnreadable ≠ .refusal .validation := by
  refine ⟨⟨by simp, ?_⟩, rfl, by decide⟩
  intro v hv
  cases hv

end Config

end PredictionMarket
