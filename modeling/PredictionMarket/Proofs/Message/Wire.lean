import PredictionMarket.Message
import PredictionMarket.Proofs.Contract.Encodable
import PredictionMarket.Proofs.Json.Grammar
import PredictionMarket.Proofs.Json.Numeral
import Mathlib.Data.List.Forall2
import Mathlib.Data.List.Induction
import Mathlib.Data.List.Nodup

/-!
# The wire form of messages

What a message says on the wire, as the interface promises it, apart from how it is read. Amounts
and times are decimal numerals in texts, small numbers are integers, tags are dictionaries with one
key. The fields of a dictionary come in any order, and others may stand among them. A field that
says nothing may be left out, and an optional one may also be null. Every payload that can be
encoded has a wire form.
-/

namespace PredictionMarket

/-! ## Ranges -/

/-- A number of 64 bits. -/
def IsTime (n : Int) : Prop :=
  0 ≤ n ∧ n < 2 ^ 64

/-- A number of 128 bits. -/
def IsAmount (n : Int) : Prop :=
  0 ≤ n ∧ n < 2 ^ 128

/-- A number of 16 bits. -/
def IsSmall (n : Int) : Prop :=
  0 ≤ n ∧ n ≤ 65535

/-- A number of 16 bits can be written. -/
theorem IsSmall.canWrite {n : Int} (h : IsSmall n) : Text.canWrite n = true := by
  have hfew : n.natAbs < 10 ^ 5 := by
    unfold IsSmall at h
    omega
  exact Text.canWrite_of_lt (by decide) hfew

/-- A text of at most 4096 code points. -/
def IsShort (t : Text) : Prop :=
  t.length ≤ 4096

/-- What a tag may say: a label that is short, or a number with amounts for its value and its
multiplier. -/
def Tag.InRange : Tag → Prop
  | .label name => IsShort name
  | .number n => IsAmount n.value ∧ IsAmount n.multiplier
  | .unknown _ => False

/-- What the terms of a market may say. -/
structure MarketTerms.InRange (terms : MarketTerms) : Prop where
  /-- The question is short. -/
  description : IsShort terms.description
  /-- So is what is added to it. -/
  extraInfo : IsShort terms.extraInfo
  /-- The number of outcomes is small. -/
  outcomes : IsSmall terms.outcomes
  /-- So are the tags. -/
  tags : ∀ tag ∈ terms.tags, tag.InRange
  /-- Every category is short. -/
  categories : ∀ category ∈ terms.categories, IsShort category
  /-- Trading ends at a time. -/
  endTime : IsTime terms.endTime
  /-- The oracle answers at a time. -/
  resolutionTime : IsTime terms.resolutionTime
  /-- The collateral has a name, which is short. -/
  collateral : terms.collateral ≠ [] ∧ IsShort terms.collateral
  /-- The fee is an amount. -/
  swapFee : IsAmount terms.swapFee
  /-- The multiplier is an amount, if there is one. -/
  scalarMultiplier : ∀ multiplier ∈ terms.scalarMultiplier, IsAmount multiplier
  /-- Every source is short. -/
  sources : ∀ source ∈ terms.sources, IsShort source
  /-- The challenge period is a time, if there is one. -/
  challengePeriod : ∀ period ∈ terms.challengePeriod, IsTime period

/-- What a purpose may say. -/
def Purpose.InRange : Purpose → Prop
  | .createMarket terms => terms.InRange
  | .addLiquidity marketId weights =>
    IsTime marketId ∧ ∀ ws ∈ weights, ∀ w ∈ ws, IsAmount w
  | .buy marketId outcome minShares => IsTime marketId ∧ IsSmall outcome ∧ IsAmount minShares

/-- The texts in a purpose. -/
def Purpose.texts : Purpose → List Text
  | .createMarket terms => terms.collateral :: terms.texts
  | _ => []

namespace Wire

/-! ## The form -/

/-- The members of a dictionary with texts for keys. -/
abbrev Members := List (Text × Value)

/-- The entries of a dictionary with some members. -/
def entries (ms : Members) : List (Value × Value) :=
  ms.map fun m => (.text m.1, m.2)

/-- The dictionary with some members. -/
def dictionary (ms : Members) : Value :=
  .object (entries ms)

/-- A field of a dictionary is there. -/
def Gives (ms : Members) (key : String) (v : Value) : Prop :=
  ms.lookup (Text.ofString key) = some v

/-- A field of a dictionary is left out. -/
def Lacks (ms : Members) (key : String) : Prop :=
  ms.lookup (Text.ofString key) = none

/-- An optional field says nothing: it is left out, or null. -/
def Omits (ms : Members) (key : String) : Prop :=
  Lacks ms key ∨ Gives ms key .null

/-- An optional number is a numeral, or nothing is said. -/
def SaysOptional (ms : Members) (key : String) : Option Int → Prop
  | none => Omits ms key
  | some n => Gives ms key (.numeral n)

/-- A list of texts; where there is none, nothing need be said. -/
def SaysTexts (ms : Members) (key : String) (ts : List Text) : Prop :=
  Gives ms key (.ofTexts ts) ∨ (ts = [] ∧ Omits ms key)

/-- A text; an empty one can be left out. -/
def SaysText (ms : Members) (key : String) (t : Text) : Prop :=
  Gives ms key (.text t) ∨ (t = [] ∧ Lacks ms key)

/-- A truth value; a false one can be left out. -/
def SaysFlag (ms : Members) (key : String) (b : Bool) : Prop :=
  Gives ms key (.bool b) ∨ (b = false ∧ Lacks ms key)

/-- A signed number: the magnitude, the multiplier, which can be left out if it is one, and the
sign. -/
structure SaysNumber (n : FixedPoint) (ms : Members) : Prop where
  /-- The magnitude. -/
  value : Gives ms "value" (.numeral n.value)
  /-- The multiplier. -/
  multiplier : Gives ms "multiplier" (.numeral n.multiplier) ∨
    (n.multiplier = 1 ∧ Lacks ms "multiplier")
  /-- The sign. -/
  negative : SaysFlag ms "negative" n.negative

/-- A tag: a label, or a signed number. -/
inductive SaysTag : Tag → Value → Prop where
  /-- A label stands under the key of labels. -/
  | label (name : Text) : SaysTag (.label name) (dictionary [("String", .text name)])
  /-- A number stands under the key of numbers. -/
  | number {n : FixedPoint} {ms : Members} (h : SaysNumber n ms) :
      SaysTag (.number n) (dictionary [("Number", dictionary ms)])

/-- The terms of a new market. -/
structure SaysTerms (terms : MarketTerms) (ms : Members) : Prop where
  /-- The question. -/
  description : SaysText ms "description" terms.description
  /-- More about the question. -/
  extraInfo : SaysText ms "extra_info" terms.extraInfo
  /-- The number of outcomes. -/
  outcomes : Gives ms "outcomes" (.int terms.outcomes)
  /-- The tags of the outcomes. -/
  tags : ∃ vs, Gives ms "outcome_tags" (.list vs) ∧ List.Forall₂ SaysTag terms.tags vs
  /-- What the question is about. -/
  categories : SaysTexts ms "categories" terms.categories
  /-- When trading ends. -/
  endTime : Gives ms "end_time" (.numeral terms.endTime)
  /-- When the oracle may answer. -/
  resolutionTime : Gives ms "resolution_time" (.numeral terms.resolutionTime)
  /-- The collateral. -/
  collateral : Gives ms "collateral_token_id" (.text terms.collateral)
  /-- The fee on trades. -/
  swapFee : Gives ms "swap_fee" (.numeral terms.swapFee)
  /-- Whether the outcomes are the two sides of a range. -/
  isScalar : SaysFlag ms "is_scalar" terms.isScalar
  /-- The units in which a scalar market is resolved. -/
  scalarMultiplier : SaysOptional ms "scalar_multiplier" terms.scalarMultiplier
  /-- Where the answer can be found. -/
  sources : SaysTexts ms "sources" terms.sources
  /-- How long an answer may be disputed. -/
  challengePeriod : SaysOptional ms "challenge_period" terms.challengePeriod

/-- The weights of a deposit, if there are any. -/
def SaysWeights (ms : Members) : Option (List Int) → Prop
  | none => Omits ms "weight_indication"
  | some ws => Gives ms "weight_indication" (.list (ws.map .numeral))

/-- What a transfer is for, under a key that names it. -/
inductive Says : Purpose → Value → Prop where
  /-- To create a market. -/
  | createMarket {terms : MarketTerms} {ms : Members} (h : SaysTerms terms ms) :
      Says (.createMarket terms) (dictionary [("CreateMarketArgs", dictionary ms)])
  /-- To provide liquidity. -/
  | addLiquidity {marketId : Int} {weights : Option (List Int)} {ms : Members}
      (hmarket : Gives ms "market_id" (.numeral marketId)) (hweights : SaysWeights ms weights) :
      Says (.addLiquidity marketId weights) (dictionary [("AddLiquidityArgs", dictionary ms)])
  /-- To buy shares. -/
  | buy {marketId outcome minShares : Int} {ms : Members}
      (hmarket : Gives ms "market_id" (.numeral marketId))
      (houtcome : Gives ms "outcome_target" (.int outcome))
      (hshares : Gives ms "min_shares_out" (.numeral minShares)) :
      Says (.buy marketId outcome minShares) (dictionary [("BuyArgs", dictionary ms)])

/-! ## Writing a payload -/

/-- Members whose keys are words. -/
def worded (fs : List (String × Value)) : Members :=
  fs.map fun f => (Text.ofString f.1, f.2)

/-- What stands for an optional number. -/
def writeOptional : Option Int → Value
  | none => .null
  | some n => .numeral n

/-- The fields of a signed number. -/
def numberFields (n : FixedPoint) : List (String × Value) :=
  [("value", .numeral n.value), ("multiplier", .numeral n.multiplier),
    ("negative", .bool n.negative)]

/-- A tag as it is written; something that is no tag is not written. -/
def writeTag : Tag → Value
  | .label name => dictionary [("String", .text name)]
  | .number n => dictionary [("Number", dictionary (worded (numberFields n)))]
  | .unknown _ => .null

/-- The fields of the terms of a new market, none of them left out. -/
def termsFields (terms : MarketTerms) : List (String × Value) :=
  [("description", .text terms.description), ("extra_info", .text terms.extraInfo),
    ("outcomes", .int terms.outcomes), ("outcome_tags", .list (terms.tags.map writeTag)),
    ("categories", .ofTexts terms.categories), ("end_time", .numeral terms.endTime),
    ("resolution_time", .numeral terms.resolutionTime),
    ("collateral_token_id", .text terms.collateral), ("swap_fee", .numeral terms.swapFee),
    ("is_scalar", .bool terms.isScalar),
    ("scalar_multiplier", writeOptional terms.scalarMultiplier),
    ("sources", .ofTexts terms.sources),
    ("challenge_period", writeOptional terms.challengePeriod)]

/-- The weights of a deposit as they are written. -/
def writeWeights : Option (List Int) → Value
  | none => .null
  | some ws => .list (ws.map .numeral)

/-- A payload as it is written. -/
def write : Purpose → Value
  | .createMarket terms =>
    dictionary [("CreateMarketArgs", dictionary (worded (termsFields terms)))]
  | .addLiquidity marketId weights =>
    dictionary [("AddLiquidityArgs", dictionary (worded
      [("market_id", .numeral marketId), ("weight_indication", writeWeights weights)]))]
  | .buy marketId outcome minShares =>
    dictionary [("BuyArgs", dictionary (worded
      [("market_id", .numeral marketId), ("outcome_target", .int outcome),
        ("min_shares_out", .numeral minShares)]))]

/-! ## What is written says the payload -/

/-- Words are told apart by their texts. -/
theorem ofString_injective : Function.Injective Text.ofString := by
  intro s t h
  exact String.toList_inj.1 (List.map_injective_iff.2 CodePoint.ofChar_injective h)

/-- A field is there if its word is. -/
theorem gives_worded {fs : List (String × Value)} {key : String} {v : Value}
    (h : fs.lookup key = some v) : Gives (worded fs) key v := by
  rw [Gives, ← h]
  clear h
  induction fs with
  | nil => rfl
  | cons f fs ih =>
    have hkey : (Text.ofString key == Text.ofString f.1) = (key == f.1) := by
      rw [Bool.eq_iff_iff, beq_iff_eq, beq_iff_eq, ofString_injective.eq_iff]
    rw [worded, List.map_cons, List.lookup_cons, List.lookup_cons, hkey]
    split
    · rfl
    · exact ih

/-- What stands for an optional number says it. -/
theorem saysOptional_of_gives {ms : Members} {key : String} {n : Option Int}
    (h : Gives ms key (writeOptional n)) : SaysOptional ms key n := by
  cases n with
  | none => exact .inr h
  | some n => exact h

/-- A tag in range is written as the wire form asks. -/
theorem saysTag_writeTag {tag : Tag} (h : tag.InRange) : SaysTag tag (writeTag tag) := by
  cases tag with
  | label name => exact .label name
  | number n => exact .number ⟨gives_worded rfl, .inl (gives_worded rfl), .inl (gives_worded rfl)⟩
  | unknown _ => exact h.elim

/-- A payload in range is written as the wire form asks. -/
theorem says_write {p : Purpose} (h : p.InRange) : Says p (write p) := by
  cases p with
  | createMarket terms =>
    have htags : List.Forall₂ SaysTag terms.tags (terms.tags.map writeTag) :=
      List.forall₂_map_right_iff.2 (List.forall₂_same.2 fun tag htag =>
        saysTag_writeTag (MarketTerms.InRange.tags h tag htag))
    exact .createMarket
      { description := .inl (gives_worded rfl)
        extraInfo := .inl (gives_worded rfl)
        outcomes := gives_worded rfl
        tags := ⟨_, gives_worded rfl, htags⟩
        categories := .inl (gives_worded rfl)
        endTime := gives_worded rfl
        resolutionTime := gives_worded rfl
        collateral := gives_worded rfl
        swapFee := gives_worded rfl
        isScalar := .inl (gives_worded rfl)
        scalarMultiplier := saysOptional_of_gives (gives_worded rfl)
        sources := .inl (gives_worded rfl)
        challengePeriod := saysOptional_of_gives (gives_worded rfl) }
  | addLiquidity marketId weights =>
    refine .addLiquidity (gives_worded rfl) ?_
    cases weights with
    | none => exact .inr (gives_worded rfl)
    | some ws => exact gives_worded rfl
  | buy marketId outcome minShares =>
    exact .buy (gives_worded rfl) (gives_worded rfl) (gives_worded rfl)

/-! ## What is written can be spelled -/

/-- A dictionary with different words for keys can be spelled if its values can. -/
theorem spellable_worded {fs : List (String × Value)} (hkeys : (fs.map Prod.fst).Nodup)
    (h : ∀ f ∈ fs, Json.Spellable f.2) : Json.Spellable (dictionary (worded fs)) := by
  have hnodup : ((worded fs).map Prod.fst).Nodup := by
    have hmap : (worded fs).map Prod.fst = (fs.map Prod.fst).map Text.ofString := by
      rw [worded, List.map_map, List.map_map]
      rfl
    rw [hmap]
    exact hkeys.map ofString_injective
  have hmembers : ∀ m ∈ worded fs, m.1.hasSurrogate = false ∧ Json.Spellable m.2 := by
    intro m hm
    obtain ⟨f, hf, rfl⟩ := List.mem_map.1 hm
    exact ⟨Text.hasSurrogate_ofString f.1, h f hf⟩
  have hobject := Json.Spellable.object hmembers
  rwa [Json.entriesOf_eq hnodup] at hobject

/-- A dictionary with one word for a key can be spelled if the value can. -/
theorem spellable_single (key : String) {v : Value} (h : Json.Spellable v) :
    Json.Spellable (dictionary [(Text.ofString key, v)]) := by
  refine @spellable_worded [(key, v)] (List.nodup_singleton key) fun f hf => ?_
  rw [List.mem_singleton.1 hf]
  exact h

/-- Numerals can be spelled. -/
theorem spellable_numeral (n : Int) : Json.Spellable (.numeral n) :=
  .text (Text.hasSurrogate_ofInt n)

/-- A list of texts without surrogates can be spelled. -/
theorem spellable_ofTexts {ts : List Text} (h : ∀ t ∈ ts, t.hasSurrogate = false) :
    Json.Spellable (.ofTexts ts) := by
  refine .list fun v hv => ?_
  obtain ⟨t, ht, rfl⟩ := List.mem_map.1 hv
  exact .text (h t ht)

/-- What stands for an optional number can be spelled. -/
theorem spellable_writeOptional (n : Option Int) : Json.Spellable (writeOptional n) := by
  cases n with
  | none => exact .null
  | some n => exact spellable_numeral n

/-- A tag without surrogates can be spelled. -/
theorem spellable_writeTag {tag : Tag} (h : ∀ t ∈ tag.texts, t.hasSurrogate = false) :
    Json.Spellable (writeTag tag) := by
  cases tag with
  | label name => exact spellable_single "String" (.text (h name List.mem_cons_self))
  | number n =>
    refine spellable_single "Number" (spellable_worded (by simp [numberFields]) ?_)
    simp only [numberFields, List.forall_mem_cons]
    exact ⟨spellable_numeral _, spellable_numeral _, .bool _, List.forall_mem_nil _⟩
  | unknown _ => exact .null

/-- The weights of a deposit can be spelled. -/
theorem spellable_writeWeights (weights : Option (List Int)) :
    Json.Spellable (writeWeights weights) := by
  cases weights with
  | none => exact .null
  | some ws =>
    refine .list fun v hv => ?_
    obtain ⟨w, -, rfl⟩ := List.mem_map.1 hv
    exact spellable_numeral w

/-- The terms of a market in range without surrogates can be spelled. -/
theorem spellable_termsFields {terms : MarketTerms} (hrange : terms.InRange)
    (h : ∀ t ∈ (Purpose.createMarket terms).texts, t.hasSurrogate = false) :
    Json.Spellable (dictionary (worded (termsFields terms))) := by
  simp only [Purpose.texts, MarketTerms.texts, List.forall_mem_cons, List.forall_mem_append] at h
  obtain ⟨hcollateral, hdescription, hextra, ⟨htags, hcategories⟩, hsources⟩ := h
  have htags : Json.Spellable (.list (terms.tags.map writeTag)) := by
    refine .list fun v hv => ?_
    obtain ⟨tag, htag, rfl⟩ := List.mem_map.1 hv
    exact spellable_writeTag fun t ht => htags t (List.mem_flatMap.2 ⟨tag, htag, ht⟩)
  refine spellable_worded (by simp [termsFields]) ?_
  simp only [termsFields, List.forall_mem_cons]
  exact ⟨.text hdescription, .text hextra, .int hrange.outcomes.canWrite, htags,
    spellable_ofTexts hcategories, spellable_numeral _, spellable_numeral _, .text hcollateral,
    spellable_numeral _, .bool _, spellable_writeOptional _, spellable_ofTexts hsources,
    spellable_writeOptional _, List.forall_mem_nil _⟩

/-- A payload in range without surrogates can be spelled. -/
theorem spellable_write {p : Purpose} (hrange : p.InRange)
    (h : ∀ t ∈ p.texts, t.hasSurrogate = false) :
    Json.Spellable (write p) := by
  cases p with
  | createMarket terms => exact spellable_single "CreateMarketArgs" (spellable_termsFields hrange h)
  | addLiquidity marketId weights =>
    refine spellable_single "AddLiquidityArgs" (spellable_worded (by simp) ?_)
    simp only [List.forall_mem_cons]
    exact ⟨spellable_numeral _, spellable_writeWeights _, List.forall_mem_nil _⟩
  | buy marketId outcome minShares =>
    refine spellable_single "BuyArgs" (spellable_worded (by simp) ?_)
    simp only [List.forall_mem_cons]
    exact ⟨spellable_numeral _, .int hrange.2.1.canWrite, spellable_numeral _,
      List.forall_mem_nil _⟩

end Wire

end PredictionMarket
