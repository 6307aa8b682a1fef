import PredictionMarket.Proofs.Resolution.Interpolation

/-!
# Accepted tags can be resolved

What the check of new tags lets pass, the resolver never refuses later. The labels of a categorical
market are all different, so each of them leads to the outcome that carries it. The bounds of a
scalar market enclose a range in units of the market, so each number gives each side an amount.
-/

namespace PredictionMarket.Resolution

/-! ## Labels -/

/-- A tag with a label, which is not empty, passes the check for it. -/
theorem checkLabel_ok {tag : Tag} {label : Text} (h : checkLabel tag = .ok label) :
    tag = .label label := by
  unfold checkLabel at h
  split at h
  · split at h
    · cases h
    · cases h
      rfl
  · cases h
  · cases h

/-- The tags of a categorical market are labels, all different. -/
theorem checkTags_categorical {tags : List Tag} {outcomes multiplier : Int} {u : Unit}
    (h : checkTags tags outcomes false multiplier = .ok u) :
    ∃ labels : List Text, tags = labels.map .label ∧ labels.Nodup := by
  simp only [checkTags, Bool.false_eq_true, if_false, bind_eq_ok, mapM_eq_ok, refuseIf_eq_ok,
    not_not] at h
  obtain ⟨_, -, labels, hlabels, hnodup⟩ := h
  refine ⟨labels, ?_, hnodup⟩
  induction hlabels with
  | nil => rfl
  | cons hlabel _ ih => rw [List.map_cons, checkLabel_ok hlabel, ← ih hnodup.of_cons]

/-- A label leads to the outcome that carries it. -/
theorem labelVector_of_getElem {labels : List Text} (hnodup : labels.Nodup) {i : Nat}
    (hi : i < labels.length) (denomination : Int) :
    labelVector labels[i] (labels.map .label) denomination =
      .ok ((List.replicate labels.length 0).set i denomination) := by
  have hfound : (labels.map Tag.label).findIdx? (· == .label labels[i]) = some i := by
    refine List.findIdx?_eq_some_iff_getElem.2 ⟨by rwa [List.length_map], by simp, fun j hj => ?_⟩
    -- No outcome before this one has the label, since the labels differ.
    rw [List.getElem_map, beq_iff_eq, Tag.label.injEq, hnodup.getElem_inj_iff]
    exact hj.ne
  simp only [labelVector, hfound, List.length_map]

/-- A label that no outcome carries leads nowhere. -/
theorem labelVector_of_not_mem {label : Text} {tags : List Tag} (h : Tag.label label ∉ tags)
    (denomination : Int) : labelVector label tags denomination = .error (.labelNotFound label) := by
  have hnone : tags.findIdx? (· == .label label) = none := by
    refine List.findIdx?_eq_none_iff.2 fun tag htag => ?_
    rw [beq_eq_false_iff_ne]
    rintro rfl
    exact h htag
  simp only [labelVector, hnone]

/-- The denomination at one outcome and nothing elsewhere is a list of amounts. -/
theorem nonneg_of_mem_set {n i : Nat} {denomination : Int} (hdenomination : 0 ≤ denomination) :
    ∀ v ∈ (List.replicate n (0 : Int)).set i denomination, 0 ≤ v := by
  intro v hv
  rcases List.mem_or_eq_of_mem_set hv with hzero | rfl
  · rw [List.eq_of_mem_replicate hzero]
  · exact hdenomination

/-- In a categorical market with accepted tags, each outcome has a label, and the answer with this
label gives the denomination to this outcome. -/
theorem resolve_label {tags : List Tag} {outcomes multiplier : Int} {u : Unit}
    (htags : checkTags tags outcomes false multiplier = .ok u) {denomination : Int}
    (hdenomination : 0 ≤ denomination) {i : Nat} (hi : i < tags.length) (units : Int) :
    ∃ label, tags[i]? = some (.label label) ∧ resolve (.label label) tags denomination false units =
      .ok (.valid ((List.replicate tags.length 0).set i denomination)) := by
  obtain ⟨labels, rfl, hnodup⟩ := checkTags_categorical htags
  rw [List.length_map] at hi ⊢
  have hsome : (List.replicate labels.length (0 : Int)).set i denomination ≠ [] := by
    refine List.ne_nil_of_length_pos ?_
    rw [List.length_set, List.length_replicate]
    omega
  refine ⟨labels[i], by rw [List.getElem?_map, List.getElem?_eq_getElem hi]; rfl, ?_⟩
  rw [resolve, refuseIf_bind, if_neg Bool.false_ne_true, labelVector_of_getElem hnodup hi, ok_bind,
    Numerator.ofVector_eq_ok hsome (nonneg_of_mem_set hdenomination)]
  rfl

/-- In a categorical market an answer with a label that no outcome carries is refused. -/
theorem resolve_of_not_mem {label : Text} {tags : List Tag} (h : Tag.label label ∉ tags)
    (denomination units : Int) :
    resolve (.label label) tags denomination false units = .error (.labelNotFound label) := by
  rw [resolve, refuseIf_bind, if_neg Bool.false_ne_true, labelVector_of_not_mem h]
  rfl

/-! ## Numbers -/

/-- In a scalar market with accepted tags, each number with a positive multiplier whose magnitude is
not negative leads to a vector. -/
theorem resolve_number {tags : List Tag} {outcomes multiplier : Int} {u : Unit}
    (htags : checkTags tags outcomes true multiplier = .ok u) {denomination : Int}
    (hdenomination : 0 ≤ denomination) {number : FixedPoint} (hvalue : 0 ≤ number.value)
    (hnumber : 0 < number.multiplier) :
    ∃ values, resolve (.number number) tags denomination true multiplier = .ok (.valid values) := by
  obtain ⟨lower, upper, rfl, hbounds⟩ := checkTags_scalar htags
  obtain ⟨hascending, hshort⟩ := scalarVector_of_checked hbounds hvalue hnumber denomination
  obtain ⟨vector, hvector, hdivides⟩ : ∃ vector,
      scalarVector number lower upper denomination multiplier = .ok vector ∧
        Numerator.Divides vector 2 denomination :=
    ⟨_, hshort, divides_shortAmount hascending hdenomination _⟩
  have hsome : vector ≠ [] := List.ne_nil_of_length_pos (by rw [hdivides.length_eq]; decide)
  refine ⟨vector, ?_⟩
  rw [resolve, refuseIf_bind, if_neg (by decide), refuseIf_bind, if_neg (not_lt.2 hvalue)]
  simp only [hvector, ok_bind, Numerator.ofVector_eq_ok hsome hdivides.nonneg]
  rfl

end PredictionMarket.Resolution
