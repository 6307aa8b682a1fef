import PredictionMarket.Proofs.Curve

/-!
# Rounded portions

A stake has a portion of every reserve, and one of the weight that fees are attributed by. Portions
are rounded down, and they change whenever a stake is issued or given back: the supply changes, and
so does what is shared. Each statement here bounds what the rounding can do in one such change: to a
stake that is given back in two parts, to one that joins and leaves, and to one that is joined by
another.
-/

namespace PredictionMarket.Curve

/-- A portion is the most that the exact one covers. -/
theorem le_shareOfReserve_iff (stake reserve : Int) {supply : Int} (h : 0 < supply) (c : Int) :
    c ≤ shareOfReserve stake supply reserve ↔ c * supply ≤ stake * reserve := by
  rw [shareOfReserve, floorDiv_eq_ediv _ h.le]
  exact Int.le_ediv_iff_mul_le h

/-! ## A stake in two parts -/

/-- Two parts of a stake that are given back one after another have no larger portions than both
together. The second is a part of what the first has left. -/
theorem shareOfReserve_add_le {first second supply : Int} (hsupply : 0 < supply)
    (hsecond : 0 ≤ second) (hboth : first + second ≤ supply) (reserve : Int) :
    shareOfReserve first supply reserve +
        shareOfReserve second (supply - first) (reserve - shareOfReserve first supply reserve) ≤
      shareOfReserve (first + second) supply reserve := by
  rcases hsecond.eq_or_lt with rfl | hpos
  · rw [shareOfReserve_zero, add_zero, add_zero]
  have hleft : 0 < supply - first := by omega
  have hfirst := shareOfReserve_mul_le first reserve hsupply
  have hrest := shareOfReserve_mul_le second (reserve - shareOfReserve first supply reserve) hleft
  refine (le_shareOfReserve_iff _ _ hsupply _).2 (le_of_mul_le_mul_right ?_ hleft)
  generalize shareOfReserve first supply reserve = out at *
  generalize shareOfReserve second (supply - first) (reserve - out) = more at *
  calc (out + more) * supply * (supply - first)
      = out * supply * (supply - first) + more * (supply - first) * supply := by ring
    _ ≤ out * supply * (supply - first) + second * (reserve - out) * supply := by
        have hscaled := mul_le_mul_of_nonneg_right hrest hsupply.le
        omega
    _ = out * supply * (supply - (first + second)) + second * reserve * supply := by ring
    _ ≤ first * reserve * (supply - (first + second)) + second * reserve * supply := by
        have hscaled := mul_le_mul_of_nonneg_right hfirst (sub_nonneg.2 hboth)
        omega
    _ = (first + second) * reserve * (supply - first) := by ring

/-! ## A stake that joins and leaves -/

/-- A stake that brings its portion along, or more, takes no more back at once. -/
theorem shareOfReserve_joined_le {stake supply reserve added : Int} (hstake : 0 < stake)
    (hsupply : 0 < supply) (h : shareOfReserve stake supply reserve ≤ added) :
    shareOfReserve stake (supply + stake) (reserve + added) ≤ added := by
  by_contra hmore
  have htaken := (le_shareOfReserve_iff _ _ (add_pos hsupply hstake) _).1 (not_le.1 hmore)
  have hexact := le_shareOfReserve_mul stake reserve hsupply
  have hbrought := mul_le_mul_of_nonneg_right h hsupply.le
  linarith

/-- A stake that is itself a portion of the supply has no larger portion of a reserve than what it
was issued for. -/
theorem shareOfReserve_shareOfReserve_le {total top supply reserve : Int} (htop : 0 < top)
    (hsupply : 0 < supply) (hreserve : 0 ≤ reserve) :
    shareOfReserve (shareOfReserve total top supply) supply reserve ≤
      shareOfReserve total top reserve := by
  have hissued := shareOfReserve_mul_le total supply htop
  have hportion := shareOfReserve_mul_le (shareOfReserve total top supply) reserve hsupply
  refine (le_shareOfReserve_iff _ _ htop _).2 (le_of_mul_le_mul_right ?_ hsupply)
  generalize shareOfReserve total top supply = stake at *
  generalize shareOfReserve stake supply reserve = portion at *
  calc portion * top * supply = portion * supply * top := by ring
    _ ≤ stake * reserve * top := mul_le_mul_of_nonneg_right hportion htop.le
    _ = stake * top * reserve := by ring
    _ ≤ total * supply * reserve := mul_le_mul_of_nonneg_right hissued hreserve
    _ = total * reserve * supply := by ring

/-! ## A stake that is joined by another -/

section Joined

variable {stake minted supply reserve : Int}

/-- A stake that is joined by another, which brings its portion along, gains nothing. -/
theorem shareOfReserve_diluted_le (hstake : 0 ≤ stake) (hminted : 0 ≤ minted)
    (hsupply : 0 < supply) :
    shareOfReserve stake (supply + minted) (reserve + shareOfReserve minted supply reserve) ≤
      shareOfReserve stake supply reserve := by
  have hgrown : 0 < supply + minted := by omega
  have hbrought := shareOfReserve_mul_le minted reserve hsupply
  generalize shareOfReserve minted supply reserve = brought at *
  have hportion := shareOfReserve_mul_le stake (reserve + brought) hgrown
  refine (le_shareOfReserve_iff _ _ hsupply _).2 (le_of_mul_le_mul_right ?_ hgrown)
  generalize shareOfReserve stake (supply + minted) (reserve + brought) = portion at *
  calc portion * supply * (supply + minted) = portion * (supply + minted) * supply := by ring
    _ ≤ stake * (reserve + brought) * supply := mul_le_mul_of_nonneg_right hportion hsupply.le
    _ = stake * reserve * supply + stake * (brought * supply) := by ring
    _ ≤ stake * reserve * supply + stake * (minted * reserve) := by
        have hscaled := mul_le_mul_of_nonneg_left hbrought hstake
        omega
    _ = stake * reserve * (supply + minted) := by ring

/-- A stake that is joined by another, which brings its portion along, loses at most one unit. -/
theorem le_shareOfReserve_diluted (hstake : 0 ≤ stake) (hle : stake ≤ supply) (hminted : 0 ≤ minted)
    (hsupply : 0 < supply) :
    shareOfReserve stake supply reserve - 1 ≤
      shareOfReserve stake (supply + minted) (reserve + shareOfReserve minted supply reserve) := by
  have hgrown : 0 < supply + minted := by omega
  have hbrought := le_shareOfReserve_mul minted reserve hsupply
  have hportion := shareOfReserve_mul_le stake reserve hsupply
  refine (le_shareOfReserve_iff _ _ hgrown _).2 (le_of_mul_le_mul_right ?_ hsupply)
  generalize shareOfReserve minted supply reserve = brought at *
  generalize shareOfReserve stake supply reserve = portion at *
  calc (portion - 1) * (supply + minted) * supply
      = portion * supply * (supply + minted) - (supply + minted) * supply := by ring
    _ ≤ stake * reserve * (supply + minted) - stake * supply := by
        have hscaled := mul_le_mul_of_nonneg_right hportion hgrown.le
        have hpart := mul_le_mul_of_nonneg_right (show stake ≤ supply + minted by omega) hsupply.le
        omega
    _ = stake * reserve * supply + stake * (minted * reserve - supply) := by ring
    _ ≤ stake * reserve * supply + stake * (brought * supply) := by
        have hscaled := mul_le_mul_of_nonneg_left hbrought hstake
        omega
    _ = stake * (reserve + brought) * supply := by ring

end Joined

end PredictionMarket.Curve
