/-!
# Lists of amounts

What a list of amounts adds up to, and what it multiplies to.
-/

namespace PredictionMarket.Amounts

/-- The sum of a list of amounts. -/
def sum (amounts : List Int) : Int :=
  amounts.foldr (· + ·) 0

/-- Nothing adds up to zero. -/
@[simp] theorem sum_nil : sum [] = 0 := rfl

/-- The first amount is added to the others. -/
@[simp] theorem sum_cons (amount : Int) (amounts : List Int) :
    sum (amount :: amounts) = amount + sum amounts := rfl

/-- The product of a list of amounts. -/
def product (amounts : List Int) : Int :=
  amounts.foldr (· * ·) 1

end PredictionMarket.Amounts
