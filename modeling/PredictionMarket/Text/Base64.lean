import PredictionMarket.Text.Digits

/-!
# Octets spelled in base sixty-four

Four digits of six bits each spell three octets. At the end two digits spell one octet and three
digits two, and equals signs fill them up to four. Whatever is no digit is passed over.
-/

namespace PredictionMarket.Text

/-- The value of a digit in base sixty-four. -/
def sixBits? (c : CodePoint) : Option Nat :=
  if 65 ≤ c.val && c.val ≤ 90 then some (c.val - 65)
  else if 97 ≤ c.val && c.val ≤ 122 then some (c.val - 71)
  else if 48 ≤ c.val && c.val ≤ 57 then some (c.val + 4)
  else if c = CodePoint.ofChar '+' then some 62
  else if c = CodePoint.ofChar '/' then some 63
  else none

/-- The octets that a text spells from a place among four digits on, given the bits that are left of
the digit before and the number of equals signs behind it. Equals signs that fill up the four digits
end the octets. They may also end with a text that does not break off within four digits. -/
def octetsFrom? (place bits signs : Nat) : Text → Option (List UInt8)
  | [] => if place = 0 then some [] else none
  | c :: rest =>
    if c = CodePoint.ofChar '=' then
      if place < 2 then octetsFrom? place bits signs rest
      else if 4 ≤ place + signs + 1 then some []
      else octetsFrom? place bits (signs + 1) rest
    else
      match sixBits? c with
      | none => octetsFrom? place bits signs rest
      | some digit =>
        if place = 0 then octetsFrom? 1 digit 0 rest
        else
          let octet := bits * Nat.pow 4 place + digit / Nat.pow 4 (3 - place)
          let octets := octetsFrom? ((place + 1) % 4) (digit % Nat.pow 4 (3 - place)) 0 rest
          octets.map (UInt8.ofNat octet :: ·)

/-- The octets that a text spells in base sixty-four. -/
def octets? (t : Text) : Option (List UInt8) :=
  octetsFrom? 0 0 0 t

end PredictionMarket.Text
