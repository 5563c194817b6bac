import Understudy.Number.Shortest

/-!
# Decimal text of floating-point numbers

A number is written with the fewest digits that read back and with at least one digit after the
point. Very small and very large numbers carry an exponent of ten instead; where that begins, and
how the exponent is written, is up to the style.

* `DecimalStyle.display` is the style of messages, `DecimalStyle.document` that of documents.
-/

namespace Understudy

/-- What is left to choose when a number is written. -/
structure DecimalStyle where
  /-- The least exponent of ten that is written without one. -/
  least : Int
  /-- The exponents of ten from here on are written. -/
  beyond : Int
  /-- What stands between the mark `e` and an exponent that is not negative. -/
  plus : String
  /-- The choice between two decimals that are equally near. -/
  tie : Tie

namespace DecimalStyle

/-- The style of displayed values: `0.0001`, `1e-5`, `1e16`. -/
def display : DecimalStyle := ⟨-4, 16, "", .up⟩

/-- The style of documents: `0.00001`, `1e-6`, `1e+16`. -/
def document : DecimalStyle := ⟨-5, 16, "+", .even⟩

/-- The text of a positive decimal whose digits do not end in zero. -/
def decimal (style : DecimalStyle) (d : Decimal) : String :=
  let digits := Nat.toDigits 10 d.digits
  let zeros (n : Nat) : List Char := List.replicate n '0'
  -- The exponent of ten that goes with one digit before the point.
  let scale : Int := d.exponent + (digits.length - 1 : Nat)
  if style.least ≤ scale ∧ scale < style.beyond then
    String.ofList <|
      if 0 ≤ d.exponent then digits ++ zeros d.exponent.toNat ++ ['.', '0']
      else if 0 ≤ scale then
        digits.take (scale.toNat + 1) ++ '.' :: digits.drop (scale.toNat + 1)
      else '0' :: '.' :: zeros ((-scale).toNat - 1) ++ digits
  else
    let fractional := if digits.length = 1 then [] else '.' :: digits.drop 1
    let sign := if scale < 0 then "" else style.plus
    String.ofList (digits.take 1 ++ fractional) ++ "e" ++ sign ++ toString scale

/-- The text of a finite number. -/
def finite (style : DecimalStyle) (x : Binary64) : String :=
  let sign := if x.isNegative then "-" else ""
  if x.isZero then sign ++ "0.0" else sign ++ style.decimal (x.shortest style.tie)

end DecimalStyle

/-- The text of a number in messages and displayed values. -/
def Binary64.display (x : Binary64) : String :=
  if x.isNaN then "NaN"
  else if x.isFinite then DecimalStyle.display.finite x
  else if x.isNegative then "-inf" else "inf"

end Understudy
