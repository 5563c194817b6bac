import Understudy.Number.Shortest

/-!
# Reading decimal text

A number is read from an optional sign and then either a word for infinity or "not a number", or
digits with at most one point among them and an optional exponent of ten. The result is the
binary number nearest to the decimal.
-/

namespace Understudy

/-- The number that a row of decimal digits spells; other characters count as nothing. -/
def ofDigits (digits : List Char) : Nat :=
  digits.foldl (fun n c => 10 * n + (c.toNat - '0'.toNat)) 0

/-- The member of the format nearest to `digits · 10 ^ exponent`, or nothing if that lies beyond
    the greatest. Decimals far outside the range of any format are decided by their size alone. -/
def BinaryFormat.nearestDecimal? (format : BinaryFormat) (d : Decimal) : Option (Nat × Int) :=
  if d.digits = 0 then some (0, format.least)
  else if 400 < digitCount d.digits + d.exponent then none
  else if digitCount d.digits + d.exponent < -400 then some (0, format.least)
  else format.nearest? (d.digits * pow10 d.exponent.toNat) (pow10 (-d.exponent).toNat)

/-- The decimal that the text spells, without sign: digits, a point somewhere around them and an
    exponent. -/
def Decimal.read? (text : List Char) : Option Decimal :=
  let whole := text.takeWhile Char.isDigit
  let rest := text.dropWhile Char.isDigit
  let (fraction, rest) := match rest with
    | '.' :: more => (more.takeWhile Char.isDigit, more.dropWhile Char.isDigit)
    | _ => ([], rest)
  let mantissa : Decimal := ⟨ofDigits (whole ++ fraction), -fraction.length⟩
  if whole ++ fraction = [] then none
  else match rest with
    | [] => some mantissa
    | mark :: power =>
      let (negative, power) := match power with
        | '-' :: digits => (true, digits)
        | '+' :: digits => (false, digits)
        | digits => (false, digits)
      if (mark = 'e' ∨ mark = 'E') ∧ power ≠ [] ∧ power.all Char.isDigit then
        let scale : Int := ofDigits power
        some { mantissa with
          exponent := mantissa.exponent + if negative then -scale else scale }
      else none

namespace Binary64

/-- The number of the format of 64 bits nearest to what the text spells in the given format. -/
def readIn? (format : BinaryFormat) (text : String) : Option Binary64 :=
  let (negative, body) := match text.toList with
    | '-' :: body => (true, body)
    | '+' :: body => (false, body)
    | body => (false, body)
  let word := String.ofList (body.map Char.toLower)
  if word = "nan" then some nan
  else if word = "inf" ∨ word = "infinity" then some (infinity negative)
  else (Decimal.read? body).map fun d =>
    match format.nearestDecimal? d with
    | none => infinity negative
    | some (m, e) => ofRatio negative (m * pow2 e.toNat) (pow2 (-e).toNat)

/-- The number nearest to what the text spells. -/
def read? (text : String) : Option Binary64 := readIn? .double text

/-- The number nearest to what the text spells, rounded to 32 bits first. -/
def readSingle? (text : String) : Option Binary64 := readIn? .single text

end Binary64

end Understudy
