/-!
# Scientific notation

A positive number is written with one digit before the point and a fixed number of digits after
it, times a power of ten whose sign is always shown and which has at least two digits.
-/

namespace LeadingZero
namespace Scientific

/-- How many decimal digits a number has. -/
def digitCount (n : Nat) : Nat := (Nat.toDigits 10 n).length

/-- Multiply a fraction by a power of ten. -/
def shift (q : Rat) (power : Int) : Rat :=
  if 0 ≤ power then q * Nat.pow 10 power.toNat else q / Nat.pow 10 (-power).toNat

/-- The whole number nearest to a fraction; a half goes up. -/
def nearest (q : Rat) : Int := (q + 1 / 2).floor

/-- The power of ten that a positive number reaches and no higher one. -/
def magnitude (q : Rat) : Int :=
  let guess : Int := digitCount q.num.toNat - digitCount q.den
  if shift 1 guess ≤ q then guess else guess - 1

/-- The exponent with its sign. -/
def exponentText (e : Int) : String :=
  let digits := toString e.natAbs
  (if e < 0 then "-" else "+") ++ (if digits.length < 2 then "0" else "") ++ digits

/-- Digits of which the first stands before the point. -/
def pointed (digits : List Char) : String :=
  String.ofList (digits.take 1) ++ "." ++ String.ofList (digits.drop 1)

/-- The text of a positive number with so many digits after the point. Zero has as many. -/
def text (places : Nat) (q : Rat) : String :=
  if q ≤ 0 then pointed (List.replicate (places + 1) '0') ++ "e+00"
  else
    let e := magnitude q
    let m := (nearest (shift q (places - e))).toNat
    if m < Nat.pow 10 (places + 1) then pointed (Nat.toDigits 10 m) ++ "e" ++ exponentText e
    else pointed (Nat.toDigits 10 (Nat.pow 10 places)) ++ "e" ++ exponentText (e + 1)

end Scientific
end LeadingZero
