/-!
# The least numbers of a binary format

In the binary format with 64 bits every number that is small enough is a whole multiple of the
least positive one, `2 ^ -1074`. A fraction is brought into the format by rounding to the nearest
multiple, and from the middle between two of them to the even one.
-/

namespace LeadingZero
namespace Binary64

/-- How many of the least positive numbers make one. -/
def unitsInOne : Nat := Nat.pow 2 1074

/-- Whether a number is large enough for the full precision of the format. -/
def isPrecise (q : Rat) : Bool := mkRat 1 (Nat.pow 2 1022) ≤ q

/-- The whole number nearest to a quotient, and from the middle the even one. -/
def nearestEven (num den : Nat) : Nat :=
  let below := num / den
  let rest := num % den
  if 2 * rest < den ∨ (2 * rest = den ∧ below % 2 = 0) then below else below + 1

/-- How many of the least positive numbers come nearest to a fraction. -/
def units (num den : Nat) : Nat := nearestEven (num * unitsInOne) den

/-- So many of the least positive numbers. -/
def ofUnits (n : Nat) : Rat := mkRat n unitsInOne

end Binary64
end LeadingZero
