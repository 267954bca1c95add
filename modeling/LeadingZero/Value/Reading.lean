import LeadingZero.Fault

/-!
# Readings of a value that can fail

Each function here is one way in which a value from outside is put to use, with the fault that
says why it could not be.
-/

namespace LeadingZero
namespace Value

/-- The items of a sequence; those of a text are its characters. -/
def items : Value → Except Fault (List Value)
  | .tuple items | .list items => .ok items
  | .str s => .ok (s.toList.map fun c => .str c.toString)
  | v => .error (.notIterable v.shape)

/-- The value, if it can be looked up in a table. -/
def key (v : Value) : Except Fault Value :=
  if v.isKey then .ok v else .error .notAKey

/-- The value as a whole number that can be compared with others. -/
def whole (v : Value) : Except Fault Whole :=
  match v.whole? with
  | some w => .ok w
  | none => .error (.notOrdered v.shape .int)

/-- The value as a number in base sixteen. -/
def hex (v : Value) : Except Fault String :=
  match v.whole? with
  | some w => .ok (hexFour w.toInt)
  | none => .error (.noHexForm v.shape)

/-- The value as one byte. -/
def byte (v : Value) : Except Fault UInt8 :=
  match v.whole? with
  | none => .error (.notAByte v.shape)
  | some w =>
    if 0 ≤ w.toInt ∧ w.toInt < 256 then .ok (UInt8.ofNat w.toInt.toNat) else .error .byteRange

/-- So many zero bytes have no place in memory. -/
def memoryLimit : Nat := Nat.pow 2 36

/-- So many zero bytes. The number must be one that can count bytes at all. -/
def zeroBytes (w : Whole) : Except Fault (List UInt8) :=
  if !w.isByteCount then .error .lengthOverflow
  else if w.toInt < 0 then .error .negativeLength
  else if memoryLimit ≤ w.toInt.toNat then .error .outOfMemory
  else .ok (List.replicate w.toInt.toNat 0)

/-- The value as bytes: a number is so many zero bytes, a sequence of numbers is those bytes. -/
def bytes : Value → Except Fault (List UInt8)
  | .null => .error (.notBytes .null)
  | .str _ => .error .textForBytes
  | .tuple items | .list items => items.mapM byte
  | .bool b => zeroBytes (.truth b)
  | .int n => zeroBytes (.number n)

@[simp] theorem whole_toValue (w : Whole) : w.toValue.whole = .ok w := by
  cases w <;> rfl

@[simp] theorem hex_int (n : Int) : (Value.int n).hex = .ok (hexFour n) := rfl

@[simp] theorem key_int (n : Int) : (Value.int n).key = .ok (.int n) := rfl

end Value
end LeadingZero
