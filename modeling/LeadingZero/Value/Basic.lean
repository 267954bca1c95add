/-!
# Values as they arrive

A scan is fed by other parties: a report on the server, settings, an engine that runs the
handshakes and an oracle that compares its answers. Versions, suites, flags, counts and socket
states come from them, and any of these may have an unexpected shape. A `Value` keeps such a
thing exactly as it was given, so that the scan can repeat it in its messages and can say which
shape it could not use.

Four readings need no further context and live here:

* `Value.same`, loose equality, under which a truth value is the number 1 or 0. It agrees with
  equality of the normal forms `Value.canon` (`Value.same_iff`), so it is an equivalence;
* `Value.truthy`, what counts as true;
* `Value.isKey`, what can be looked up in a table;
* `Value.whole?`, the whole numbers, truth values included.
-/

namespace LeadingZero

/-- A value handed over by another party, kept as it was given. -/
inductive Value where
  | null
  | bool (b : Bool)
  | int (n : Int)
  | str (s : String)
  | tuple (items : List Value)
  | list (items : List Value)
deriving Inhabited

/-- What a value is, without its content. -/
inductive Shape where
  | null
  | bool
  | int
  | str
  | tuple
  | list
deriving DecidableEq, Repr

/-- The word a message uses for a shape. -/
def Shape.word : Shape → String
  | .null => "NoneType"
  | .bool => "bool"
  | .int => "int"
  | .str => "str"
  | .tuple => "tuple"
  | .list => "list"

namespace Value

/-- The shape of a value. -/
def shape : Value → Shape
  | .null => .null
  | .bool _ => .bool
  | .int _ => .int
  | .str _ => .str
  | .tuple _ => .tuple
  | .list _ => .list

/-! ## Truth -/

/-- Null, false, zero, the empty text and the empty sequences count as false. -/
def truthy : Value → Bool
  | .null => false
  | .bool b => b
  | .int n => n != 0
  | .str s => !s.isEmpty
  | .tuple items => !items.isEmpty
  | .list items => !items.isEmpty

/-- Only the truth value true itself, not what merely counts as true. -/
def isTrue : Value → Bool
  | .bool b => b
  | _ => false

/-! ## Loose equality -/

mutual

/-- Loose equality: a truth value is the number 1 or 0, also inside sequences; a tuple is never
a list, and no text is a number. -/
def same : Value → Value → Bool
  | .null, .null => true
  | .bool a, .bool b => a == b
  | .bool a, .int n => a.toInt == n
  | .int n, .bool b => n == b.toInt
  | .int m, .int n => m == n
  | .str s, .str t => s == t
  | .tuple xs, .tuple ys => sameItems xs ys
  | .list xs, .list ys => sameItems xs ys
  | _, _ => false

/-- Loose equality of sequences: item by item, and of one length. -/
def sameItems : List Value → List Value → Bool
  | [], [] => true
  | x :: xs, y :: ys => same x y && sameItems xs ys
  | _, _ => false

end

mutual

/-- The normal form of a value under loose equality: truth values are written as numbers. -/
def canon : Value → Value
  | .null => .null
  | .bool b => .int b.toInt
  | .int n => .int n
  | .str s => .str s
  | .tuple items => .tuple (canonItems items)
  | .list items => .list (canonItems items)

/-- The normal forms of the items. -/
def canonItems : List Value → List Value
  | [] => []
  | x :: xs => canon x :: canonItems xs

end

@[simp] theorem canonItems_eq_map (xs : List Value) : canonItems xs = xs.map canon := by
  induction xs with
  | nil => simp [canonItems]
  | cons x xs ih => simp [canonItems, ih]

mutual

/-- Values are loosely equal exactly when they have one normal form. -/
theorem same_iff : ∀ a b : Value, a.same b = true ↔ a.canon = b.canon
  | .null, b => by cases b <;> simp [same, canon]
  | .bool a, b => by
    cases b with
    | bool b => cases a <;> cases b <;> simp [same, canon]
    | _ => simp [same, canon]
  | .int m, b => by cases b <;> simp [same, canon]
  | .str s, b => by cases b <;> simp [same, canon]
  | .tuple xs, b => by
    cases b with
    | tuple ys => simpa [same, canon] using sameItems_iff xs ys
    | _ => simp [same, canon]
  | .list xs, b => by
    cases b with
    | list ys => simpa [same, canon] using sameItems_iff xs ys
    | _ => simp [same, canon]

/-- Sequences are loosely equal exactly when their items have the same normal forms. -/
theorem sameItems_iff : ∀ xs ys : List Value,
    sameItems xs ys = true ↔ xs.map canon = ys.map canon
  | [], ys => by cases ys <;> simp [sameItems]
  | x :: xs, ys => by
    cases ys with
    | nil => simp [sameItems]
    | cons y ys => simp [sameItems, same_iff x y, sameItems_iff xs ys]

end

@[simp] theorem same_self (a : Value) : a.same a = true := (same_iff a a).2 rfl

/-- Membership up to loose equality. -/
def isIn (v : Value) (options : List Value) : Bool := options.any (·.same v)

/-! ## Keys -/

mutual

/-- Whether a value can be looked up in a table: no list is anywhere in it. -/
def isKey : Value → Bool
  | .tuple items => areKeys items
  | .list _ => false
  | _ => true

/-- Whether all items can be looked up. -/
def areKeys : List Value → Bool
  | [] => true
  | x :: xs => isKey x && areKeys xs

end

@[simp] theorem areKeys_eq_all (xs : List Value) : areKeys xs = xs.all isKey := by
  induction xs with
  | nil => simp [areKeys]
  | cons x xs ih => simp [areKeys, ih]

mutual

/-- A value can be looked up exactly if its normal form can. -/
theorem isKey_canon : ∀ v : Value, v.canon.isKey = v.isKey
  | .null | .bool _ | .int _ | .str _ => rfl
  | .tuple items => by simpa [canon, isKey] using areKeys_canon items
  | .list _ => rfl

theorem areKeys_canon : ∀ vs : List Value, (vs.map canon).all isKey = vs.all isKey
  | [] => rfl
  | v :: vs => by simp [isKey_canon v, areKeys_canon vs]

end

/-! ## Whole numbers -/

end Value

/-- A whole number as it was given: a truth value counts as 1 or 0 and is still shown as a
truth value. -/
inductive Whole where
  | truth (b : Bool)
  | number (n : Int)
deriving DecidableEq, Repr

namespace Whole

/-- The number meant. -/
def toInt : Whole → Int
  | .truth b => b.toInt
  | .number n => n

/-- The value it was given as. -/
def toValue : Whole → Value
  | .truth b => .bool b
  | .number n => .int n

/-- Whether the number can count bytes, forwards or backwards: a signed number of 64 bits. -/
def isByteCount (w : Whole) : Bool := -Nat.pow 2 63 ≤ w.toInt && w.toInt < Nat.pow 2 63

end Whole

namespace Value

/-- The whole number a value is, if it is one. -/
def whole? : Value → Option Whole
  | .bool b => some (.truth b)
  | .int n => some (.number n)
  | _ => none

theorem isKey_of_whole? {v : Value} {w : Whole} (h : v.whole? = some w) : v.isKey = true := by
  cases v <;> simp [whole?, isKey] at h ⊢

@[simp] theorem whole?_toValue (w : Whole) : w.toValue.whole? = some w := by
  cases w <;> rfl

end Value
end LeadingZero
