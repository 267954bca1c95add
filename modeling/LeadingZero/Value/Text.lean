import LeadingZero.Value.Basic

/-!
# The text of a value

`Value.text` is how a value reads on its own: a text is itself. `Value.quoted` is how it reads
inside something larger: a text stands in quotes, with the characters that would break a line or
the quotes escaped. Sequences quote their items; a tuple of one item keeps its comma.
-/

namespace LeadingZero

/-! ## Quoted text -/

namespace Quotation

/-- The quotation mark of most texts. -/
def singleQuote : Char := '\x27'

/-- The quotation mark of texts that hold the other one. -/
def doubleQuote : Char := '\x22'

/-- The character that announces an escape. -/
def backslash : Char := '\x5c'

/-- Single quotes, unless the text has one and no double quote. -/
def mark (s : List Char) : Char :=
  if s.contains singleQuote && !s.contains doubleQuote then doubleQuote else singleQuote

/-- The digits of a number, lower case, at least two of them. -/
def twoHexDigits (n : Nat) : List Char :=
  [Nat.digitChar (n / 16), Nat.digitChar (n % 16)]

/-- The control characters and the two blanks of Latin-1 that are shown by their number. -/
def isHidden (c : Char) : Bool :=
  c.toNat < 0x20 || (0x7f ≤ c.toNat && c.toNat ≤ 0xa0) || c.toNat == 0xad

/-- One character between the marks `q`. -/
def escape (q c : Char) : List Char :=
  if c = q || c = backslash then [backslash, c]
  else if c = '\n' then [backslash, 'n']
  else if c = '\r' then [backslash, 'r']
  else if c = '\t' then [backslash, 't']
  else if isHidden c then backslash :: 'x' :: twoHexDigits c.toNat
  else [c]

end Quotation

/-- A text in quotes. -/
def quoteText (s : String) : String :=
  let q := Quotation.mark s.toList
  String.ofList (q :: s.toList.flatMap (Quotation.escape q) ++ [q])

/-- Items as a tuple shows them: in round brackets, a single one followed by a comma. -/
def roundBrackets : List String → String
  | [item] => "(" ++ item ++ ",)"
  | items => "(" ++ ", ".intercalate items ++ ")"

/-- Items as a list shows them. -/
def squareBrackets (items : List String) : String := "[" ++ ", ".intercalate items ++ "]"

/-! ## Values -/

namespace Value

mutual

/-- A value as it reads inside something larger. -/
def quoted : Value → String
  | .null => "None"
  | .bool b => if b then "True" else "False"
  | .int n => toString n
  | .str s => quoteText s
  | .tuple items => roundBrackets (quotedItems items)
  | .list items => squareBrackets (quotedItems items)

/-- The items of a sequence as they read inside it. -/
def quotedItems : List Value → List String
  | [] => []
  | x :: xs => quoted x :: quotedItems xs

end

/-- A value as it reads on its own. -/
def text : Value → String
  | .str s => s
  | v => v.quoted

@[simp] theorem quotedItems_eq_map (xs : List Value) : quotedItems xs = xs.map quoted := by
  induction xs with
  | nil => simp [quotedItems]
  | cons x xs ih => simp [quotedItems, ih]

@[simp] theorem text_str (s : String) : (Value.str s).text = s := rfl

end Value

/-! ## Numbers in base sixteen -/

/-- Pad a numeral on the left with zeros to the given width. -/
def padLeft (width : Nat) (digits : List Char) : List Char :=
  List.replicate (width - digits.length) '0' ++ digits

/-- A number in base sixteen after a `0x`, four characters wide with its sign. -/
def hexFour (n : Int) : String :=
  let digits := Nat.toDigits 16 n.natAbs
  String.ofList ('0' :: 'x' ::
    if n < 0 then '-' :: padLeft 3 digits else padLeft 4 digits)

end LeadingZero
