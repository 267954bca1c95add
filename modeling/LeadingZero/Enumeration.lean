import LeadingZero.Value.Text

/-!
# Named codes

An `Enumeration` gives names to values, most of them small numbers. A value is looked up loosely
and the first name wins; one that has no name is shown as it is.
-/

namespace LeadingZero

/-- Names for values, in the order in which they are tried. -/
structure Enumeration where
  members : List (String × Value)

namespace Enumeration

/-- Names for numbers. -/
def ofCodes (codes : List (Int × String)) : Enumeration :=
  ⟨codes.map fun code => (code.2, .int code.1)⟩

/-- The first name of a value. -/
def nameOf? (e : Enumeration) (v : Value) : Option String :=
  (e.members.find? fun member => member.2.same v).map (·.1)

/-- The first name of a value, or the value itself where it has none. -/
def label (e : Enumeration) (v : Value) : String :=
  (e.nameOf? v).getD v.text

end Enumeration
end LeadingZero
