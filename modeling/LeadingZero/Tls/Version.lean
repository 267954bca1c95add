import LeadingZero.Value.Reading

/-!
# Protocol versions

A version is a pair of numbers. In the versions up to 1.2 the premaster secret of a
Diffie-Hellman key exchange is the shared secret with its leading zero bytes removed, so its
length tells something about it; these are the versions a scan can test.
-/

namespace LeadingZero
namespace Tls

/-- The version with these two numbers. -/
def version (major minor : Int) : Value := .tuple [.int major, .int minor]

/-- The versions that have a name, the same that a scan can test. -/
def namedVersions : List (Value × String) := [
    (version 3 0, "SSLv3"), (version 3 1, "TLSv1.0"), (version 3 2, "TLSv1.1"),
    (version 3 3, "TLSv1.2")]

/-- The versions that strip leading zero bytes from the premaster secret. -/
def strippingVersions : List Value := namedVersions.map (·.1)

/-- The items of a version as a tuple that can be looked up. -/
def versionKey (v : Value) : Except Fault Value := do
  let items ← v.items
  (Value.tuple items).key

/-- The name of a version; one without a name is shown as it was given. -/
def versionText (v : Value) : Except Fault String := do
  let key ← versionKey v
  return ((namedVersions.find? fun named => named.1.same key).map (·.2)).getD v.text

end Tls
end LeadingZero
