import LeadingZero.Tls.SuiteTable
import LeadingZero.Value.Reading

/-!
# Suites that can leak

A `SuiteRegistry` holds the names of cipher suites and which of them are known to use
Diffie-Hellman over a finite field. For the other suites the name decides: `_DHE_` and `_DH_`
stand for this key exchange, the names of elliptic curve suites hold neither.
-/

namespace LeadingZero
namespace Tls

/-- Names of cipher suites. A suite can be registered without a name, and under anything that can
be looked up. -/
structure SuiteRegistry where
  names : List (Value × Option String)
  knownDh : List Int

namespace SuiteRegistry

/-- The registered suites. -/
def standard : SuiteRegistry where
  names := registeredSuites.map fun entry => (.int entry.1, some entry.2)
  knownDh := knownDhSuites

/-- Give a suite a name, in place of the one it had. -/
def register (r : SuiteRegistry) (suite : Value) (name : Option String) :
    Except Fault SuiteRegistry := do
  let suite ← suite.key
  return { r with names := (suite, name) :: r.names }

/-- The entry of a suite, if it is registered. -/
def entry? (r : SuiteRegistry) (suite : Value) : Option (Option String) :=
  (r.names.find? fun entry => entry.1.same suite).map (·.2)

/-- Whether a suite is registered. -/
def contains (r : SuiteRegistry) (suite : Value) : Except Fault Bool := do
  let suite ← suite.key
  return (r.entry? suite).isSome

/-- The registered name of a suite, or its number in base sixteen. -/
def label (r : SuiteRegistry) (suite : Value) : Except Fault (Option String) := do
  let number ← suite.hex
  let suite ← suite.key
  return (r.entry? suite).getD (some number)

/-- Whether a text occurs inside another. -/
def occurs (part whole : List Char) : Bool :=
  match whole with
  | [] => part.isEmpty
  | c :: rest => part.isPrefixOf (c :: rest) || occurs part rest

/-- Whether a name says that the key exchange is Diffie-Hellman over a finite field. -/
def nameSaysDh (name : String) : Bool :=
  occurs "_DHE_".toList name.toList || occurs "_DH_".toList name.toList

/-- Whether a suite uses Diffie-Hellman over a finite field. -/
def isDiffieHellman (r : SuiteRegistry) (suite : Value) : Except Fault Bool :=
  if suite.isIn (r.knownDh.map Value.int) then .ok true
  else do
    let suite ← suite.key
    return ((r.entry? suite).join.map nameSaysDh).getD false

end SuiteRegistry

/-- The text of a suite: its registered name, or its number in base sixteen. -/
def suiteText (suite : Value) : Except Fault String := do
  return (← SuiteRegistry.standard.label suite).getD "None"

/-- Whether a suite uses Diffie-Hellman over a finite field. -/
def isDiffieHellman (suite : Value) : Except Fault Bool :=
  SuiteRegistry.standard.isDiffieHellman suite

/-- Whether a suite is registered, and so known to an engine that offers all of them. -/
def isRegistered (suite : Value) : Except Fault Bool := SuiteRegistry.standard.contains suite

end Tls
end LeadingZero
