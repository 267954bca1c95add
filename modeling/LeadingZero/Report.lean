import LeadingZero.Tls.Version

/-!
# The report on a server

An earlier survey of the server says which versions it supports, whether it negotiates
Diffie-Hellman at all, and which suites it accepted in which version. `Report.permitsScan` tells
whether that permits a scan, `Report.listed` which entries the scan is to go through. The report
itself may be missing, and any part of it may be of an unexpected shape.
-/

namespace LeadingZero

/-- One entry of the list of suites. -/
inductive Entry where
  /-- The suites the server accepted in a version. -/
  | accepted (version suites : Value)
  /-- Something that is no such entry. -/
  | malformed (v : Value)

namespace Entry

/-- The version of an entry. -/
def version : Entry → Except Fault Value
  | .accepted version _ => .ok version
  | .malformed v => .error (.noField v.shape "version")

/-- The suites of an entry. -/
def suites : Entry → Except Fault (List Value)
  | .accepted _ suites => suites.items
  | .malformed v => .error (.noField v.shape "cipher_suites")

end Entry

/-- The list of suites of a report. -/
inductive Listing where
  | entries (es : List Entry)
  /-- Something else in its place; null where the suites were not surveyed. -/
  | value (v : Value)

namespace Listing

/-- Whether the suites were not surveyed. -/
def isAbsent : Listing → Bool
  | .value .null => true
  | _ => false

/-- The entries of the list; the items of anything else count as entries. -/
def toEntries : Listing → Except Fault (List Entry)
  | .entries es => .ok es
  | .value v => do return (← v.items).map .malformed

end Listing

/-- What an earlier survey found out about the server. -/
structure Report where
  /-- For each version whether it is supported. -/
  versions : List (Value × Value) := []
  supportsDh : Value := .null
  listing : Listing := .value .null

namespace Report

/-- Put a value under a key: in place of the one that was there, else at the end. -/
def insertAt (key v : Value) : List (Value × Value) → List (Value × Value)
  | [] => [(key, v)]
  | (k, w) :: rest => if k.same key then (k, v) :: rest else (k, w) :: insertAt key v rest

/-- A table from pairs, of which later ones win. -/
def tableOf (pairs : List (Value × Value)) : List (Value × Value) :=
  pairs.foldl (fun table pair => insertAt pair.1 pair.2 table) []

/-- Whether the server is known to support a version. -/
def supports (r : Report) (version : Value) : Except Fault Bool := do
  -- Only the truth value true is support, and not what merely counts as true.
  let key ← Tls.versionKey version
  return ((r.versions.find? fun entry => entry.1.same key).map (·.2.isTrue)).getD false

/-- The report, if there is one to take the named field of. -/
def forField (report : Option Report) (name : String) : Except Fault Report :=
  match report with
  | some r => .ok r
  | none => .error (.noField .null name)

/-- Whether the server supports a version in which leading zero bytes are stripped. -/
def supportsAny (r : Report) : List Value → Except Fault Bool
  | [] => .ok false
  | version :: rest => do
    if ← r.supports version then return true else r.supportsAny rest

/-- Whether the report permits a scan: a version to test, a list of suites, and
Diffie-Hellman. -/
def permitsScan (report : Option Report) : Except Fault Bool := do
  let r ← forField report "supports_version"
  let supported ← r.supportsAny Tls.strippingVersions
  return supported && !r.listing.isAbsent && r.supportsDh.isTrue

/-- The entries the scan is to go through. -/
def listed (report : Option Report) : Except Fault (List Entry) := do
  let r ← forField report "version_suite_pairs"
  r.listing.toEntries

end Report
end LeadingZero
