import LeadingZero.Enumeration

/-!
# What a scan concludes

A `Classification` is the conclusion on one combination of version, suite and workflow, a
`Verdict` the conclusion on the server.
-/

namespace LeadingZero

/-- The conclusion on one combination. -/
inductive Classification where
  | inconclusive
  | notVulnerable
  | potentiallyVulnerable
  | vulnerable
deriving DecidableEq, Repr

namespace Classification

/-- All classifications, in the order of their codes. -/
def all : List Classification := [inconclusive, notVulnerable, potentiallyVulnerable, vulnerable]

/-- The number that stands for a classification. -/
def code : Classification → Int
  | .inconclusive => 0
  | .notVulnerable => 1
  | .potentiallyVulnerable => 2
  | .vulnerable => 3

/-- The name under which a classification is shown. -/
def name : Classification → String
  | .inconclusive => "INCONCLUSIVE"
  | .notVulnerable => "NOT_VULNERABLE"
  | .potentiallyVulnerable => "POTENTIALLY_VULNERABLE"
  | .vulnerable => "VULNERABLE"

/-- The names of the classifications by their codes. -/
def enumeration : Enumeration := .ofCodes (all.map fun c => (c.code, c.name))

end Classification

/-- The conclusion on the server. -/
inductive Verdict where
  | vulnerable
  | notVulnerable
  | errorDuringTest
  | couldNotTest
deriving DecidableEq, Repr

namespace Verdict

/-- All verdicts, in the order of their codes. -/
def all : List Verdict := [vulnerable, notVulnerable, errorDuringTest, couldNotTest]

/-- The number that stands for a verdict. -/
def code : Verdict → Int
  | .vulnerable => 1
  | .notVulnerable => 2
  | .errorDuringTest => 3
  | .couldNotTest => 4

/-- The name under which a verdict is shown. -/
def name : Verdict → String
  | .vulnerable => "TRUE"
  | .notVulnerable => "FALSE"
  | .errorDuringTest => "ERROR_DURING_TEST"
  | .couldNotTest => "COULD_NOT_TEST"

/-- The names of the verdicts by their codes. -/
def enumeration : Enumeration := .ofCodes (all.map fun v => (v.code, v.name))

end Verdict
end LeadingZero
