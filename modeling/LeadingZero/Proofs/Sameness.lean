import LeadingZero.Proofs.Conclusive

/-!
# The laws of the default comparison

Fingerprints come with fields of any shape, and equality of these is loose: a truth value is the
number 1 or 0 wherever it stands. It is an equivalence all the same, as it is equality of normal
forms, and that carries over to fingerprints (`Fingerprint.same_equivalence`). The comparison of two
answers sees no more of them than what they are evidence of (`Answer.compare_congr`), so whatever is
the same can be put in place of each other. Being found equal is short of an equivalence in one
point only: an answer that is evidence of nothing is not even equal to itself.
-/

namespace LeadingZero

theorem Value.same_comm (v w : Value) : v.same w = w.same v := by
  rw [Bool.eq_iff_iff, same_iff, same_iff]
  exact eq_comm

/-! ## Fingerprints -/

namespace Fingerprint

variable {a b : Fingerprint}

theorem same_equivalence : Equivalence fun a b : Fingerprint => a.same b = true := by
  refine ⟨fun a => ?_, fun {a b} h => ?_, fun {a b c} h h' => ?_⟩
  · rw [same_iff_canon]
  · rw [same_iff_canon] at h ⊢
    exact h.symm
  · rw [same_iff_canon] at h h' ⊢
    exact h.trans h'

/-- The first field in which two fingerprints differ does not depend on their order. -/
theorem difference_comm (a b : Fingerprint) : a.difference b = b.difference a := by
  unfold difference
  rw [a.recordCount.same_comm, a.connection.same_comm]
  simp only [ne_comm]

theorem difference_eq_none_iff : a.difference b = .none ↔ a.same b = true := by
  rw [same, beq_iff_eq]

/-- The state of the connection is read loosely, like every other field. -/
theorem endedInLocalError_congr (h : a.same b = true) :
    a.endedInLocalError = b.endedInLocalError := by
  obtain ⟨-, -, hconnection⟩ := (same_iff a b).1 h
  rw [Value.same_iff] at hconnection
  rw [Bool.eq_iff_iff, endedInLocalError, endedInLocalError, Value.same_iff, Value.same_iff,
    hconnection]

end Fingerprint

/-! ## Answers -/

namespace Answer

variable {a b a' b' d : Answer}

/-- Answers that are the same are evidence of the same. -/
theorem evidence?_congr (h : a.same b = true) : a.evidence? = b.evidence? := by
  cases a with
  | foreign v =>
    cases b with
    | foreign w => rfl
    | fingerprint g => simp [same] at h
  | fingerprint f =>
    cases b with
    | foreign w => simp [same] at h
    | fingerprint g =>
      have hsame : f.same g = true := h
      rw [evidence?, evidence?, Fingerprint.endedInLocalError_congr hsame,
        (f.same_iff_canon g).1 hsame]

/-- There is no opinion on two answers exactly if one of them is evidence of nothing. -/
theorem compare_eq_inconclusive_iff_evidence :
    a.compare b = .inconclusive ↔ a.evidence? = none ∨ b.evidence? = none := by
  rw [compare_eq_inconclusive_iff, ← isSome_evidence?, ← isSome_evidence?]
  cases a.evidence? <;> cases b.evidence? <;> simp

/-- The comparison sees no more of the answers than what they are evidence of. -/
theorem compare_congr (ha : a.evidence? = a'.evidence?) (hb : b.evidence? = b'.evidence?) :
    a.compare b = a'.compare b' := by
  cases h : a'.compare b' with
  | equal => rwa [compare_eq_equal_iff, ha, hb, ← compare_eq_equal_iff]
  | unequal => rwa [compare_eq_unequal_iff, ha, hb, ← compare_eq_unequal_iff]
  | inconclusive =>
    rwa [compare_eq_inconclusive_iff_evidence, ha, hb, ← compare_eq_inconclusive_iff_evidence]

theorem compare_comm (a b : Answer) : a.compare b = b.compare a := by
  cases h : b.compare a with
  | equal =>
    obtain ⟨e, hb, ha⟩ := (compare_eq_equal_iff b a).1 h
    exact (compare_eq_equal_iff a b).2 ⟨e, ha, hb⟩
  | unequal => exact compare_eq_unequal_comm.1 h
  | inconclusive =>
    rw [compare_eq_inconclusive_iff_evidence] at h ⊢
    exact h.symm

theorem compare_eq_equal_trans (h : a.compare b = .equal) (h' : b.compare d = .equal) :
    a.compare d = .equal := by
  obtain ⟨e, ha, hb⟩ := (compare_eq_equal_iff a b).1 h
  obtain ⟨e', hb', hd⟩ := (compare_eq_equal_iff b d).1 h'
  obtain rfl : e = e' := Option.some.inj (hb.symm.trans hb')
  exact (compare_eq_equal_iff a d).2 ⟨e, ha, hd⟩

theorem compare_self (h : a.isConclusive = true) : a.compare a = .equal := by
  obtain ⟨e, he⟩ := exists_evidence h
  exact (compare_eq_equal_iff a a).2 ⟨e, he, he⟩

/-- Nothing comes of a comparison with this answer, whichever of the two comes first. -/
def Incomparable (a : Answer) : Prop :=
  ∀ b, a.compare b = .inconclusive ∧ b.compare a = .inconclusive

theorem incomparable_of_evidence (h : a.evidence? = none) : a.Incomparable := by
  intro b
  have hleft : a.compare b = .inconclusive := compare_eq_inconclusive_iff_evidence.2 (.inl h)
  exact ⟨hleft, (compare_comm b a).trans hleft⟩

/-- Either answer can be put in place of the other in any comparison. -/
def Interchangeable (a b : Answer) : Prop :=
  ∀ d, a.compare d = b.compare d ∧ d.compare a = d.compare b

theorem interchangeable_of_same (h : a.same b = true) : a.Interchangeable b := by
  intro d
  have hevidence := evidence?_congr h
  exact ⟨compare_congr hevidence rfl, compare_congr rfl hevidence⟩

end Answer

/-- The laws of the default comparison. Being the same is an equivalence of fingerprints, a matter
of all three fields; the first difference does not depend on the order and is there exactly if they
are not the same; fingerprints that are the same can be put in place of each other. The comparison
does not depend on the order either, and being found equal is transitive. A fingerprint is equal to
itself unless it ended in a local error; then, and for everything that is no fingerprint, nothing
comes of any comparison. -/
theorem default_comparison_laws :
    Equivalence (fun a b : Fingerprint => a.same b = true)
      ∧ (∀ a b : Fingerprint, a.difference b = b.difference a
        ∧ (a.difference b = .none ↔ a.same b = true)
        ∧ (a.same b = true ↔ a.messages = b.messages
          ∧ a.recordCount.same b.recordCount = true ∧ a.connection.same b.connection = true))
      ∧ (∀ a b : Fingerprint, a.same b = true →
        (Answer.fingerprint a).Interchangeable (.fingerprint b))
      ∧ (∀ a b : Answer, a.compare b = b.compare a)
      ∧ (∀ a b : Answer, a.compare b = .equal → b.compare a = .equal)
      ∧ (∀ a b d : Answer, a.compare b = .equal → b.compare d = .equal → a.compare d = .equal)
      ∧ (∀ f : Fingerprint, f.endedInLocalError = false →
        (Answer.fingerprint f).compare (.fingerprint f) = .equal)
      ∧ (∀ f : Fingerprint, f.endedInLocalError = true → (Answer.fingerprint f).Incomparable)
      ∧ ∀ v : Value, (Answer.foreign v).Incomparable := by
  refine ⟨Fingerprint.same_equivalence, ?_, ?_, Answer.compare_comm, ?_, ?_, ?_, ?_, ?_⟩
  · intro a b
    exact ⟨a.difference_comm b, Fingerprint.difference_eq_none_iff, Fingerprint.same_iff a b⟩
  · intro a b hsame
    exact Answer.interchangeable_of_same hsame
  · intro a b hequal
    rwa [Answer.compare_comm]
  · intro a b d hequal hequal'
    exact Answer.compare_eq_equal_trans hequal hequal'
  · intro f hno
    apply Answer.compare_self
    rw [Answer.isConclusive, hno]
    rfl
  · intro f herror
    apply Answer.incomparable_of_evidence
    rw [Answer.evidence?, if_pos herror]
  · intro v
    exact Answer.incomparable_of_evidence rfl

/-- The fingerprint of one alert, with a number of records as it was given. -/
def Fingerprint.ofCount (recordCount : Value) : Fingerprint where
  messages := ["Alert(fatal, bad_record_mac)"]
  recordCount := recordCount
  connection := .int ConnectionState.closed.code

/-- A truth value stands for a number also inside a tuple. -/
theorem looseCount_interchangeable :
    (Fingerprint.ofCount (.tuple [.bool true, .null])).same (.ofCount (.tuple [.int 1, .null]))
        = true
      ∧ (Answer.fingerprint (.ofCount (.tuple [.bool true, .null]))).Interchangeable
        (.fingerprint (.ofCount (.tuple [.int 1, .null])))
      ∧ (Answer.fingerprint (.ofCount (.int 1))).compare (.fingerprint (.ofCount (.int 1))) = .equal
      ∧ (Answer.foreign (.str "Alert")).Incomparable := by
  obtain ⟨-, -, hinterchangeable, -, -, -, hself, -, hforeign⟩ := default_comparison_laws
  have hsame : (Fingerprint.ofCount (.tuple [.bool true, .null])).same
      (.ofCount (.tuple [.int 1, .null])) = true := by decide
  exact ⟨hsame, hinterchangeable _ _ hsame, hself _ rfl, hforeign _⟩

end LeadingZero
