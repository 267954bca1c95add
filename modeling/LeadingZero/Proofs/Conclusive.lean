import LeadingZero.Proofs.Search

/-!
# What the default comparison detects

The comparison that a scan uses by default has an opinion on two answers only if both are
conclusive, and then it is plain equality of what they are evidence of (`Answer.evidence?`). So what
a classification finds is a matter of the conclusive observations, and it is not quite a matter of
the zero byte: as soon as both groups have a conclusive observation, any two that differ are
detected, also two of one group (`differ_iff_not_uniform`).
-/

namespace LeadingZero

variable {σ : Type} {c : Collaborators σ}

/-! ## Evidence -/

namespace Fingerprint

/-- The normal form of a fingerprint. -/
def canon (f : Fingerprint) : Fingerprint where
  messages := f.messages
  recordCount := f.recordCount.canon
  connection := f.connection.canon

/-- Fingerprints are the same exactly when they have one normal form. -/
theorem same_iff_canon (a b : Fingerprint) : a.same b = true ↔ a.canon = b.canon := by
  rw [same_iff, Value.same_iff, Value.same_iff]
  simp [canon]

end Fingerprint

namespace Answer

/-- What an answer tells about the server, if it is conclusive: its fingerprint in normal form. -/
def evidence? : Answer → Option Fingerprint
  | .fingerprint f => if f.endedInLocalError then none else some f.canon
  | .foreign _ => none

variable {a b : Answer}

theorem isSome_evidence? (a : Answer) : a.evidence?.isSome = a.isConclusive := by
  cases a with
  | foreign v => rfl
  | fingerprint f => cases h : f.endedInLocalError <;> simp [evidence?, isConclusive, h]

theorem exists_evidence (h : a.isConclusive = true) : ∃ e, a.evidence? = some e := by
  rwa [← isSome_evidence?, Option.isSome_iff_exists] at h

theorem isConclusive_of_evidence {e : Fingerprint} (h : a.evidence? = some e) :
    a.isConclusive = true := by
  rw [← isSome_evidence?, h]
  rfl

/-- Conclusive answers are the same exactly when they are evidence of the same. -/
theorem same_iff_evidence {e e' : Fingerprint} (h : a.evidence? = some e)
    (h' : b.evidence? = some e') : a.same b = true ↔ e = e' := by
  cases a with
  | foreign v => simp [evidence?] at h
  | fingerprint f =>
    cases b with
    | foreign w => simp [evidence?] at h'
    | fingerprint g =>
      obtain ⟨-, rfl⟩ : _ ∧ f.canon = e := by simpa [evidence?] using h
      obtain ⟨-, rfl⟩ : _ ∧ g.canon = e' := by simpa [evidence?] using h'
      exact f.same_iff_canon g

/-- Conclusive answers are compared for being the same. -/
theorem compare_of_isConclusive (ha : a.isConclusive = true) (hb : b.isConclusive = true) :
    a.compare b = if a.same b then .equal else .unequal := by
  cases a with
  | foreign v => simp [isConclusive] at ha
  | fingerprint f =>
    cases b with
    | foreign w => simp [isConclusive] at hb
    | fingerprint g =>
      simp only [isConclusive, Bool.not_eq_true'] at ha hb
      rw [compare, ha, hb]
      rfl

/-- An opinion on two answers rests on evidence of both. -/
theorem exists_evidence_of_compare (h : a.compare b ≠ .inconclusive) :
    ∃ e e', a.evidence? = some e ∧ b.evidence? = some e'
      ∧ a.compare b = if a.same b then .equal else .unequal := by
  rw [Ne, compare_eq_inconclusive_iff, not_not] at h
  obtain ⟨ha, hb⟩ := h
  obtain ⟨e, he⟩ := exists_evidence ha
  obtain ⟨e', he'⟩ := exists_evidence hb
  exact ⟨e, e', he, he', compare_of_isConclusive ha hb⟩

theorem compare_eq_equal_iff (a b : Answer) :
    a.compare b = .equal ↔ ∃ e, a.evidence? = some e ∧ b.evidence? = some e := by
  constructor
  · intro h
    obtain ⟨e, e', he, he', hcompare⟩ := exists_evidence_of_compare (a := a) (b := b) (by simp [h])
    have hsame : a.same b = true := by
      by_contra hnot
      rw [hcompare, if_neg hnot] at h
      contradiction
    obtain rfl := (same_iff_evidence he he').1 hsame
    exact ⟨e, he, he'⟩
  · rintro ⟨e, he, he'⟩
    rw [compare_of_isConclusive (isConclusive_of_evidence he) (isConclusive_of_evidence he'),
      if_pos ((same_iff_evidence he he').2 rfl)]

theorem compare_eq_unequal_iff (a b : Answer) :
    a.compare b = .unequal ↔ ∃ e e', a.evidence? = some e ∧ b.evidence? = some e' ∧ e ≠ e' := by
  constructor
  · intro h
    obtain ⟨e, e', he, he', hcompare⟩ := exists_evidence_of_compare (a := a) (b := b) (by simp [h])
    refine ⟨e, e', he, he', fun heq => ?_⟩
    rw [hcompare, if_pos ((same_iff_evidence he he').2 heq)] at h
    contradiction
  · rintro ⟨e, e', he, he', hne⟩
    have hnot : ¬a.same b = true := fun hsame => hne ((same_iff_evidence he he').1 hsame)
    rw [compare_of_isConclusive (isConclusive_of_evidence he) (isConclusive_of_evidence he'),
      if_neg hnot]

/-- Which of the two answers comes first does not matter. -/
theorem compare_eq_unequal_comm : a.compare b = .unequal ↔ b.compare a = .unequal := by
  rw [compare_eq_unequal_iff, compare_eq_unequal_iff]
  constructor
  · rintro ⟨e, e', he, he', hne⟩
    exact ⟨e', e, he', he, hne.symm⟩
  · rintro ⟨e, e', he, he', hne⟩
    exact ⟨e', e, he', he, hne.symm⟩

end Answer

/-! ## Which differences are detected -/

namespace Observation

/-- Whether the answer tells something about the server. -/
def isConclusive (o : Observation) : Bool := o.answer.isConclusive

/-- The same answer to a trial of the other kind. -/
def flipped (o : Observation) : Observation :=
  { o with trial := { o.trial with leadingZero := .bool (!o.hasLeadingZero) } }

@[simp] theorem answer_flipped (o : Observation) : o.flipped.answer = o.answer := rfl

@[simp] theorem hasLeadingZero_flipped (o : Observation) :
    o.flipped.hasLeadingZero = !o.hasLeadingZero := rfl

end Observation

/-- All conclusive observations have the same answer. -/
def Uniform (os : List Observation) : Prop :=
  ∀ x ∈ os, ∀ y ∈ os, x.isConclusive = true → y.isConclusive = true →
    x.answer.same y.answer = true

section Differ

variable {os : List Observation}

/-- Observations in which no two of different groups are unequal are evidence of one thing, if each
group has a conclusive one: whatever is in one group has to agree with that one of the other. -/
theorem evidence_of_not_differ (hnot : ¬Differ Answer.compareValue os) {x y z : Observation}
    (hx : x ∈ os) (hzero : x.hasLeadingZero = true) {e : Fingerprint}
    (hxe : x.answer.evidence? = some e) (hy : y ∈ os) (hother : y.hasLeadingZero = false)
    {e' : Fingerprint} (hye : y.answer.evidence? = some e') (hz : z ∈ os) {e'' : Fingerprint}
    (hze : z.answer.evidence? = some e'') : e'' = e := by
  have hcross : ∀ v ∈ os, ∀ w ∈ os, v.hasLeadingZero = true → w.hasLeadingZero = false →
      ∀ d d', v.answer.evidence? = some d → w.answer.evidence? = some d' → d = d' := by
    intro v hv w hw hvzero hwother d d' hd hd'
    by_contra hne
    exact hnot (differ_compareValue.2 ⟨v, hv, w, hw, hvzero, hwother,
      (Answer.compare_eq_unequal_iff _ _).2 ⟨d, d', hd, hd', hne⟩⟩)
  cases hkind : z.hasLeadingZero with
  | true =>
    rw [hcross z hz y hy hkind hother _ _ hze hye, hcross x hx y hy hzero hother _ _ hxe hye]
  | false => rw [hcross x hx z hz hzero hkind _ _ hxe hze]

/-- Two observations of different groups are unequal exactly if both groups have a conclusive one
and the conclusive ones are not all the same. -/
theorem differ_iff_not_uniform : Differ Answer.compareValue os ↔
    (∃ x ∈ os, x.hasLeadingZero = true ∧ x.isConclusive = true)
      ∧ (∃ y ∈ os, y.hasLeadingZero = false ∧ y.isConclusive = true) ∧ ¬Uniform os := by
  constructor
  · intro hdiffer
    obtain ⟨x, hx, y, hy, hzero, hother, hunequal⟩ := differ_compareValue.1 hdiffer
    obtain ⟨e, e', he, he', hne⟩ := (Answer.compare_eq_unequal_iff _ _).1 hunequal
    have hcx := Answer.isConclusive_of_evidence he
    have hcy := Answer.isConclusive_of_evidence he'
    refine ⟨⟨x, hx, hzero, hcx⟩, ⟨y, hy, hother, hcy⟩, fun huniform => hne ?_⟩
    exact (Answer.same_iff_evidence he he').1 (huniform x hx y hy hcx hcy)
  · rintro ⟨⟨x, hx, hzero, hcx⟩, ⟨y, hy, hother, hcy⟩, hvaried⟩
    by_contra hnot
    obtain ⟨e, he⟩ := Answer.exists_evidence hcx
    obtain ⟨e', he'⟩ := Answer.exists_evidence hcy
    apply hvaried
    intro v hv w hw hcv hcw
    obtain ⟨d, hd⟩ := Answer.exists_evidence hcv
    obtain ⟨d', hd'⟩ := Answer.exists_evidence hcw
    rw [Answer.same_iff_evidence hd hd',
      evidence_of_not_differ hnot hx hzero he hy hother he' hv hd,
      evidence_of_not_differ hnot hx hzero he hy hother he' hw hd']

/-- Observations that are not conclusive do not matter. -/
theorem differ_filter_isConclusive (os : List Observation) :
    Differ Answer.compareValue (os.filter (·.isConclusive)) ↔ Differ Answer.compareValue os := by
  constructor
  · exact Differ.mono (List.filter_subset_self _)
  · intro hdiffer
    obtain ⟨x, hx, y, hy, hzero, hother, hunequal⟩ := differ_compareValue.1 hdiffer
    obtain ⟨e, e', he, he', -⟩ := (Answer.compare_eq_unequal_iff _ _).1 hunequal
    have hcx : x.isConclusive = true := Answer.isConclusive_of_evidence he
    have hcy : y.isConclusive = true := Answer.isConclusive_of_evidence he'
    exact differ_compareValue.2 ⟨x, List.mem_filter.2 ⟨hx, hcx⟩, y, List.mem_filter.2 ⟨hy, hcy⟩,
      hzero, hother, hunequal⟩

/-- Which of the two kinds of trials is which does not matter. -/
theorem differ_map_flipped (os : List Observation) :
    Differ Answer.compareValue (os.map Observation.flipped) ↔ Differ Answer.compareValue os := by
  rw [differ_compareValue, differ_compareValue]
  constructor
  · rintro ⟨x', hx', y', hy', hzero, hother, hunequal⟩
    obtain ⟨x, hx, rfl⟩ := List.mem_map.1 hx'
    obtain ⟨y, hy, rfl⟩ := List.mem_map.1 hy'
    exact ⟨y, hy, x, hx, by simpa using hother, by simpa using hzero,
      Answer.compare_eq_unequal_comm.1 hunequal⟩
  · rintro ⟨x, hx, y, hy, hzero, hother, hunequal⟩
    exact ⟨y.flipped, List.mem_map_of_mem hy, x.flipped, List.mem_map_of_mem hx, by simp [hother],
      by simp [hzero], Answer.compare_eq_unequal_comm.1 hunequal⟩

end Differ

/-! ## Classifications -/

namespace Finding

variable (f : Finding)

theorem exists_zeros {p : Observation → Prop} :
    (∃ x ∈ f.zeros, p x) ↔ ∃ x ∈ f.observations, x.hasLeadingZero = true ∧ p x := by
  simp only [zeros, List.mem_filter, and_assoc]

theorem exists_others {p : Observation → Prop} :
    (∃ y ∈ f.others, p y) ↔ ∃ y ∈ f.observations, y.hasLeadingZero = false ∧ p y := by
  simp only [others, List.mem_filter, and_assoc, Bool.not_eq_true']

/-- The two groups together are all observations. -/
theorem mem_groups {x : Observation} : x ∈ f.zeros ++ f.others ↔ x ∈ f.observations := by
  cases h : x.hasLeadingZero <;> simp [zeros, others, h]

theorem uniform_groups : Uniform (f.zeros ++ f.others) ↔ Uniform f.observations := by
  simp only [Uniform, mem_groups]

end Finding

/-- Two findings that come to the same when they are classified, in whatever sessions: something is
found in both or in neither, and if they were escalated alike they have the same result. -/
def ClassifiedAlike (c : Collaborators σ) (f g : Finding) : Prop :=
  ∀ s t : Session σ, ∃ f' s' g' t', f.conclude c s = .ok f' s' ∧ g.conclude c t = .ok g' t'
    ∧ f'.contrast.isSome = g'.contrast.isSome
    ∧ (f.escalated = g.escalated → f'.result = g'.result)

section

variable (horacle : ComparesBy Answer.compareValue c)
include horacle

theorem classifiedAlike_of_differ {f g : Finding}
    (h : Differ Answer.compareValue f.observations ↔ Differ Answer.compareValue g.observations) :
    ClassifiedAlike c f g := by
  intro s t
  obtain ⟨s', hf⟩ := Finding.conclude_of_comparesBy horacle f s
  obtain ⟨t', hg⟩ := Finding.conclude_of_comparesBy horacle g t
  refine ⟨_, s', _, t', hf, hg, ?_, Finding.result_congr h⟩
  show (contrastOf _ f.observations).isSome = (contrastOf _ g.observations).isSome
  rw [Bool.eq_iff_iff, isSome_contrastOf, isSome_contrastOf, h]

/-- With the default comparison a classification finds something exactly if both groups have a
conclusive observation and the conclusive ones of both are not all the same. So observations that
are not conclusive may come and go, the order may change and the two kinds of trials be exchanged,
and the classification comes to the same. Any two conclusive observations of one group that differ
are detected as soon as the other group has a conclusive one. -/
theorem default_comparison_detects :
    (∀ (f : Finding) (s : Session σ), ∃ f' s', f.conclude c s = .ok f' s'
      ∧ (f'.contrast.isSome = true ↔ (∃ x ∈ f.zeros, x.isConclusive = true)
        ∧ (∃ y ∈ f.others, y.isConclusive = true) ∧ ¬Uniform (f.zeros ++ f.others)))
      ∧ (∀ f g : Finding, (f.observations.filter (·.isConclusive)).Perm
          (g.observations.filter (·.isConclusive)) → ClassifiedAlike c f g)
      ∧ (∀ f g : Finding, g.observations = f.observations.map Observation.flipped →
        ClassifiedAlike c f g)
      ∧ ∀ (f : Finding) (s : Session σ), ∀ x ∈ f.observations, ∀ y ∈ f.observations,
        ∀ z ∈ f.observations, x.hasLeadingZero = y.hasLeadingZero →
        z.hasLeadingZero = !x.hasLeadingZero → x.isConclusive = true → y.isConclusive = true →
        z.isConclusive = true → x.answer.same y.answer = false →
        ∃ f' s', f.conclude c s = .ok f' s' ∧ f'.contrast.isSome = true := by
  refine ⟨?_, ?_, ?_, ?_⟩
  · intro f s
    obtain ⟨s', h⟩ := Finding.conclude_of_comparesBy horacle f s
    refine ⟨_, s', h, ?_⟩
    show (contrastOf Answer.compareValue f.observations).isSome = true ↔ _
    rw [isSome_contrastOf, differ_iff_not_uniform, Finding.uniform_groups, Finding.exists_zeros,
      Finding.exists_others]
  · intro f g hperm
    apply classifiedAlike_of_differ horacle
    rw [← differ_filter_isConclusive f.observations, ← differ_filter_isConclusive g.observations]
    exact differ_perm hperm
  · intro f g hflipped
    apply classifiedAlike_of_differ horacle
    rw [hflipped]
    exact (differ_map_flipped f.observations).symm
  · intro f s x hx y hy z hz hkind hother hcx hcy hcz hunequal
    obtain ⟨s', h⟩ := Finding.conclude_of_comparesBy horacle f s
    refine ⟨_, s', h, isSome_contrastOf.2 (differ_iff_not_uniform.2 ?_)⟩
    have hvaried : ¬Uniform f.observations := by
      intro huniform
      have hsame := huniform x hx y hy hcx hcy
      rw [hunequal] at hsame
      contradiction
    cases hzero : x.hasLeadingZero with
    | true => exact ⟨⟨x, hx, hzero, hcx⟩, ⟨z, hz, by rw [hother, hzero]; rfl, hcz⟩, hvaried⟩
    | false => exact ⟨⟨z, hz, by rw [hother, hzero]; rfl, hcz⟩, ⟨x, hx, hzero, hcx⟩, hvaried⟩

end

/-- That the two alerts with a leading zero byte differ is detected, though one of them agrees with
the alert without. -/
theorem lateTimeout_detected :
    ComparesBy Answer.compareValue Collaborators.steady
      ∧ ∃ f s, Draft.lateTimeout.finding.conclude Collaborators.steady ⟨0, none, #[]⟩ = .ok f s
        ∧ f.contrast.isSome = true := by
  have horacle : ComparesBy Answer.compareValue Collaborators.steady := fun _ _ _ => rfl
  obtain ⟨-, -, -, hdetects⟩ := default_comparison_detects horacle
  refine ⟨horacle, ?_⟩
  refine hdetects Draft.lateTimeout.finding ⟨0, none, #[]⟩ (.ofAlert true .closed) ?_
    (.ofAlert true .timeout) ?_ (.ofAlert false .closed) ?_ rfl rfl rfl rfl rfl rfl
  · exact List.mem_cons_self
  · exact List.mem_cons_of_mem _ List.mem_cons_self
  · exact List.mem_cons_of_mem _ (List.mem_cons_of_mem _ List.mem_cons_self)

end LeadingZero
