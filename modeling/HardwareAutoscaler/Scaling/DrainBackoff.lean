/-
  HardwareAutoscaler.Scaling.DrainBackoff
  ───────────────────────────────────────
  MACHINES WHOSE DRAIN HAS FAILED.

  `drainFailureBackoffSeconds` is tested while the unneeded timers are
  computed: a machine within its backoff has no timer.  A pool above
  `maxOnline` and a machine past its release time do without a timer, and
  neither looks at the backoff.

    • `isEligible_of_inBackoff` — what makes a machine within its backoff
      eligible,
    • `passesOver` — the removal loop, gone through without the machines
      within their backoff,
    • `backoff_respected_iff` — when no machine within its backoff goes.
-/
import HardwareAutoscaler.Scaling.Bounds

namespace HardwareAutoscaler

open Std (TreeMap TreeSet)

namespace PoolSnapshot

variable {s : PoolSnapshot}

/-! ## §1. Within the backoff. -/

/-- The drain of `m` failed less than `drainFailureBackoffSeconds` ago. -/
def drainFailed (s : PoolSnapshot) (m : Member) : Bool :=
  m.drainFailedAt.any (fun t =>
    s.now - t < seconds s.spec.scaleDown.drainFailureBackoffSeconds.toNat)

/-- A machine named `n` is within its backoff. -/
def inBackoff (s : PoolSnapshot) (n : String) : Bool :=
  s.members.any (fun m => m.name == n && s.drainFailed m)

theorem inBackoff_iff {n : String} :
    s.inBackoff n = true ↔ ∃ m ∈ s.members, m.name = n ∧ s.drainFailed m = true := by
  unfold inBackoff
  simp only [List.any_eq_true, Bool.and_eq_true, beq_iff_eq]

/-- Within the backoff a machine is not unneeded, unless the backoff is so
large that its cast to `i64` is negative. -/
theorem downStatus_of_drainFailed {m : Member} {t : Int} (h : s.drainFailed m = true)
    (hfit : s.spec.scaleDown.drainFailureBackoffSeconds.toNat < 2 ^ 63) :
    s.downStatus m ≠ .unneeded t := by
  have hbackoff : s.backoff = seconds s.spec.scaleDown.drainFailureBackoffSeconds.toNat := by
    unfold backoff
    rw [asI64_of_lt hfit]
  obtain ⟨f, hf, hlt⟩ := (Option.any_eq_true _ _).mp h
  have hfilter : m.drainFailedAt.filter (fun t => s.now - t < s.backoff) = some f := by
    rw [hf, hbackoff, Option.filter_some]
    exact if_pos hlt
  intro hst
  unfold downStatus at hst
  rw [hfilter] at hst
  split at hst
  · cases hst
  · split at hst
    · cases hst
    · cases hst

/-- **What makes a machine within its backoff eligible**: the pool above
`maxOnline`, its release time, or a timer if the backoff does not fit `i64`. -/
theorem isEligible_of_inBackoff (hd : s.DistinctMembers) {m : Member} (hm : m ∈ s.candidates)
    (hback : s.drainFailed m = true) :
    s.isEligible m = true ↔ m.blockingPods = [] ∧ (0 < s.overMax ∨
      (∃ t, m.releaseAfter = some t ∧ t ≤ s.now) ∨
      2 ^ 63 ≤ s.spec.scaleDown.drainFailureBackoffSeconds.toNat ∧ s.expired m = true) := by
  have hreleased : s.released m = true ↔
      m.blockingPods = [] ∧ ∃ t, m.releaseAfter = some t ∧ t ≤ s.now := by
    unfold released
    simp only [Bool.and_eq_true, Option.any_eq_true, decide_eq_true_eq, List.isEmpty_iff, ge_iff_le]
    exact And.comm
  -- within the backoff no timer runs, unless the cast makes the backoff negative
  have hexpired : s.expired m = true →
      2 ^ 63 ≤ s.spec.scaleDown.drainFailureBackoffSeconds.toNat := by
    intro hexp
    by_contra hfit
    unfold expired at hexp
    obtain ⟨t, ht, _⟩ := (Option.any_eq_true _ _).mp hexp
    obtain ⟨m', hm', hname, hst⟩ := newUnneededSince_some ht
    have hsame : m' = m := hd.eq_of_name (mem_candidates.mp hm').1 (mem_candidates.mp hm).1 hname
    rw [hsame] at hst
    exact downStatus_of_drainFailed hback (by omega) hst
  constructor
  · -- by the three ways to be eligible
    intro helig
    refine ⟨blockingPods_of_isEligible hd hm helig, ?_⟩
    unfold isEligible at helig
    simp only [Bool.or_eq_true, Bool.and_eq_true, decide_eq_true_eq] at helig
    rcases helig with (hover | hexp) | hrel
    · exact Or.inl hover.1
    · exact Or.inr (Or.inr ⟨hexpired hexp, hexp⟩)
    · exact Or.inr (Or.inl (hreleased.mp hrel).2)
  · intro h
    obtain ⟨hblock, hwhy⟩ := h
    unfold isEligible
    simp only [Bool.or_eq_true, Bool.and_eq_true, decide_eq_true_eq]
    rcases hwhy with hover | hrel | hexp
    · exact Or.inl (Or.inl ⟨hover, by simp [hblock]⟩)
    · exact Or.inr (hreleased.mpr ⟨hblock, hrel⟩)
    · exact Or.inl (Or.inr hexp.2)

/-! ## §2. States that agree. -/

/-- Two states that agree on all that later turns look at. -/
structure SameRoom (st st' : DownState) : Prop where
  free : st.free = st'.free
  removed : st.removed = st'.removed

theorem SameRoom.takes_eq {st st' : DownState} (h : SameRoom st st') (m : Member) :
    s.takes st m = s.takes st' m := by
  unfold takes tryEvict
  rw [h.free, h.removed]

theorem SameRoom.step {st st' : DownState} (h : SameRoom st st') (m : Member) (rest rest' : List Member) :
    SameRoom (s.removeStep st m rest) (s.removeStep st' m rest') := by
  by_cases ht : s.takes st m = true
  · have hr := removes_of_takes rest ht
    have hr' := removes_of_takes rest' (by rw [← h.takes_eq]; exact ht)
    have htrial := hr.tryEvict
    have htrial' := hr'.tryEvict
    unfold tryEvict at htrial htrial'
    rw [h.free, h.removed, htrial'] at htrial
    exact ⟨(Option.some.inj htrial).symm, by rw [hr.removed, hr'.removed, h.removed]⟩
  · have hk := keeps_of_not_takes rest (by simpa using ht)
    have hk' := keeps_of_not_takes rest' (by rw [← h.takes_eq]; simpa using ht)
    exact ⟨by rw [hk.free, hk'.free, h.free], by rw [hk.removed, hk'.removed, h.removed]⟩

/-! ## §3. The loop without the machines in backoff. -/

/-- Goes through the machines as the removal loop does, but passes over those
within their backoff; `false` as soon as one of these would be taken. -/
def passesOver (s : PoolSnapshot) : DownState → List Member → Bool
  | _, [] => true
  | st, m :: rest =>
    if s.inBackoff m.name then !s.takes st m && s.passesOver st rest
    else s.passesOver (s.removeStep st m rest) rest

theorem SameRoom.passesOver_eq (l : List Member) :
    ∀ {st st' : DownState}, SameRoom st st' → s.passesOver st l = s.passesOver st' l := by
  induction l with
  | nil => intro st st' _; rfl
  | cons m rest ih =>
    intro st st' h
    unfold passesOver
    rw [h.takes_eq, ih h, ih (h.step m rest rest)]

/-- While none within its backoff is removed, passing over them is the loop
with a limit of none. -/
theorem passesOver_eq (l : List Member) :
    ∀ {st : DownState}, s.Counted st → st.flagged s.inBackoff = ∅ →
      s.passesOver st l = s.staysWithin s.inBackoff 0 st l := by
  induction l with
  | nil => intro st _ _; rfl
  | cons m rest ih =>
    intro st h hnone
    unfold passesOver staysWithin
    have hstep := flagged_step s.inBackoff h m rest
    by_cases hm : s.inBackoff m.name = true
    · have hnot : st.removed.contains m.name = false := by
        rw [Bool.eq_false_iff]
        intro hc
        have hin : m.name ∈ st.flagged s.inBackoff :=
          Finset.mem_filter.mpr ⟨(h.removed_iff _).mp (TreeSet.contains_iff_mem.mp hc), hm⟩
        rw [hnone] at hin
        simp at hin
      by_cases ht : s.takes st m = true
      · simp [hm, ht, hnot]
      -- kept on its turn, so the states still agree
      · have hkept : s.takes st m = false := by simpa using ht
        have hk := keeps_of_not_takes rest hkept
        have hsame : SameRoom st (s.removeStep st m rest) := ⟨hk.free.symm, hk.removed.symm⟩
        rw [hkept, hnone] at hstep
        have hnone' : (s.removeStep st m rest).flagged s.inBackoff = ∅ := by
          simpa using hstep
        simp [hm, hkept, hsame.passesOver_eq rest, ih (h.step m rest) hnone']
    · rw [hnone] at hstep
      have hnone' : (s.removeStep st m rest).flagged s.inBackoff = ∅ := by
        simpa [hm] using hstep
      simp [hm, ih (h.step m rest) hnone']

/-- **No machine within its backoff is powered off exactly when** the plan may
not scale down, or each of them that is eligible fails a test on its turn; and
those eligible are so by the excess over `maxOnline` or by their release time. -/
theorem backoff_respected_iff (s : PoolSnapshot) :
    ((∀ m ∈ s.members, ∀ t, m.drainFailedAt = some t →
        s.now - t < seconds s.spec.scaleDown.drainFailureBackoffSeconds.toNat →
        m.name ∉ (plan s).powerOff.map (·.1)) ↔
      (s.mayScaleDown = true → s.passesOver { free := s.freeAtStart } s.eligible = true)) ∧
    (s.DistinctMembers → ∀ m ∈ s.candidates, s.drainFailed m = true →
      (s.isEligible m = true ↔ m.blockingPods = [] ∧ (0 < s.overMax ∨
        (∃ t, m.releaseAfter = some t ∧ t ≤ s.now) ∨
        2 ^ 63 ≤ s.spec.scaleDown.drainFailureBackoffSeconds.toNat ∧ s.expired m = true))) := by
  refine ⟨?_, fun hd m hm hback => isEligible_of_inBackoff hd hm hback⟩
  -- the claim, by name
  have hnames : (∀ m ∈ s.members, ∀ t, m.drainFailedAt = some t →
      s.now - t < seconds s.spec.scaleDown.drainFailureBackoffSeconds.toNat →
      m.name ∉ (plan s).powerOff.map (·.1)) ↔
      ∀ n, s.inBackoff n = true → n ∉ s.scaledDown.names := by
    constructor
    · intro h n hback hn
      obtain ⟨m, hm, hname, hfailed⟩ := inBackoff_iff.mp hback
      obtain ⟨t, ht, hlt⟩ := (Option.any_eq_true _ _).mp hfailed
      rw [← hname] at hn
      exact h m hm t ht (of_decide_eq_true hlt) (List.mem_toFinset.mp hn)
    · intro h m hm t ht hlt hn
      have hback : s.inBackoff m.name = true :=
        inBackoff_iff.mpr ⟨m, hm, rfl, by unfold drainFailed; rw [ht]; exact decide_eq_true hlt⟩
      exact h m.name hback (List.mem_toFinset.mpr hn)
  rw [hnames]
  have hstart : (({ free := s.freeAtStart } : DownState)).flagged s.inBackoff = ∅ := by
    simp [DownState.flagged, DownState.names]
  rw [passesOver_eq s.eligible (counted_start s) hstart, ← powerOff_flagged_le_iff,
    Nat.le_zero, Finset.card_eq_zero, Finset.filter_eq_empty_iff]
  exact ⟨fun h n hn hback => h n hback hn, fun h n hback hn => h hn hback⟩

/-- Two machines without pods, the drain of `b` failed a minute ago; one more
than `maxOnline`, or `b` past its release time. -/
def drainFailedPair (maxOnline : Nat) (releaseAfter : Option Int) : PoolSnapshot where
  spec := { maxOnline := some maxOnline }
  members :=
    [{ name := "a", state := .online, auto := true },
     { name := "b", state := .online, auto := true, drainFailedAt := some (seconds 3540)
       releaseAfter := releaseAfter }]
  now := seconds 3600

/-- **`b` is powered off within its backoff**, by the excess and by its
release time; by neither it stays. -/
theorem backoff_passed :
    (∃ m ∈ (drainFailedPair 1 none).members, m.name = "b" ∧
      m.drainFailedAt = some (seconds 3540) ∧
      seconds 3600 - seconds 3540
        < seconds (drainFailedPair 1 none).spec.scaleDown.drainFailureBackoffSeconds.toNat) ∧
    (plan (drainFailedPair 1 none)).powerOff.map (·.1) = ["b"] ∧
    (plan (drainFailedPair 2 (some 0))).powerOff.map (·.1) = ["b"] ∧
    (plan (drainFailedPair 2 none)).powerOff.map (·.1) = [] := by
  decide +kernel

end PoolSnapshot

end HardwareAutoscaler
