/-
  HardwareAutoscaler.Controller.Waits
  ───────────────────────────────────
  HOW LONG A WAIT MAY BE.

  The waits and timeouts of a pool and of a machine are unsigned 64-bit numbers
  of seconds.  The code casts each to `i64`, and then makes a duration of it,
  adds it to a date, or compares it as it is; very long ones turn negative or
  fail.

    • `PoolSnapshot.planTimed`, `classifyTimed` — `plan` and `classify` with
      the time operations that can fail,
    • `PlanTimely`, `ClassifyTimely`, `ManualChangeTimely`, `BootTimely`,
      `AttemptTimely` — nothing fails, and what the functions decide by a wait
      they decide as with the unbounded number,
    • `Respected`, `Within` — for all ordinary inputs; the bounds,
    • `NeverEarlier` — a longer wait delays what it is to delay,
    • `respected_iff` — the waits that are respected are those within bounds.
-/
import HardwareAutoscaler.Lib.Chrono
import HardwareAutoscaler.Scaling.Bounds
import HardwareAutoscaler.Controller.Machine.ManualChange
import HardwareAutoscaler.Controller.Pool.Member

namespace HardwareAutoscaler

open Lib (duration DateRange maxDurationSecs)

/-! ## §1. The cast of a wait. -/

/-- A wait of 2^63 or more is cast to a negative one. -/
theorem asI64_neg_of_ge {n : UInt64} (h : 2 ^ 63 ≤ n.toNat) : asI64 n < 0 := by
  have hlt := n.toNat_lt
  unfold asI64
  rw [Int64.toInt, UInt64.toBitVec_toInt64, BitVec.toInt_eq_toNat_cond]
  simp only [UInt64.toNat_toBitVec]
  split
  · omega
  · omega

/-- A wait that is cast to no negative one is below 2^63. -/
theorem lt_of_asI64_nonneg {n : UInt64} (h : 0 ≤ asI64 n) : n.toNat < 2 ^ 63 := by
  by_contra hge
  have hneg := asI64_neg_of_ge (n := n) (by omega)
  omega

/-- The shutdown timeout and 300 s, as the wrapping sum has it. -/
theorem wrapped_sum_ge {n : UInt64} :
    (300 : Int) ≤ ((Int64.ofInt (asI64 n)) + 300).toInt ↔ n.toNat + 300 < 2 ^ 63 := by
  have hlt := n.toNat_lt
  have h300 : Int64.toInt 300 = 300 := by decide
  unfold asI64
  rw [Int64.ofInt_toInt, Int64.toInt_add, h300, Int64.toInt, UInt64.toBitVec_toInt64,
    BitVec.toInt_eq_toNat_cond, Int.bmod_def]
  simp only [UInt64.toNat_toBitVec]
  split <;> split <;> omega

/-! ## §2. The operations that can fail. -/

namespace PoolSnapshot

variable (z : DateRange) (s : PoolSnapshot)

/-- The note of a candidate, which adds a wait to a date in two cases. -/
def noteTimed (m : Member) : Option Note :=
  match s.downStatus m with
  | .drainFailed t => (z.add t s.backoff).map (fun _ => s.downNote m)
  | .unneeded since =>
    if s.now - since ≥ s.unneededFor then some (s.downNote m)
    else (z.add since s.unneededFor).map (fun _ => s.downNote m)
  | _ => some (s.downNote m)

/-- Until when the pool is held, if a power-on is known. -/
def holdTimed : Option (Option Int) :=
  match s.lastPowerOn with
  | none => some none
  | some l => (z.deadline l (asI64 s.spec.scaleDown.holdAfterPowerOn)).map some

/-- `plan`, with everything in it that can fail. -/
def planTimed : Option Plan := do
  let _ ← duration (asI64 s.spec.scaleUp.pendingPodGraceSeconds)
  let _ ← duration (asI64 s.spec.scaleDown.drainFailureBackoffSeconds)
  let _ ← duration (asI64 s.spec.scaleDown.unneededSeconds)
  let _ ← s.candidates.mapM (s.noteTimed z)
  let _ ← s.holdTimed z
  s.planChecked

end PoolSnapshot

/-- `now < t + secs(n)`. -/
def beforeTimed (z : DateRange) (t : Int) (n : UInt64) (now : Int) : Option Bool :=
  (z.deadline t (asI64 n)).map (fun until_ => decide (now < until_))

/-- Whether the boot failure backoff runs. -/
def backoffTimed (z : DateRange) (st : NodePowerManagementConfigStatus)
    (spec : NodeScalingPoolSpec) (now : Int) : Option Bool :=
  match st.bootFailure.filter (!·.leftOn) with
  | some f => beforeTimed z f.time spec.scaleUp.bootFailureBackoffSeconds now
  | none => some false

/-- Whether the cooldown after a manual power-off runs. -/
def cooldownTimed (z : DateRange) (off : ManualPowerChange) (cooldownSecs : UInt64) (now : Int) :
    Option Bool :=
  if cooldownSecs > 0 then beforeTimed z off.time cooldownSecs now else some false

/-- `classify`, with everything in it that can fail. -/
def classifyTimed (z : DateRange) (st : NodePowerManagementConfigStatus) (base : MemberState)
    (policy : ManualPowerOnPolicy) (spec : NodeScalingPoolSpec)
    (bootTimeoutSecs cooldownSecs : UInt64) (now : Int) : Option Special := do
  let special := classify st base policy spec bootTimeoutSecs cooldownSecs now
  if st.phase = .bootFailed ∧ st.bootFailure.isSome then return special
  if base = .offline then
    let held ← backoffTimed z st spec now
    if held then return special
    match st.manualPowerOff with
    | none => return special
    | some off =>
      let cooling ← cooldownTimed z off cooldownSecs now
      if cooling then return special
      let _ ← z.add off.time (seconds 600)
      return special
  else
    match st.manualPowerOn, policy with
    | some on, .powerOff =>
      let _ ← z.deadline on.time (asI64 spec.manualPowerOnGraceSeconds)
      return special
    | _, _ => return special

/-! ## §3. Timely decisions. -/

/-- **`plan` is timely**: no wait makes it fail (the lookups of `planChecked` do
only where names clash), and the pods that count, the machines in backoff, those
whose time is up and the hold of the pool are what they are with unbounded
numbers. -/
structure PlanTimely (z : DateRange) (s : PoolSnapshot) : Prop where
  timed : s.planTimed z = s.planChecked
  noPanic : s.CandidatesApart → s.planTimed z = some (plan s)
  grace : ∀ p, p ∈ s.selected ↔ p ∈ s.pending ∧
    (∀ c, p.created = some c →
      s.now - c ≥ seconds s.spec.scaleUp.pendingPodGraceSeconds.toNat) ∧
    (s.spec.scaleUp.requireExplicitSelection = true →
      p.explicitlySelects s.spec.nodeSelector = true)
  backoff : ∀ m t, s.downStatus m = .drainFailed t ↔
    waitingForRegistration m s.selected = none ∧ m.blockingPods = [] ∧ m.drainFailedAt = some t ∧
      s.now - t < seconds s.spec.scaleDown.drainFailureBackoffSeconds.toNat
  unneeded : ∀ m, s.expired m = true ↔ ∃ since, s.newUnneededSince[m.name]? = some since ∧
    s.now - since ≥ seconds s.spec.scaleDown.unneededSeconds.toNat
  hold : ∀ until_, s.holdUntil = some until_ ↔ ∃ l, s.lastPowerOn = some l ∧
    until_ = l + seconds s.spec.scaleDown.holdAfterPowerOn.toNat ∧ s.now < until_

/-- **`classify` is timely**: a machine that is off is unavailable, and one
powered on by hand is released, as with unbounded numbers. -/
structure ClassifyTimely (z : DateRange) (st : NodePowerManagementConfigStatus)
    (base : MemberState) (policy : ManualPowerOnPolicy) (spec : NodeScalingPoolSpec)
    (bootTimeoutSecs cooldownSecs : UInt64) (now : Int) : Prop where
  noPanic : classifyTimed z st base policy spec bootTimeoutSecs cooldownSecs now
    = some (classify st base policy spec bootTimeoutSecs cooldownSecs now)
  unavailable : base = .offline → (st.phase = .bootFailed → st.bootFailure = none) →
    ((classify st base policy spec bootTimeoutSecs cooldownSecs now).state = some .unavailable ↔
      (∃ f, st.bootFailure = some f ∧ f.leftOn = false ∧
        now < f.time + seconds spec.scaleUp.bootFailureBackoffSeconds.toNat) ∨
      ∃ off, st.manualPowerOff = some off ∧ 0 < cooldownSecs.toNat ∧
        now < off.time + seconds cooldownSecs.toNat)
  grace : ∀ t,
    (classify st base policy spec bootTimeoutSecs cooldownSecs now).releaseAfter = some t ↔
      base ≠ .offline ∧ (st.phase = .bootFailed → st.bootFailure = none) ∧ policy = .powerOff ∧
        ∃ on, st.manualPowerOn = some on ∧
          t = on.time + seconds spec.manualPowerOnGraceSeconds.toNat

/-- **`detectManualChange` is timely**: it takes an action for its own as long as
the unbounded timeout says. -/
structure ManualChangeTimely (st : NodePowerManagementConfigStatus) (now : Int)
    (bootTimeoutSecs shutdownTimeoutSecs : UInt64) : Prop where
  on : ourOn st now bootTimeoutSecs = true ↔
    ∃ age, actionAge st (!·.isOff) now = some age ∧ age ≤ bootTimeoutSecs.toNat
  off : ourOff st now shutdownTimeoutSecs = true ↔
    ∃ age, actionAge st (·.isOff) now = some age ∧ age ≤ shutdownTimeoutSecs.toNat + 300

/-- **`trackBoot` is timely**: it reports a failure when a new boot has lasted
longer than the unbounded timeout. -/
def BootTimely (st : NodePowerManagementConfigStatus) (now : Int) (bootTimeoutSecs : UInt64) :
    Prop :=
  (trackBoot st now bootTimeoutSecs).2 = .failed ↔
    st.nodeReady = false ∧ isBooting st = true ∧
      (∀ f, st.bootFailure = some f → f.time < st.poweredOnNotReadySince.getD (bootStart st now)) ∧
      bootTimeoutSecs.toNat < numSeconds (now - st.poweredOnNotReadySince.getD (bootStart st now))

/-- **`powerOnAttempt` is timely**: an attempt expires when it has lasted longer
than the unbounded timeout. -/
def AttemptTimely (st : NodePowerManagementConfigStatus) (now : Int)
    (policy : PowerOnFailurePolicy) (timeoutSeconds : UInt64) : Prop :=
  powerOnAttempt st now policy timeoutSeconds = .expired ↔
    policy ≠ .retry ∧ st.nodeReady = false ∧
      ¬ (st.powerState = .on ∧ st.standbySince = none) ∧
      ∃ d, st.scalingDecision = some d ∧ d.target = .on ∧
        timeoutSeconds.toNat < numSeconds (now - d.time)

/-! ## §4. Ordinary inputs. -/

/-- The dates that exist, and the ordinary ones among them: no timestamp lies
near the ends of the calendar, nor are all within five minutes. -/
structure Era extends DateRange where
  earliest : Int
  latest : Int
  first_le : first ≤ earliest
  wide : earliest + seconds 300 ≤ latest
  le_last : latest + seconds 600 ≤ last

namespace Era

variable (e : Era)

/-- A time between the two ends. -/
def Ordinary (t : Int) : Prop := e.earliest ≤ t ∧ t ≤ e.latest

/-- The times of a snapshot are ordinary. -/
structure OrdinarySnapshot (s : PoolSnapshot) : Prop where
  now : e.Ordinary s.now
  created : ∀ p ∈ s.pending, ∀ c, p.created = some c → e.Ordinary c
  drainFailedAt : ∀ m ∈ s.members, ∀ t, m.drainFailedAt = some t → e.Ordinary t
  adoptedAt : ∀ m ∈ s.members, ∀ t, m.adoptedAt = some t → e.Ordinary t
  unneededSince : ∀ (n : String) (t : Int), s.unneededSince[n]? = some t → e.Ordinary t
  lastScaleUp : ∀ t, s.lastScaleUp = some t → e.Ordinary t

/-- The times of a status are ordinary. -/
structure OrdinaryStatus (st : NodePowerManagementConfigStatus) : Prop where
  bootFailure : ∀ f, st.bootFailure = some f → e.Ordinary f.time
  manualPowerOff : ∀ c, st.manualPowerOff = some c → e.Ordinary c.time
  manualPowerOn : ∀ c, st.manualPowerOn = some c → e.Ordinary c.time
  lastPowerAction : ∀ a, st.lastPowerAction = some a → e.Ordinary a.time
  phaseSince : ∀ t, st.phaseSince = some t → e.Ordinary t
  poweredOnNotReadySince : ∀ t, st.poweredOnNotReadySince = some t → e.Ordinary t
  scalingDecision : ∀ d, st.scalingDecision = some d → e.Ordinary d.time

end Era

/-- The waits and timeouts of a pool and of a machine in it. -/
structure WaitSettings where
  pendingPodGrace : UInt64 := 30
  drainFailureBackoff : UInt64 := 1800
  unneeded : UInt64 := 600
  holdAfterPowerOn : UInt64 := 600
  bootFailureBackoff : UInt64 := 1800
  manualPowerOnGrace : UInt64 := 600
  cooldown : UInt64 := 0
  bootTimeout : UInt64 := 1200
  shutdownTimeout : UInt64 := 300
  powerOnTimeout : UInt64 := 1200

/-- A pool with these waits. -/
structure WaitSettings.Of (w : WaitSettings) (spec : NodeScalingPoolSpec) : Prop where
  pendingPodGrace : spec.scaleUp.pendingPodGraceSeconds = w.pendingPodGrace
  drainFailureBackoff : spec.scaleDown.drainFailureBackoffSeconds = w.drainFailureBackoff
  unneeded : spec.scaleDown.unneededSeconds = w.unneeded
  holdAfterPowerOn : spec.scaleDown.holdAfterPowerOn = w.holdAfterPowerOn
  bootFailureBackoff : spec.scaleUp.bootFailureBackoffSeconds = w.bootFailureBackoff
  manualPowerOnGrace : spec.manualPowerOnGraceSeconds = w.manualPowerOnGrace

/-- The pool with these waits, and its other settings as they are. -/
def NodeScalingPoolSpec.withWaits (spec : NodeScalingPoolSpec) (w : WaitSettings) :
    NodeScalingPoolSpec :=
  { spec with
    scaleUp :=
      { spec.scaleUp with
        pendingPodGraceSeconds := w.pendingPodGrace
        bootFailureBackoffSeconds := w.bootFailureBackoff }
    scaleDown :=
      { spec.scaleDown with
        drainFailureBackoffSeconds := w.drainFailureBackoff
        unneededSeconds := w.unneeded
        holdAfterPowerOnSeconds := some w.holdAfterPowerOn }
    manualPowerOnGraceSeconds := w.manualPowerOnGrace }

/-- The snapshot with other waits. -/
def PoolSnapshot.withWaits (s : PoolSnapshot) (w : WaitSettings) : PoolSnapshot :=
  { s with spec := s.spec.withWaits w }

/-- The waits that were set are the waits of the snapshot. -/
theorem WaitSettings.of_withWaits (w : WaitSettings) (spec : NodeScalingPoolSpec) :
    w.Of (spec.withWaits w) := ⟨rfl, rfl, rfl, rfl, rfl, rfl⟩

/-- **The waits are respected**: on all ordinary inputs nothing fails, and what
is decided by a wait is decided as if it were an unbounded number. -/
structure Respected (e : Era) (w : WaitSettings) : Prop where
  plan : ∀ s : PoolSnapshot, w.Of s.spec → e.OrdinarySnapshot s → PlanTimely e.toDateRange s
  classify : ∀ st base policy spec now, w.Of spec → e.OrdinaryStatus st → e.Ordinary now →
    ClassifyTimely e.toDateRange st base policy spec w.bootTimeout w.cooldown now
  manual : ∀ st now, e.OrdinaryStatus st → e.Ordinary now →
    ManualChangeTimely st now w.bootTimeout w.shutdownTimeout
  boot : ∀ st now, e.OrdinaryStatus st → e.Ordinary now → BootTimely st now w.bootTimeout
  attempt : ∀ st now policy, e.OrdinaryStatus st → e.Ordinary now →
    AttemptTimely st now policy w.powerOnTimeout

/-- A wait that can be made a duration, and added to every ordinary date. -/
def Era.Addable (e : Era) (n : UInt64) : Prop :=
  n.toNat ≤ maxDurationSecs ∧ e.latest + seconds n.toNat ≤ e.last

/-- **The bounds of the waits.** -/
structure WaitSettings.Within (w : WaitSettings) (e : Era) : Prop where
  pendingPodGrace : w.pendingPodGrace.toNat ≤ maxDurationSecs
  drainFailureBackoff : e.Addable w.drainFailureBackoff
  unneeded : e.Addable w.unneeded
  holdAfterPowerOn : e.Addable w.holdAfterPowerOn
  bootFailureBackoff : e.Addable w.bootFailureBackoff
  manualPowerOnGrace : e.Addable w.manualPowerOnGrace
  cooldown : e.Addable w.cooldown
  bootTimeout : w.bootTimeout.toNat < 2 ^ 63
  shutdownTimeout : w.shutdownTimeout.toNat + 300 < 2 ^ 63
  powerOnTimeout : w.powerOnTimeout.toNat < 2 ^ 63

/-! ## §5. Waits within bounds are respected. -/

section Within

variable {e : Era} {w : WaitSettings} {n : UInt64} {t : Int}

/-- A wait that a duration can hold is that duration. -/
theorem duration_of_le (h : n.toNat ≤ maxDurationSecs) :
    n.toNat < 2 ^ 63 ∧ duration (asI64 n) = some (seconds n.toNat) := by
  have hlt : n.toNat < 2 ^ 63 := by
    unfold maxDurationSecs at h
    omega
  refine ⟨hlt, ?_⟩
  rw [asI64_of_lt hlt]
  exact DateRange.duration_nat h

theorem Era.Addable.lt (h : e.Addable n) : n.toNat < 2 ^ 63 := (duration_of_le h.1).1

/-- A wait that can be added leads from an ordinary time to a date. -/
theorem Era.Addable.date (h : e.Addable n) (ht : e.Ordinary t) :
    e.first ≤ t + seconds n.toNat ∧ t + seconds n.toNat ≤ e.last := by
  have hfirst := e.first_le
  have hlast := h.2
  obtain ⟨hlow, hhigh⟩ := ht
  unfold seconds at hlast ⊢
  omega

/-- A wait within bounds can be added to every ordinary date. -/
theorem Era.Addable.add (h : e.Addable n) (ht : e.Ordinary t) :
    e.toDateRange.add t (seconds (asI64 n)) = some (t + seconds n.toNat) := by
  rw [asI64_of_lt h.lt]
  exact DateRange.add_eq (h.date ht)

/-- Its end is computed. -/
theorem Era.Addable.deadline (h : e.Addable n) (ht : e.Ordinary t) :
    e.toDateRange.deadline t (asI64 n) = some (t + seconds n.toNat) := by
  rw [asI64_of_lt h.lt]
  exact DateRange.deadline_nat h.1 (h.date ht)

end Within

namespace PoolSnapshot

variable {s : PoolSnapshot} {e : Era} {w : WaitSettings}

/-- **The grace of pending pods**, as a wait: who is selected. -/
theorem mem_selected_iff (h : s.spec.scaleUp.pendingPodGraceSeconds.toNat < 2 ^ 63) {p : PodView} :
    p ∈ s.selected ↔ p ∈ s.pending ∧
      (∀ c, p.created = some c →
        s.now - c ≥ seconds s.spec.scaleUp.pendingPodGraceSeconds.toNat) ∧
      (s.spec.scaleUp.requireExplicitSelection = true →
        p.explicitlySelects s.spec.nodeSelector = true) := by
  unfold selected
  rw [asI64_of_lt h]
  simp only [List.mem_filter, Option.all_eq_true, decide_eq_true_eq, Bool.or_eq_true,
    Bool.not_eq_true', and_assoc]
  cases s.spec.scaleUp.requireExplicitSelection <;> simp

/-- A machine in backoff, by the comparison of the code. -/
theorem downStatus_eq_drainFailed {m : Member} {t : Int} : s.downStatus m = .drainFailed t ↔
    waitingForRegistration m s.selected = none ∧ m.blockingPods = [] ∧ m.drainFailedAt = some t ∧
      s.now - t < s.backoff := by
  -- the code's order: registering, blocked by pods, drain failed, busy
  unfold downStatus
  split
  · rename_i note hnote
    rw [hnote]
    simp
  · rename_i hnone
    rw [hnone]
    split
    · rename_i hblock
      have hne : m.blockingPods ≠ [] := by simpa using hblock
      simp [hne]
    · rename_i hblock
      have hnil : m.blockingPods = [] := by simpa using hblock
      split
      · rename_i f hf
        obtain ⟨hat, hlt⟩ := Option.filter_eq_some_iff.mp hf
        simp only [decide_eq_true_eq] at hlt
        rw [hat]
        constructor
        · rintro ⟨rfl⟩
          exact ⟨rfl, hnil, rfl, hlt⟩
        · rintro ⟨_, _, he, _⟩
          rw [Option.some.inj he]
      · rename_i hf
        have hnot : ¬ (waitingForRegistration m s.selected = none ∧ m.blockingPods = [] ∧
            m.drainFailedAt = some t ∧ s.now - t < s.backoff) := by
          rintro ⟨_, _, hat, hlt⟩
          rw [hat, Option.filter_some, if_pos (decide_eq_true hlt)] at hf
          cases hf
        rw [hnone] at hnot
        split
        · exact iff_of_false (by simp) hnot
        · exact iff_of_false (by simp) hnot

/-- **The backoff after a failed drain**, as a wait: who is left alone. -/
theorem downStatus_drainFailed_iff
    (h : s.spec.scaleDown.drainFailureBackoffSeconds.toNat < 2 ^ 63) {m : Member} {t : Int} :
    s.downStatus m = .drainFailed t ↔ waitingForRegistration m s.selected = none ∧
      m.blockingPods = [] ∧ m.drainFailedAt = some t ∧
        s.now - t < seconds s.spec.scaleDown.drainFailureBackoffSeconds.toNat := by
  rw [downStatus_eq_drainFailed]
  unfold backoff
  rw [asI64_of_lt h]

/-- **The time to be unneeded**, as a wait: who goes. -/
theorem expired_iff (h : s.spec.scaleDown.unneededSeconds.toNat < 2 ^ 63) {m : Member} :
    s.expired m = true ↔ ∃ since, s.newUnneededSince[m.name]? = some since ∧
      s.now - since ≥ seconds s.spec.scaleDown.unneededSeconds.toNat := by
  unfold expired unneededFor
  rw [asI64_of_lt h]
  simp only [Option.any_eq_true, decide_eq_true_eq]

/-- **The hold after a power-on**, as a wait: until when the pool is held. -/
theorem holdUntil_eq_some_iff (h : s.spec.scaleDown.holdAfterPowerOn.toNat < 2 ^ 63)
    {until_ : Int} : s.holdUntil = some until_ ↔ ∃ l, s.lastPowerOn = some l ∧
      until_ = l + seconds s.spec.scaleDown.holdAfterPowerOn.toNat ∧ s.now < until_ := by
  unfold holdUntil
  rw [asI64_of_lt h, Option.filter_eq_some_iff, Option.map_eq_some_iff]
  simp only [decide_eq_true_eq]
  constructor
  · rintro ⟨⟨l, hl, rfl⟩, hlt⟩
    exact ⟨l, hl, rfl, hlt⟩
  · rintro ⟨l, hl, rfl, hlt⟩
    exact ⟨⟨l, hl, rfl⟩, hlt⟩

/-- An unneeded machine is so since its timer, or since now. -/
theorem since_of_downStatus {m : Member} {since : Int} (h : s.downStatus m = .unneeded since) :
    since = s.unneededSince[m.name]?.getD s.now := by
  unfold downStatus at h
  split at h
  · cases h
  · split at h
    · cases h
    · split at h
      · cases h
      · split at h
        · cases h
        · cases h
          rfl

/-- With waits that can be added, every note is written. -/
theorem noteTimed_isSome (hs : e.OrdinarySnapshot s) (hof : w.Of s.spec) (hw : w.Within e)
    {m : Member} (hm : m ∈ s.candidates) : (s.noteTimed e.toDateRange m).isSome = true := by
  unfold noteTimed
  cases hst : s.downStatus m with
  | waiting note => rfl
  | blocked => rfl
  | busy => rfl
  | drainFailed t =>
    have ht := hs.drainFailedAt m (mem_candidates.mp hm).1 t (downStatus_eq_drainFailed.mp hst).2.2.1
    have hback := hw.drainFailureBackoff.add ht
    rw [← hof.drainFailureBackoff] at hback
    simp only [backoff, hback, Option.map_some, Option.isSome_some]
  | unneeded since =>
    have ht : e.Ordinary since := by
      rw [since_of_downStatus hst]
      cases hrec : s.unneededSince[m.name]? with
      | none => exact hs.now
      | some t => exact hs.unneededSince m.name t hrec
    have hfor := hw.unneeded.add ht
    rw [← hof.unneeded] at hfor
    by_cases hlong : s.now - since ≥ s.unneededFor
    · simp only [hlong, if_true, Option.isSome_some]
    · simp only [hlong, if_false]
      unfold unneededFor
      rw [hfor]
      rfl

/-- The last power-on is one of the times given. -/
theorem lastPowerOn_ordinary (hs : e.OrdinarySnapshot s) {l : Int}
    (hl : s.lastPowerOn = some l) : e.Ordinary l := by
  have hmem := List.max?_mem hl
  rcases List.mem_append.mp hmem with hmem | hmem
  · exact hs.lastScaleUp l (Option.mem_toList.mp hmem)
  · obtain ⟨m, hm, ht⟩ := List.mem_filterMap.mp hmem
    exact hs.adoptedAt m hm l ht

/-- The end of the hold is computed. -/
theorem holdTimed_isSome (hs : e.OrdinarySnapshot s) (hof : w.Of s.spec) (hw : w.Within e) :
    (s.holdTimed e.toDateRange).isSome = true := by
  unfold holdTimed
  cases hl : s.lastPowerOn with
  | none => rfl
  | some l =>
    have hhold := hw.holdAfterPowerOn.deadline (lastPowerOn_ordinary hs hl)
    rw [← hof.holdAfterPowerOn] at hhold
    simp only [hhold, Option.map_some, Option.isSome_some]

/-- With waits that can be added, a plan is what it is without looking at dates. -/
theorem planTimed_eq (hs : e.OrdinarySnapshot s) (hof : w.Of s.spec) (hw : w.Within e) :
    s.planTimed e.toDateRange = s.planChecked := by
  obtain ⟨notes, hnotes⟩ := Option.isSome_iff_exists.mp
    (isSome_mapM_iff.mpr (fun m hm => noteTimed_isSome hs hof hw hm))
  obtain ⟨hold, hhold⟩ := Option.isSome_iff_exists.mp (holdTimed_isSome hs hof hw)
  unfold planTimed
  rw [hof.pendingPodGrace, hof.drainFailureBackoff, hof.unneeded, hnotes, hhold,
    (duration_of_le hw.pendingPodGrace).2, (duration_of_le hw.drainFailureBackoff.1).2,
    (duration_of_le hw.unneeded.1).2]
  rfl

/-- Such a plan waits as long as it is told to. -/
theorem planTimely (hs : e.OrdinarySnapshot s) (hof : w.Of s.spec) (hw : w.Within e) :
    PlanTimely e.toDateRange s where
  timed := planTimed_eq hs hof hw
  noPanic := by
    intro ha
    rw [planTimed_eq hs hof hw]
    exact planChecked_eq ha
  grace := fun p => mem_selected_iff (by
    rw [hof.pendingPodGrace]
    exact (duration_of_le hw.pendingPodGrace).1)
  backoff := fun m t => downStatus_drainFailed_iff (by
    rw [hof.drainFailureBackoff]
    exact hw.drainFailureBackoff.lt)
  unneeded := fun m => expired_iff (by
    rw [hof.unneeded]
    exact hw.unneeded.lt)
  hold := fun until_ => holdUntil_eq_some_iff (by
    rw [hof.holdAfterPowerOn]
    exact hw.holdAfterPowerOn.lt)

end PoolSnapshot

section Within

variable {e : Era} {w : WaitSettings} {st : NodePowerManagementConfigStatus} {now : Int}

/-- Whether a wait is over is told. -/
theorem beforeTimed_eq {n : UInt64} {t : Int} (h : e.Addable n) (ht : e.Ordinary t) :
    beforeTimed e.toDateRange t n now = some (decide (now < t + seconds n.toNat)) := by
  unfold beforeTimed
  rw [h.deadline ht]
  rfl

/-- The end of the backoff is computed. -/
theorem backoffTimed_isSome (hs : e.OrdinaryStatus st) {spec : NodeScalingPoolSpec}
    (hof : w.Of spec) (hw : w.Within e) :
    ∃ held, backoffTimed e.toDateRange st spec now = some held := by
  unfold backoffTimed
  cases hf : st.bootFailure.filter (!·.leftOn) with
  | none => exact ⟨false, rfl⟩
  | some f =>
    have ht := hs.bootFailure f (Option.filter_eq_some_iff.mp hf).1
    rw [hof.bootFailureBackoff]
    exact ⟨_, beforeTimed_eq hw.bootFailureBackoff ht⟩

/-- The end of the cooldown is computed. -/
theorem cooldownTimed_isSome {off : ManualPowerChange} (ht : e.Ordinary off.time)
    (hw : w.Within e) :
    ∃ cooling, cooldownTimed e.toDateRange off w.cooldown now = some cooling := by
  unfold cooldownTimed
  split
  · exact ⟨_, beforeTimed_eq hw.cooldown ht⟩
  · exact ⟨false, rfl⟩

/-- The ten minutes for which a manual power-off is shown. -/
theorem Era.Ordinary.add_tenMinutes {t : Int} (ht : e.Ordinary t) :
    e.toDateRange.add t (seconds 600) = some (t + seconds 600) := by
  have hfirst := e.first_le
  have hlast := e.le_last
  obtain ⟨hlow, hhigh⟩ := ht
  unfold seconds at hlast ⊢
  exact DateRange.add_eq ⟨by omega, by omega⟩

/-- With waits that can be added, a machine is classified as it is without looking
at dates. -/
theorem classifyTimed_eq (hs : e.OrdinaryStatus st) (base : MemberState)
    (policy : ManualPowerOnPolicy) {spec : NodeScalingPoolSpec} (hof : w.Of spec)
    (hw : w.Within e) :
    classifyTimed e.toDateRange st base policy spec w.bootTimeout w.cooldown now
      = some (classify st base policy spec w.bootTimeout w.cooldown now) := by
  obtain ⟨held, hheld⟩ : ∃ held, backoffTimed e.toDateRange st spec now = some held :=
    backoffTimed_isSome hs hof hw
  unfold classifyTimed
  simp only [hheld, Option.bind_eq_bind, Option.bind_some]
  -- each branch makes at most one deadline, and it is within the range
  split
  · rfl
  · split
    · split
      · rfl
      · cases hoff : st.manualPowerOff with
        | none => rfl
        | some off =>
          have ht := hs.manualPowerOff off hoff
          obtain ⟨cooling, hcooling⟩ : ∃ cooling,
              cooldownTimed e.toDateRange off w.cooldown now = some cooling :=
            cooldownTimed_isSome ht hw
          simp only [hcooling, ht.add_tenMinutes, Option.bind_some]
          split
          · rfl
          · rfl
    · split
      · rename_i on hon
        have hgrace := hw.manualPowerOnGrace.deadline (hs.manualPowerOn on hon)
        rw [hof.manualPowerOnGrace, hgrace]
        rfl
      · rfl

/-- A machine that is off and has not failed to boot just now. -/
theorem classify_eq_offline {policy : ManualPowerOnPolicy} {spec : NodeScalingPoolSpec}
    {bootTimeoutSecs cooldownSecs : UInt64} (hphase : st.phase = .bootFailed → st.bootFailure = none) :
    classify st .offline policy spec bootTimeoutSecs cooldownSecs now
      = classifyOffline st spec cooldownSecs now := by
  unfold classify
  split
  · rename_i hp hf
    rw [hphase hp] at hf
    cases hf
  · rfl

/-- **A machine that is off is unavailable** within the backoff or the cooldown. -/
theorem unavailable_iff {policy : ManualPowerOnPolicy} {spec : NodeScalingPoolSpec}
    {bootTimeoutSecs cooldownSecs : UInt64}
    (hbackoff : spec.scaleUp.bootFailureBackoffSeconds.toNat < 2 ^ 63)
    (hcooldown : cooldownSecs.toNat < 2 ^ 63)
    (hphase : st.phase = .bootFailed → st.bootFailure = none) :
    (classify st .offline policy spec bootTimeoutSecs cooldownSecs now).state = some .unavailable ↔
      (∃ f, st.bootFailure = some f ∧ f.leftOn = false ∧
        now < f.time + seconds spec.scaleUp.bootFailureBackoffSeconds.toNat) ∨
      ∃ off, st.manualPowerOff = some off ∧ 0 < cooldownSecs.toNat ∧
        now < off.time + seconds cooldownSecs.toNat := by
  have hpos : cooldownSecs > 0 ↔ 0 < cooldownSecs.toNat := UInt64.lt_iff_toNat_lt
  rw [classify_eq_offline hphase]
  unfold classifyOffline
  simp only [asI64_of_lt hbackoff, asI64_of_lt hcooldown]
  split
  · rename_i f hf
    obtain ⟨hsome, hruns⟩ := Option.filter_eq_some_iff.mp hf
    simp only [Bool.and_eq_true, Bool.not_eq_true', decide_eq_true_eq] at hruns
    exact iff_of_true rfl (Or.inl ⟨f, hsome, hruns.1, hruns.2⟩)
  · rename_i hf
    -- no backoff runs, so the cooldown decides
    have hno : ¬ ∃ f, st.bootFailure = some f ∧ f.leftOn = false ∧
        now < f.time + seconds spec.scaleUp.bootFailureBackoffSeconds.toNat := by
      rintro ⟨f, hsome, hleft, hlt⟩
      rw [hsome, Option.filter_some, if_pos (by simp [hleft, hlt])] at hf
      cases hf
    rw [or_iff_right hno]
    cases hoff : st.manualPowerOff with
    | none => exact iff_of_false (by simp) (by simp)
    | some off =>
      simp only [Option.some.injEq, exists_eq_left', hpos]
      split
      · rename_i hcool
        exact iff_of_true rfl hcool
      · rename_i hcool
        refine iff_of_false ?_ hcool
        split <;> simp

/-- The end of the grace of a machine powered on by hand. -/
theorem releaseAfter_classify {base : MemberState} {policy : ManualPowerOnPolicy}
    {spec : NodeScalingPoolSpec} {bootTimeoutSecs cooldownSecs : UInt64} {t : Int} :
    (classify st base policy spec bootTimeoutSecs cooldownSecs now).releaseAfter = some t ↔
      base ≠ .offline ∧ (st.phase = .bootFailed → st.bootFailure = none) ∧ policy = .powerOff ∧
        ∃ on, st.manualPowerOn = some on ∧
          t = on.time + seconds (asI64 spec.manualPowerOnGraceSeconds) := by
  -- the offline branch never sets `release_after`, whatever it decides
  have hoffline : (classifyOffline st spec cooldownSecs now).releaseAfter = none := by
    unfold classifyOffline
    simp only
    split
    · rfl
    · split
      · rfl
      · split
        · rfl
        · split <;> rfl
  unfold classify
  split
  · -- a recorded boot failure returns before the manual power-on is looked at
    rename_i f hp hf
    refine iff_of_false (by simp) ?_
    rintro ⟨_, hphase, _⟩
    rw [hphase hp] at hf
    cases hf
  · rename_i hother
    have hphase : st.phase = .bootFailed → st.bootFailure = none := by
      intro hp
      cases hf : st.bootFailure with
      | none => rfl
      | some f => exact absurd hf (hother f hp)
    split
    · rename_i hbase
      rw [hoffline]
      exact iff_of_false (by simp) (fun h => h.1 hbase)
    · rename_i hbase
      cases hon : st.manualPowerOn with
      | none => exact iff_of_false (by simp) (by simp)
      -- only the PowerOff policy gives the machine a time to go
      | some on =>
        unfold classifyManualOn
        cases policy with
        | leaveOn =>
          refine iff_of_false ?_ (by simp)
          simp only
          split <;> simp
        | adopt => exact iff_of_false (by simp) (by simp)
        | powerOff =>
          simp only [Option.some.injEq]
          constructor
          · rintro rfl
            exact ⟨hbase, hphase, trivial, on, rfl, rfl⟩
          · rintro ⟨_, _, _, on', he, ht⟩
            rw [ht, he]

/-- **The grace of a machine powered on by hand**, as a wait: when it may go. -/
theorem releaseAfter_iff {base : MemberState} {policy : ManualPowerOnPolicy}
    {spec : NodeScalingPoolSpec} {bootTimeoutSecs cooldownSecs : UInt64} {t : Int}
    (h : spec.manualPowerOnGraceSeconds.toNat < 2 ^ 63) :
    (classify st base policy spec bootTimeoutSecs cooldownSecs now).releaseAfter = some t ↔
      base ≠ .offline ∧ (st.phase = .bootFailed → st.bootFailure = none) ∧ policy = .powerOff ∧
        ∃ on, st.manualPowerOn = some on ∧
          t = on.time + seconds spec.manualPowerOnGraceSeconds.toNat := by
  rw [releaseAfter_classify, asI64_of_lt h]

/-- A machine is classified by waits as long as they are told to be. -/
theorem classifyTimely (hs : e.OrdinaryStatus st) (base : MemberState)
    (policy : ManualPowerOnPolicy) {spec : NodeScalingPoolSpec} (hof : w.Of spec)
    (hw : w.Within e) :
    ClassifyTimely e.toDateRange st base policy spec w.bootTimeout w.cooldown now where
  noPanic := classifyTimed_eq hs base policy hof hw
  unavailable := by
    rintro rfl hphase
    refine unavailable_iff ?_ hw.cooldown.lt hphase
    rw [hof.bootFailureBackoff]
    exact hw.bootFailureBackoff.lt
  grace := fun t => releaseAfter_iff (by
    rw [hof.manualPowerOnGrace]
    exact hw.manualPowerOnGrace.lt)

variable (st now) {n : UInt64}

/-- **The boot timeout**, as a wait: which power-ons are the operator's. -/
theorem ourOn_iff (h : n.toNat < 2 ^ 63) : ourOn st now n = true ↔
    ∃ age, actionAge st (!·.isOff) now = some age ∧ age ≤ n.toNat := by
  unfold ourOn
  rw [asI64_of_lt h]
  simp only [Option.any_eq_true, decide_eq_true_eq]

/-- **The shutdown timeout**, as a wait: which power-offs are the operator's. -/
theorem ourOff_iff (h : n.toNat + 300 < 2 ^ 63) : ourOff st now n = true ↔
    ∃ age, actionAge st (·.isOff) now = some age ∧ age ≤ n.toNat + 300 := by
  unfold ourOff
  rw [wrapped_sum_eq h]
  simp only [Option.any_eq_true, decide_eq_true_eq]

/-- A boot fails after its timeout, and not before. -/
theorem bootTimely (h : n.toNat < 2 ^ 63) : BootTimely st now n := by
  unfold BootTimely trackBoot
  by_cases hready : st.nodeReady = true
  · rw [if_pos hready]
    constructor
    · intro hfailed
      simp only at hfailed
      split at hfailed <;> cases hfailed
    · intro hnot
      rw [hready] at hnot
      cases hnot.1
  · rw [if_neg hready]
    by_cases hboot : isBooting st = true
    · simp only [hboot, Bool.not_true, Bool.false_eq_true, if_false, asI64_of_lt h]
      -- a new boot that has lasted too long, and nothing else
      constructor
      · intro hfailed
        split at hfailed
        · rename_i hlate
          refine ⟨by simpa using hready, trivial, ?_, hlate.2⟩
          intro f hf
          have hnew := hlate.1
          rw [hf] at hnew
          simpa using hnew
        · cases hfailed
      · rintro ⟨_, _, hnew, hlate⟩
        rw [if_pos]
        refine ⟨?_, hlate⟩
        cases hf : st.bootFailure with
        | none => rfl
        | some f => simpa using hnew f hf
    · simp only [hboot, Bool.not_false, if_true, Bool.false_eq_true, false_and, and_false,
        iff_false]
      intro hfailed
      cases hfailed

/-- A power-on is given up after its timeout, and not before. -/
theorem attemptTimely (policy : PowerOnFailurePolicy) (h : n.toNat < 2 ^ 63) :
    AttemptTimely st now policy n := by
  unfold AttemptTimely powerOnAttempt
  rw [asI64_of_lt h]
  -- the code's first test: a policy of Retry or a Ready Node never expires
  by_cases hskip : policy = .retry ∨ st.nodeReady = true
  · rw [if_pos hskip]
    constructor
    · intro hexp
      cases hexp
    · rintro ⟨hpolicy, hready, _⟩
      rcases hskip with hskip | hskip
      · exact absurd hskip hpolicy
      · rw [hskip] at hready
        cases hready
  · rw [if_neg hskip]
    obtain ⟨hpolicy, hready⟩ := not_or.mp hskip
    cases hd : st.scalingDecision.filter (·.target == .on) with
    | none =>
      constructor
      · intro hexp
        cases hexp
      · rintro ⟨_, _, _, d, hdec, hon, _⟩
        rw [hdec] at hd
        simp [Option.filter, hon] at hd
    | some d =>
      obtain ⟨hdec, hon⟩ := Option.filter_eq_some_iff.mp hd
      -- a machine that reads On and is not in standby has been reached
      by_cases hup : st.powerState = .on ∧ st.standbySince = none
      · have hup' : st.powerState = .on ∧ st.standbySince.isNone = true :=
          ⟨hup.1, Option.isNone_iff_eq_none.mpr hup.2⟩
        dsimp only
        rw [if_pos hup']
        constructor
        · intro hexp
          cases hexp
        · rintro ⟨_, _, hnot, _⟩
          exact absurd hup hnot
      · have hup' : ¬ (st.powerState = .on ∧ st.standbySince.isNone = true) :=
          fun hc => hup ⟨hc.1, Option.isNone_iff_eq_none.mp hc.2⟩
        dsimp only
        rw [if_neg hup']
        constructor
        · intro hexp
          split at hexp
          · rename_i hlate
            exact ⟨hpolicy, by simpa using hready, hup, d, hdec, by simpa using hon, hlate⟩
          · cases hexp
        · rintro ⟨_, _, _, d', hdec', _, hlate⟩
          rw [hdec] at hdec'
          cases hdec'
          rw [if_pos hlate]

variable {st now}

/-- **Waits within bounds are respected.** -/
theorem respected_of_within (hw : w.Within e) : Respected e w where
  plan := fun _ hof hs => PoolSnapshot.planTimely hs hof hw
  classify := fun _ base policy _ _ hof hs _ => classifyTimely hs base policy hof hw
  manual := fun st now _ _ =>
    ⟨ourOn_iff st now hw.bootTimeout, ourOff_iff st now hw.shutdownTimeout⟩
  boot := fun st now _ _ => bootTimely st now hw.bootTimeout
  attempt := fun st now policy _ _ => attemptTimely st now policy hw.powerOnTimeout

end Within

/-! ## §6. Waits that are respected are within bounds. -/

section Respected

variable {e : Era} {w : WaitSettings} {n : UInt64}

/-- The end of the era is one of its times. -/
theorem Era.ordinary_latest (e : Era) : e.Ordinary e.latest := by
  have hwide := e.wide
  unfold seconds at hwide
  exact ⟨by omega, Int.le_refl _⟩

/-- A wait whose end is computed from the latest time can be added. -/
theorem Era.addable_of_deadline (hlt : n.toNat < 2 ^ 63)
    (h : (e.toDateRange.deadline e.latest (asI64 n)).isSome = true) : e.Addable n := by
  rw [asI64_of_lt hlt] at h
  obtain ⟨hdur, hdate⟩ := DateRange.deadline_isSome_iff.mp h
  exact ⟨hdur.2, hdate.2⟩

/-- A wait that is only added when it is not 0. -/
theorem Era.addable_of_pos (hlt : n.toNat < 2 ^ 63)
    (h : 0 < n.toNat → (e.toDateRange.deadline e.latest (asI64 n)).isSome = true) :
    e.Addable n := by
  by_cases hpos : 0 < n.toNat
  · exact e.addable_of_deadline hlt (h hpos)
  · have hlast := e.le_last
    have hzero : n.toNat = 0 := by omega
    unfold Era.Addable maxDurationSecs
    rw [hzero]
    unfold seconds at hlast ⊢
    omega

/-- A pool with these waits and no other settings. -/
def WaitSettings.spec (w : WaitSettings) : NodeScalingPoolSpec :=
  NodeScalingPoolSpec.withWaits {} w

/-- One idle machine and one pending pod, all of it just now. -/
def Era.justNow (e : Era) (w : WaitSettings) (drainFailedAt : Option Int) : PoolSnapshot where
  spec := w.spec
  members :=
    [{ name := "m1", state := .online, auto := true
       allocatable := { cpuMillis := 4000, pods := 10 }
       drainFailedAt := drainFailedAt }]
  pending := [{ name := "p1", created := some e.latest }]
  now := e.latest
  lastScaleUp := some e.latest

/-- The snapshot at the end of the era is an ordinary one. -/
theorem Era.justNow_ordinary (e : Era) (w : WaitSettings) {drainFailedAt : Option Int}
    (h : ∀ t, drainFailedAt = some t → t = e.latest) :
    e.OrdinarySnapshot (e.justNow w drainFailedAt) where
  now := e.ordinary_latest
  created := by
    intro p hp c hc
    rw [List.mem_singleton.mp hp] at hc
    cases hc
    exact e.ordinary_latest
  drainFailedAt := by
    intro m hm t ht
    rw [List.mem_singleton.mp hm] at ht
    rw [h t ht]
    exact e.ordinary_latest
  adoptedAt := by
    intro m hm t ht
    rw [List.mem_singleton.mp hm] at ht
    cases ht
  unneededSince := by
    intro n t ht
    have hnone : (e.justNow w drainFailedAt).unneededSince[n]? = none :=
      Std.TreeMap.getElem?_emptyc
    rw [hnone] at ht
    cases ht
  lastScaleUp := by
    intro t ht
    cases ht
    exact e.ordinary_latest

theorem Respected.justNow (h : Respected e w) {drainFailedAt : Option Int}
    (hd : ∀ t, drainFailedAt = some t → t = e.latest) :
    PlanTimely e.toDateRange (e.justNow w drainFailedAt) :=
  h.plan _ (w.of_withWaits _) (e.justNow_ordinary w hd)

/-- A plan of `justNow` that is timely does not fail. -/
theorem PlanTimely.justNow {drainFailedAt : Option Int}
    (h : PlanTimely e.toDateRange (e.justNow w drainFailedAt)) :
    (e.justNow w drainFailedAt).planTimed e.toDateRange
      = some (plan (e.justNow w drainFailedAt)) :=
  h.noPanic (fun _ _ _ hx => by cases hx)

/-- What a plan without failure has computed. -/
theorem PoolSnapshot.planTimed_some {z : DateRange} {s : PoolSnapshot} {p : Plan}
    (h : s.planTimed z = some p) :
    (duration (asI64 s.spec.scaleUp.pendingPodGraceSeconds)).isSome = true ∧
    (∀ m ∈ s.candidates, (s.noteTimed z m).isSome = true) ∧
    (s.holdTimed z).isSome = true ∧
    (duration (asI64 s.spec.scaleDown.drainFailureBackoffSeconds)).isSome = true ∧
    (duration (asI64 s.spec.scaleDown.unneededSeconds)).isSome = true := by
  unfold planTimed at h
  simp only [Option.bind_eq_bind, Option.bind_eq_some_iff] at h
  obtain ⟨_, hgrace, _, hbackoff, _, hunneeded, _, hnotes, _, hhold, _⟩ := h
  exact ⟨by rw [hgrace]; rfl, isSome_mapM_iff.mp (by rw [hnotes]; rfl), by rw [hhold]; rfl,
    by rw [hbackoff]; rfl, by rw [hunneeded]; rfl⟩

/-- The idle machine of `justNow` is below the threshold. -/
theorem Era.justNow_idle (e : Era) (w : WaitSettings) (drainFailedAt : Option Int) :
    ∀ m ∈ (e.justNow w drainFailedAt).candidates,
      (PoolSnapshot.util m).ge (e.justNow w drainFailedAt).threshold = false ∧
      waitingForRegistration m (e.justNow w drainFailedAt).selected = none ∧
      m.blockingPods = [] ∧ m.drainFailedAt = drainFailedAt := by
  have hidle : (ResourceAmounts.utilizationPercent { cpuMillis := 4000, pods := 10 } {}).ge
      (.ofInt 50) = false := by decide +kernel
  intro m hm
  rw [List.mem_singleton.mp (PoolSnapshot.mem_candidates.mp hm).1]
  exact ⟨hidle, rfl, rfl, rfl⟩

theorem Era.justNow_candidate (e : Era) (w : WaitSettings) (drainFailedAt : Option Int) :
    ∃ m, m ∈ (e.justNow w drainFailedAt).candidates :=
  ⟨_, PoolSnapshot.mem_candidates.mpr ⟨List.mem_singleton_self _, rfl, rfl⟩⟩

/-- Each wait, one by one: what is respected can be held and added. -/
theorem Respected.pendingPodGrace (h : Respected e w) :
    w.pendingPodGrace.toNat ≤ maxDurationSecs := by
  have hplan := @Respected.justNow e w h none (fun _ ht => by cases ht)
  have hdur := (PoolSnapshot.planTimed_some hplan.justNow).1
  have hlt : w.pendingPodGrace.toNat < 2 ^ 63 := by
    by_contra hge
    have hneg := asI64_neg_of_ge (n := w.pendingPodGrace) (by omega)
    -- with a negative grace the pod created just now counts
    have hin : ({ name := "p1", created := some e.latest } : PodView)
        ∈ (e.justNow w none).selected := by
      unfold PoolSnapshot.selected
      have hpast : e.latest - e.latest ≥ seconds (asI64 w.pendingPodGrace) := by
        unfold seconds
        omega
      exact List.mem_filter.mpr ⟨List.mem_filter.mpr
        ⟨List.mem_singleton_self _, decide_eq_true hpast⟩, rfl⟩
    have hgrace := ((hplan.grace _).mp hin).2.1 e.latest rfl
    change e.latest - e.latest ≥ seconds w.pendingPodGrace.toNat at hgrace
    unfold seconds at hgrace
    omega
  rw [show (e.justNow w none).spec.scaleUp.pendingPodGraceSeconds = w.pendingPodGrace from rfl,
    asI64_of_lt hlt] at hdur
  exact (DateRange.duration_isSome_iff.mp hdur).2

theorem Respected.holdAfterPowerOn (h : Respected e w) : e.Addable w.holdAfterPowerOn := by
  have hplan := @Respected.justNow e w h none (fun _ ht => by cases ht)
  have hlt : w.holdAfterPowerOn.toNat < 2 ^ 63 := by
    by_contra hge
    have hneg := asI64_neg_of_ge (n := w.holdAfterPowerOn) (by omega)
    -- a machine powered on just now holds the pool
    have hheld := (hplan.hold (e.latest + seconds w.holdAfterPowerOn.toNat)).mpr
      ⟨e.latest, rfl, rfl, by
        show e.latest < e.latest + seconds w.holdAfterPowerOn.toNat
        unfold seconds
        omega⟩
    unfold PoolSnapshot.holdUntil at hheld
    obtain ⟨hmap, hlater⟩ := Option.filter_eq_some_iff.mp hheld
    obtain ⟨l, hl, he⟩ := Option.map_eq_some_iff.mp hmap
    cases hl
    change e.latest + seconds (asI64 w.holdAfterPowerOn)
      = e.latest + seconds w.holdAfterPowerOn.toNat at he
    unfold seconds at he
    omega
  have hhold := (PoolSnapshot.planTimed_some hplan.justNow).2.2.1
  apply e.addable_of_deadline hlt
  unfold PoolSnapshot.holdTimed at hhold
  have hlast : (e.justNow w none).lastPowerOn = some e.latest := rfl
  rw [hlast, Option.isSome_map] at hhold
  exact hhold

/-- A duration that can be added gives a deadline. -/
theorem deadline_of_add {z : DateRange} {t : Int}
    (hdur : (duration (asI64 n)).isSome = true)
    (hadd : (z.add t (seconds (asI64 n))).isSome = true) :
    (z.deadline t (asI64 n)).isSome = true :=
  DateRange.deadline_isSome_iff.mpr
    ⟨DateRange.duration_isSome_iff.mp hdur, DateRange.add_isSome_iff.mp hadd⟩

/-- The timer of the idle machine of `justNow`. -/
theorem Era.justNow_unneeded (e : Era) (w : WaitSettings) {m : Member} {t : Int}
    (hm : m ∈ (e.justNow w none).candidates)
    (hst : (e.justNow w none).downStatus m = .unneeded t) :
    (e.justNow w none).newUnneededSince[m.name]? = some t := by
  unfold PoolSnapshot.newUnneededSince
  apply Lib.insertAll_of_entry
  · exact ⟨m, hm, by simp only [hst]⟩
  · intro m' hm' t' ht'
    have hsame : m' = m :=
      (List.mem_singleton.mp (PoolSnapshot.mem_candidates.mp hm').1).trans
        (List.mem_singleton.mp (PoolSnapshot.mem_candidates.mp hm).1).symm
    rw [hsame] at ht'
    simp only [hst, Option.some.injEq, Prod.mk.injEq, true_and] at ht'
    exact ht'.symm

theorem Respected.unneeded (h : Respected e w) : e.Addable w.unneeded := by
  have hplan := @Respected.justNow e w h none (fun _ ht => by cases ht)
  obtain ⟨_, hnotes, _, _, hdur⟩ := PoolSnapshot.planTimed_some hplan.justNow
  obtain ⟨m, hm⟩ := e.justNow_candidate w none
  obtain ⟨hidle, hwait, hblock, hdrain⟩ := e.justNow_idle w none m hm
  have hst : (e.justNow w none).downStatus m = .unneeded e.latest := by
    unfold PoolSnapshot.downStatus
    simp only [hwait, hblock, hdrain, hidle, Option.filter, List.isEmpty_nil, Bool.not_true,
      Bool.false_eq_true, if_false]
    rfl
  have hlt : w.unneeded.toNat < 2 ^ 63 := by
    by_contra hge
    have hneg := asI64_neg_of_ge (n := w.unneeded) (by omega)
    have hsince := e.justNow_unneeded w hm hst
    -- with a negative wait the time of the machine is up just now
    have hexpired : (e.justNow w none).expired m = true := by
      unfold PoolSnapshot.expired PoolSnapshot.unneededFor
      rw [hsince]
      have hpast : e.latest - e.latest ≥ seconds (asI64 w.unneeded) := by
        unfold seconds
        omega
      exact decide_eq_true hpast
    obtain ⟨since, hs, hlong⟩ := (hplan.unneeded m).mp hexpired
    rw [hsince] at hs
    cases hs
    change e.latest - e.latest ≥ seconds w.unneeded.toNat at hlong
    unfold seconds at hlong
    omega
  apply e.addable_of_pos hlt
  intro hpos
  have hnote := hnotes m hm
  unfold PoolSnapshot.noteTimed at hnote
  simp only [hst] at hnote
  -- just now is too early, so the end of the wait is told
  have hearly : ¬ (e.justNow w none).now - e.latest ≥ (e.justNow w none).unneededFor := by
    show ¬ e.latest - e.latest ≥ seconds (asI64 w.unneeded)
    rw [asI64_of_lt hlt]
    unfold seconds
    omega
  rw [if_neg hearly, Option.isSome_map] at hnote
  exact deadline_of_add hdur hnote

theorem Respected.drainFailureBackoff (h : Respected e w) : e.Addable w.drainFailureBackoff := by
  have hplan := @Respected.justNow e w h (some e.latest) (fun _ ht => by cases ht; rfl)
  obtain ⟨_, hnotes, _, hdur, _⟩ := PoolSnapshot.planTimed_some hplan.justNow
  obtain ⟨m, hm⟩ := e.justNow_candidate w (some e.latest)
  obtain ⟨hidle, hwait, hblock, hdrain⟩ := e.justNow_idle w (some e.latest) m hm
  have hlt : w.drainFailureBackoff.toNat < 2 ^ 63 := by
    by_contra hge
    have hneg := asI64_neg_of_ge (n := w.drainFailureBackoff) (by omega)
    have hback := (hplan.backoff m e.latest).mpr ⟨hwait, hblock, hdrain, by
      show e.latest - e.latest < seconds w.drainFailureBackoff.toNat
      unfold seconds
      omega⟩
    have hlate := (PoolSnapshot.downStatus_eq_drainFailed.mp hback).2.2.2
    change e.latest - e.latest < seconds (asI64 w.drainFailureBackoff) at hlate
    unfold seconds at hlate
    omega
  apply e.addable_of_pos hlt
  intro hpos
  have hfailed : e.latest - e.latest < seconds (asI64 w.drainFailureBackoff) := by
    rw [asI64_of_lt hlt]
    unfold seconds
    omega
  have hst : (e.justNow w (some e.latest)).downStatus m = .drainFailed e.latest :=
    PoolSnapshot.downStatus_eq_drainFailed.mpr ⟨hwait, hblock, hdrain, hfailed⟩
  have hnote := hnotes m hm
  unfold PoolSnapshot.noteTimed at hnote
  simp only [hst, Option.isSome_map] at hnote
  exact deadline_of_add hdur hnote

/-- A status with at most one time, an ordinary one. -/
theorem Respected.classified (h : Respected e w) {st : NodePowerManagementConfigStatus}
    (hs : e.OrdinaryStatus st) (base : MemberState) (policy : ManualPowerOnPolicy) :
    ClassifyTimely e.toDateRange st base policy w.spec w.bootTimeout w.cooldown e.latest :=
  h.classify st base policy w.spec e.latest (w.of_withWaits _) hs e.ordinary_latest

theorem Respected.bootFailureBackoff (h : Respected e w) : e.Addable w.bootFailureBackoff := by
  have hs : e.OrdinaryStatus { bootFailure := some { time := e.latest } } := by
    constructor <;> intro x hx <;> cases hx
    exact e.ordinary_latest
  -- a cast that went negative would end the backoff at once
  have hclass := h.classified hs .offline .adopt
  have hlt : w.bootFailureBackoff.toNat < 2 ^ 63 := by
    by_contra hge
    have hneg := asI64_neg_of_ge (n := w.bootFailureBackoff) (by omega)
    have hheld := (hclass.unavailable rfl (fun hc => by cases hc)).mpr (Or.inl ⟨_, rfl, rfl, by
      show e.latest < e.latest + seconds w.bootFailureBackoff.toNat
      unfold seconds
      omega⟩)
    have hover : ¬ e.latest < e.latest + seconds (asI64 w.bootFailureBackoff) := by
      unfold seconds
      omega
    rw [classify_eq_offline (fun hc => by cases hc)] at hheld
    unfold classifyOffline at hheld
    simp [WaitSettings.spec, NodeScalingPoolSpec.withWaits, Option.filter, hover] at hheld
  apply e.addable_of_deadline hlt
  cases hdead : e.toDateRange.deadline e.latest (asI64 w.bootFailureBackoff) with
  | some t => rfl
  | none =>
    have hfails := hclass.noPanic
    unfold classifyTimed backoffTimed beforeTimed at hfails
    simp [WaitSettings.spec, NodeScalingPoolSpec.withWaits, hdead, Option.filter] at hfails

theorem Respected.cooldown (h : Respected e w) : e.Addable w.cooldown := by
  have hs : e.OrdinaryStatus { manualPowerOff := some { time := e.latest } } := by
    constructor <;> intro x hx <;> cases hx
    exact e.ordinary_latest
  -- a cast that went negative would end the cooldown at once
  have hclass := h.classified hs .offline .adopt
  have hlt : w.cooldown.toNat < 2 ^ 63 := by
    by_contra hge
    have hneg := asI64_neg_of_ge (n := w.cooldown) (by omega)
    have hheld := (hclass.unavailable rfl (fun hc => by cases hc)).mpr
      (Or.inr ⟨_, rfl, by omega, by
        show e.latest < e.latest + seconds w.cooldown.toNat
        unfold seconds
        omega⟩)
    have hover : ¬ e.latest < e.latest + seconds (asI64 w.cooldown) := by
      unfold seconds
      omega
    have htenMinutes : e.latest < e.latest + seconds 600 := by
      unfold seconds
      omega
    rw [classify_eq_offline (fun hc => by cases hc)] at hheld
    unfold classifyOffline at hheld
    simp [Option.filter, hover, htenMinutes] at hheld
  apply e.addable_of_pos hlt
  intro hpos
  have hpos' : w.cooldown > 0 := UInt64.lt_iff_toNat_lt.mpr hpos
  -- a deadline outside the range is a panic
  cases hdead : e.toDateRange.deadline e.latest (asI64 w.cooldown) with
  | some t => rfl
  | none =>
    have hfails := hclass.noPanic
    unfold classifyTimed backoffTimed cooldownTimed beforeTimed at hfails
    simp [hdead, hpos', Option.filter] at hfails

theorem Respected.manualPowerOnGrace (h : Respected e w) : e.Addable w.manualPowerOnGrace := by
  have hs : e.OrdinaryStatus { manualPowerOn := some { time := e.latest } } := by
    constructor <;> intro x hx <;> cases hx
    exact e.ordinary_latest
  have hclass := h.classified hs .online .powerOff
  obtain ⟨_, _, _, on, hon, hgrace⟩ :=
    (hclass.grace (e.latest + seconds (asI64 w.manualPowerOnGrace))).mp rfl
  cases hon
  have hlt : w.manualPowerOnGrace.toNat < 2 ^ 63 := by
    apply lt_of_asI64_nonneg
    change e.latest + seconds (asI64 w.manualPowerOnGrace)
      = e.latest + seconds w.manualPowerOnGrace.toNat at hgrace
    unfold seconds at hgrace
    omega
  apply e.addable_of_deadline hlt
  cases hdead : e.toDateRange.deadline e.latest (asI64 w.manualPowerOnGrace) with
  | some t => rfl
  | none =>
    have hfails := hclass.noPanic
    unfold classifyTimed at hfails
    simp [WaitSettings.spec, NodeScalingPoolSpec.withWaits, hdead] at hfails

/-- What was done just now was done within every timeout. -/
theorem Respected.bootTimeout (h : Respected e w) : w.bootTimeout.toNat < 2 ^ 63 := by
  have hs : e.OrdinaryStatus { lastPowerAction := some ⟨.powerOn, e.latest, true, none⟩ } := by
    constructor <;> intro x hx <;> cases hx
    exact e.ordinary_latest
  have hage : actionAge { lastPowerAction := some ⟨.powerOn, e.latest, true, none⟩ } (!·.isOff)
      e.latest = some (numSeconds (e.latest - e.latest)) := rfl
  have hzero : numSeconds (e.latest - e.latest) = 0 := by
    rw [Int.sub_self]
    rfl
  rw [hzero] at hage
  have hours := (h.manual _ e.latest hs e.ordinary_latest).on.mpr ⟨0, hage, by omega⟩
  unfold ourOn at hours
  rw [hage, Option.any_some, decide_eq_true_eq] at hours
  exact lt_of_asI64_nonneg hours

/-- What was done 300 s ago was done within every shutdown timeout and 300 s. -/
theorem Respected.shutdownTimeout (h : Respected e w) : w.shutdownTimeout.toNat + 300 < 2 ^ 63 := by
  have hago : e.Ordinary (e.latest - seconds 300) := by
    have hwide := e.wide
    unfold seconds at hwide
    exact ⟨by unfold seconds; omega, by unfold seconds; omega⟩
  have hs : e.OrdinaryStatus
      { lastPowerAction := some ⟨.powerOff, e.latest - seconds 300, true, none⟩ } := by
    constructor <;> intro x hx <;> cases hx
    exact hago
  have hage : actionAge
      { lastPowerAction := some ⟨.powerOff, e.latest - seconds 300, true, none⟩ } (·.isOff)
      e.latest = some (numSeconds (e.latest - (e.latest - seconds 300))) := rfl
  have hsecs : numSeconds (e.latest - (e.latest - seconds 300)) = 300 := by
    rw [Int.sub_sub_self]
    rfl
  rw [hsecs] at hage
  have hours := (h.manual _ e.latest hs e.ordinary_latest).off.mpr ⟨300, hage, by omega⟩
  unfold ourOff at hours
  rw [hage, Option.any_some, decide_eq_true_eq] at hours
  exact wrapped_sum_ge.mp hours

theorem Respected.powerOnTimeout (h : Respected e w) : w.powerOnTimeout.toNat < 2 ^ 63 := by
  have hs : e.OrdinaryStatus { scalingDecision := some ⟨"a", .on, "", e.latest⟩ } := by
    constructor <;> intro x hx <;> cases hx
    exact e.ordinary_latest
  have hzero : numSeconds (e.latest - e.latest) = 0 := by
    rw [Int.sub_self]
    rfl
  by_contra hge
  have hneg := asI64_neg_of_ge (n := w.powerOnTimeout) (by omega)
  have hexpired : powerOnAttempt { scalingDecision := some ⟨"a", .on, "", e.latest⟩ } e.latest
      .release w.powerOnTimeout = .expired := by
    show (if numSeconds (e.latest - e.latest) > asI64 w.powerOnTimeout then
      PowerOnAttempt.expired else .ongoing) = .expired
    rw [if_pos (by omega)]
  obtain ⟨_, _, _, d, hd, _, hlate⟩ :=
    (h.attempt _ e.latest .release hs e.ordinary_latest).mp hexpired
  cases hd
  change (w.powerOnTimeout.toNat : Int) < numSeconds (e.latest - e.latest) at hlate
  omega

end Respected

/-! ## §7. Longer waits. -/

/-- **A longer wait delays what it is to delay.**  One wait of `w` is raised to
`n` seconds, within the bounds: a pod that counts, a machine whose time is up, a
hold that is over and so on were so with the shorter wait. -/
structure NeverEarlier (e : Era) (w : WaitSettings) : Prop where
  pendingPodGrace : ∀ n, w.pendingPodGrace ≤ n →
    ({ w with pendingPodGrace := n } : WaitSettings).Within e →
    ∀ (s : PoolSnapshot) p,
      p ∈ (s.withWaits { w with pendingPodGrace := n }).selected → p ∈ (s.withWaits w).selected
  drainFailureBackoff : ∀ n, w.drainFailureBackoff ≤ n →
    ({ w with drainFailureBackoff := n } : WaitSettings).Within e →
    ∀ (s : PoolSnapshot) m t,
      (s.withWaits w).downStatus m = .drainFailed t →
        (s.withWaits { w with drainFailureBackoff := n }).downStatus m = .drainFailed t
  unneeded : ∀ n, w.unneeded ≤ n → ({ w with unneeded := n } : WaitSettings).Within e →
    ∀ (s : PoolSnapshot) m,
    (s.withWaits { w with unneeded := n }).expired m = true → (s.withWaits w).expired m = true
  holdAfterPowerOn : ∀ n, w.holdAfterPowerOn ≤ n →
    ({ w with holdAfterPowerOn := n } : WaitSettings).Within e →
    ∀ (s : PoolSnapshot) until_,
      (s.withWaits w).holdUntil = some until_ →
        ∃ later, until_ ≤ later ∧
          (s.withWaits { w with holdAfterPowerOn := n }).holdUntil = some later
  unavailable : ∀ n k, w.bootFailureBackoff ≤ n → w.cooldown ≤ k →
    ({ w with bootFailureBackoff := n, cooldown := k } : WaitSettings).Within e →
      ∀ st policy (spec : NodeScalingPoolSpec) boot now,
        (classify st .offline policy (spec.withWaits w) boot w.cooldown now).state
          = some .unavailable →
        (classify st .offline policy (spec.withWaits { w with bootFailureBackoff := n }) boot k
          now).state = some .unavailable
  manualPowerOnGrace : ∀ n, w.manualPowerOnGrace ≤ n →
    ({ w with manualPowerOnGrace := n } : WaitSettings).Within e →
      ∀ st base policy (spec : NodeScalingPoolSpec) boot cooldown now t,
        (classify st base policy (spec.withWaits w) boot cooldown now).releaseAfter = some t →
          ∃ later, t ≤ later ∧
            (classify st base policy (spec.withWaits { w with manualPowerOnGrace := n }) boot
              cooldown now).releaseAfter = some later
  bootTimeout : ∀ n, w.bootTimeout ≤ n → n.toNat < 2 ^ 63 → ∀ st now,
    ((trackBoot st now n).2 = .failed → (trackBoot st now w.bootTimeout).2 = .failed) ∧
      ∀ old shutdown, detectManualChange old st now n shutdown = .poweredOn →
        detectManualChange old st now w.bootTimeout shutdown = .poweredOn
  shutdownTimeout : ∀ n, w.shutdownTimeout ≤ n → n.toNat + 300 < 2 ^ 63 → ∀ old st now boot,
    detectManualChange old st now boot n = .poweredOff →
      detectManualChange old st now boot w.shutdownTimeout = .poweredOff
  powerOnTimeout : ∀ n, w.powerOnTimeout ≤ n → n.toNat < 2 ^ 63 → ∀ st now policy,
    powerOnAttempt st now policy n = .expired →
      powerOnAttempt st now policy w.powerOnTimeout = .expired

section NeverEarlier

variable {e : Era} {w : WaitSettings} {n n' boot shutdown : UInt64}
  {old st : NodePowerManagementConfigStatus} {now : Int}

/-- A longer wait lasts longer. -/
theorem seconds_le (h : n ≤ n') : seconds n.toNat ≤ seconds n'.toNat := by
  have hle := UInt64.le_iff_toNat_le.mp h
  unfold seconds
  omega

/-- Within the backoff or the cooldown a machine stays unavailable. -/
theorem unavailable_of_longer (hw : w.Within e) {k : UInt64} (hn : w.bootFailureBackoff ≤ n)
    (hk : w.cooldown ≤ k)
    (hw' : ({ w with bootFailureBackoff := n, cooldown := k } : WaitSettings).Within e)
    {policy : ManualPowerOnPolicy} {spec : NodeScalingPoolSpec}
    (h : (classify st .offline policy (spec.withWaits w) boot w.cooldown now).state
      = some .unavailable) :
    (classify st .offline policy (spec.withWaits { w with bootFailureBackoff := n }) boot k
      now).state = some .unavailable := by
  by_cases hphase : st.phase = .bootFailed → st.bootFailure = none
  · rw [unavailable_iff hw'.bootFailureBackoff.lt hw'.cooldown.lt hphase]
    rw [unavailable_iff hw.bootFailureBackoff.lt hw.cooldown.lt hphase] at h
    have hn' := seconds_le hn
    have hk' := seconds_le hk
    rcases h with ⟨f, hf, hleft, hlt⟩ | ⟨off, hoff, hpos, hlt⟩
    · exact Or.inl ⟨f, hf, hleft, Int.lt_of_lt_of_le hlt (Int.add_le_add_left hn' _)⟩
    · exact Or.inr ⟨off, hoff, Nat.lt_of_lt_of_le hpos (UInt64.le_iff_toNat_le.mp hk),
        Int.lt_of_lt_of_le hlt (Int.add_le_add_left hk' _)⟩
  -- after a boot that has failed just now it is unavailable whatever the waits
  · obtain ⟨hp, hf⟩ := Classical.not_imp.mp hphase
    obtain ⟨f, hf⟩ := Option.ne_none_iff_exists'.mp hf
    unfold classify
    rw [hp, hf]

/-- A longer timeout takes more actions for our own. -/
theorem ourOn_of_longer (hle : n ≤ n') (h' : n'.toNat < 2 ^ 63) (h : ourOn st now n = true) :
    ourOn st now n' = true := by
  have hle' := UInt64.le_iff_toNat_le.mp hle
  obtain ⟨age, hage, hlt⟩ := (ourOn_iff st now (by omega)).mp h
  exact (ourOn_iff st now h').mpr ⟨age, hage, by omega⟩

/-- With a longer timeout a power-off is the operator's still. -/
theorem ourOff_of_longer (hle : n ≤ n') (h' : n'.toNat + 300 < 2 ^ 63)
    (h : ourOff st now n = true) : ourOff st now n' = true := by
  have hle' := UInt64.le_iff_toNat_le.mp hle
  obtain ⟨age, hage, hlt⟩ := (ourOff_iff st now (by omega)).mp h
  exact (ourOff_iff st now h').mpr ⟨age, hage, by omega⟩

/-- What is a power-on by hand with a longer boot timeout is one with a shorter. -/
theorem poweredOn_of_longer (hle : n ≤ n') (h' : n'.toNat < 2 ^ 63)
    (h : detectManualChange old st now n' shutdown = .poweredOn) :
    detectManualChange old st now n shutdown = .poweredOn := by
  obtain ⟨hour, hwas⟩ := detect_poweredOn_iff.mp h
  refine detect_poweredOn_iff.mpr ⟨?_, hwas⟩
  by_contra hon
  rw [ourOn_of_longer hle h' (by simpa using hon)] at hour
  cases hour

/-- What is a power-off by hand with a longer shutdown timeout is one with a
shorter. -/
theorem poweredOff_of_longer (hle : n ≤ n') (h' : n'.toNat + 300 < 2 ^ 63)
    (h : detectManualChange old st now boot n' = .poweredOff) :
    detectManualChange old st now boot n = .poweredOff := by
  obtain ⟨hphase, hwas, hoff, hour⟩ := detect_poweredOff_iff.mp h
  refine detect_poweredOff_iff.mpr ⟨hphase, hwas, hoff, ?_⟩
  by_contra hoff
  rw [ourOff_of_longer hle h' (by simpa using hoff)] at hour
  cases hour

/-- **Raising a wait never acts earlier.** -/
theorem neverEarlier (hw : w.Within e) : NeverEarlier e w where
  -- for each wait: what the longer one lets happen, the shorter one does, or no later
  pendingPodGrace := by
    intro n hle hw' s p hp
    have hlt := (duration_of_le hw.pendingPodGrace).1
    have hlt' := (duration_of_le hw'.pendingPodGrace).1
    obtain ⟨hpending, hpast, hselects⟩ := (PoolSnapshot.mem_selected_iff hlt').mp hp
    refine (PoolSnapshot.mem_selected_iff hlt).mpr ⟨hpending, fun c hc => ?_, hselects⟩
    exact Int.le_trans (seconds_le hle) (hpast c hc)
  drainFailureBackoff := by
    intro n hle hw' s m t h
    obtain ⟨hwait, hblock, hat, hlt⟩ :=
      (PoolSnapshot.downStatus_drainFailed_iff hw.drainFailureBackoff.lt).mp h
    exact (PoolSnapshot.downStatus_drainFailed_iff hw'.drainFailureBackoff.lt).mpr
      ⟨hwait, hblock, hat, Int.lt_of_lt_of_le hlt (seconds_le hle)⟩
  unneeded := by
    intro n hle hw' s m h
    obtain ⟨since, hsince, hlong⟩ := (PoolSnapshot.expired_iff hw'.unneeded.lt).mp h
    exact (PoolSnapshot.expired_iff hw.unneeded.lt).mpr
      ⟨since, hsince, Int.le_trans (seconds_le hle) hlong⟩
  holdAfterPowerOn := by
    intro n hle hw' s until_ h
    obtain ⟨l, hl, rfl, hlt⟩ := (@PoolSnapshot.holdUntil_eq_some_iff (s.withWaits w)
      hw.holdAfterPowerOn.lt until_).mp h
    have hlater : l + seconds w.holdAfterPowerOn.toNat ≤ l + seconds n.toNat :=
      Int.add_le_add_left (seconds_le hle) l
    exact ⟨_, hlater, (@PoolSnapshot.holdUntil_eq_some_iff
      (s.withWaits { w with holdAfterPowerOn := n }) hw'.holdAfterPowerOn.lt _).mpr
      ⟨l, hl, rfl, Int.lt_of_lt_of_le hlt hlater⟩⟩
  unavailable := fun _ _ hn hk hw' _ _ _ _ _ h => unavailable_of_longer hw hn hk hw' h
  manualPowerOnGrace := by
    intro n hle hw' st base policy spec boot cooldown now t h
    obtain ⟨hbase, hphase, hpolicy, on, hon, rfl⟩ :=
      (releaseAfter_iff hw.manualPowerOnGrace.lt).mp h
    exact ⟨_, Int.add_le_add_left (seconds_le hle) on.time,
      (releaseAfter_iff hw'.manualPowerOnGrace.lt).mpr ⟨hbase, hphase, hpolicy, on, hon, rfl⟩⟩
  bootTimeout := by
    intro n hle hlt st now
    have hle' := UInt64.le_iff_toNat_le.mp hle
    refine ⟨fun h => ?_, fun old shutdown h => poweredOn_of_longer hle hlt h⟩
    obtain ⟨hready, hboot, hnew, hlate⟩ := (bootTimely st now hlt).mp h
    exact (bootTimely st now hw.bootTimeout).mpr ⟨hready, hboot, hnew, by omega⟩
  shutdownTimeout := fun _ hle hlt _ _ _ _ h => poweredOff_of_longer hle hlt h
  powerOnTimeout := by
    intro n hle hlt st now policy h
    have hle' := UInt64.le_iff_toNat_le.mp hle
    obtain ⟨hpolicy, hready, hup, d, hd, hon, hlate⟩ := (attemptTimely st now policy hlt).mp h
    exact (attemptTimely st now policy hw.powerOnTimeout).mpr
      ⟨hpolicy, hready, hup, d, hd, hon, by omega⟩

end NeverEarlier

/-- **Which waits are respected**: those that fit a duration, a date after every
ordinary one, or an `i64`, wherever they are made one.  Of these a longer one
never makes what it delays happen earlier. -/
theorem respected_iff (e : Era) (w : WaitSettings) :
    (Respected e w ↔ w.Within e) ∧ (w.Within e → NeverEarlier e w) := by
  refine ⟨⟨?_, respected_of_within⟩, neverEarlier⟩
  intro h
  exact ⟨h.pendingPodGrace, h.drainFailureBackoff, h.unneeded, h.holdAfterPowerOn,
    h.bootFailureBackoff, h.manualPowerOnGrace, h.cooldown, h.bootTimeout, h.shutdownTimeout,
    h.powerOnTimeout⟩

/-! ## §8. Waits meant to be for ever. -/

/-- The dates of the calendar, and those of this century. -/
def century : Era where
  first := seconds (-8334601228800)
  last := seconds 8210266876799
  earliest := seconds 946684800
  latest := seconds 4102444799
  first_le := by decide
  wide := by decide
  le_last := by decide

/-- **Waits meant to be for ever**: with one of `i64::MAX` seconds every plan
fails, and a grace of `u64::MAX` seconds is over when that of 30 s is not. -/
theorem forever_not_respected :
    ¬ Respected century { unneeded := 9223372036854775807 } ∧
    (century.justNow { unneeded := 9223372036854775807 } none).planTimed century.toDateRange
      = none ∧
    ¬ Respected century { pendingPodGrace := 18446744073709551615 } ∧
    (century.justNow {} none).selected.map (·.name) = [] ∧
    (century.justNow { pendingPodGrace := 18446744073709551615 } none).selected.map (·.name)
      = ["p1"] := by
  have hfails : (century.justNow { unneeded := 9223372036854775807 } none).planTimed
      century.toDateRange = none := by
    -- the Duration of unneededSeconds is made before anything else is looked at
    have hdur : duration (asI64 9223372036854775807) = none := by decide
    unfold PoolSnapshot.planTimed
    show (duration (asI64 30)).bind (fun _ => (duration (asI64 1800)).bind (fun _ =>
      (duration (asI64 9223372036854775807)).bind _)) = none
    rw [hdur]
    rfl
  refine ⟨?_, hfails, ?_, by decide +kernel, by decide +kernel⟩
  · intro h
    have hnot := h.unneeded.1
    revert hnot
    decide
  · intro h
    have hnot := h.pendingPodGrace
    revert hnot
    decide

end HardwareAutoscaler
