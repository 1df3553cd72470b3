/-
  HardwareAutoscaler.Controller.Machine.Drain
  ───────────────────────────────────────────
  THE POWER OF A RUNNING MACHINE IS CUT BEHIND A DRAIN.

  `PoweringOff` is entered by `drain()` only, when no pod is left to wait for
  or when the drain is forced after its timeout.

    • `draining_since`, `poweringOff_entered` — how a stored phase was reached,
    • `cut_after_drain` — what is issued to a machine that is On and Ready is
      behind a drain, for drain timeouts below 2^63,
    • `cut_before_timeout` — above, the timeout is negative and a forced drain
      does not wait.
-/
import HardwareAutoscaler.Controller.Machine.Phases
import HardwareAutoscaler.Controller.Machine.Safety

namespace HardwareAutoscaler

/-! ## §1. Drains over a run. -/

/-- The drain of reconcile `n` found no pod to evict and none that blocks. -/
def DrainedAt (inp : Nat → MachineInput) (n : Nat) : Prop :=
  (machineAt inp n).stored.phase = .draining ∧
    ∀ pod ∈ (inp n).cluster.podsOn (inp n).mn.spec.nodeName, drainClass pod = .ignore

/-- The drain may be forced, and reconcile `n` finds the machine `Draining` for
longer than `drainTimeoutSeconds`. -/
def ForcedAt (inp : Nat → MachineInput) (n : Nat) : Prop :=
  (inp n).mn.spec.lifecycle.forceAfterDrainTimeout = true ∧
    ∃ k < n, (∀ j, k < j → j ≤ n → (machineAt inp j).stored.phase = .draining) ∧
      seconds (inp n).mn.spec.lifecycle.drainTimeoutSeconds.toNat < (inp n).now - (inp k).now

namespace Reconciler

/-- A drain is over by itself when all pods on the Node may stay. -/
theorem drained_iff (r : Reconciler) :
    r.drained = true ↔ ∀ pod ∈ r.pods, drainClass pod = .ignore := by
  unfold drained remaining blocked
  simp only [Bool.and_eq_true, List.isEmpty_iff, List.filter_eq_nil_iff, List.filterMap_eq_nil_iff,
    decide_eq_true_eq]
  constructor
  · rintro ⟨hevict, hblock⟩ pod hpod
    cases hc : drainClass pod with
    | ignore => rfl
    | evict => exact absurd hc (hevict pod hpod)
    | block why =>
      have := hblock pod hpod
      rw [hc] at this
      cases this
  · intro h
    constructor
    · intro pod hpod hc
      rw [h pod hpod] at hc
      cases hc
    · intro pod hpod
      rw [h pod hpod]

end Reconciler

/-- A tracked boot only fails while the Node is not Ready. -/
theorem nodeReady_of_failed {st : NodePowerManagementConfigStatus} {now : Int} {t : UInt64}
    (h : (trackBoot st now t).2 = .failed) : st.nodeReady = false := by
  unfold trackBoot at h
  split at h
  · split at h <;> cases h
  · rename_i hready
    simpa using hready

/-- No boot of a machine whose Node is Ready has just failed. -/
theorem MachineInput.Reading.tracked_ne_failed (d : MachineInput.Reading) (i : MachineInput)
    (old : NodePowerManagementConfigStatus) (hready : d.fresh.nodeReady = true) :
    (d.tracked i old).2 ≠ .failed := by
  intro hfailed
  have hnot := nodeReady_of_failed hfailed
  have hseen : (d.seenOff i old).nodeReady = d.fresh.nodeReady := by
    unfold MachineInput.Reading.seenOff
    split <;> rfl
  rw [hseen, hready] at hnot
  cases hnot

/-! ## §2. How a phase was reached. -/

section Runs

variable {inp : Nat → MachineInput}

/-- **A machine stored as `Draining` is so since the reconcile its clock
names.** -/
theorem draining_since (n : Nat) (h : (machineAt inp n).stored.phase = .draining) :
    ∃ k < n, (machineAt inp n).stored.phaseSince = some (inp k).now ∧
      ∀ j, k < j → j ≤ n → (machineAt inp j).stored.phase = .draining := by
  induction n with
  | zero => cases h
  | succ n ih =>
    -- a reconcile that leaves phase and clock adds itself to the stretch
    have hextend : (machineAt inp n).stored.phase = .draining →
        (machineAt inp (n + 1)).stored.phaseSince = (machineAt inp n).stored.phaseSince →
        ∃ k < n + 1, (machineAt inp (n + 1)).stored.phaseSince = some (inp k).now ∧
          ∀ j, k < j → j ≤ n + 1 → (machineAt inp j).stored.phase = .draining := by
      intro hphase hsince
      obtain ⟨k, hk, hclock, hall⟩ := ih hphase
      refine ⟨k, by omega, hsince.trans hclock, ?_⟩
      intro j hkj hjn
      rcases Nat.lt_or_ge n j with hlt | hge
      · have : j = n + 1 := by omega
        rw [this]
        exact h
      · exact hall j hkj hge
    rw [machineAt_succ] at h hextend ⊢
    rcases (machineAt inp n).step_phase (inp n) with ⟨hp, hs⟩ | herr | ⟨d, hd, hp, hs⟩
    · exact hextend (hp.symm.trans h) hs
    · rw [h] at herr
      cases herr
    -- the step kept the clock, or set it to its own time and the stretch begins here
    · have hphase := MachineState.start_phase_stored hd
      have hsince := MachineState.start_phaseSince_stored hd
      rcases (d.machine (inp n)).step_clocked ⟨d.start (inp n) _, _⟩ _ _ with ⟨hp', hs'⟩ | hs'
      · apply hextend
        · rw [← hphase]
          exact hp'.symm.trans (hp.symm.trans h)
        · rw [hs, ← hsince]
          exact hs'
      · refine ⟨n, by omega, hs.trans hs', ?_⟩
        intro j hnj hjn
        have : j = n + 1 := by omega
        rw [this, machineAt_succ]
        exact h

/-- A drain that is over in reconcile `n`, as the run sees it. -/
theorem drainOver_at {n : Nat} {d : MachineInput.Reading}
    (hfit : (inp n).mn.spec.lifecycle.drainTimeoutSeconds.toNat < 2 ^ 63)
    (hd : (machineAt inp n).reading (inp n) = some d)
    (hover : (d.machine (inp n)).DrainOver (d.start (inp n) ((machineAt inp n).old (inp n)))) :
    DrainedAt inp n ∨ ForcedAt inp n := by
  obtain ⟨hphase, hover⟩ := hover
  rw [MachineState.start_phase_stored hd] at hphase
  -- the timeout is measured from the clock, and the clock is of a reconcile of the run
  rcases hover with hdone | ⟨hforce, hlate⟩
  · left
    exact ⟨hphase, (Reconciler.drained_iff _).mp hdone⟩
  · right
    obtain ⟨k, hk, hclock, hall⟩ := draining_since n hphase
    refine ⟨hforce, k, hk, hall, ?_⟩
    have hsince : (d.start (inp n) ((machineAt inp n).old (inp n))).phaseSince
        = some (inp k).now :=
      (MachineState.start_phaseSince_stored hd).trans hclock
    unfold Reconciler.inPhaseFor at hlate
    rw [hsince] at hlate
    have hlate : asI64 (inp n).mn.spec.lifecycle.drainTimeoutSeconds
        < numSeconds ((inp n).now - (inp k).now) := hlate
    rw [asI64_of_lt hfit] at hlate
    exact seconds_lt_of_lt_numSeconds hlate

/-- **A machine stored as `PoweringOff` is so since a drain that was over.** -/
theorem poweringOff_entered
    (hfit : ∀ j, (inp j).mn.spec.lifecycle.drainTimeoutSeconds.toNat < 2 ^ 63) (n : Nat)
    (h : (machineAt inp n).stored.phase = .poweringOff) :
    ∃ k < n, (DrainedAt inp k ∨ ForcedAt inp k) ∧
      ∀ j, k < j → j ≤ n → (machineAt inp j).stored.phase = .poweringOff := by
  obtain ⟨k, hk, hnot, hall⟩ := Lib.exists_last_entry
    (fun j => (machineAt inp j).stored.phase = .poweringOff) (by intro h; cases h) n h
  refine ⟨k, hk, ?_, hall⟩
  have hentered : (machineAt inp (k + 1)).stored.phase = .poweringOff :=
    hall (k + 1) (by omega) (by omega)
  rw [machineAt_succ] at hentered
  -- the reconcile that entered the phase: only a drain that is over does
  rcases (machineAt inp k).step_phase (inp k) with ⟨hp, _⟩ | herr | ⟨d, hd, hp, _⟩
  · exact absurd (hp.symm.trans hentered) hnot
  · rw [hentered] at herr
    cases herr
  · rcases Reconciler.enters_poweringOff _ _ (hp.symm.trans hentered) with hphase | hover
    · exact absurd ((MachineState.start_phase_stored hd).symm.trans hphase) hnot
    · exact drainOver_at (hfit k) hd hover

/-! ## §3. Behind a drain. -/

/-- **No path but the drain cuts the power of a running machine**: what is
issued while the machine reads On and its Node is Ready is issued by a drain
that found nothing to wait for, by a forced drain past its timeout, or in the
`PoweringOff` that one of the two entered. -/
theorem cut_after_drain (inp : Nat → MachineInput)
    (hfit : ∀ j, (inp j).mn.spec.lifecycle.drainTimeoutSeconds.toNat < 2 ^ 63) (n : Nat)
    (d : MachineInput.Reading) (hd : (machineAt inp n).reading (inp n) = some d)
    (hon : d.fresh.powerState = .on) (hready : d.fresh.nodeReady = true) (a : PowerAction)
    (ha : a ∈ (machineAt inp n).actions (inp n)) :
    DrainedAt inp n ∨ ForcedAt inp n ∨
      ∃ k < n, (DrainedAt inp k ∨ ForcedAt inp k) ∧
        ∀ j, k < j → j ≤ n → (machineAt inp j).stored.phase = .poweringOff := by
  have hevent := d.tracked_ne_failed (inp n) ((machineAt inp n).old (inp n)) hready
  rw [MachineState.actions_of_reading hd] at ha
  have hstep := Reconciler.issued_ready (d.machine (inp n))
    ⟨d.start (inp n) ((machineAt inp n).old (inp n)), d.contacted.map (.contact .status)⟩
    _ ((inp n).consistent d.fresh) hevent
    (by rw [MachineInput.Reading.start_powerState]; exact hon)
    (by rw [MachineInput.Reading.start_nodeReady]; exact hready)
  -- nothing issued, the phase a drain has entered, or a drain that is over now
  rcases hstep with hnone | hphase | hover
  · have hempty : ((inp n).settle ((machineAt inp n).old (inp n)) d).1.issued = [] :=
      hnone.trans (MachineState.issued_contacts _)
    rw [hempty] at ha
    cases ha
  · right
    right
    exact poweringOff_entered hfit n ((MachineState.start_phase_stored hd).symm.trans hphase)
  · rcases drainOver_at (hfit n) hd hover with h | h
    · exact Or.inl h
    · exact Or.inr (Or.inl h)

end Runs

/-! ## §4. A machine to be switched off for good. -/

/-- A pod that a drain evicts. -/
def evictablePod : Pod where
  «namespace» := "default"
  name := "web-1"
  ownerReferences := [{ kind := "ReplicaSet", name := "web" }]
  nodeName := some "m1"

/-- A running machine under `AlwaysOff`, reconciled every 2 s. -/
def switchOff (lifecycle : LifecycleSpec) (pods : List Pod) (n : Nat) : MachineInput where
  mn :=
    { name := "m1"
      spec :=
        { nodeName := "m1"
          powerPolicy := .alwaysOff
          powerInterfaces := [{ driver := "redfish" }]
          lifecycle := lifecycle } }
  cluster :=
    { nodes := [{ name := "m1", conditions := [{ type_ := "Ready", status := "True" }] }]
      pods := pods }
  built := fun _ => .ok readsOn
  now := seconds (2 * n)
  lookupAt := seconds (2 * n)
  storeAt := seconds (2 * n)

/-- Without pods the second reconcile powers it off, behind its drain. -/
theorem cut_after_drain_empty :
    (machineAt (switchOff {} []) 1).actions (switchOff {} [] 1) = [.powerOff] ∧
    (DrainedAt (switchOff {} []) 1 ∨ ForcedAt (switchOff {} []) 1 ∨
      ∃ k < 1, (DrainedAt (switchOff {} []) k ∨ ForcedAt (switchOff {} []) k) ∧
        ∀ j, k < j → j ≤ 1 → (machineAt (switchOff {} []) j).stored.phase = .poweringOff) := by
  have hactions : (machineAt (switchOff {} []) 1).actions (switchOff {} [] 1) = [.powerOff] := by
    decide +kernel
  have hread : ((machineAt (switchOff {} []) 1).reading (switchOff {} [] 1)).any
      (fun d => d.fresh.powerState == .on && d.fresh.nodeReady) = true := by decide +kernel
  have hfit : (300 : UInt64).toNat < 2 ^ 63 := by decide
  obtain ⟨d, hd, hstate⟩ := (Option.any_eq_true _ _).mp hread
  simp only [Bool.and_eq_true, beq_iff_eq] at hstate
  exact ⟨hactions, cut_after_drain _ (fun _ => hfit) 1 d hd hstate.1 hstate.2 .powerOff
    (by rw [hactions]; exact List.mem_singleton_self _)⟩

/-- A timeout that `as i64` makes negative, and a drain that may be forced. -/
def endlessDrain : LifecycleSpec where
  drainTimeoutSeconds := 9223372036854775808
  forceAfterDrainTimeout := true

/-- **A drain timeout of 2^63 is no timeout**: 2 s after the drain began the
machine is powered off with a pod still to be evicted. -/
theorem cut_before_timeout :
    (∃ d, (machineAt (switchOff endlessDrain [evictablePod]) 1).reading
        (switchOff endlessDrain [evictablePod] 1) = some d ∧
      d.fresh.powerState = .on ∧ d.fresh.nodeReady = true) ∧
    (machineAt (switchOff endlessDrain [evictablePod]) 1).actions
        (switchOff endlessDrain [evictablePod] 1) = [.powerOff] ∧
    ¬ (DrainedAt (switchOff endlessDrain [evictablePod]) 1 ∨
        ForcedAt (switchOff endlessDrain [evictablePod]) 1 ∨
        ∃ k < 1, (DrainedAt (switchOff endlessDrain [evictablePod]) k ∨
            ForcedAt (switchOff endlessDrain [evictablePod]) k) ∧
          ∀ j, k < j → j ≤ 1 →
            (machineAt (switchOff endlessDrain [evictablePod]) j).stored.phase = .poweringOff) := by
  have hread : ((machineAt (switchOff endlessDrain [evictablePod]) 1).reading
      (switchOff endlessDrain [evictablePod] 1)).any
      (fun d => d.fresh.powerState == .on && d.fresh.nodeReady) = true := by decide +kernel
  obtain ⟨d, hd, hstate⟩ := (Option.any_eq_true _ _).mp hread
  simp only [Bool.and_eq_true, beq_iff_eq] at hstate
  refine ⟨⟨d, hd, hstate⟩, by decide +kernel, ?_⟩
  -- not drained, not forced in time, and no cycle before it was draining
  rintro (⟨_, hpods⟩ | ⟨_, k, hk, _, hlate⟩ | ⟨k, hk, hdrain | ⟨_, j, hj, _⟩, _⟩)
  · have hmem : evictablePod ∈ (switchOff endlessDrain [evictablePod] 1).cluster.podsOn "m1" :=
      List.mem_filter.mpr ⟨List.mem_singleton_self _, by decide⟩
    have hclass : drainClass evictablePod = .evict := by decide +kernel
    rw [hpods evictablePod hmem] at hclass
    cases hclass
  · have hk0 : k = 0 := by omega
    rw [hk0] at hlate
    revert hlate
    decide
  · have hk0 : k = 0 := by omega
    rw [hk0] at hdrain
    cases hdrain.1
  · omega

end HardwareAutoscaler
