/-
  HardwareAutoscaler.Controller.Machine.Readings
  ──────────────────────────────────────────────
  FROM WHAT IS STORED TO WHERE THE STATE MACHINE STARTS: the readings, the
  manual change and the boot tracking of a reconcile change little of the
  status, and issue nothing.

    • `fresh_frame`, `start_frame` — what stays as it was stored,
    • `actions_of_reading` — the actions of a reconcile are those of its state
      machine.
-/
import HardwareAutoscaler.Controller.Machine.Moves

namespace HardwareAutoscaler

/-! ## §1. What the state machine starts from. -/

namespace MachineInput

variable {i : MachineInput} {old : NodePowerManagementConfigStatus} {cache : IdentityCache}

/-- **The Node and the pools** change nothing but what is read from them, and
drop a decision of a pool the machine is not in. -/
theorem checked_frame (i : MachineInput) (old : NodePowerManagementConfigStatus) :
    ∃ allocatable labels extended pool conditions, i.checked old =
      { old with
        nodeReady := i.node.any HardwareAutoscaler.nodeReady
        pools := i.membership.pools
        scalingDecision := old.scalingDecision.filter (fun dec => i.membership.pools.contains dec.pool)
        allocatable := allocatable, nodeLabels := labels, extendedResources := extended
        pool := pool, conditions := conditions } := by
  unfold checked resolvePools seeNode
  cases i.node with
  | none => exact ⟨_, _, _, _, _, rfl⟩
  | some n => exact ⟨_, _, _, _, _, rfl⟩

/-- **The readings of a reconcile change nothing but the readings**: what was
decided, done and timed before is as it was stored, but for a decision of a
pool the machine is not in. -/
theorem fresh_frame {d : Reading} (h : (i.read old cache).1 = .ok d) :
    ∃ power allocatable labels extended pool conditions warnings, d.fresh =
      { old with
        powerState := power
        nodeReady := i.node.any HardwareAutoscaler.nodeReady
        pools := i.membership.pools
        scalingDecision := old.scalingDecision.filter (fun dec => i.membership.pools.contains dec.pool)
        allocatable := allocatable, nodeLabels := labels, extendedResources := extended
        pool := pool, conditions := conditions, interfaceWarnings := warnings } := by
  obtain ⟨allocatable, labels, extended, pool, conditions, hchecked⟩ := i.checked_frame old
  unfold read at h
  simp only at h
  split at h
  · cases h
  · split at h
    · cases h
    · cases h
      rw [hchecked]
      exact ⟨_, _, _, _, _, _, _, rfl⟩

/-- A reading is On or Off. -/
theorem power_known {d : Reading} (h : (i.read old cache).1 = .ok d) :
    d.fresh.powerState = .on ∨ d.fresh.powerState = .off := by
  unfold read at h
  simp only at h
  split at h
  · cases h
  · split at h
    · cases h
    · rename_i outcome houtcome
      cases h
      exact PowerChain.powerState_known houtcome

/-- **A reconcile that stops early** leaves the phase, or sets `Error`, and
keeps what was decided, done and timed before. -/
theorem stopped_frame {e : Stopped} (h : (i.read old cache).1 = .error e) :
    ∃ allocatable labels extended pool conditions warnings message, e.st =
      { old with
        phase := e.st.phase, powerState := .unknown
        nodeReady := i.node.any HardwareAutoscaler.nodeReady
        pools := i.membership.pools
        scalingDecision := old.scalingDecision.filter (fun dec => i.membership.pools.contains dec.pool)
        allocatable := allocatable, nodeLabels := labels, extendedResources := extended
        pool := pool, conditions := conditions, interfaceWarnings := warnings
        message := message } ∧
      (e.st.phase = .error ∨ e.st.phase = old.phase) := by
  obtain ⟨allocatable, labels, extended, pool, conditions, hchecked⟩ := i.checked_frame old
  unfold read at h
  simp only at h
  -- no interface could be built, or none could be read
  split at h
  · cases h
    rw [hchecked]
    exact ⟨_, _, _, _, _, _, _, rfl, Or.inl rfl⟩
  · split at h
    · cases h
      rw [hchecked]
      exact ⟨_, _, _, _, _, _, _, rfl, Or.inr rfl⟩
    · cases h

namespace Reading

variable (d : Reading) (i : MachineInput) (old : NodePowerManagementConfigStatus)

/-- **What comes before the target leaves alone** the phase, the readings, the
last action and the timers; a decision and a standby can only be dropped. -/
theorem start_frame :
    ∃ manualOn manualOff decision standby since failure, d.start i old =
      { d.fresh with
        manualPowerOn := manualOn, manualPowerOff := manualOff, scalingDecision := decision
        standbySince := standby, poweredOnNotReadySince := since, bootFailure := failure } ∧
      (decision = none ∨ decision = d.fresh.scalingDecision) ∧
      (standby = none ∨ standby = d.fresh.standbySince) := by
  obtain ⟨since, failure, htracked⟩ :=
    trackBoot_frame (d.seenOff i old) i.now (d.machine i).bootTimeout
  have hseen : ∃ manualOn, d.seenOff i old = { d.fresh with manualPowerOn := manualOn } := by
    unfold seenOff
    split
    · exact ⟨_, rfl⟩
    · exact ⟨_, rfl⟩
  obtain ⟨manualOn, hseen⟩ := hseen
  unfold start tracked
  rw [htracked, hseen]
  -- only a manual change drops the decision, and only a power-on the standby
  cases d.change i old with
  | none => exact ⟨_, _, _, _, _, _, rfl, Or.inr rfl, Or.inr rfl⟩
  | poweredOn => exact ⟨_, _, _, _, _, _, rfl, Or.inl rfl, Or.inl rfl⟩
  | poweredOff => exact ⟨_, _, _, _, _, _, rfl, Or.inl rfl, Or.inr rfl⟩

@[simp] theorem start_phase : (d.start i old).phase = d.fresh.phase := by
  obtain ⟨_, _, _, _, _, _, h, _⟩ := d.start_frame i old
  rw [h]

@[simp] theorem start_phaseSince : (d.start i old).phaseSince = d.fresh.phaseSince := by
  obtain ⟨_, _, _, _, _, _, h, _⟩ := d.start_frame i old
  rw [h]

@[simp] theorem start_powerState : (d.start i old).powerState = d.fresh.powerState := by
  obtain ⟨_, _, _, _, _, _, h, _⟩ := d.start_frame i old
  rw [h]

@[simp] theorem start_nodeReady : (d.start i old).nodeReady = d.fresh.nodeReady := by
  obtain ⟨_, _, _, _, _, _, h, _⟩ := d.start_frame i old
  rw [h]

@[simp] theorem start_lastPowerAction :
    (d.start i old).lastPowerAction = d.fresh.lastPowerAction := by
  obtain ⟨_, _, _, _, _, _, h, _⟩ := d.start_frame i old
  rw [h]

end Reading

end MachineInput

/-! ## §2. What a reconcile issues. -/

namespace MachineState

variable (w : MachineState) (i : MachineInput)

/-- The power actions of a reconcile. -/
def actions : List PowerAction := issued (w.cycle i).effects

/-- The boot handler acts in this reconcile. -/
def BootActs : Prop :=
  ∃ d, w.reading i = some d ∧
    (d.machine i).bootAction (d.tracked i (w.old i)).2 (d.start i (w.old i)) ≠ none

variable {w i}

/-- What a reconcile reads. -/
theorem reading_eq {d : MachineInput.Reading} :
    w.reading i = some d ↔ (i.read (w.old i) w.cache).1 = .ok d := by
  unfold reading
  cases (i.read (w.old i) w.cache).1 with
  | error e => simp [Except.toOption]
  | ok d' => simp [Except.toOption]

/-- The state machine starts in the stored phase. -/
theorem start_phase_stored {d : MachineInput.Reading} (h : w.reading i = some d) :
    (d.start i (w.old i)).phase = w.stored.phase := by
  obtain ⟨_, _, _, _, _, _, _, hfresh⟩ := MachineInput.fresh_frame (reading_eq.mp h)
  rw [MachineInput.Reading.start_phase, hfresh]
  rfl

/-- The state machine starts with the clock of the stored phase. -/
theorem start_phaseSince_stored {d : MachineInput.Reading} (h : w.reading i = some d) :
    (d.start i (w.old i)).phaseSince = w.stored.phaseSince := by
  obtain ⟨_, _, _, _, _, _, _, hfresh⟩ := MachineInput.fresh_frame (reading_eq.mp h)
  rw [MachineInput.Reading.start_phaseSince, hfresh]
  rfl

/-- The contacts of a power reading are no actions. -/
theorem issued_contacts (contacted : List Nat) :
    issued (contacted.map (Effect.contact .status)) = [] := by
  unfold issued
  simp

/-- The effects of a reconcile that read the power state are those of its state
machine. -/
theorem effects_of_reading {d : MachineInput.Reading} (h : w.reading i = some d) :
    (w.cycle i).effects = (i.settle (w.old i) d).1.effects := by
  have hread := reading_eq.mp h
  unfold cycle MachineInput.reconcile
  rcases hr : i.read (w.old i) w.cache with ⟨answer, cache⟩
  rw [hr] at hread
  simp only at hread
  subst hread
  simp only
  split
  · rename_i s _ hs
    rw [hs]
  · rename_i s hs
    rw [hs]

/-- The actions of a reconcile that reads its machine. -/
theorem actions_of_reading {d : MachineInput.Reading} (h : w.reading i = some d) :
    w.actions i = (i.settle (w.old i) d).1.issued := by
  unfold actions
  rw [effects_of_reading h]
  rfl

/-- A reconcile that stopped before its state machine has at most asked for the
power state. -/
theorem effects_of_stopped (h : w.reading i = none) :
    ∃ contacted : List Nat, (w.cycle i).effects = contacted.map (Effect.contact .status) := by
  unfold reading at h
  unfold cycle MachineInput.reconcile
  rcases hr : i.read (w.old i) w.cache with ⟨answer, cache⟩
  rw [hr] at h
  cases answer with
  | ok d => cases h
  | error e =>
    simp only
    unfold MachineInput.read at hr
    simp only at hr
    split at hr
    · cases hr
      exact ⟨[], rfl⟩
    · split at hr
      · cases hr
        exact ⟨_, rfl⟩
      · cases hr

/-- A reconcile that reads nothing does nothing. -/
theorem actions_of_stopped (h : w.reading i = none) : w.actions i = [] := by
  obtain ⟨contacted, heff⟩ := effects_of_stopped h
  unfold actions
  rw [heff, issued_contacts]

/-! ## §3. What a reconcile stores. -/

variable (w i)

/-- **The status after a reconcile**: the one before, if it stores none, that of
a reconcile that stopped early, or that of the state machine. -/
theorem step_stored :
    ((w.cycle i).status = none ∧ (machineStep w i).stored = w.old i) ∨
    (∃ e, (i.read (w.old i) w.cache).1 = .error e ∧
      (machineStep w i).stored = patched (w.old i) e.st) ∨
    ∃ d, w.reading i = some d ∧ (i.settle (w.old i) d).2.isSome = true ∧
      (machineStep w i).stored = patched (w.old i) (i.settle (w.old i) d).1.st := by
  unfold machineStep cycle MachineInput.reconcile
  rcases hr : i.read (w.old i) w.cache with ⟨answer, cache⟩
  -- the status is patched after an error, and after a cycle that ends with a requeue
  cases answer with
  | error e =>
    by_cases hpatch : i.api.patch = true
    · refine Or.inr (Or.inl ⟨e, rfl, ?_⟩)
      simp only
      rw [if_pos hpatch]
    · refine Or.inl ⟨if_neg hpatch, ?_⟩
      simp only
      rw [if_neg hpatch]
  | ok d =>
    have hread : w.reading i = some d := by
      rw [reading_eq, hr]
    rcases hs : i.settle (w.old i) d with ⟨s, requeue⟩
    cases requeue with
    | none =>
      simp only [hs]
      exact Or.inl ⟨trivial, trivial⟩
    | some requeue =>
      simp only [hs]
      by_cases hpatch : i.api.patch = true
      · refine Or.inr (Or.inr ⟨d, hread, ?_, ?_⟩)
        · rw [hs]
          rfl
        · rw [if_pos hpatch, hs]
      · refine Or.inl ⟨if_neg hpatch, ?_⟩
        rw [if_neg hpatch]

/-- The phase and its clock after a reconcile. -/
theorem step_phase : ((machineStep w i).stored.phase = w.stored.phase ∧
      (machineStep w i).stored.phaseSince = w.stored.phaseSince) ∨
    (machineStep w i).stored.phase = .error ∨
    ∃ d, w.reading i = some d ∧
      (machineStep w i).stored.phase = (i.settle (w.old i) d).1.st.phase ∧
      (machineStep w i).stored.phaseSince = (i.settle (w.old i) d).1.st.phaseSince := by
  rcases w.step_stored i with ⟨_, h⟩ | ⟨e, he, h⟩ | ⟨d, hd, _, h⟩
  · rw [h]
    exact Or.inl ⟨rfl, rfl⟩
  · obtain ⟨_, _, _, _, _, _, _, heq, hphase⟩ := MachineInput.stopped_frame he
    rw [h]
    rcases hphase with hphase | hphase
    · exact Or.inr (Or.inl hphase)
    · refine Or.inl ⟨hphase, ?_⟩
      show e.st.phaseSince = _
      rw [heq]
      rfl
  · rw [h]
    exact Or.inr (Or.inr ⟨d, hd, rfl, rfl⟩)

variable {w i}

/-- What is stored when the patch is made. -/
theorem stored_of_reading {d : MachineInput.Reading} (h : w.reading i = some d)
    (hpatch : i.api.patch = true) (hanswer : (i.settle (w.old i) d).2.isSome = true) :
    (machineStep w i).stored = patched (w.old i) (i.settle (w.old i) d).1.st := by
  have hread := reading_eq.mp h
  unfold machineStep cycle MachineInput.reconcile
  rcases hr : i.read (w.old i) w.cache with ⟨answer, cache⟩
  rw [hr] at hread
  simp only at hread
  subst hread
  rcases hs : i.settle (w.old i) d with ⟨s, requeue⟩
  rw [hs] at hanswer
  cases requeue with
  | none => cases hanswer
  | some requeue =>
    simp only [hs]
    rw [if_pos hpatch]

end MachineState

end HardwareAutoscaler
