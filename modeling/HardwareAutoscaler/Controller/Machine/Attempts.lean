/-
  HardwareAutoscaler.Controller.Machine.Attempts
  ──────────────────────────────────────────────
  WHEN A POWER-ON ATTEMPT IS GIVEN UP.

  The clock of an attempt is the time of the decision, and nothing records that
  the attempt succeeded.  A decision that was fulfilled is given up when the
  machine is found down later, unless that is seen to be a manual power-off,
  which drops the decision.  It is seen when the machine ran undisturbed before.

    • `settle_of_givesUp` — a reconcile that gives up records a boot failure and
      drops the decision,
    • `runs_step` — what a step that does not want the machine Off makes of one
      that reads On,
    • `not_givesUp_of_ranUntil` — a machine that ran until a reconcile is not
      given up by it,
    • `given_up_unfulfilled` — in which runs no fulfilled decision is given up.
-/
import HardwareAutoscaler.Controller.Machine.PoweredOff
import HardwareAutoscaler.Controller.Machine.Standby

namespace HardwareAutoscaler

open Reconciler (bootStaysFailed)

/-! ## §1. The reconcile that gives up. -/

namespace MachineState

variable (w : MachineState) (i : MachineInput)

/-- The state machine drives the machine towards On: the boot handler stands
back, the gates hold, and the target is On. -/
structure DrivenOn (d : MachineInput.Reading) : Prop where
  boot : ¬ ((d.tracked i (w.old i)).2 = .failed ∨
    ((d.tracked i (w.old i)).2 = .none ∧ bootStaysFailed (d.start i (w.old i)) = true))
  node : i.node.isSome = true
  consistent : i.consistent d.fresh = true
  target : managedTarget i.mn.spec.powerPolicy (d.start i (w.old i)) (d.machine i).manualPolicy
    = some .on

/-- **The reconcile gives up on decision `dec`**: it drives the machine towards
On, and the attempt of `dec` reports `Expired`. -/
def GivesUp (dec : ScalingDecision) : Prop :=
  ∃ d, w.reading i = some d ∧ w.DrivenOn i d ∧ (d.start i (w.old i)).scalingDecision = some dec ∧
    powerOnAttempt (d.start i (w.old i)) i.now (d.machine i).powerOnFailurePolicy
      (d.machine i).powerOnTimeout = .expired

variable {w i}

/-- **Giving up records a boot failure and drops the decision.** -/
theorem settle_of_givesUp {dec : ScalingDecision} (h : w.GivesUp i dec) :
    ∃ d, w.reading i = some d ∧
      (i.settle (w.old i) d).1.st.bootFailure = some { time := i.now } ∧
      (i.settle (w.old i) d).1.st.scalingDecision = none := by
  obtain ⟨d, hd, hdriven, hdec, hexpired⟩ := h
  refine ⟨d, hd, ?_⟩
  obtain ⟨dec', hover⟩ := expired_iff.mp hexpired
  have hnotUp : ¬ ((i.begun (w.old i) d).st.powerState = .on ∧
      (i.begun (w.old i) d).st.nodeReady = true) := by
    intro hup
    have hready : (d.start i (w.old i)).nodeReady = true := hup.2
    rw [hover.notReady] at hready
    cases hready
  -- driven towards On, an attempt that expired is released
  have hsettle : i.settle (w.old i) d
      = ((d.machine i).releaseFailedPowerOn (i.begun (w.old i) d), some fast) := by
    have hnode : (d.machine i).node.isNone = false := by
      have hsome : (d.machine i).node.isSome = true := hdriven.node
      simpa using hsome
    have htarget : managedTarget (d.machine i).mn.spec.powerPolicy (i.begun (w.old i) d).st
        (d.machine i).manualPolicy = some .on := hdriven.target
    rw [MachineInput.settle_unhandled hdriven.boot]
    unfold Reconciler.towards
    rw [if_neg (by simp [hnode, hdriven.consistent]), htarget]
    unfold Reconciler.ensureOn
    simp only
    rw [if_neg hnotUp]
    exact if_pos hexpired
  rw [hsettle]
  refine ⟨congrArg BootView.bootFailure ((d.machine i).bootView_released (i.begun (w.old i) d)), ?_⟩
  have hphase : ∀ phase (s : Progress),
      ((d.machine i).setPhase phase s).st.scalingDecision = s.st.scalingDecision := by
    intro phase s
    rw [Reconciler.setPhase_eq]
  unfold Reconciler.releaseFailedPowerOn
  simp only
  split
  · rw [hphase]
    rfl
  · rw [hphase]
    rfl

end MachineState

/-! ## §2. A machine that keeps running. -/

/-- Neither suspended nor being shut down. -/
structure NodePowerManagementConfigStatus.StaysUp (st : NodePowerManagementConfigStatus) :
    Prop where
  phase : st.phase ≠ .poweringOff
  standby : st.standbySince = none

/-- On, or coming up, and not suspended. -/
structure NodePowerManagementConfigStatus.Runs (st : NodePowerManagementConfigStatus) : Prop where
  phase : st.phase ∈ ([.on, .poweringOn, .bootFailed] : List Phase)
  standby : st.standbySince = none

theorem NodePowerManagementConfigStatus.Runs.staysUp {st : NodePowerManagementConfigStatus}
    (h : st.Runs) : st.StaysUp := by
  refine ⟨fun hp => ?_, h.standby⟩
  have hphase := h.phase
  rw [hp] at hphase
  simp at hphase

namespace Reconciler

variable {r : Reconciler} {s : Progress}

theorem runs_observe (hon : s.st.powerState = .on) (hslept : s.st.standbySince = none) :
    (r.observe s).st.Runs := by
  have hawake : inStandby s.st.phase s.st.standbySince.isSome s.st.nodeReady = false := by
    rw [hslept]
    rfl
  unfold observe
  rw [hawake, hon]
  simp only [Bool.false_eq_true, if_false]
  split
  · exact ⟨by simp, by simpa using hslept⟩
  · exact ⟨by simp, by simpa using hslept⟩

/-- A machine that is up is driven to phase `On`, which ends a standby. -/
theorem runs_online (h : (r.online s).2.isSome = true) : (r.online s).1.st.Runs := by
  unfold online at h ⊢
  simp only at h ⊢
  split
  · rename_i hrefused
    rw [if_pos hrefused] at h
    cases h
  · rename_i hu
    rw [if_neg hu] at h
    split
    · rename_i hrefused
      rw [if_pos hrefused] at h
      cases h
    · split
      · refine ⟨by simp, ?_⟩
        rw [standbySince_probeSleep]
        rfl
      · exact ⟨by simp, rfl⟩

/-- One that is coming up is left to come up: its attempt has not expired. -/
theorem ensureOn_comingUp (hon : s.st.powerState = .on) (hready : s.st.nodeReady = false)
    (hup : s.st.StaysUp) :
    r.ensureOn s = if s.st.phase = .poweringOn then (s, some fast) else r.comingUp s := by
  have hongoing : powerOnAttempt s.st r.now r.powerOnFailurePolicy r.powerOnTimeout
      ≠ .expired := by
    intro hexpired
    obtain ⟨dec, hover⟩ := expired_iff.mp hexpired
    rcases hover.down with hoff | hslept
    · exact hoff hon
    · rw [hup.standby] at hslept
      cases hslept
  have hsame : r.keepPoweringOn s = s := by
    unfold keepPoweringOn
    simp [hup.standby, hon]
  unfold ensureOn
  simp only
  rw [if_neg (by simp [hready]), if_neg hongoing, hsame]
  split
  · rfl
  · rw [if_neg (by simp [hup.standby]), if_neg (by simp [hup.phase]),
      if_pos ⟨hon, by simp [hup.standby]⟩]

theorem runs_ensureOn (hon : s.st.powerState = .on) (hup : s.st.StaysUp)
    (h : (r.ensureOn s).2.isSome = true) : (r.ensureOn s).1.st.Runs := by
  by_cases hready : s.st.nodeReady = true
  · rw [r.ensureOn_up s ⟨hon, hready⟩] at h ⊢
    exact runs_online h
  · rw [ensureOn_comingUp hon (by simpa using hready) hup] at h ⊢
    split
    · rename_i hphase
      exact ⟨by simp [hphase], hup.standby⟩
    · rename_i hphase
      rw [if_neg hphase] at h
      unfold comingUp at h ⊢
      simp only at h ⊢
      split
      · rename_i hrefused
        rw [if_pos hrefused] at h
        cases h
      · exact ⟨by simp, by simpa using hup.standby⟩

/-- The boot handler never suspends a machine. -/
theorem runs_boot {event : BootEvent} (hslept : s.st.standbySince = none)
    (h : (r.boot event s).2.isSome = true) : (r.boot event s).1.st.Runs := by
  have hphase := r.phase_boot_handled s h
  refine ⟨by simp [hphase], ?_⟩
  unfold boot bootFailed
  -- a boot that failed may leave the machine on; no case records a standby
  cases event with
  | recovered => exact hslept
  | failed =>
    simp only
    split
    · rw [standbySince_setPhase]
      exact hslept
    · rfl
  | none =>
    have hbootFailed : (r.setPhase .bootFailed s).st.standbySince = none := by
      rw [standbySince_setPhase, hslept]
    simp only
    split
    · exact hslept
    · split
      · exact hslept
      · split
        · exact hbootFailed
        · exact hbootFailed

/-- **A step that does not want the machine Off** leaves one that reads On, and
stays up, running. -/
theorem runs_step {event : BootEvent} {consistent : Bool} (hon : s.st.powerState = .on)
    (hup : s.st.StaysUp)
    (htarget : managedTarget r.mn.spec.powerPolicy s.st r.manualPolicy ≠ some .off)
    (h : (r.step event consistent s).2.isSome = true) :
    (r.step event consistent s).1.st.Runs := by
  revert h
  refine r.step_cases s (P := fun out => out.2.isSome = true → out.1.st.Runs)
    ?boot ?gated ?idle ?on ?off
  case boot =>
    intro _ _ h
    exact runs_boot hup.standby h
  case gated =>
    intro _ _ _
    exact runs_observe hon hup.standby
  case idle =>
    intro _ _ _ _ _
    exact runs_observe hon hup.standby
  case on =>
    intro _ _ _ _ h
    exact runs_ensureOn hon hup h
  case off =>
    intro _ _ _ hoff _
    exact absurd hoff htarget

end Reconciler

/-! ## §3. One reconcile. -/

namespace MachineState

variable (w : MachineState) (i : MachineInput)

/-- The target of a reconcile with reading `d`. -/
def target (d : MachineInput.Reading) : Option PowerTarget :=
  managedTarget i.mn.spec.powerPolicy (d.start i (w.old i)) (d.machine i).manualPolicy

/-- **The reconcile sees the machine running**, and stores so: it reads it On and
does not want it Off, and the machine is neither suspended nor being shut down,
or is wanted On and its Node is Ready. -/
def SeesRunning : Prop :=
  (w.cycle i).status.isSome = true ∧ ∃ d, w.reading i = some d ∧ d.fresh.powerState = .on ∧
    ((w.target i d ≠ some .off ∧ w.stored.StaysUp) ∨
      (w.target i d = some .on ∧ d.fresh.nodeReady = true))

/-- **The reconcile does not disturb a machine that runs**: if it stores a
status, it has read the machine On and does not want it Off. -/
def Undisturbed : Prop :=
  (w.cycle i).status.isSome = true →
    ∃ d, w.reading i = some d ∧ d.fresh.powerState = .on ∧ w.target i d ≠ some .off

/-- The machine is stored as on and running. -/
structure StoredRunning : Prop where
  power : w.stored.powerState = .on
  runs : w.stored.Runs

variable {w i}

theorem StoredRunning.knownOn (h : w.StoredRunning) : w.KnownOn := ⟨h.runs.phase, h.power⟩

/-- A reconcile that stores nothing keeps the machine as it was stored. -/
theorem StoredRunning.keep (h : w.StoredRunning) (hnone : (w.cycle i).status.isSome ≠ true) :
    (machineStep w i).StoredRunning := by
  have hstored : (machineStep w i).stored = w.old i := by
    unfold machineStep
    rw [show (w.cycle i).status = none by simpa using hnone]
  constructor
  · rw [hstored]
    exact h.power
  · rw [hstored]
    exact ⟨h.runs.phase, h.runs.standby⟩

/-- What a reconcile with a reading stores, if it stores a status. -/
theorem stored_of_status {d : MachineInput.Reading} (h : w.reading i = some d)
    (hstatus : (w.cycle i).status.isSome = true) :
    (i.settle (w.old i) d).2.isSome = true ∧
      (machineStep w i).stored = patched (w.old i) (i.settle (w.old i) d).1.st := by
  rcases w.step_stored i with ⟨hnone, _⟩ | ⟨e, he, _⟩ | ⟨d', hd', hanswer, hstored⟩
  · rw [hnone] at hstatus
    cases hstatus
  · rw [reading_eq, he] at h
    cases h
  · rw [h] at hd'
    cases hd'
    exact ⟨hanswer, hstored⟩

/-- **The reconcile that sees the machine running stores it so.** -/
theorem storedRunning_of_sees (h : w.SeesRunning i) : (machineStep w i).StoredRunning := by
  obtain ⟨hstatus, d, hd, hon, hcase⟩ := h
  obtain ⟨hanswer, hstored⟩ := stored_of_status hd hstatus
  have hpower : (i.begun (w.old i) d).st.powerState = .on :=
    (d.start_powerState i (w.old i)).trans hon
  have hruns : (i.settle (w.old i) d).1.st.Runs := by
    rcases hcase with ⟨htarget, hup⟩ | ⟨htarget, hready⟩
    · have hstart : (d.start i (w.old i)).StaysUp := by
        refine ⟨?_, ?_⟩
        · rw [start_phase_stored hd]
          exact hup.phase
        · rcases start_standbySince hd with hnone | hsame
          · exact hnone
          · rw [hsame, hup.standby]
      exact Reconciler.runs_step hpower hstart htarget hanswer
    -- up and wanted: the step is `online`
    · have hup : (i.begun (w.old i) d).st.powerState = .on ∧
          (i.begun (w.old i) d).st.nodeReady = true :=
        ⟨hpower, (d.start_nodeReady i (w.old i)).trans hready⟩
      obtain ⟨hnode, hconsistent⟩ := gates_of_on_ready hd hon hready
      have hunhandled : ¬ i.BootHandled (w.old i) d := by
        intro h
        rcases h with hfailed | ⟨_, hstays⟩
        · exact d.tracked_ne_failed i (w.old i) hready hfailed
        · unfold bootStaysFailed at hstays
          rw [d.start_nodeReady i (w.old i), hready] at hstays
          simp at hstays
      have hsettle : i.settle (w.old i) d = (d.machine i).online (i.begun (w.old i) d) := by
        have hnode : (d.machine i).node.isNone = false := by
          have hsome : (d.machine i).node.isSome = true := hnode
          simpa using hsome
        have htarget : managedTarget (d.machine i).mn.spec.powerPolicy (i.begun (w.old i) d).st
            (d.machine i).manualPolicy = some .on := htarget
        rw [MachineInput.settle_unhandled hunhandled]
        unfold Reconciler.towards
        rw [if_neg (by simp [hnode, hconsistent]), htarget]
        exact (d.machine i).ensureOn_up (i.begun (w.old i) d) hup
      rw [hsettle] at hanswer ⊢
      exact Reconciler.runs_online hanswer
  constructor
  · rw [hstored]
    exact ((d.machine i).powerState_step (i.begun (w.old i) d) _ _).trans hpower
  · rw [hstored]
    exact ⟨hruns.phase, hruns.standby⟩

/-- **A reconcile that does not disturb it** keeps it so. -/
theorem storedRunning_step (h : w.StoredRunning) (hun : w.Undisturbed i) :
    (machineStep w i).StoredRunning := by
  by_cases hstatus : (w.cycle i).status.isSome = true
  · obtain ⟨d, hd, hon, htarget⟩ := hun hstatus
    exact storedRunning_of_sees ⟨hstatus, d, hd, hon, Or.inl ⟨htarget, h.runs.staysUp⟩⟩
  · exact h.keep hstatus

/-- **A machine stored as running is not given up**: reading it down is a manual
power-off, which drops the decision. -/
theorem not_givesUp_of_storedRunning {dec : ScalingDecision} (h : w.StoredRunning)
    (hours : ∀ d, w.reading i = some d →
      ourOff d.fresh i.now i.mn.spec.lifecycle.shutdownTimeoutSeconds = false) :
    ¬ w.GivesUp i dec := by
  rintro ⟨d, hd, _, hdec, hexpired⟩
  obtain ⟨_, hover⟩ := expired_iff.mp hexpired
  -- overdue means down: not Ready, and it reads Off, since no standby was recorded
  have hready : d.fresh.nodeReady = false := by
    rw [← d.start_nodeReady i (w.old i)]
    exact hover.notReady
  have hslept : (d.start i (w.old i)).standbySince = none := by
    rcases start_standbySince hd with hnone | hsame
    · exact hnone
    · rw [hsame, h.runs.standby]
  have hoff : d.fresh.powerState = .off := by
    rcases MachineInput.power_known (reading_eq.mp hd) with hon | hoff
    · rcases hover.down with hdown | hdown
      · rw [d.start_powerState i (w.old i)] at hdown
        exact absurd hon hdown
      · rw [hslept] at hdown
        cases hdown
    · exact hoff
  -- stored as running and found down without a command of ours: switched off by hand
  have hchange : d.change i (w.old i) = .poweredOff :=
    (change_poweredOff_iff hoff hready (hours d hd)).mpr h.knownOn
  have hnone : (d.start i (w.old i)).scalingDecision = none :=
    MachineInput.Reading.start_decision_none (by rw [hchange]; decide)
  rw [hnone] at hdec
  cases hdec

end MachineState

/-! ## §4. In every run. -/

/-- Reconcile `m` sees the machine On with its Node Ready. -/
def SeesUp (inp : Nat → MachineInput) (m : Nat) : Bool :=
  ((machineAt inp m).reading (inp m)).any (fun d => d.fresh.powerState == .on && d.fresh.nodeReady)

/-- **Decision `dec` was fulfilled before reconcile `n`**: the machine was seen
up while `dec` was stored, and it has been stored since. -/
def Fulfilled (inp : Nat → MachineInput) (n : Nat) (dec : ScalingDecision) : Prop :=
  ∃ m < n, SeesUp inp m = true ∧
    ∀ k ≤ n, m ≤ k → ((machineAt inp k).old (inp k)).scalingDecision = some dec

/-- **The machine ran from reconcile `m` until reconcile `n`**: `m` sees it
running, none in between disturbs it, and no off action of ours is so recent
that it could explain a machine found off. -/
structure RanUntil (inp : Nat → MachineInput) (m n : Nat) : Prop where
  before : m < n
  seen : (machineAt inp m).SeesRunning (inp m)
  since : ∀ k < n, m < k → (machineAt inp k).Undisturbed (inp k)
  notOurs : NoRecentOff inp n

/-- Reconcile `n` finds the machine down while the On decision `dec` counts. -/
structure FindsDown (inp : Nat → MachineInput) (n : Nat) (d : MachineInput.Reading)
    (dec : ScalingDecision) : Prop where
  reading : (machineAt inp n).reading (inp n) = some d
  node : (inp n).node.isSome = true
  policy : (inp n).mn.spec.powerPolicy ≠ .alwaysOff
  decided : d.fresh.scalingDecision = some dec
  target : dec.target = .on
  notReady : d.fresh.nodeReady = false
  down : d.fresh.powerState = .off ∨ d.fresh.standbySince.isSome = true

section Runs

variable {inp : Nat → MachineInput} {m n : Nat}

/-- A machine driven towards On under an overdue decision is found down. -/
theorem findsDown_of_overdue {d : MachineInput.Reading} {dec : ScalingDecision}
    {policy : PowerOnFailurePolicy} {timeout : UInt64}
    (hd : (machineAt inp n).reading (inp n) = some d)
    (hdriven : (machineAt inp n).DrivenOn (inp n) d)
    (hover : Overdue (d.start (inp n) ((machineAt inp n).old (inp n))) (inp n).now policy timeout
      dec) : FindsDown inp n d dec := by
  have hready := hover.notReady
  have hdown := hover.down
  have hdecided := hover.decided
  -- the state machine starts from the readings, with nothing but less decided
  obtain ⟨_, _, decision, standby, _, _, hstart, hdec, hslept⟩ :=
    d.start_frame (inp n) ((machineAt inp n).old (inp n))
  rw [hstart] at hready hdown hdecided
  have hdecided : decision = some dec := hdecided
  refine ⟨hd, hdriven.node, ?_, ?_, hover.target, hready, ?_⟩
  · intro hpolicy
    have htarget := hdriven.target
    rw [hpolicy] at htarget
    simp [managedTarget, desiredTarget] at htarget
  · rcases hdec with hnone | hsame
    · rw [hnone] at hdecided
      cases hdecided
    · rw [← hsame, hdecided]
  · rcases hdown with hoff | hsome
    · exact Or.inl ((MachineInput.power_known (MachineState.reading_eq.mp hd)).resolve_left hoff)
    · have hsome : standby.isSome = true := hsome
      rcases hslept with hnone | hsame
      · rw [hnone] at hsome
        cases hsome
      · rw [hsame] at hsome
        exact Or.inr hsome

/-- **It is stored as running ever since.** -/
theorem RanUntil.storedRunning (h : RanUntil inp m n) {k : Nat} (hmk : m + 1 ≤ k) (hkn : k ≤ n) :
    (machineAt inp k).StoredRunning := by
  induction k, hmk using Nat.le_induction with
  | base =>
    rw [machineAt_succ]
    exact MachineState.storedRunning_of_sees h.seen
  | succ k hk ih =>
    rw [machineAt_succ]
    exact MachineState.storedRunning_step (ih (by omega)) (h.since k (by omega) (by omega))

/-- **A machine that ran until reconcile `n` is not given up by it.** -/
theorem not_givesUp_of_ranUntil {dec : ScalingDecision} (h : RanUntil inp m n) :
    ¬ (machineAt inp n).GivesUp (inp n) dec := by
  have hruns := h.storedRunning (k := n) h.before (Nat.le_refl n)
  exact MachineState.not_givesUp_of_storedRunning hruns
    (fun _ hd => h.notOurs.ourOff hd)

end Runs

/-- **No fulfilled decision is given up** in a run in which each reconcile that
finds the machine down, under an On decision that was fulfilled before, may not
give up by the policy or the time, or comes after the machine ran until then.
Giving up records a boot failure and drops the decision. -/
theorem given_up_unfulfilled (inp : Nat → MachineInput) (N : Nat)
    (h : ∀ n < N, ∀ d dec, FindsDown inp n d dec → Fulfilled inp n dec →
      (d.machine (inp n)).powerOnFailurePolicy = .retry ∨
      numSeconds ((inp n).now - dec.time) ≤ asI64 (d.machine (inp n)).powerOnTimeout ∨
      ∃ m, RanUntil inp m n) :
    ∀ n < N, ∀ dec, (machineAt inp n).GivesUp (inp n) dec → ¬ Fulfilled inp n dec ∧
      ∃ d, (machineAt inp n).reading (inp n) = some d ∧
        ((inp n).settle ((machineAt inp n).old (inp n)) d).1.st.bootFailure
          = some { time := (inp n).now } ∧
        ((inp n).settle ((machineAt inp n).old (inp n)) d).1.st.scalingDecision = none := by
  intro n hn dec hgives
  refine ⟨fun hfulfilled => ?_, MachineState.settle_of_givesUp hgives⟩
  obtain ⟨d, hd, hdriven, hdec, hexpired⟩ := hgives
  obtain ⟨dec', hover⟩ := expired_iff.mp hexpired
  have hsame : dec' = dec := Option.some.inj (hover.decided.symm.trans hdec)
  subst hsame
  have hdown := findsDown_of_overdue hd hdriven hover
  rcases h n hn d dec' hdown hfulfilled with hretry | htime | ⟨m, hran⟩
  · rw [hover.policy] at hretry
    cases hretry
  · have hlate := hover.late
    omega
  · exact not_givesUp_of_ranUntil hran ⟨d, hd, hdriven, hdec, hexpired⟩

/-- A machine that its pool wants on, and that runs until someone unplugs it half
an hour later. -/
def unpluggedLate (n : Nat) : MachineInput :=
  { unplugged true n with now := if n < 2 then seconds (10 * n) else seconds 1800 }

/-- The machine of `unpluggedLate` ran until it was unplugged. -/
theorem unpluggedLate_ran {n : Nat} (hn : n < 3) (hpos : 0 < n) : RanUntil unpluggedLate 0 n := by
  have hup : ∀ k < 2, ((machineAt unpluggedLate k).cycle (unpluggedLate k)).status.isSome = true ∧
      ((machineAt unpluggedLate k).reading (unpluggedLate k)).any (fun d => decide
        (d.fresh.powerState = .on ∧ d.fresh.nodeReady = true ∧
          (machineAt unpluggedLate k).target (unpluggedLate k) d = some .on)) = true := by
    decide +kernel
  have hactions : ∀ k < 2, (machineAt unpluggedLate k).actions (unpluggedLate k) = [] := by
    decide +kernel
  refine ⟨hpos, ?_, ?_, ?_⟩
  · obtain ⟨hstatus, hread⟩ := hup 0 (by decide)
    obtain ⟨d, hd, hall⟩ := (Option.any_eq_true _ _).mp hread
    obtain ⟨hon, hready, htarget⟩ := of_decide_eq_true hall
    exact ⟨hstatus, d, hd, hon, Or.inr ⟨htarget, hready⟩⟩
  · intro k hkn _ hstatus
    obtain ⟨_, hread⟩ := hup k (by omega)
    obtain ⟨d, hd, hall⟩ := (Option.any_eq_true _ _).mp hread
    obtain ⟨hon, _, htarget⟩ := of_decide_eq_true hall
    exact ⟨d, hd, hon, by rw [htarget]; decide⟩
  · intro k hkn action hmem
    rw [hactions k (by omega)] at hmem
    cases hmem

/-- Its decision was fulfilled and is half an hour old, but is not given up. -/
theorem unpluggedLate_not_given_up :
    Fulfilled unpluggedLate 2 ⟨"a", .on, "2 pending pod(s)", 0⟩ ∧
    (∃ d, FindsDown unpluggedLate 2 d ⟨"a", .on, "2 pending pod(s)", 0⟩ ∧
      asI64 (d.machine (unpluggedLate 2)).powerOnTimeout
        < numSeconds ((unpluggedLate 2).now - 0)) ∧
    ¬ (machineAt unpluggedLate 2).GivesUp (unpluggedLate 2) ⟨"a", .on, "2 pending pod(s)", 0⟩ := by
  -- the decision stays stored, and the machine was seen up at the start
  have hstored : ∀ k < 3, ((machineAt unpluggedLate k).old (unpluggedLate k)).scalingDecision
      = some ⟨"a", .on, "2 pending pod(s)", 0⟩ := by
    decide +kernel
  have hfulfilled : Fulfilled unpluggedLate 2 ⟨"a", .on, "2 pending pod(s)", 0⟩ :=
    ⟨0, by decide, by decide +kernel, fun k hk _ => hstored k (by omega)⟩
  -- the third reconcile finds it down, later than the time allowed
  have hread : ((machineAt unpluggedLate 2).reading (unpluggedLate 2)).any (fun d => decide
      ((unpluggedLate 2).node.isSome = true ∧
        d.fresh.scalingDecision = some ⟨"a", .on, "2 pending pod(s)", 0⟩ ∧
        d.fresh.nodeReady = false ∧ d.fresh.powerState = .off ∧
        asI64 (d.machine (unpluggedLate 2)).powerOnTimeout
          < numSeconds ((unpluggedLate 2).now - 0))) = true := by
    decide +kernel
  obtain ⟨d, hd, hall⟩ := (Option.any_eq_true _ _).mp hread
  obtain ⟨hnode, hdecided, hready, hoff, hlate⟩ := of_decide_eq_true hall
  refine ⟨hfulfilled, ⟨d, ⟨hd, hnode, by decide, hdecided, rfl, hready, Or.inl hoff⟩, hlate⟩,
    fun hgives => ?_⟩
  refine (given_up_unfulfilled unpluggedLate 3 ?_ 2 (by decide) _ hgives).1 hfulfilled
  intro n hn d dec _ hful
  obtain ⟨m, hm, _⟩ := hful
  exact Or.inr (Or.inr ⟨0, unpluggedLate_ran hn (by omega)⟩)

/-! ## §5. Maintenance. -/

/-- A machine that its pool wants on and that is up, taken off under `AlwaysOff`
and back under `Auto` half an hour later, with its decision stored throughout. -/
def maintained (n : Nat) : MachineInput where
  edit := { decision := if n = 0 then some (some ⟨"a", .on, "2 pending pod(s)", 0⟩) else none }
  mn :=
    { name := "m1"
      spec :=
        { nodeName := "m1"
          powerPolicy := if n = 0 ∨ n = 4 then .auto else .alwaysOff
          powerInterfaces := [{ driver := "redfish" }] } }
  cluster :=
    { nodes := [{ pooledNode (n != 0) with
        conditions := [{ type_ := "Ready", status := if n < 3 then "True" else "False" }] }]
      pools := [poolA]
      nodes_distinct := List.nodup_singleton _
      pools_distinct := poolA_distinct }
  built := fun _ => .ok { powerState := .ok (if n < 3 then .on else .off) }
  now := if n < 4 then seconds (10 * n) else seconds 1800
  lookupAt := seconds (10 * n)
  storeAt := seconds (10 * n)

/-- **A decision fulfilled at once is given up half an hour later**: back under
`Auto`, the machine is not powered on; a boot failure is recorded for it and the
decision is dropped. -/
theorem maintained_given_up :
    Fulfilled maintained 4 ⟨"a", .on, "2 pending pod(s)", 0⟩ ∧
    (machineAt maintained 4).GivesUp (maintained 4) ⟨"a", .on, "2 pending pod(s)", 0⟩ ∧
    (machineAt maintained 4).actions (maintained 4) = [] ∧
    (machineAt maintained 5).stored.bootFailure = some { time := seconds 1800 } ∧
    (machineAt maintained 5).stored.scalingDecision = none := by
  -- the decision stays stored through the maintenance
  have hstored : ∀ k < 5, ((machineAt maintained k).old (maintained k)).scalingDecision
      = some ⟨"a", .on, "2 pending pod(s)", 0⟩ := by
    decide +kernel
  -- at the last reconcile it is driven towards, and its time is over
  have hread : ((machineAt maintained 4).reading (maintained 4)).any (fun d =>
      let st := d.start (maintained 4) ((machineAt maintained 4).old (maintained 4))
      let event := (d.tracked (maintained 4) ((machineAt maintained 4).old (maintained 4))).2
      decide (event = .none ∧ bootStaysFailed st = false ∧
        (maintained 4).node.isSome = true ∧ (maintained 4).consistent d.fresh = true ∧
        managedTarget (maintained 4).mn.spec.powerPolicy st (d.machine (maintained 4)).manualPolicy
          = some .on ∧
        st.scalingDecision = some ⟨"a", .on, "2 pending pod(s)", 0⟩ ∧
        powerOnAttempt st (maintained 4).now (d.machine (maintained 4)).powerOnFailurePolicy
          (d.machine (maintained 4)).powerOnTimeout = .expired)) = true := by
    decide +kernel
  obtain ⟨d, hd, hall⟩ := (Option.any_eq_true _ _).mp hread
  obtain ⟨hevent, hstays, hnode, hconsistent, htarget, hdec, hexpired⟩ := of_decide_eq_true hall
  refine ⟨⟨0, by decide, by decide +kernel, fun k hk _ => hstored k (by omega)⟩, ?_,
    by decide +kernel, by decide +kernel, by decide +kernel⟩
  refine ⟨d, hd, ⟨?_, hnode, hconsistent, htarget⟩, hdec, hexpired⟩
  rw [hevent, hstays]
  decide

end HardwareAutoscaler
