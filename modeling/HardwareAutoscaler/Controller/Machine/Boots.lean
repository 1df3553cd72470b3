/-
  HardwareAutoscaler.Controller.Machine.Boots
  ───────────────────────────────────────────
  WHAT A STEP DOES TO THE BOOT OF A MACHINE: since when it is powered on
  without its Node being Ready, and the boot failure recorded for it.

    • `expired_iff` — when a power-on attempt reports `Expired`,
    • `bootView` — the readings, the two timers and the manual changes,
    • `bootView_towards` — the target leaves them alone, but for a power-on
      that is released,
    • `trackBoot_off`, `trackBoot_ready`, `trackBoot_booting` — one fact for
      each thing that tracking a boot can see,
    • `sinceNone_step` — a machine known to be off has no boot under way.
-/
import HardwareAutoscaler.Controller.Machine.Phases

namespace HardwareAutoscaler

/-! ## §1. An attempt that expires. -/

/-- The On decision `dec` is overdue: the machine is off or suspended without a
Ready Node, and more than the timeout has passed since the decision. -/
structure Overdue (st : NodePowerManagementConfigStatus) (now : Int)
    (policy : PowerOnFailurePolicy) (timeout : UInt64) (dec : ScalingDecision) : Prop where
  decided : st.scalingDecision = some dec
  target : dec.target = .on
  policy : policy = .release
  notReady : st.nodeReady = false
  down : st.powerState ≠ .on ∨ st.standbySince.isSome = true
  late : asI64 timeout < numSeconds (now - dec.time)

/-- A power-on is given up on the decision that is overdue. -/
theorem expired_iff {st : NodePowerManagementConfigStatus} {now : Int}
    {policy : PowerOnFailurePolicy} {timeout : UInt64} :
    powerOnAttempt st now policy timeout = .expired ↔
      ∃ dec, Overdue st now policy timeout dec := by
  have hfilter : ∀ dec, (some dec).filter (fun d : ScalingDecision => d.target == .on) = some dec ↔
      dec.target = .on := by
    intro dec
    simp [Option.filter_eq_some_iff]
  unfold powerOnAttempt
  constructor
  · -- the tests in the code's order, each giving one field of `Overdue`
    intro h
    split at h
    · cases h
    · rename_i hgo
      simp only [not_or, Bool.not_eq_true] at hgo
      split at h
      · cases h
      · rename_i dec hdec
        obtain ⟨hdecided, htarget⟩ := Option.filter_eq_some_iff.mp hdec
        split at h
        · cases h
        · rename_i hdown
          split at h
          · rename_i hlate
            refine ⟨dec, hdecided, by simpa using htarget, ?_, hgo.2, ?_, hlate⟩
            · cases hp : policy with
              | release => rfl
              | retry => exact absurd hp hgo.1
            · by_cases hon : st.powerState = .on
              · refine Or.inr ?_
                cases hs : st.standbySince with
                | some t => rfl
                | none => exact absurd ⟨hon, by rw [hs]; rfl⟩ hdown
              · exact Or.inl hon
          · cases h
  · rintro ⟨dec, h⟩
    have hdec : st.scalingDecision.filter (fun d => d.target == .on) = some dec := by
      rw [h.decided, hfilter]
      exact h.target
    have hdown : ¬ (st.powerState = .on ∧ st.standbySince.isNone = true) := by
      rintro ⟨hon, hnone⟩
      rcases h.down with hoff | hslept
      · exact hoff hon
      · simp [Option.isNone_iff_eq_none.mp hnone] at hslept
    rw [if_neg (by simp [h.policy, h.notReady]), hdec]
    simp only
    rw [if_neg hdown, if_pos h.late]

/-! ## §2. What the target leaves alone. -/

/-- What the boots of a machine, and the manual changes to it, are judged by. -/
structure BootView where
  powerState : PowerState
  nodeReady : Bool
  poweredOnNotReadySince : Option Int
  bootFailure : Option BootFailure
  manualPowerOn : Option ManualPowerChange
  manualPowerOff : Option ManualPowerChange

/-- What the boot clock depends on. -/
def NodePowerManagementConfigStatus.bootView (st : NodePowerManagementConfigStatus) : BootView where
  powerState := st.powerState
  nodeReady := st.nodeReady
  poweredOnNotReadySince := st.poweredOnNotReadySince
  bootFailure := st.bootFailure
  manualPowerOn := st.manualPowerOn
  manualPowerOff := st.manualPowerOff

namespace Reconciler

variable (r : Reconciler) (s : Progress)

@[simp] theorem bootView_setPhase (phase : Phase) :
    (r.setPhase phase s).st.bootView = s.st.bootView := by
  rw [setPhase_eq]
  rfl

@[simp] theorem bootView_act (action : PowerAction) :
    (r.act action s).st.bootView = s.st.bootView := rfl

@[simp] theorem bootView_probeSleep : (r.probeSleep s).1.st.bootView = s.st.bootView := by
  obtain ⟨support, effects, heq, _⟩ := r.probeSleep_fst s
  rw [heq]
  rfl

/-- Observing leaves what the boot clock depends on. -/
theorem bootView_observe : (r.observe s).st.bootView = s.st.bootView := by
  unfold observe
  split
  · rfl
  · split
    · split <;> simp
    · simp
    · simp

@[simp] theorem bootView_enterOn : (r.enterOn s).st.bootView = s.st.bootView :=
  r.bootView_setPhase s .on

/-- A machine found up keeps what the boot clock depends on. -/
theorem bootView_online : (r.online s).1.st.bootView = s.st.bootView := by
  unfold online
  simp only
  split
  · rfl
  · split
    · rfl
    · split <;> simp

@[simp] theorem bootView_startPowerOn : (r.startPowerOn s).st.bootView = s.st.bootView := by
  unfold startPowerOn
  simp only
  split <;> simp

theorem bootView_keepPoweringOn : (r.keepPoweringOn s).st.bootView = s.st.bootView := by
  unfold keepPoweringOn
  simp only
  split
  · show (r.setPhase .error (r.act .forceOff (r.standbyFailed s))).st.bootView = _
    rw [bootView_setPhase]
    rfl
  · split <;> simp

/-- A machine that is coming up keeps what the boot clock depends on. -/
theorem bootView_comingUp : (r.comingUp s).1.st.bootView = s.st.bootView := by
  unfold comingUp
  simp only
  split <;> simp

/-- An attempt that has expired is released, whatever the phase. -/
theorem ensureOn_expired
    (h : powerOnAttempt s.st r.now r.powerOnFailurePolicy r.powerOnTimeout = .expired) :
    r.ensureOn s = (r.releaseFailedPowerOn s, some fast) := by
  obtain ⟨_, hover⟩ := expired_iff.mp h
  unfold ensureOn
  simp only
  rw [if_neg (by simp [hover.notReady]), if_pos h]

/-- Towards On, only a power-on that is released writes a boot failure. -/
theorem bootView_ensureOn : (r.ensureOn s).1.st.bootView = s.st.bootView ∨
    (r.ensureOn s = (r.releaseFailedPowerOn s, some fast) ∧ s.st.nodeReady = false ∧
      s.st.scalingDecision.isSome = true) := by
  refine r.ensureOn_cases s (P := fun out => out.1.st.bootView = s.st.bootView ∨
    (out = (r.releaseFailedPowerOn s, some fast) ∧ s.st.nodeReady = false ∧
      s.st.scalingDecision.isSome = true))
    ?online ?released ?keep ?callOff ?wait ?comingUp ?hold ?start
  case online => intro _ _; exact Or.inl (r.bootView_online s)
  case released =>
    intro hexpired
    obtain ⟨dec, hover⟩ := expired_iff.mp hexpired
    exact Or.inr ⟨rfl, hover.notReady, by rw [hover.decided]; rfl⟩
  case keep => intro _ _; exact Or.inl (r.bootView_keepPoweringOn s)
  case callOff => intro _ _ _; exact Or.inl (r.bootView_startPowerOn _)
  case wait => intro _ _ _; exact Or.inl rfl
  case comingUp => intro _ _ _; exact Or.inl (r.bootView_comingUp s)
  case hold => intro _ _; exact Or.inl rfl
  case start => intro _ _ _; exact Or.inl (r.bootView_startPowerOn s)

@[simp] theorem bootView_powerOff : (r.powerOff s).st.bootView = s.st.bootView := by
  unfold powerOff
  simp

@[simp] theorem bootView_awake : (r.awake s).st.bootView = s.st.bootView := by
  unfold awake
  split <;> rfl

theorem bootView_keepPoweringOff : (r.keepPoweringOff s).st.bootView = s.st.bootView := by
  unfold keepPoweringOff
  simp only
  split
  · rfl
  · split
    · split <;> rfl
    · split <;> simp

/-- A drain leaves what the boot clock depends on. -/
theorem bootView_drain : (r.drain s).1.st.bootView = s.st.bootView := by
  refine r.drain_cases s (P := fun out => out.1.st.bootView = s.st.bootView)
    ?done ?wait ?forced ?failed
  case done =>
    intro _
    unfold drainDone
    simp only
    split
    · split
      · exact r.bootView_probeSleep _
      · rw [bootView_powerOff]
        exact r.bootView_probeSleep _
    · rw [bootView_powerOff]
      rfl
  case wait => intro _ _; rfl
  case forced =>
    intro _ _ _
    rw [bootView_powerOff]
    rfl
  case failed =>
    intro _
    unfold drainFailed
    simp only
    split
    · split
      · rfl
      · rw [bootView_setPhase]
        rfl
    · rfl

theorem bootView_startDrain : (r.startDrain s).1.st.bootView = s.st.bootView := by
  unfold startDrain
  split
  · simp only
    split <;> simp
  · rfl

/-- Bringing the machine down leaves what the boot clock depends on. -/
theorem bootView_ensureOff : (r.ensureOff s).1.st.bootView = s.st.bootView := by
  refine r.ensureOff_cases s (P := fun out => out.1.st.bootView = s.st.bootView)
    ?offline ?keep ?drain ?start
  case offline =>
    intro _
    show (r.setPhase _ (r.awake s)).st.bootView = _
    rw [bootView_setPhase, bootView_awake]
  case keep => intro _ _; rw [bootView_keepPoweringOff, bootView_awake]
  case drain => intro _ _; rw [bootView_drain, bootView_awake]
  case start => intro _ _ _; rw [bootView_startDrain, bootView_awake]

/-- **What the target leaves alone**: the readings, the boot timer, the boot
failure and the manual changes, but for a power-on that is released. -/
theorem bootView_towards (consistent : Bool) :
    (r.towards consistent s).1.st.bootView = s.st.bootView ∨
    (r.towards consistent s = (r.releaseFailedPowerOn s, some fast) ∧ s.st.nodeReady = false ∧
      s.st.scalingDecision.isSome = true) := by
  unfold towards
  split
  · exact Or.inl (r.bootView_observe (s.message (some r.gateMessage)))
  · split
    · exact Or.inl (r.bootView_observe s)
    · exact r.bootView_ensureOn s
    · exact Or.inl (r.bootView_ensureOff s)

/-- A power-on that is released records its failure now.  The boot it cuts, if
the machine is on, starts now as well. -/
theorem bootView_released :
    (r.releaseFailedPowerOn s).st.bootView = { s.st.bootView with
      bootFailure := some { time := r.now }
      poweredOnNotReadySince :=
        if s.st.powerState = .on then some r.now else s.st.poweredOnNotReadySince } := by
  unfold releaseFailedPowerOn
  simp only
  have hpower : (r.released s.st).powerState = s.st.powerState := rfl
  rw [hpower]
  split
  · rw [bootView_setPhase]
    rfl
  · rw [bootView_setPhase]
    rfl

/-- A power-on given up leaves a boot that failed, or a machine that is off. -/
theorem phase_released : (r.releaseFailedPowerOn s).st.phase
    = if s.st.powerState = .on then .bootFailed else .off := by
  unfold releaseFailedPowerOn
  simp only
  have hpower : (r.released s.st).powerState = s.st.powerState := rfl
  rw [hpower]
  split <;> simp

/-- The boot handler writes the boot failure only when the boot has just
failed, and then only whether the machine is left on. -/
theorem bootView_boot (event : BootEvent) :
    (r.boot event s).1.st.bootView = { s.st.bootView with
      bootFailure := if event = .failed then (r.failedBoot s.st).bootFailure
        else s.st.bootFailure } := by
  unfold boot
  cases event with
  | recovered => rfl
  | failed =>
    unfold bootFailed
    simp only
    split
    · rw [bootView_setPhase]
      rfl
    · rw [bootView_act]
      show (r.setPhase .bootFailed { s with st := r.failedBoot s.st }).st.bootView = _
      rw [bootView_setPhase]
      rfl
  | none =>
    simp only
    split
    · rfl
    · split
      · rfl
      · split
        · show (r.setPhase .bootFailed s).st.bootView = _
          rw [bootView_setPhase]
          rfl
        · rw [bootView_setPhase]
          rfl

/-! ## §3. The phases of an answered step. -/

/-- The machine is still in the boot that failed. -/
def bootStaysFailed (st : NodePowerManagementConfigStatus) : Bool :=
  !st.nodeReady && st.powerState == .on && failureIsCurrent st

/-- When the boot handler takes the step over. -/
theorem boot_handles_iff (event : BootEvent) : (r.boot event s).2.isSome = true ↔
    event = .failed ∨ (event = .none ∧ bootStaysFailed s.st = true) := by
  unfold boot
  cases event with
  | recovered => simp
  | failed => simp
  | none =>
    have hcurrent : s.st.bootFailure = none → failureIsCurrent s.st = false := by
      intro hnone
      unfold failureIsCurrent
      rw [hnone]
    simp only
    split
    · rename_i hnone
      simp [bootStaysFailed, hcurrent hnone]
    · by_cases hgo : s.st.nodeReady = true ∨ s.st.powerState ≠ .on ∨ (!failureIsCurrent s.st) = true
      · rw [if_pos hgo]
        rcases hgo with h | h | h
        · simp [bootStaysFailed, h]
        · simp [bootStaysFailed, h]
        · simp [bootStaysFailed, by simpa using h]
      · rw [if_neg hgo]
        simp only [not_or, Bool.not_eq_true, Bool.not_eq_false', not_not] at hgo
        obtain ⟨hready, hon, hcur⟩ := hgo
        have hcur : failureIsCurrent s.st = true := by simpa using hcur
        split <;> simp [bootStaysFailed, hready, hon, hcur]

/-- A boot handler that takes over leaves the machine in `BootFailed`. -/
theorem phase_boot_handled {event : BootEvent} (h : (r.boot event s).2.isSome = true) :
    (r.boot event s).1.st.phase = .bootFailed := by
  unfold boot at h ⊢
  cases event with
  | recovered => cases h
  | failed =>
    unfold bootFailed
    simp only
    split <;> simp
  | none =>
    simp only at h ⊢
    split
    · rename_i hnone
      rw [hnone] at h
      cases h
    · rename_i f hf
      rw [hf] at h
      simp only at h
      by_cases hgo : s.st.nodeReady = true ∨ s.st.powerState ≠ .on ∨ (!failureIsCurrent s.st) = true
      · rw [if_pos hgo] at h
        cases h
      · rw [if_neg hgo]
        split <;> simp

/-- The boot handler takes the whole step over, -/
theorem step_handled {event : BootEvent} {consistent : Bool}
    (h : (r.boot event s).2.isSome = true) : r.step event consistent s = r.boot event s := by
  unfold step
  rcases hb : r.boot event s with ⟨s', requeue⟩
  rw [hb] at h
  cases requeue with
  | none => cases h
  | some requeue => rfl

/-- or leaves it to the target. -/
theorem step_unhandled {event : BootEvent} {consistent : Bool}
    (h : (r.boot event s).2 = none) : r.step event consistent s = r.towards consistent s := by
  have hsame := (r.boot_none s h).1
  unfold step
  rcases hb : r.boot event s with ⟨s', requeue⟩
  rw [hb] at h hsame
  simp only at h hsame
  subst h hsame
  rfl

/-- The outcome of a target, if no call has failed, is in `Off` only for a machine
that does not read On, and in `BootFailed` only as the released power-on of one
that does. -/
def LeadsDown (out : Progress × Option Nat) : Prop :=
  out.2.isSome = true →
    (out.1.st.phase = .off → s.st.powerState ≠ .on) ∧
    (out.1.st.phase = .bootFailed →
      out = (r.releaseFailedPowerOn s, some fast) ∧ s.st.powerState = .on)

/-- A call that has failed leads nowhere. -/
theorem leadsDown_of_failed (s' : Progress) : r.LeadsDown s (s', none) := by
  intro h
  cases h

/-- A phase that is neither leads nowhere of the two. -/
theorem leadsDown_of_phase {out : Progress × Option Nat} (hoff : out.1.st.phase ≠ .off)
    (hfailed : out.1.st.phase ≠ .bootFailed) : r.LeadsDown s out :=
  fun _ => ⟨fun h => absurd h hoff, fun h => absurd h hfailed⟩

/-- Without a target the phase is that of the reading. -/
theorem leadsDown_observe {s' : Progress} (hpower : s'.st.powerState = s.st.powerState)
    (requeue : Option Nat) : r.LeadsDown s (r.observe s', requeue) := by
  unfold observe
  split
  · rename_i hasleep
    unfold inStandby at hasleep
    simp only [Bool.and_eq_true, Bool.or_eq_true, beq_iff_eq] at hasleep
    rcases hasleep.1.2 with hp | hp
    · exact r.leadsDown_of_phase s (by simp [hp]) (by simp [hp])
    · exact r.leadsDown_of_phase s (by simp [hp]) (by simp [hp])
  · split
    · split
      · exact r.leadsDown_of_phase s (by simp) (by simp)
      · exact r.leadsDown_of_phase s (by simp) (by simp)
    · rename_i hoff
      refine fun _ => ⟨fun _ => ?_, by simp⟩
      rw [← hpower, hoff]
      decide
    · exact r.leadsDown_of_phase s (by simp) (by simp)

theorem leadsDown_startPowerOn (s' : Progress) (requeue : Option Nat) :
    r.LeadsDown s (r.startPowerOn s', requeue) := by
  have hstart := r.phase_startPowerOn s'
  simp only [List.mem_cons, List.not_mem_nil, or_false] at hstart
  rcases hstart with hp | hp
  · exact r.leadsDown_of_phase s (by simp [hp]) (by simp [hp])
  · exact r.leadsDown_of_phase s (by simp [hp]) (by simp [hp])

/-- Bringing the machine up leads to `BootFailed` through the power-on given up alone. -/
theorem leadsDown_ensureOn : r.LeadsDown s (r.ensureOn s) := by
  refine r.ensureOn_cases s (P := r.LeadsDown s)
    ?online ?released ?keep ?callOff ?wait ?comingUp ?hold ?start
  case online =>
    intro _ _
    unfold online
    simp only
    -- a boot failure, a marker to clear, or On: none of them leads down
    split
    · exact r.leadsDown_of_failed s _
    · split
      · exact r.leadsDown_of_failed s _
      · split
        · exact r.leadsDown_of_phase s (by simp) (by simp)
        · exact r.leadsDown_of_phase s (by simp) (by simp)
  case released =>
    intro _ _
    rw [phase_released]
    -- released: down only where the machine was stored as on
    split
    · rename_i hon
      exact ⟨by simp, fun _ => ⟨rfl, hon⟩⟩
    · rename_i hoff
      exact ⟨fun _ => hoff, by simp⟩
  case keep =>
    intro _ hphase
    unfold keepPoweringOn
    simp only
    split
    · exact r.leadsDown_of_phase s (by simp) (by simp)
    · split
      · exact r.leadsDown_of_phase s (by simp [hphase]) (by simp [hphase])
      · exact r.leadsDown_of_phase s (by simp [hphase]) (by simp [hphase])
  case callOff => intro _ _ _; exact r.leadsDown_startPowerOn s _ _
  case wait =>
    intro _ hphase _
    exact r.leadsDown_of_phase s (by simp [hphase]) (by simp [hphase])
  case comingUp =>
    intro _ _ _
    unfold comingUp
    simp only
    split
    · exact r.leadsDown_of_failed s _
    · exact r.leadsDown_of_phase s (by simp) (by simp)
  case hold =>
    intro _ hphase
    exact r.leadsDown_of_phase s (by simp [hphase]) (by simp [hphase])
  case start => intro _ _ _; exact r.leadsDown_startPowerOn s _ _

/-- Towards Off, a Node that is gone stops the step before anything is done. -/
theorem leadsDown_ensureOff (hnode : r.node ≠ none) : r.LeadsDown s (r.ensureOff s) := by
  refine r.ensureOff_cases s (P := r.LeadsDown s) ?offline ?keep ?drain ?start
  case offline =>
    intro hoff
    unfold offline
    simp only
    split
    · exact r.leadsDown_of_phase s (by simp) (by simp)
    · rename_i hawake
      refine fun _ => ⟨fun _ => ?_, by simp⟩
      -- a machine asleep has its standby recorded, and is not `Off`
      rcases hoff with hoff | hasleep
      · rw [hoff]
        decide
      · simp [inStandby, Bool.eq_false_iff.mpr hawake] at hasleep
  case keep =>
    intro _ hphase
    exact r.leadsDown_of_phase s (by simp [hphase]) (by simp [hphase])
  case drain =>
    intro _ hphase
    rcases r.phase_drain (r.awake s) (by simpa using hphase) with hp | hp | ⟨hp, _⟩
    · exact r.leadsDown_of_phase s (by simp [hp]) (by simp [hp])
    · exact r.leadsDown_of_phase s (by simp [hp]) (by simp [hp])
    · exact r.leadsDown_of_phase s (by simp [hp]) (by simp [hp])
  case start =>
    intro _ _ _
    unfold startDrain
    split
    · simp only
      split
      · exact r.leadsDown_of_failed s _
      · exact r.leadsDown_of_phase s (by simp) (by simp)
    · rename_i hnone
      exact absurd hnone hnode

/-- **Where the target leads to `Off` or `BootFailed`**: to `Off` only a machine
that does not read On, to `BootFailed` only a released power-on of one that
does. -/
theorem phase_towards (consistent : Bool) : r.LeadsDown s (r.towards consistent s) := by
  unfold towards
  split
  · have hpower : (s.message (some r.gateMessage)).st.powerState = s.st.powerState := rfl
    exact r.leadsDown_observe s hpower _
  · rename_i hgate
    have hnode : r.node ≠ none := by
      intro hnone
      exact hgate (Or.inl (by simp [hnone]))
    split
    · exact r.leadsDown_observe s rfl _
    · exact r.leadsDown_ensureOn s
    · exact r.leadsDown_ensureOff s hnode

/-- **A step that stores its status ends in `Off`** only for a machine that does
not read On. -/
theorem powerState_of_off {event : BootEvent} {consistent : Bool}
    (hanswer : (r.step event consistent s).2.isSome = true)
    (hoff : (r.step event consistent s).1.st.phase = .off) : s.st.powerState ≠ .on := by
  cases hb : (r.boot event s).2 with
  | some requeue =>
    have hhandled : (r.boot event s).2.isSome = true := by rw [hb]; rfl
    rw [r.step_handled s hhandled, r.phase_boot_handled s hhandled] at hoff
    cases hoff
  | none =>
    rw [r.step_unhandled s hb] at hanswer hoff
    exact (r.phase_towards s consistent hanswer).1 hoff

/-- The manual changes are written before the step, never by it. -/
theorem manualPowerOff_step (event : BootEvent) (consistent : Bool) :
    (r.step event consistent s).1.st.manualPowerOff = s.st.manualPowerOff := by
  cases hb : (r.boot event s).2 with
  | some requeue =>
    rw [r.step_handled s (by rw [hb]; rfl)]
    exact congrArg BootView.manualPowerOff (r.bootView_boot s event)
  | none =>
    rw [r.step_unhandled s hb]
    rcases r.bootView_towards s consistent with hview | ⟨hreleased, _⟩
    · exact congrArg BootView.manualPowerOff hview
    · rw [hreleased]
      exact congrArg BootView.manualPowerOff (r.bootView_released s)

end Reconciler

namespace MachineInput

variable (i : MachineInput) (old : NodePowerManagementConfigStatus) (d : Reading)

/-- What the state machine of a reconcile starts from. -/
def begun : Progress := ⟨d.start i old, d.contacted.map (.contact .status)⟩

/-- The boot handler takes the reconcile over: a boot failed, or stays failed. -/
def BootHandled : Prop :=
  (d.tracked i old).2 = .failed ∨
    ((d.tracked i old).2 = .none ∧ Reconciler.bootStaysFailed (d.start i old) = true)

/-- The readings issue nothing. -/
theorem begun_issued : (i.begun old d).issued = [] := MachineState.issued_contacts _

variable {i old d}

/-- The boot handler has taken the reconcile over. -/
theorem boot_of_bootHandled (h : i.BootHandled old d) :
    ((d.machine i).boot (d.tracked i old).2 (i.begun old d)).2.isSome = true :=
  ((d.machine i).boot_handles_iff (i.begun old d) _).mpr h

/-- **A reconcile is its boot handler**, -/
theorem settle_handled (h : i.BootHandled old d) :
    i.settle old d = (d.machine i).boot (d.tracked i old).2 (i.begun old d) :=
  (d.machine i).step_handled (i.begun old d) (boot_of_bootHandled h)

/-- A boot that fails records whether it leaves the machine on. -/
theorem settle_failed (h : (d.tracked i old).2 = .failed) :
    (i.settle old d).1.st.bootFailure
      = ((d.machine i).failedBoot (d.start i old)).bootFailure := by
  have hview := (d.machine i).bootView_boot (i.begun old d) (d.tracked i old).2
  have hfailure := congrArg BootView.bootFailure hview
  simp only [if_pos h] at hfailure
  rw [settle_handled (Or.inl h)]
  exact hfailure

/-- **or what its target asks for.** -/
theorem settle_unhandled (h : ¬ i.BootHandled old d) :
    i.settle old d = (d.machine i).towards (i.consistent d.fresh) (i.begun old d) := by
  apply (d.machine i).step_unhandled (i.begun old d)
  rw [← Option.not_isSome_iff_eq_none, (d.machine i).boot_handles_iff]
  exact h

end MachineInput

/-! ## §4. Tracking a boot. -/

section Track

variable {st : NodePowerManagementConfigStatus} {now : Int} {timeout : UInt64}

/-- A Ready Node ends the boot and clears its failure. -/
theorem trackBoot_ready (h : st.nodeReady = true) :
    (trackBoot st now timeout).1
        = { st with poweredOnNotReadySince := none, bootFailure := none } ∧
      (trackBoot st now timeout).2 ≠ .failed := by
  unfold trackBoot
  rw [if_pos h]
  refine ⟨rfl, ?_⟩
  simp only
  split <;> simp

/-- A machine that is off is not booting. -/
theorem trackBoot_off (hready : st.nodeReady = false) (h : st.powerState = .off) :
    trackBoot st now timeout = ({ st with poweredOnNotReadySince := none }, .none) := by
  have hbooting : isBooting st = false := by
    unfold isBooting
    rw [h]
    rfl
  unfold trackBoot
  rw [if_neg (by simp [hready]), if_pos (by simp [hbooting]), if_pos h]

/-- A machine that is not off and not on its way up keeps the timer it has. -/
theorem trackBoot_held (hready : st.nodeReady = false) (hoff : st.powerState ≠ .off)
    (h : isBooting st = false) : trackBoot st now timeout = (st, .none) := by
  unfold trackBoot
  rw [if_neg (by simp [hready]), if_pos (by simp [h]), if_neg hoff]

/-- Since when the boot in progress is taken to have started. -/
def bootSince (st : NodePowerManagementConfigStatus) (now : Int) : Int :=
  st.poweredOnNotReadySince.getD (bootStart st now)

/-- The boot in progress has just failed. -/
def failsNow (st : NodePowerManagementConfigStatus) (now : Int) (timeout : UInt64) : Bool :=
  st.bootFailure.all (fun f => bootSince st now > f.time)
    && asI64 timeout < numSeconds (now - bootSince st now)

/-- A boot is timed, and has failed when it lasts too long. -/
theorem trackBoot_booting (hready : st.nodeReady = false) (h : isBooting st = true) :
    trackBoot st now timeout =
      if failsNow st now timeout then
        ({ st with
            poweredOnNotReadySince := some (bootSince st now)
            bootFailure := some { time := now } }, .failed)
      else ({ st with poweredOnNotReadySince := some (bootSince st now) }, .none) := by
  have hfails : failsNow st now timeout = true ↔
      st.bootFailure.all (fun f => decide (bootSince st now > f.time)) = true ∧
        numSeconds (now - bootSince st now) > asI64 timeout := by
    unfold failsNow
    simp
  unfold trackBoot
  rw [if_neg (by simp [hready]), if_neg (by simp [h])]
  by_cases hnow : failsNow st now timeout = true
  · rw [if_pos hnow]
    exact if_pos (hfails.mp hnow)
  · rw [if_neg hnow]
    exact if_neg (fun hc => hnow (hfails.mpr hc))

/-- The failure recorded is that of the boot in progress. -/
theorem failureIsCurrent_iff :
    failureIsCurrent st = true ↔ ∃ f since, st.bootFailure = some f ∧
      st.poweredOnNotReadySince = some since ∧ since ≤ f.time := by
  unfold failureIsCurrent
  constructor
  · intro h
    split at h
    · rename_i f since hf hs
      exact ⟨f, since, hf, hs, of_decide_eq_true h⟩
    · cases h
  · intro ⟨f, since, hf, hs, hle⟩
    rw [hf, hs]
    exact decide_eq_true hle

/-- The boot timer of a machine seen off, or with a Ready Node, is cleared. -/
theorem trackBoot_since_none (h : st.nodeReady = true ∨ st.powerState = .off) :
    (trackBoot st now timeout).1.poweredOnNotReadySince = none := by
  by_cases hready : st.nodeReady = true
  · rw [(trackBoot_ready hready).1]
  · have hoff : st.powerState = .off := h.resolve_left hready
    rw [trackBoot_off (by simpa using hready) hoff]

/-- A boot that has just failed is that of a machine on without a Ready Node, and
its failure is recorded now. -/
theorem trackBoot_failed (h : (trackBoot st now timeout).2 = .failed) :
    st.nodeReady = false ∧ st.powerState = .on ∧
      (trackBoot st now timeout).1.bootFailure = some { time := now } := by
  by_cases hready : st.nodeReady = true
  · exact absurd h (trackBoot_ready hready).2
  have hready : st.nodeReady = false := by simpa using hready
  by_cases hbooting : isBooting st = true
  · have hon : st.powerState = .on := by
      unfold isBooting at hbooting
      simp only [Bool.and_eq_true, beq_iff_eq] at hbooting
      exact hbooting.1.1
    rw [trackBoot_booting hready hbooting] at h ⊢
    by_cases hfails : failsNow st now timeout = true
    · rw [if_pos hfails]
      exact ⟨hready, hon, rfl⟩
    · rw [if_neg hfails] at h
      cases h
  · unfold trackBoot at h
    rw [if_neg (by simp [hready]), if_pos (by simpa using hbooting)] at h
    cases h

/-- A boot that does not fail now keeps its failure, as long as the Node is not
Ready. -/
theorem trackBoot_kept (hready : st.nodeReady = false) (h : (trackBoot st now timeout).2 ≠ .failed) :
    (trackBoot st now timeout).1.bootFailure = st.bootFailure := by
  by_cases hbooting : isBooting st = true
  · rw [trackBoot_booting hready hbooting] at h ⊢
    by_cases hfails : failsNow st now timeout = true
    · rw [if_pos hfails] at h
      exact absurd rfl h
    · rw [if_neg hfails]
  · unfold trackBoot
    rw [if_neg (by simp [hready]), if_pos (by simpa using hbooting)]
    split <;> rfl

/-- Otherwise the failure that is left is the one from before. -/
theorem trackBoot_failure (h : (trackBoot st now timeout).2 ≠ .failed) {f : BootFailure}
    (hf : (trackBoot st now timeout).1.bootFailure = some f) : st.bootFailure = some f := by
  by_cases hready : st.nodeReady = true
  · rw [(trackBoot_ready hready).1] at hf
    cases hf
  · rw [← trackBoot_kept (by simpa using hready) h]
    exact hf

/-- A boot that fails is timed. -/
theorem trackBoot_since_some (h : (trackBoot st now timeout).2 = .failed) :
    (trackBoot st now timeout).1.poweredOnNotReadySince.isSome = true := by
  unfold trackBoot at h ⊢
  split at h
  · simp only at h
    split at h <;> cases h
  · rename_i hready
    split at h
    · cases h
    · rename_i hbooting
      rw [if_neg hready, if_neg hbooting]
      simp only
      split <;> rfl

end Track

/-! ## §5. In every run. -/

namespace MachineInput.Reading

variable (d : Reading) (i : MachineInput) (old : NodePowerManagementConfigStatus)

/-- What is known of the boot when the state machine starts is what tracking it
found, but for the failure, which a manual change may clear. -/
theorem start_since :
    (d.start i old).poweredOnNotReadySince = (d.tracked i old).1.poweredOnNotReadySince := by
  unfold start
  cases d.change i old <;> rfl

@[simp] theorem seenOff_powerState : (d.seenOff i old).powerState = d.fresh.powerState := by
  unfold seenOff
  split <;> rfl

@[simp] theorem seenOff_nodeReady : (d.seenOff i old).nodeReady = d.fresh.nodeReady := by
  unfold seenOff
  split <;> rfl

end MachineInput.Reading

/-- The phases that say whether a boot is being timed. -/
structure BootTimed (st : NodePowerManagementConfigStatus) : Prop where
  /-- No boot of a machine that is off is under way. -/
  off : st.phase = .off → st.poweredOnNotReadySince = none
  /-- The boot that failed is still timed. -/
  failed : st.phase = .bootFailed → st.poweredOnNotReadySince.isSome = true

/-- **One step** leaves the phase and the boot timer in agreement, when the
timer it starts with agrees with the reading. -/
theorem Reconciler.bootTimed_step (r : Reconciler) (s : Progress) {event : BootEvent}
    {consistent : Bool} (hfailed : event = .failed → s.st.poweredOnNotReadySince.isSome = true)
    (hoff : s.st.powerState ≠ .on → s.st.poweredOnNotReadySince = none)
    (hans : (r.step event consistent s).2.isSome = true) :
    BootTimed (r.step event consistent s).1.st := by
  cases hb : (r.boot event s).2 with
  | some requeue =>
    have hhandled : (r.boot event s).2.isSome = true := by rw [hb]; rfl
    have hphase := r.phase_boot_handled s hhandled
    have htimed : s.st.poweredOnNotReadySince.isSome = true := by
      rcases (r.boot_handles_iff s event).mp hhandled with hevent | ⟨_, hstays⟩
      · exact hfailed hevent
      -- a failure is current only while the boot is timed
      · unfold bootStaysFailed failureIsCurrent at hstays
        simp only [Bool.and_eq_true] at hstays
        cases hsince : s.st.poweredOnNotReadySince with
        | some since => rfl
        | none => simp [hsince] at hstays
    rw [r.step_handled s hhandled]
    refine ⟨fun hp => ?_, fun _ => ?_⟩
    · rw [hphase] at hp
      cases hp
    · have hsince : (r.boot event s).1.st.poweredOnNotReadySince = s.st.poweredOnNotReadySince :=
        congrArg BootView.poweredOnNotReadySince (r.bootView_boot s event)
      rw [hsince]
      exact htimed
  | none =>
    rw [r.step_unhandled s hb] at hans ⊢
    obtain ⟨hleadsOff, hleadsFailed⟩ := r.phase_towards s consistent hans
    refine ⟨fun hp => ?_, fun hp => ?_⟩
    · have hnot := hleadsOff hp
      have hview := r.bootView_towards s consistent
      rcases hview with hview | ⟨hreleased, _⟩
      · have hsince := congrArg BootView.poweredOnNotReadySince hview
        exact hsince.trans (hoff hnot)
      · rw [hreleased]
        have hsince := congrArg BootView.poweredOnNotReadySince (r.bootView_released s)
        simp only [if_neg hnot] at hsince
        exact hsince.trans (hoff hnot)
    · obtain ⟨hreleased, hon⟩ := hleadsFailed hp
      rw [hreleased]
      have hsince := congrArg BootView.poweredOnNotReadySince (r.bootView_released s)
      simp only [if_pos hon] at hsince
      show (r.releaseFailedPowerOn s).st.poweredOnNotReadySince.isSome = true
      have hsome : (r.releaseFailedPowerOn s).st.poweredOnNotReadySince = some r.now := hsince
      rw [hsome]
      rfl

namespace MachineState

variable {w : MachineState} {i : MachineInput}

/-- **One reconcile** keeps the phase and the boot timer in agreement. -/
theorem bootTimed_machineStep (h : BootTimed w.stored) : BootTimed (machineStep w i).stored := by
  have hold : BootTimed (w.old i) := ⟨h.off, h.failed⟩
  -- nothing stored, stored by an error, or settled
  rcases w.step_stored i with ⟨_, hstored⟩ | ⟨e, he, hstored⟩ | ⟨d, hd, hans, hstored⟩
  · rw [hstored]
    exact hold
  · -- an error keeps the timer and the phase, or enters phase Error
    obtain ⟨_, _, _, _, _, _, _, heq, hphase⟩ := MachineInput.stopped_frame he
    have hsince : e.st.poweredOnNotReadySince = (w.old i).poweredOnNotReadySince := by rw [heq]
    have hstopped : BootTimed e.st := by
      refine ⟨fun hp => ?_, fun hp => ?_⟩
      · rcases hphase with hphase | hphase
        · rw [hphase] at hp
          cases hp
        · rw [hsince]
          exact hold.off (hphase.symm.trans hp)
      · rcases hphase with hphase | hphase
        · rw [hphase] at hp
          cases hp
        · rw [hsince]
          exact hold.failed (hphase.symm.trans hp)
    rw [hstored]
    exact ⟨hstopped.off, hstopped.failed⟩
  · have hsettled : BootTimed (i.settle (w.old i) d).1.st := by
      refine (d.machine i).bootTimed_step _ (fun hevent => ?_) (fun hoff => ?_) hans
      · show (d.start i (w.old i)).poweredOnNotReadySince.isSome = true
        rw [d.start_since]
        exact trackBoot_since_some hevent
      · have hpower := MachineInput.power_known (reading_eq.mp hd)
        have hoff : d.fresh.powerState ≠ .on := by
          intro hon
          exact hoff ((d.start_powerState i (w.old i)).trans hon)
        show (d.start i (w.old i)).poweredOnNotReadySince = none
        rw [d.start_since]
        exact trackBoot_since_none (Or.inr (by simpa using hpower.resolve_left hoff))
    rw [hstored]
    exact ⟨hsettled.off, hsettled.failed⟩

end MachineState

/-- **In every run** the stored phase and the boot timer agree. -/
theorem bootTimed_run (inp : Nat → MachineInput) (n : Nat) : BootTimed (machineAt inp n).stored := by
  induction n with
  | zero => exact ⟨fun _ => rfl, fun hp => by cases hp⟩
  | succ n ih =>
    rw [machineAt_succ]
    exact MachineState.bootTimed_machineStep ih

end HardwareAutoscaler
