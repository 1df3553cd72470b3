/-
  HardwareAutoscaler.Controller.Machine.Override
  ──────────────────────────────────────────────
  UNDER `AlwaysOn` AND `AlwaysOff` A DECISION HAS NO SAY — but for one.

  Two runs of a reconcile from statuses that differ only in the scaling
  decision.  Every function of the state machine takes them to statuses that
  differ only in the decision again, with the same effects; the one that looks
  at the decision whatever the policy is the power-on attempt of `ensure_on`.

    • `decided`, `judging` — the same status with another decision, and the
      same settings with another failure rule,
    • `step_decided` — a step does not tell the two apart, unless the attempt
      does,
    • `override_ignores_decision_iff` — nor does a reconcile.
-/
import HardwareAutoscaler.Controller.Machine.Attempts

namespace HardwareAutoscaler

/-! ## §1. The same status with another decision. -/

/-- The status with another decision. -/
def NodePowerManagementConfigStatus.decided (x : Option ScalingDecision)
    (st : NodePowerManagementConfigStatus) : NodePowerManagementConfigStatus :=
  { st with scalingDecision := x }

/-- The reconcile with another decision in its status. -/
def Progress.decided (x : Option ScalingDecision) (s : Progress) : Progress :=
  { s with st := s.st.decided x }

namespace Reconciler

/-- The same machine and settings, with another failure rule: that of the pool
whose decision it is. -/
def judging (r : Reconciler) (policy : PowerOnFailurePolicy) (timeout : UInt64) : Reconciler :=
  { r with powerOnFailurePolicy := policy, powerOnTimeout := timeout }

variable (r : Reconciler) (p : PowerOnFailurePolicy) (t : UInt64) (x : Option ScalingDecision)
  (s : Progress)

/-! ## §2. Phases, actions and probes. -/

@[simp] theorem did_decided (effects : List Effect) :
    (s.decided x).did effects = (s.did effects).decided x := rfl

@[simp] theorem message_decided (m : Option String) :
    (s.decided x).message m = (s.message m).decided x := rfl

@[simp] theorem setPhase_decided (phase : Phase) :
    (r.judging p t).setPhase phase (s.decided x) = (r.setPhase phase s).decided x := by
  rw [setPhase_eq, setPhase_eq]
  rfl

@[simp] theorem act_decided (action : PowerAction) :
    (r.judging p t).act action (s.decided x) = (r.act action s).decided x := rfl

@[simp] theorem standbyFailed_decided :
    (r.judging p t).standbyFailed (s.decided x) = (r.standbyFailed s).decided x := rfl

@[simp] theorem probeSleep_decided :
    (r.judging p t).probeSleep (s.decided x)
      = ((r.probeSleep s).1.decided x, (r.probeSleep s).2) := by
  have hknown : (r.judging p t).s3Known (s.decided x).st = r.s3Known s.st := rfl
  have hboot : (r.judging p t).bootId = r.bootId := rfl
  have hresult : ∀ b, (r.judging p t).probeResult b = r.probeResult b := fun _ => rfl
  unfold probeSleep
  rw [hknown, hboot]
  cases r.s3Known s.st with
  | some known => rfl
  | none =>
    cases r.bootId with
    | none => rfl
    | some b =>
      simp only
      rw [hresult b]
      cases r.probeResult b with
      | none => rfl
      | some support => rfl

@[simp] theorem enterOn_decided :
    (r.judging p t).enterOn (s.decided x) = (r.enterOn s).decided x := by
  unfold enterOn
  rw [setPhase_decided]
  rfl

/-! ## §3. Towards On, but for the attempt. -/

/-- A machine found up does not look at the decision. -/
theorem online_decided : (r.judging p t).online (s.decided x)
    = ((r.online s).1.decided x, (r.online s).2) := by
  have huncordon : (r.judging p t).uncordon = r.uncordon := rfl
  have hclear : (r.judging p t).clearMarker = r.clearMarker := rfl
  have hmode : (r.judging p t).mn = r.mn := rfl
  unfold online
  simp only [huncordon, hclear, hmode, did_decided, enterOn_decided, probeSleep_decided]
  split
  · rfl
  · split
    · rfl
    · split <;> rfl

/-- A first power-on does not look at the decision. -/
theorem startPowerOn_decided :
    (r.judging p t).startPowerOn (s.decided x) = (r.startPowerOn s).decided x := by
  have hsucceeds : (r.judging p t).succeeds .powerOn = r.succeeds .powerOn := rfl
  unfold startPowerOn
  simp only [act_decided, hsucceeds, setPhase_decided]
  split <;> rfl

/-- Pressing again does not look at the decision. -/
theorem keepPoweringOn_decided :
    (r.judging p t).keepPoweringOn (s.decided x) = (r.keepPoweringOn s).decided x := by
  have hphase : (r.judging p t).inPhaseFor (s.decided x).st = r.inPhaseFor s.st := rfl
  have hlast : (r.judging p t).sinceLastAction (s.decided x).st .powerOn
      = r.sinceLastAction s.st .powerOn := rfl
  have hboot : (r.judging p t).bootTimeout = r.bootTimeout := rfl
  have hstandby : (s.decided x).st.standbySince = s.st.standbySince := rfl
  have hpower : (s.decided x).st.powerState = s.st.powerState := rfl
  unfold keepPoweringOn
  simp only [hphase, hlast, hboot, hstandby, hpower, act_decided, standbyFailed_decided,
    setPhase_decided, message_decided]
  split
  · rfl
  · split <;> rfl

/-- A machine that is coming up does not look at the decision. -/
theorem comingUp_decided : (r.judging p t).comingUp (s.decided x)
    = ((r.comingUp s).1.decided x, (r.comingUp s).2) := by
  have huncordon : (r.judging p t).uncordon = r.uncordon := rfl
  unfold comingUp
  simp only [huncordon, did_decided, setPhase_decided]
  split <;> rfl

/-- Calling off a standby does not look at the decision. -/
theorem callOffStandby_decided :
    (r.judging p t).callOffStandby (s.decided x) = (r.callOffStandby s).decided x := by
  have hapi : (r.judging p t).api = r.api := rfl
  unfold callOffStandby
  rw [hapi, did_decided, startPowerOn_decided]

/-- What `ensureOn` does once the attempt is known to be going on. -/
theorem ensureOn_decided (h : powerOnAttempt s.st r.now r.powerOnFailurePolicy r.powerOnTimeout
      = .ongoing)
    (h' : powerOnAttempt (s.decided x).st r.now p t = .ongoing) :
    (r.judging p t).ensureOn (s.decided x) = ((r.ensureOn s).1.decided x, (r.ensureOn s).2) := by
  have hexpired : ¬ powerOnAttempt s.st r.now r.powerOnFailurePolicy r.powerOnTimeout
      = .expired := by rw [h]; decide
  have hexpired' : ¬ powerOnAttempt (s.decided x).st (r.judging p t).now
      (r.judging p t).powerOnFailurePolicy (r.judging p t).powerOnTimeout = .expired := by
    show ¬ powerOnAttempt (s.decided x).st r.now p t = .expired
    rw [h']
    decide
  have hfields : (s.decided x).st.powerState = s.st.powerState ∧
      (s.decided x).st.nodeReady = s.st.nodeReady ∧ (s.decided x).st.phase = s.st.phase ∧
      (s.decided x).st.standbySince = s.st.standbySince ∧
      (r.judging p t).inPhaseFor (s.decided x).st = r.inPhaseFor s.st ∧
      (r.judging p t).sinceLastAction (s.decided x).st .powerOn
        = r.sinceLastAction s.st .powerOn ∧
      (r.judging p t).mn = r.mn := ⟨rfl, rfl, rfl, rfl, rfl, rfl, rfl⟩
  -- the tests of `ensure_on` read these fields only, and the decision is not one of them
  obtain ⟨hpower, hready, hphase, hstandby, hin, hlast, hmn⟩ := hfields
  unfold ensureOn
  simp only [if_neg hexpired, if_neg hexpired']
  simp only [hpower, hready, hphase, hstandby, hin, hlast, hmn, online_decided,
    keepPoweringOn_decided, callOffStandby_decided, message_decided, comingUp_decided,
    startPowerOn_decided]
  split
  · rfl
  · split
    · rfl
    · split
      · rfl
      · split
        · rfl
        · split
          · rfl
          · split <;> rfl

/-! ## §4. Towards Off, without a target, and the boot handler. -/

/-- A machine found off does not look at the decision. -/
theorem offline_decided : (r.judging p t).offline (s.decided x) = (r.offline s).decided x := by
  have hstandby : (s.decided x).st.standbySince = s.st.standbySince := rfl
  unfold offline
  rw [hstandby, setPhase_decided]
  rfl

/-- Repeating a power-off does not look at the decision. -/
theorem keepPoweringOff_decided :
    (r.judging p t).keepPoweringOff (s.decided x) = (r.keepPoweringOff s).decided x := by
  have hphase : (r.judging p t).inPhaseFor (s.decided x).st = r.inPhaseFor s.st := rfl
  have hlast : ∀ a, (r.judging p t).sinceLastAction (s.decided x).st a
      = r.sinceLastAction s.st a := fun _ => rfl
  have haction : (r.judging p t).offAction (s.decided x).st = r.offAction s.st := rfl
  have hmn : (r.judging p t).mn = r.mn := rfl
  have hnow : (r.judging p t).now = r.now := rfl
  have hfields : (s.decided x).st.standbySince = s.st.standbySince ∧
      (s.decided x).st.forcedOffAt = s.st.forcedOffAt ∧
      (s.decided x).st.lastPowerAction = s.st.lastPowerAction := ⟨rfl, rfl, rfl⟩
  obtain ⟨hstandby, hforced, hrecord⟩ := hfields
  unfold keepPoweringOff
  simp only [hphase, hlast, haction, hmn, hnow, hstandby, hforced, hrecord, act_decided,
    standbyFailed_decided, message_decided]
  split
  · rfl
  · split
    · split <;> rfl
    · split <;> rfl

/-- A power-off does not look at the decision. -/
theorem powerOff_decided : (r.judging p t).powerOff (s.decided x) = (r.powerOff s).decided x := by
  have hmark : markPoweredOff (r.judging p t).dryRun (r.judging p t).api
      = markPoweredOff r.dryRun r.api := rfl
  unfold powerOff
  simp only [hmark, did_decided]
  have haction : (r.judging p t).offAction ((s.did (markPoweredOff r.dryRun r.api)).decided x).st
      = r.offAction (s.did (markPoweredOff r.dryRun r.api)).st := rfl
  rw [haction, act_decided, setPhase_decided]

/-- A drain that fails hands the machine back to no pool under an override. -/
theorem drainFailed_decided (h : r.mn.spec.powerPolicy ≠ .auto) :
    (r.judging p t).drainFailed (s.decided x)
      = ((r.drainFailed s).1.decided x, (r.drainFailed s).2) := by
  have h' : (r.judging p t).mn.spec.powerPolicy ≠ .auto := h
  unfold drainFailed
  simp only
  rw [if_neg h, if_neg h']
  rfl

/-- A drain that is done does not look at the decision. -/
theorem drainDone_decided : (r.judging p t).drainDone (s.decided x)
    = ((r.drainDone s).1.decided x, (r.drainDone s).2) := by
  have hmn : (r.judging p t).mn = r.mn := rfl
  have hphase : ∀ s : Progress, (r.judging p t).inPhaseFor (s.decided x).st = r.inPhaseFor s.st :=
    fun _ => rfl
  unfold drainDone
  simp only [hmn, probeSleep_decided, hphase, message_decided, powerOff_decided]
  split
  · split <;> rfl
  · rfl

/-- A drain under an override does not look at the decision. -/
theorem drain_decided (h : r.mn.spec.powerPolicy ≠ .auto) :
    (r.judging p t).drain (s.decided x) = ((r.drain s).1.decided x, (r.drain s).2) := by
  have hdrained : (r.judging p t).drained = r.drained := rfl
  have hevictions : (r.judging p t).evictions = r.evictions := rfl
  have hsummary : (r.judging p t).drainSummary = r.drainSummary := rfl
  have hmn : (r.judging p t).mn = r.mn := rfl
  have hphase : ∀ s : Progress, (r.judging p t).inPhaseFor (s.decided x).st = r.inPhaseFor s.st :=
    fun _ => rfl
  unfold drain
  simp only [hdrained, hevictions, hsummary, hmn, did_decided, hphase, message_decided,
    drainDone_decided, powerOff_decided, r.drainFailed_decided p t x _ h]
  split
  · rfl
  · split
    · rfl
    · split <;> rfl

/-- The start of a drain does not look at the decision. -/
theorem startDrain_decided : (r.judging p t).startDrain (s.decided x)
    = ((r.startDrain s).1.decided x, (r.startDrain s).2) := by
  have hnode : (r.judging p t).node = r.node := rfl
  have hapi : (r.judging p t).api = r.api := rfl
  unfold startDrain
  rw [hnode, hapi]
  cases r.node with
  | none => rfl
  | some node =>
    simp only [did_decided, setPhase_decided]
    split <;> rfl

/-- Bringing the machine down under an override does not look at the decision. -/
theorem ensureOff_decided (h : r.mn.spec.powerPolicy ≠ .auto) :
    (r.judging p t).ensureOff (s.decided x) = ((r.ensureOff s).1.decided x, (r.ensureOff s).2) := by
  have hawake : (r.judging p t).awake (s.decided x) = (r.awake s).decided x := by
    have hwoke : wokeByItself (s.decided x).st = wokeByItself s.st := rfl
    unfold awake
    rw [hwoke]
    split <;> rfl
  have hunfold : ∀ (r : Reconciler) (s : Progress), r.ensureOff s =
      if (r.awake s).st.powerState = .off ∨
          inStandby (r.awake s).st.phase (r.awake s).st.standbySince.isSome
            (r.awake s).st.nodeReady then
        (r.offline (r.awake s), some slow)
      else if (r.awake s).st.phase = .poweringOff then (r.keepPoweringOff (r.awake s), some fast)
      else if (r.awake s).st.phase = .draining then r.drain (r.awake s)
      else r.startDrain (r.awake s) := fun _ _ => rfl
  have hfields : ∀ s : Progress, (s.decided x).st.powerState = s.st.powerState ∧
      (s.decided x).st.phase = s.st.phase ∧ (s.decided x).st.nodeReady = s.st.nodeReady ∧
      (s.decided x).st.standbySince = s.st.standbySince := fun _ => ⟨rfl, rfl, rfl, rfl⟩
  obtain ⟨hpower, hphase, hready, hstandby⟩ := hfields (r.awake s)
  rw [hunfold, hunfold, hawake]
  simp only [hpower, hphase, hready, hstandby, offline_decided, keepPoweringOff_decided,
    r.drain_decided p t x _ h, startDrain_decided]
  split
  · rfl
  · split
    · rfl
    · split <;> rfl

/-- Observing does not look at the decision. -/
theorem observe_decided : (r.judging p t).observe (s.decided x) = (r.observe s).decided x := by
  have hfields : (s.decided x).st.powerState = s.st.powerState ∧
      (s.decided x).st.phase = s.st.phase ∧ (s.decided x).st.nodeReady = s.st.nodeReady ∧
      (s.decided x).st.standbySince = s.st.standbySince := ⟨rfl, rfl, rfl, rfl⟩
  obtain ⟨hpower, hphase, hready, hstandby⟩ := hfields
  unfold observe
  simp only [hpower, hphase, hready, hstandby, setPhase_decided]
  split
  · rfl
  · cases s.st.powerState with
    | on =>
      simp only
      split <;> rfl
    | off => rfl
    | unknown => rfl

/-- The boot handler does not look at the decision; a boot that fails drops
it. -/
theorem boot_decided (event : BootEvent) : (r.judging p t).boot event (s.decided x)
    = ((r.boot event s).1.decided (if event = .failed then none else x), (r.boot event s).2) := by
  cases event with
  | recovered => rfl
  | failed =>
    have hsame : (r.judging p t).boot .failed (s.decided x) = r.boot .failed s := rfl
    have hnone : (r.boot .failed s).1.decided none = (r.boot .failed s).1 := by
      rw [← r.decision_boot_failed s]
      rfl
    rw [hsame, if_pos rfl, hnone]
  | none =>
    have hfailure : (s.decided x).st.bootFailure = s.st.bootFailure := rfl
    have hgo : (s.decided x).st.nodeReady = s.st.nodeReady ∧
        (s.decided x).st.powerState = s.st.powerState ∧
        failureIsCurrent (s.decided x).st = failureIsCurrent s.st := ⟨rfl, rfl, rfl⟩
    obtain ⟨hready, hpower, hcurrent⟩ := hgo
    have hcuts : ∀ (s : Progress) f, (r.judging p t).cutsPower (s.decided x).st f
        = r.cutsPower s.st f := fun _ _ => rfl
    unfold boot
    simp only [hfailure, hready, hpower, hcurrent]
    cases s.st.bootFailure with
    | none => rfl
    | some f =>
      simp only [setPhase_decided, hcuts, act_decided]
      split
      · rfl
      · split <;> rfl

/-! ## §5. A step under an override. -/

/-- The target under an override is that of the policy. -/
theorem managedTarget_decided (h : r.mn.spec.powerPolicy ≠ .auto) (manual : ManualPowerOnPolicy) :
    managedTarget r.mn.spec.powerPolicy (s.decided x).st manual
      = managedTarget r.mn.spec.powerPolicy s.st manual := by
  unfold managedTarget desiredTarget
  cases hp : r.mn.spec.powerPolicy with
  | auto => exact absurd hp h
  | alwaysOn => rfl
  | alwaysOff => rfl

/-- What another reconcile can see of a step: the actions it issues, in order,
and the phase it ends in. -/
def seen (out : Progress × Option Nat) : List PowerAction × Phase := (out.1.issued, out.1.st.phase)

/-- What is seen of a reconcile does not show the decision. -/
theorem seen_decided (out : Progress × Option Nat) :
    seen (out.1.decided x, out.2) = seen out := rfl

/-- The step drives the machine towards On, and the two decisions make a
different attempt of it. -/
def TellsApart (event : BootEvent) (consistent : Bool) : Prop :=
  ¬ (event = .failed ∨ (event = .none ∧ bootStaysFailed s.st = true)) ∧
  r.node.isSome = true ∧ consistent = true ∧ r.mn.spec.powerPolicy = .alwaysOn ∧
  powerOnAttempt s.st r.now r.powerOnFailurePolicy r.powerOnTimeout
    ≠ powerOnAttempt (s.decided x).st r.now p t

/-- An attempt that goes on at a machine that is off or suspended leaves it in
`PoweringOn` or `Error`. -/
theorem phase_trying (hready : s.st.nodeReady = false)
    (hdown : s.st.powerState ≠ .on ∨ s.st.standbySince.isSome = true)
    (h : powerOnAttempt s.st r.now r.powerOnFailurePolicy r.powerOnTimeout = .ongoing) :
    (r.ensureOn s).1.st.phase ∈ ([.poweringOn, .error] : List Phase) := by
  have hnotUp : ¬ (s.st.powerState = .on ∧ s.st.nodeReady = true) := by simp [hready]
  have hawake : ¬ (s.st.powerState = .on ∧ s.st.standbySince.isNone = true) := by
    intro hc
    rcases hdown with hoff | hslept
    · exact hoff hc.1
    · simp [Option.isNone_iff_eq_none.mp hc.2] at hslept
  unfold ensureOn
  simp only
  rw [if_neg hnotUp, if_neg (by rw [h]; decide)]
  -- not up and not expired: it goes on powering on, starts again, or waits in phase Error
  split
  · rename_i hphase
    unfold keepPoweringOn
    simp only
    split
    · simp
    · split <;> simp [hphase]
  · split
    · exact r.phase_startPowerOn _
    · rename_i hnotSuspended
      split
      · -- waiting for a shutdown: the machine is on and not suspended
        rename_i hwait
        rcases hdown with hoff | hslept
        · exact absurd hwait.2.1 hoff
        · exact absurd ⟨Or.inl hwait.1, hslept⟩ hnotSuspended
      · split
        · rename_i hhold
          simp [hhold.1]
        · exact r.phase_startPowerOn s

/-- A power-on that is released looks the same whatever the decision was. -/
theorem seen_released : seen ((r.judging p t).releaseFailedPowerOn (s.decided x), some fast)
    = seen (r.releaseFailedPowerOn s, some fast) := by
  have hphase : ((r.judging p t).releaseFailedPowerOn (s.decided x)).st.phase
      = (r.releaseFailedPowerOn s).st.phase := by
    rw [phase_released, phase_released]
    rfl
  have hissued : ∀ (r : Reconciler) (s : Progress), (r.releaseFailedPowerOn s).issued
      = if s.st.powerState = .on then s.issued ++ [.forceOff] else s.issued := by
    intro r s
    have hpower : (r.released s.st).powerState = s.st.powerState := rfl
    unfold releaseFailedPowerOn
    simp only [hpower]
    split
    · simp [issued_markPoweredOff]
    · simp
  unfold seen
  simp only
  rw [hphase, hissued, hissued]
  rfl

/-- **Two attempts at the same machine**: if they stand alike, nothing tells them
apart; else one is released and the other goes on. -/
theorem seen_ensureOn :
    seen ((r.judging p t).ensureOn (s.decided x)) = seen (r.ensureOn s) ↔
      powerOnAttempt s.st r.now r.powerOnFailurePolicy r.powerOnTimeout
        = powerOnAttempt (s.decided x).st r.now p t := by
  -- where one attempt is released and the other goes on, the phases differ
  have hdiffer : ∀ (r r' : Reconciler) (s s' : Progress), s'.st.nodeReady = s.st.nodeReady →
      s'.st.powerState = s.st.powerState → s'.st.standbySince = s.st.standbySince →
      powerOnAttempt s.st r.now r.powerOnFailurePolicy r.powerOnTimeout = .expired →
      powerOnAttempt s'.st r'.now r'.powerOnFailurePolicy r'.powerOnTimeout = .ongoing →
      (r'.ensureOn s').1.st.phase ≠ (r.ensureOn s).1.st.phase := by
    intro r r' s s' hready hpower hstandby hexpired hongoing hsame
    obtain ⟨_, hover⟩ := expired_iff.mp hexpired
    have htrying := r'.phase_trying s' (hready.trans hover.notReady)
      (by rw [hpower, hstandby]; exact hover.down) hongoing
    rw [hsame, r.ensureOn_expired s hexpired, phase_released] at htrying
    split at htrying <;> simp at htrying
  cases hA : powerOnAttempt s.st r.now r.powerOnFailurePolicy r.powerOnTimeout with
  | ongoing =>
    cases hB : powerOnAttempt (s.decided x).st r.now p t with
    | ongoing =>
      rw [r.ensureOn_decided p t x s hA hB, seen_decided]
      exact ⟨fun _ => rfl, fun _ => rfl⟩
    | expired =>
      constructor
      · intro hseen
        have hphase := congrArg Prod.snd hseen
        exact absurd hphase.symm
          (hdiffer (r.judging p t) r (s.decided x) s rfl rfl rfl hB hA)
      · intro h
        cases h
  | expired =>
    cases hB : powerOnAttempt (s.decided x).st r.now p t with
    | ongoing =>
      constructor
      · intro hseen
        have hphase := congrArg Prod.snd hseen
        exact absurd hphase (hdiffer r (r.judging p t) s (s.decided x) rfl rfl rfl hA hB)
      · intro h
        cases h
    | expired =>
      have hB' : powerOnAttempt (s.decided x).st (r.judging p t).now
          (r.judging p t).powerOnFailurePolicy (r.judging p t).powerOnTimeout = .expired := hB
      rw [r.ensureOn_expired s hA, (r.judging p t).ensureOn_expired (s.decided x) hB',
        r.seen_released p t x s]
      exact ⟨fun _ => rfl, fun _ => rfl⟩

/-- A target under an override does not tell two decisions apart, unless their
attempts do. -/
theorem seen_towards (h : r.mn.spec.powerPolicy ≠ .auto) {event : BootEvent}
    (hstands : ¬ (event = .failed ∨ (event = .none ∧ bootStaysFailed s.st = true)))
    (consistent : Bool) :
    seen ((r.judging p t).towards consistent (s.decided x)) = seen (r.towards consistent s) ↔
      ¬ r.TellsApart p t x s event consistent := by
  have htarget : managedTarget (r.judging p t).mn.spec.powerPolicy (s.decided x).st
      (r.judging p t).manualPolicy = managedTarget r.mn.spec.powerPolicy s.st r.manualPolicy :=
    r.managedTarget_decided x s h r.manualPolicy
  have hnodes : (r.judging p t).node = r.node := rfl
  have hmessage : (r.judging p t).gateMessage = r.gateMessage := rfl
  unfold towards
  rw [htarget, hnodes, hmessage]
  -- a gated cycle reads neither the decision nor the pool's times
  by_cases hgate : r.node.isNone = true ∨ (!consistent) = true
  · rw [if_pos hgate, if_pos hgate, message_decided, observe_decided]
    refine ⟨fun _ ht => ?_, fun _ => rfl⟩
    rcases hgate with hnone | hinconsistent
    · have hsome := ht.2.1
      rw [Option.isNone_iff_eq_none.mp hnone] at hsome
      cases hsome
    · rw [ht.2.2.1] at hinconsistent
      cases hinconsistent
  · rw [if_neg hgate, if_neg hgate]
    have hopen : r.node.isSome = true ∧ consistent = true := by
      simp only [not_or, Bool.not_eq_true, Bool.not_eq_false', Option.isNone_eq_false_iff] at hgate
      exact hgate
    -- past the gate the policy alone gives the target, and only AlwaysOn looks at the decision
    unfold managedTarget desiredTarget
    cases hpolicy : r.mn.spec.powerPolicy with
    | auto => exact absurd hpolicy h
    | alwaysOn =>
      show seen ((r.judging p t).ensureOn (s.decided x)) = seen (r.ensureOn s) ↔ _
      rw [seen_ensureOn]
      constructor
      · intro hsame ht
        exact ht.2.2.2.2 hsame
      · intro hnot
        by_contra hdiffer
        exact hnot ⟨hstands, hopen.1, hopen.2, hpolicy, hdiffer⟩
    | alwaysOff =>
      show seen ((r.judging p t).ensureOff (s.decided x)) = seen (r.ensureOff s) ↔ _
      rw [r.ensureOff_decided p t x s h, seen_decided]
      refine ⟨fun _ ht => ?_, fun _ => rfl⟩
      have hon := ht.2.2.2.1
      rw [hpolicy] at hon
      cases hon

/-- **A step under an override does not tell two decisions apart, unless their
attempts do.** -/
theorem seen_step (h : r.mn.spec.powerPolicy ≠ .auto) (event : BootEvent) (consistent : Bool) :
    seen ((r.judging p t).step event consistent (s.decided x)) = seen (r.step event consistent s) ↔
      ¬ r.TellsApart p t x s event consistent := by
  have hboot := r.boot_decided p t x s event
  cases hb : (r.boot event s).2 with
  | some requeue =>
    have hhandled : (r.boot event s).2.isSome = true := by rw [hb]; rfl
    have hhandled' : ((r.judging p t).boot event (s.decided x)).2.isSome = true := by
      rw [hboot, hb]
      rfl
    rw [r.step_handled s hhandled, (r.judging p t).step_handled _ hhandled', hboot]
    have hnot : ¬ r.TellsApart p t x s event consistent := fun ht =>
      ht.1 ((r.boot_handles_iff s event).mp hhandled)
    exact ⟨fun _ => hnot, fun _ => rfl⟩
  | none =>
    have hunhandled' : ((r.judging p t).boot event (s.decided x)).2 = none := by
      rw [hboot, hb]
    have hstands : ¬ (event = .failed ∨ (event = .none ∧ bootStaysFailed s.st = true)) := by
      rw [← r.boot_handles_iff s event, hb]
      decide
    rw [r.step_unhandled s hb, (r.judging p t).step_unhandled _ hunhandled']
    exact r.seen_towards p t x s h hstands consistent

end Reconciler

/-! ## §6. A reconcile under an override. -/

namespace MachineInput

variable (i : MachineInput) (old : NodePowerManagementConfigStatus) (x : Option ScalingDecision)
  (cache : IdentityCache)

/-- The decision that is left of `x` in the pools the machine is in. -/
def keptDecision : Option ScalingDecision :=
  x.filter (fun dec => i.membership.pools.contains dec.pool)

/-- The checks of a reconcile do not look at the decision. -/
theorem checked_decided : i.checked (old.decided x) = (i.checked old).decided (i.keptDecision x) := by
  unfold checked resolvePools seeNode
  cases i.node with
  | none => rfl
  | some n => rfl

/-- The readings do not look at the decision. -/
theorem read_decided : (i.read (old.decided x) cache).1 =
    match (i.read old cache).1 with
    | .error e => .error { e with st := e.st.decided (i.keptDecision x) }
    | .ok d => .ok { d with fresh := d.fresh.decided (i.keptDecision x) } := by
  unfold read
  rw [checked_decided]
  simp only
  cases PowerChain.build i.mn.spec.powerInterfaces i.built with
  | error e => rfl
  | ok chain =>
    simp only
    rcases (chain.disableMismatched (i.identity chain cache).1).powerState with ⟨answer, contacted⟩
    cases answer with
    | error e => rfl
    | ok outcome => rfl

namespace Reading

/-- The same reading with another decision. -/
def decided (x : Option ScalingDecision) (d : Reading) : Reading :=
  { d with fresh := d.fresh.decided x }

variable (d : Reading)

/-- A manual change is told without the decision. -/
theorem change_decided (y : Option ScalingDecision) :
    (d.decided x).change i (old.decided y) = d.change i old := rfl

/-- That the machine was seen off is noted without the decision. -/
theorem seenOff_decided (y : Option ScalingDecision) :
    (d.decided x).seenOff i (old.decided y) = (d.seenOff i old).decided x := by
  have hoff : offNow (d.decided x).fresh = offNow d.fresh := rfl
  unfold seenOff
  rw [change_decided, hoff]
  split <;> rfl

/-- The boot is tracked without the decision. -/
theorem tracked_decided (y : Option ScalingDecision) :
    (d.decided x).tracked i (old.decided y)
      = ((d.tracked i old).1.decided x, (d.tracked i old).2) := by
  have hboot : ((d.decided x).machine i).bootTimeout = (d.machine i).bootTimeout := rfl
  have htrack : ∀ (st : NodePowerManagementConfigStatus) (now : Int) (timeout : UInt64),
      trackBoot (st.decided x) now timeout
        = ((trackBoot st now timeout).1.decided x, (trackBoot st now timeout).2) := by
    intro st now timeout
    have hfields : isBooting (st.decided x) = isBooting st ∧
        (st.decided x).nodeReady = st.nodeReady ∧ (st.decided x).powerState = st.powerState ∧
        (st.decided x).bootFailure = st.bootFailure ∧
        (st.decided x).poweredOnNotReadySince = st.poweredOnNotReadySince ∧
        bootStart (st.decided x) now = bootStart st now := ⟨rfl, rfl, rfl, rfl, rfl, rfl⟩
    obtain ⟨hbooting, hready, hpower, hfailure, hsince, hstart⟩ := hfields
    unfold trackBoot
    simp only [hbooting, hready, hpower, hfailure, hsince, hstart]
    split
    · rfl
    · split
      · split <;> rfl
      · split <;> rfl
  unfold tracked
  rw [seenOff_decided, hboot, htrack]

/-- The decision the state machine starts with: a manual change drops it. -/
def startDecision (d : Reading) (i : MachineInput) (old : NodePowerManagementConfigStatus)
    (x : Option ScalingDecision) : Option ScalingDecision :=
  if d.change i old = .none then x else none

/-- The reconcile starts with what is left of the decision. -/
theorem start_decided (y : Option ScalingDecision) :
    (d.decided x).start i (old.decided y) = (d.start i old).decided (d.startDecision i old x) := by
  unfold start startDecision
  rw [change_decided, tracked_decided]
  cases d.change i old with
  | none => rfl
  | poweredOn => rfl
  | poweredOff => rfl

end Reading

/-- What one reconcile does that can be seen: the power actions it issues, in
order, and the phase it ends in. -/
def outcome : List PowerAction × Phase :=
  match (i.read old cache).1 with
  | .error e => ([], e.st.phase)
  | .ok d => Reconciler.seen (i.settle old d)

/-- The outcome is that of the reconcile: its actions, and the phase of the
status it gets to store. -/
theorem outcome_reconcile : issued (i.reconcile old cache).effects = (i.outcome old cache).1 ∧
    ∀ st, (i.reconcile old cache).status = some st → st.phase = (i.outcome old cache).2 := by
  have hissued := @MachineState.issued_contacts
  -- an error issues nothing; otherwise the status is stored when there is a requeue
  unfold reconcile outcome
  rcases hr : i.read old cache with ⟨answer, cache'⟩
  cases answer with
  | error e =>
    have hnone : issued e.effects = [] := by
      unfold read at hr
      simp only at hr
      split at hr
      · cases hr
        rfl
      · split at hr
        · cases hr
          exact hissued _
        · cases hr
    refine ⟨hnone, fun st hst => ?_⟩
    simp only at hst
    split at hst
    · rw [← Option.some.inj hst]
    · cases hst
  | ok d =>
    simp only
    rcases hs : i.settle old d with ⟨s, requeue⟩
    cases requeue with
    | none =>
      refine ⟨rfl, fun st hst => ?_⟩
      cases hst
    | some requeue =>
      refine ⟨rfl, fun st hst => ?_⟩
      simp only at hst
      split at hst
      · rw [← Option.some.inj hst]
        rfl
      · cases hst

/-- **The two decisions are told apart**: under `AlwaysOn` the reconcile gets to
drive the machine towards On, and exactly one of the attempts has expired. -/
def TellsDecisionsApart : Prop :=
  ∃ d, (i.read old cache).1 = .ok d ∧
    ¬ ((d.tracked i old).2 = .failed ∨
      ((d.tracked i old).2 = .none ∧ Reconciler.bootStaysFailed (d.start i old) = true)) ∧
    i.node.isSome = true ∧ i.consistent d.fresh = true ∧ i.mn.spec.powerPolicy = .alwaysOn ∧
    powerOnAttempt (d.start i old) i.now (d.machine i).powerOnFailurePolicy
        (d.machine i).powerOnTimeout
      ≠ powerOnAttempt ((d.decided (i.keptDecision x)).start i (old.decided x)) i.now
          ((d.decided (i.keptDecision x)).machine i).powerOnFailurePolicy
          ((d.decided (i.keptDecision x)).machine i).powerOnTimeout

/-- **When a reconcile comes out the same**: where it does not tell the decisions
apart. -/
theorem outcome_decided_iff (h : i.mn.spec.powerPolicy ≠ .auto) :
    i.outcome (old.decided x) cache = i.outcome old cache ↔
      ¬ i.TellsDecisionsApart old x cache := by
  have hread := i.read_decided old x cache
  unfold outcome TellsDecisionsApart
  cases hr : (i.read old cache).1 with
  | error e =>
    rw [hr] at hread
    rw [hread]
    refine ⟨fun _ ht => ?_, fun _ => rfl⟩
    obtain ⟨d, hd, _⟩ := ht
    cases hd
  | ok d =>
    rw [hr] at hread
    rw [hread]
    simp only
    -- both cycles are one step, judged by the times of two pools and two decisions
    have hsettle : i.settle (old.decided x) (d.decided (i.keptDecision x))
        = ((d.machine i).judging ((d.decided (i.keptDecision x)).machine i).powerOnFailurePolicy
            ((d.decided (i.keptDecision x)).machine i).powerOnTimeout).step
          (d.tracked i old).2 (i.consistent d.fresh)
          (Progress.decided (d.startDecision i old (i.keptDecision x))
            { st := d.start i old, effects := d.contacted.map (.contact .status) }) := by
      unfold settle
      rw [Reading.start_decided, Reading.tracked_decided]
      rfl
    have hstep := (d.machine i).seen_step
      ((d.decided (i.keptDecision x)).machine i).powerOnFailurePolicy
      ((d.decided (i.keptDecision x)).machine i).powerOnTimeout
      (d.startDecision i old (i.keptDecision x))
      { st := d.start i old, effects := d.contacted.map (.contact .status) } h
      (d.tracked i old).2 (i.consistent d.fresh)
    show Reconciler.seen (i.settle (old.decided x) (d.decided (i.keptDecision x))) = _ ↔ _
    rw [hsettle]
    refine hstep.trans (not_congr ⟨fun ht => ?_, fun ht => ?_⟩)
    · refine ⟨d, rfl, ht.1, ht.2.1, ht.2.2.1, ht.2.2.2.1, ?_⟩
      rw [Reading.start_decided]
      exact ht.2.2.2.2
    · obtain ⟨d', hd', hboot, hnode, hconsistent, hpolicy, hdiffer⟩ := ht
      cases hd'
      rw [Reading.start_decided] at hdiffer
      exact ⟨hboot, hnode, hconsistent, hpolicy, hdiffer⟩

/-- **Under an override a reconcile does the same whatever the decision is** — the
same power actions in the same order, ending in the same phase — exactly when
it does not tell the two decisions apart. -/
theorem override_ignores_decision_iff (h : i.mn.spec.powerPolicy ≠ .auto) :
    (issued (i.reconcile (old.decided x) cache).effects = issued (i.reconcile old cache).effects ∧
      (i.outcome (old.decided x) cache).2 = (i.outcome old cache).2) ↔
    ¬ i.TellsDecisionsApart old x cache := by
  rw [(i.outcome_reconcile (old.decided x) cache).1, (i.outcome_reconcile old cache).1,
    ← Prod.ext_iff]
  exact i.outcome_decided_iff old x cache h

end MachineInput

/-! ## §7. A decision left over from `Auto`. -/

/-- A machine under `AlwaysOn` that is off, 1300 s after time 0. -/
def keptOn : MachineInput where
  mn :=
    { name := "m1"
      spec :=
        { nodeName := "m1", powerPolicy := .alwaysOn
          powerInterfaces := [{ driver := "redfish" }] } }
  cluster :=
    { nodes := [{ pooledNode false with conditions := [{ type_ := "Ready", status := "False" }] }]
      pools := [poolA]
      nodes_distinct := notReady_distinct
      pools_distinct := poolA_distinct }
  built := fun _ => .ok { powerState := .ok .off }
  now := seconds 1300
  lookupAt := seconds 1300
  storeAt := seconds 1300

/-- Without a decision the policy is followed; two decisions that are not told
apart change nothing. -/
theorem keptOn_follows_policy :
    issued (keptOn.reconcile
        (NodePowerManagementConfigStatus.decided (some ⟨"a", .off, "unneeded", 0⟩) {}) []).effects
      = issued (keptOn.reconcile {} []).effects := by
  have hnot : ¬ keptOn.TellsDecisionsApart {} (some ⟨"a", .off, "unneeded", 0⟩) [] := by
    intro ht
    obtain ⟨d, hd, _, _, _, _, hdiffer⟩ := ht
    have hsame : ((keptOn.read {} []).1.toOption).all (fun d =>
        decide (powerOnAttempt (d.start keptOn {}) keptOn.now (d.machine keptOn).powerOnFailurePolicy
          (d.machine keptOn).powerOnTimeout
        = powerOnAttempt ((d.decided (keptOn.keptDecision (some ⟨"a", .off, "unneeded", 0⟩))).start
            keptOn (NodePowerManagementConfigStatus.decided (some ⟨"a", .off, "unneeded", 0⟩) {}))
          keptOn.now
          ((d.decided (keptOn.keptDecision (some ⟨"a", .off, "unneeded", 0⟩))).machine keptOn).powerOnFailurePolicy
          ((d.decided (keptOn.keptDecision (some ⟨"a", .off, "unneeded", 0⟩))).machine keptOn).powerOnTimeout))
        = true := by
      decide +kernel
    rw [hd] at hsame
    exact hdiffer (of_decide_eq_true hsame)
  exact ((keptOn.override_ignores_decision_iff {} (some ⟨"a", .off, "unneeded", 0⟩) []
    (by decide)).mpr hnot).1

/-- **An On decision that is 1300 s old keeps an `AlwaysOn` machine off**: with it
the machine is released, without it it is powered on. -/
theorem keptOn_released :
    issued (keptOn.reconcile {} []).effects = [.powerOn] ∧
    (keptOn.reconcile {} []).status.map (·.phase) = some .poweringOn ∧
    issued (keptOn.reconcile (NodePowerManagementConfigStatus.decided
      (some ⟨"a", .on, "2 pending pod(s)", 0⟩) {}) []).effects = [] ∧
    (keptOn.reconcile (NodePowerManagementConfigStatus.decided
      (some ⟨"a", .on, "2 pending pod(s)", 0⟩) {}) []).status.map (·.phase) = some .off := by
  decide +kernel

end HardwareAutoscaler
