/-
  HardwareAutoscaler.Controller.Machine.Decided
  ─────────────────────────────────────────────
  WHAT A DECISION LEADS TO, AND WHAT BECOMES OF IT in one reconcile.

  A pool writes its decision to the status of a machine; the machine's own
  reconcile acts on it.

    • `KeepsDecision` — a reconcile keeps the decision or drops it, or gives a
      drain up and decides On,
    • `off_of_turnsOff` — a machine that runs is only taken out of service with
      the target Off,
    • `on_of_powerOn` — a power-on is only issued with the target On,
    • `stored_decision` — the decision that is stored after a reconcile.
-/
import HardwareAutoscaler.Controller.Machine.Drain
import HardwareAutoscaler.Controller.Machine.ManualChange

namespace HardwareAutoscaler

/-! ## §1. The decision in the state machine. -/

namespace Reconciler

variable (r : Reconciler) {s : Progress}

/-- From `s` to `out` the decision is kept, dropped, or made by a drain that is
given up. -/
def KeepsDecision (s out : Progress) : Prop :=
  out.st.scalingDecision = s.st.scalingDecision ∨ out.st.scalingDecision = none ∨
    (s.st.phase = .draining ∧ r.drained = false ∧
      ∃ st, out.st.scalingDecision = some (r.abortDecision st))

@[simp] theorem decision_setPhase (phase : Phase) :
    (r.setPhase phase s).st.scalingDecision = s.st.scalingDecision := by
  rw [setPhase_eq]

@[simp] theorem decision_act (action : PowerAction) :
    (r.act action s).st.scalingDecision = s.st.scalingDecision := rfl

@[simp] theorem decision_awake : (r.awake s).st.scalingDecision = s.st.scalingDecision := by
  unfold awake
  split <;> rfl

@[simp] theorem decision_probeSleep :
    (r.probeSleep s).1.st.scalingDecision = s.st.scalingDecision := by
  obtain ⟨support, effects, heq, -⟩ := r.probeSleep_fst s
  rw [heq]

@[simp] theorem decision_startPowerOn :
    (r.startPowerOn s).st.scalingDecision = s.st.scalingDecision := by
  unfold startPowerOn
  simp only
  split <;> simp

@[simp] theorem decision_powerOff : (r.powerOff s).st.scalingDecision = s.st.scalingDecision := by
  unfold powerOff
  simp

/-- A machine found up keeps its decision. -/
theorem decision_online : (r.online s).1.st.scalingDecision = s.st.scalingDecision := by
  have hentered : ∀ s : Progress, (r.enterOn s).st.scalingDecision = s.st.scalingDecision := by
    intro s
    unfold enterOn
    simp
  unfold online
  simp only
  split
  · rfl
  · split
    · rfl
    · split
      · rw [decision_probeSleep, hentered]
        rfl
      · rw [hentered]
        rfl

/-- A power-on given up is a decision dropped. -/
theorem decision_releaseFailedPowerOn :
    (r.releaseFailedPowerOn s).st.scalingDecision = none := by
  unfold releaseFailedPowerOn
  simp only
  split
  · rw [decision_setPhase]
    rfl
  · rw [decision_setPhase]
    rfl

/-- Pressing again leaves the decision. -/
theorem decision_keepPoweringOn :
    (r.keepPoweringOn s).st.scalingDecision = s.st.scalingDecision := by
  unfold keepPoweringOn
  simp only
  split
  · simp [standbyFailed]
  · split <;> simp

/-- A machine that is coming up keeps its decision. -/
theorem decision_comingUp : (r.comingUp s).1.st.scalingDecision = s.st.scalingDecision := by
  unfold comingUp
  simp only
  split <;> simp

/-- A machine that is going down keeps its decision. -/
theorem decision_keepPoweringOff :
    (r.keepPoweringOff s).st.scalingDecision = s.st.scalingDecision := by
  unfold keepPoweringOff
  simp only
  split
  · rfl
  · split
    · split
      · rfl
      · rfl
    · split
      · rfl
      · rfl

/-- A drain that is done leaves the decision. -/
theorem decision_drainDone : (r.drainDone s).1.st.scalingDecision = s.st.scalingDecision := by
  unfold drainDone
  simp only
  split
  · split
    · simp
    · simp
  · simp

/-- A drain that fails leaves it too, or reverses it. -/
theorem decision_drainFailed : (r.drainFailed s).1.st.scalingDecision = s.st.scalingDecision ∨
    ∃ st, (r.drainFailed s).1.st.scalingDecision = some (r.abortDecision st) := by
  unfold drainFailed
  simp only
  split
  · refine Or.inr ⟨r.drainTimedOut s.st, ?_⟩
    split
    · rfl
    · rw [decision_setPhase]
      rfl
  · exact Or.inl rfl

/-- Bringing the machine up keeps the decision, or drops it for good. -/
theorem keeps_ensureOn : r.KeepsDecision s (r.ensureOn s).1 := by
  refine r.ensureOn_cases s (P := fun out => r.KeepsDecision s out.1) ?_ ?_ ?_ ?_ ?_ ?_ ?_ ?_
  · intro _ _
    exact Or.inl r.decision_online
  · intro _
    exact Or.inr (Or.inl r.decision_releaseFailedPowerOn)
  · intro _ _
    exact Or.inl r.decision_keepPoweringOn
  · intro _ _ _
    exact Or.inl r.decision_startPowerOn
  · intro _ _ _
    exact Or.inl rfl
  · intro _ _ _
    exact Or.inl r.decision_comingUp
  · intro _ _
    exact Or.inl rfl
  · intro _ _ _
    exact Or.inl r.decision_startPowerOn

/-- A drain keeps the decision, or reverses it. -/
theorem keeps_drain (hphase : s.st.phase = .draining) : r.KeepsDecision s (r.drain s).1 := by
  refine r.drain_cases s (P := fun out => r.KeepsDecision s out.1) ?done ?wait ?forced ?failed
  case done =>
    intro _
    exact Or.inl r.decision_drainDone
  case wait =>
    intro _ _
    exact Or.inl rfl
  case forced =>
    intro _ _ _
    exact Or.inl r.decision_powerOff
  case failed =>
    -- pods are left at the deadline
    intro hnot
    rcases @decision_drainFailed r (s.did r.evictions) with hsame | habort
    · exact Or.inl hsame
    · exact Or.inr (Or.inr ⟨hphase, hnot, habort⟩)

/-- Bringing the machine down keeps the decision, or reverses it in a drain. -/
theorem keeps_ensureOff : r.KeepsDecision s (r.ensureOff s).1 := by
  have hawake := @decision_awake r s
  refine r.ensureOff_cases s (P := fun out => r.KeepsDecision s out.1) ?offline ?keep ?drain ?start
  case offline =>
    intro _
    refine Or.inl ?_
    unfold offline
    simp
  case keep =>
    intro _ _
    exact Or.inl (r.decision_keepPoweringOff.trans hawake)
  case drain =>
    intro _ hphase
    have hsame : (r.awake s).st.phase = s.st.phase := by
      unfold awake
      split <;> rfl
    rw [KeepsDecision, ← hawake, ← hsame]
    exact r.keeps_drain (hsame.trans hphase)
  case start =>
    intro _ _ _
    refine Or.inl ?_
    unfold startDrain
    split
    · simp only
      split <;> simp
    · simp

/-- A boot keeps the decision, or drops it for good. -/
theorem keeps_boot (event : BootEvent) : r.KeepsDecision s (r.boot event s).1 := by
  cases event with
  | recovered => exact Or.inl rfl
  | failed => exact Or.inr (Or.inl (r.decision_boot_failed s))
  | none =>
    refine Or.inl ?_
    unfold boot
    simp only
    split
    · rfl
    · split
      · rfl
      · split <;> simp

/-- **One step keeps the decision**, drops it, or gives a drain up. -/
theorem keeps_step (event : BootEvent) (consistent : Bool) :
    r.KeepsDecision s (r.step event consistent s).1 := by
  refine r.step_cases s (P := fun out => r.KeepsDecision s out.1) ?boot ?gated ?idle ?on ?off
  case boot =>
    intro _ _
    exact r.keeps_boot event
  case gated =>
    intro _ _
    exact Or.inl (r.decision_observe _)
  case idle =>
    intro _ _ _ _
    exact Or.inl (r.decision_observe s)
  case on =>
    intro _ _ _ _
    exact r.keeps_ensureOn
  case off =>
    intro _ _ _ _
    exact r.keeps_ensureOff

/-! ## §2. What the targets issue. -/

/-- Nothing from `s` to `out` powers the machine on. -/
def NoPowerOn (s out : Progress) : Prop :=
  PowerAction.powerOn ∈ out.issued → PowerAction.powerOn ∈ s.issued

/-- With nothing issued, no power-on is. -/
theorem NoPowerOn.of_eq {out : Progress} (h : out.issued = s.issued) : NoPowerOn s out := by
  intro hon
  rwa [h] at hon

/-- An action that switches off is no power-on. -/
theorem NoPowerOn.act {out : Progress} {action : PowerAction} (h : NoPowerOn s out)
    (hoff : action.isOff = true) : NoPowerOn s (r.act action out) := by
  intro hon
  rw [issued_act, List.mem_append, List.mem_singleton] at hon
  rcases hon with hon | rfl
  · exact h hon
  · cases hoff

/-- The action towards off is a suspend or a shutdown. -/
theorem isOff_offAction (st : NodePowerManagementConfigStatus) :
    (r.offAction st).isOff = true := by
  unfold offAction HardwareAutoscaler.offAction
  split
  · rfl
  · split
    · rfl
    · split <;> rfl
    · rfl

/-- Evictions are no power actions. -/
theorem issued_evictions : HardwareAutoscaler.issued r.evictions = [] :=
  issued_of_plain r.plain_evictions

/-- A power-off issues no power-on. -/
theorem noPowerOn_powerOff : NoPowerOn s (r.powerOff s) := by
  have hmarked : (s.did (markPoweredOff r.dryRun r.api)).issued = s.issued := by
    rw [Progress.issued_did, issued_markPoweredOff, List.append_nil]
  have hact : NoPowerOn s (r.act (r.offAction s.st) (s.did (markPoweredOff r.dryRun r.api))) :=
    (NoPowerOn.of_eq hmarked).act r (r.isOff_offAction s.st)
  intro hon
  unfold powerOff at hon
  rw [issued_setPhase] at hon
  exact hact hon

/-- Repeating a power-off issues no power-on. -/
theorem noPowerOn_keepPoweringOff : NoPowerOn s (r.keepPoweringOff s) := by
  have hsame : NoPowerOn s s := id
  unfold keepPoweringOff
  simp only
  split
  · exact @NoPowerOn.act r s (r.standbyFailed s) .powerOff hsame rfl
  · split
    · split
      · exact @NoPowerOn.act r s _ .forceOff hsame rfl
      · exact hsame
    · split
      · exact hsame.act r (r.isOff_offAction s.st)
      · exact hsame

/-- A drain issues no power-on. -/
theorem noPowerOn_drain : NoPowerOn s (r.drain s).1 := by
  have hevicted : (s.did r.evictions).issued = s.issued := by
    rw [Progress.issued_did, issued_evictions, List.append_nil]
  refine r.drain_cases s (P := fun out => NoPowerOn s out.1) ?done ?wait ?forced ?failed
  -- the power-off at the end of a drain is the only command of it
  case done =>
    intro _ hon
    rw [← hevicted]
    unfold drainDone at hon
    simp only at hon
    split at hon
    · split at hon
      · rwa [Progress.issued_message, issued_probeSleep] at hon
      · have := r.noPowerOn_powerOff hon
        rwa [Progress.issued_message, issued_probeSleep] at this
    · have hbefore := r.noPowerOn_powerOff hon
      exact hbefore
  case wait =>
    intro _ _
    exact NoPowerOn.of_eq hevicted
  case forced =>
    intro _ _ _ hon
    rw [← hevicted]
    have hbefore := r.noPowerOn_powerOff hon
    exact hbefore
  case failed =>
    intro _
    refine NoPowerOn.of_eq (Eq.trans ?_ hevicted)
    unfold drainFailed
    simp only
    split
    · split <;> simp
    · rfl

/-- Bringing the machine down issues no power-on. -/
theorem noPowerOn_ensureOff : NoPowerOn s (r.ensureOff s).1 := by
  have hawake : (r.awake s).issued = s.issued := by
    unfold awake
    split <;> rfl
  refine r.ensureOff_cases s (P := fun out => NoPowerOn s out.1) ?offline ?keep ?drain ?start
  case offline =>
    intro _
    refine NoPowerOn.of_eq (Eq.trans ?_ hawake)
    unfold offline
    simp
  case keep =>
    intro _ _ hon
    rw [← hawake]
    exact r.noPowerOn_keepPoweringOff hon
  case drain =>
    intro _ _ hon
    rw [← hawake]
    exact r.noPowerOn_drain hon
  case start =>
    intro _ _ _
    refine NoPowerOn.of_eq (Eq.trans ?_ hawake)
    unfold startDrain
    split
    · simp only
      split <;> simp [issued_cordon]
    · simp

/-- **A machine is powered on only towards On.** -/
theorem on_of_powerOn {event : BootEvent} {consistent : Bool}
    (h : PowerAction.powerOn ∈ (r.step event consistent s).1.issued)
    (hnew : PowerAction.powerOn ∉ s.issued) :
    managedTarget r.mn.spec.powerPolicy s.st r.manualPolicy = some .on := by
  revert h
  refine r.step_cases s (P := fun out => PowerAction.powerOn ∈ out.1.issued → _)
    ?boot ?gated ?idle ?on ?off
  case boot =>
    intro _ _ hon
    rw [issued_boot, List.mem_append, Option.mem_toList] at hon
    -- the boot handler only switches off
    refine absurd (hon.resolve_left hnew) ?_
    unfold bootAction
    cases event with
    | recovered => simp
    | failed =>
      simp only
      split <;> simp
    | none =>
      simp only
      split <;> simp
  case gated =>
    intro _ _ hon
    rw [issued_observe, Progress.issued_message] at hon
    exact absurd hon hnew
  case idle =>
    intro _ _ _ _ hon
    rw [issued_observe] at hon
    exact absurd hon hnew
  case on =>
    intro _ _ _ ht _
    exact ht
  case off =>
    intro _ _ _ _ hon
    exact absurd (r.noPowerOn_ensureOff hon) hnew

end Reconciler

/-- What takes a machine out of service: its Node cordoned or marked, its pods
evicted, an interface or the host asked to switch it off. -/
def Effect.turnsOff : Effect → Bool
  | .act action _ => action.isOff
  | .contact .powerOff _ | .suspendPod _ | .cordon | .markPoweredOff | .evict _ => true
  | _ => false

namespace Reconciler

variable (r : Reconciler) {s : Progress}

/-- Observing has no effects. -/
theorem observe_effects : (r.observe s).effects = s.effects := by
  unfold observe
  split
  · rfl
  · split
    · split <;> simp
    · simp
    · simp

/-- Uncordoning switches nothing off. -/
theorem serves_uncordon : ∀ e ∈ r.uncordon.2, e.turnsOff = false := by
  unfold uncordon
  split
  · unfold uncordonIfOurs
    split
    · simp
    · split <;> simp [Effect.turnsOff]
  · simp

/-- Clearing the marker switches nothing off. -/
theorem serves_clearMarker : ∀ e ∈ r.clearMarker.2, e.turnsOff = false := by
  unfold clearMarker
  split
  · unfold clearPoweredOff
    split
    · simp
    · split <;> simp [Effect.turnsOff]
  · simp

/-- What `ys` adds leaves the machine in service. -/
theorem mem_of_serves {xs ys : List Effect} (hserves : ∀ e ∈ ys, e.turnsOff = false) {e : Effect}
    (he : e ∈ xs ++ ys) (hoff : e.turnsOff = true) : e ∈ xs := by
  rcases List.mem_append.mp he with he | he
  · exact he
  · rw [hserves e he] at hoff
    cases hoff

/-- Probing for sleep switches nothing off. -/
theorem probeSleep_serves {e : Effect} (h : e ∈ (r.probeSleep s).1.effects)
    (hoff : e.turnsOff = true) : e ∈ s.effects := by
  have hprobe : ∀ e ∈ [Effect.probe], e.turnsOff = false := List.forall_mem_singleton.mpr rfl
  unfold probeSleep at h
  split at h
  · exact h
  · split at h
    · exact h
    · split at h
      · exact mem_of_serves hprobe h hoff
      · exact mem_of_serves hprobe h hoff

/-- A machine that is On with a Ready Node stays in service. -/
theorem online_serves {e : Effect} (h : e ∈ (r.online s).1.effects) (hoff : e.turnsOff = true) :
    e ∈ s.effects := by
  have huncordoned : e ∈ (s.did r.uncordon.2).effects → e ∈ s.effects :=
    fun he => mem_of_serves r.serves_uncordon he hoff
  have hcleared : e ∈ ((s.did r.uncordon.2).did r.clearMarker.2).effects → e ∈ s.effects :=
    fun he => huncordoned (mem_of_serves r.serves_clearMarker he hoff)
  have hentered : ∀ s' : Progress, (r.enterOn s').effects = s'.effects := by
    intro s'
    unfold enterOn
    exact r.setPhase_effects s' .on
  unfold online at h
  simp only at h
  split at h
  · exact huncordoned h
  · split at h
    · exact hcleared h
    · rw [← hentered] at hcleared
      split at h
      · exact hcleared (r.probeSleep_serves h hoff)
      · exact hcleared h

/-- **A machine that runs is taken out of service only towards Off.** -/
theorem off_of_turnsOff {event : BootEvent} {consistent : Bool}
    (hon : s.st.powerState = .on) (hready : s.st.nodeReady = true) (hevent : event ≠ .failed)
    {e : Effect} (h : e ∈ (r.step event consistent s).1.effects) (hoff : e.turnsOff = true)
    (hnew : e ∉ s.effects) :
    managedTarget r.mn.spec.powerPolicy s.st r.manualPolicy = some .off := by
  revert h
  refine r.step_cases s (P := fun out => e ∈ out.1.effects → _) ?boot ?gated ?idle ?on ?off
  case boot =>
    intro requeue hboot
    -- with a Ready Node the boot handler stands back
    have hnone : (r.boot event s).2 = none := by
      cases event with
      | recovered => rfl
      | failed => exact absurd rfl hevent
      | none =>
        unfold boot
        simp only
        split
        · rfl
        · rw [if_pos (Or.inl hready)]
    rw [hnone] at hboot
    cases hboot
  case gated =>
    intro _ _ he
    rw [observe_effects] at he
    exact absurd he hnew
  case idle =>
    intro _ _ _ _ he
    rw [observe_effects] at he
    exact absurd he hnew
  case on =>
    -- it is up, so it is uncordoned and probed at most
    intro _ _ _ _ he
    rw [r.ensureOn_up s ⟨hon, hready⟩] at he
    exact absurd (r.online_serves he hoff) hnew
  case off =>
    intro _ _ _ ht _
    exact ht

end Reconciler

/-! ## §3. One reconcile. -/

namespace MachineState

variable {w : MachineState} {i : MachineInput} {d : MachineInput.Reading}

/-- The target is that of the stored decision, of a pool the machine is in. -/
theorem decided_of_target (h : w.reading i = some d) (hauto : i.mn.spec.powerPolicy = .auto)
    {target : PowerTarget}
    (ht : managedTarget i.mn.spec.powerPolicy (d.start i (w.old i)) (d.machine i).manualPolicy
      = some target) :
    ∃ dec, (w.old i).scalingDecision = some dec ∧ dec.target = target ∧
      dec.pool ∈ i.membership.pools := by
  obtain ⟨_, _, _, _, _, _, _, hfresh⟩ := MachineInput.fresh_frame (reading_eq.mp h)
  obtain ⟨_, _, decision, _, _, _, hstart, hdecision, _⟩ := d.start_frame i (w.old i)
  unfold managedTarget at ht
  split at ht
  · cases ht
  · unfold desiredTarget at ht
    rw [hauto] at ht
    obtain ⟨dec, hdec, htarget⟩ := Option.map_eq_some_iff.mp ht
    have hkept := (Option.filter_eq_some_iff.mp hdec).1
    rw [hstart] at hkept
    simp only at hkept
    rcases hdecision with hnone | hsame
    -- a manual change has dropped it
    · rw [hnone] at hkept
      cases hkept
    -- it is the stored one, of a pool that the machine is still in
    · rw [hsame, hfresh] at hkept
      obtain ⟨hold, hpool⟩ := Option.filter_eq_some_iff.mp hkept
      exact ⟨dec, hold, htarget, List.contains_iff_mem.mp hpool⟩

/-- **Off is decided**: an `Auto` machine that reads On with a Ready Node is
taken out of service only by a stored decision of a pool it is in. -/
theorem decided_off (h : w.reading i = some d) (hauto : i.mn.spec.powerPolicy = .auto)
    (hon : d.fresh.powerState = .on) (hready : d.fresh.nodeReady = true) {e : Effect}
    (he : e ∈ (w.cycle i).effects) (hoff : e.turnsOff = true) :
    ∃ dec, (w.old i).scalingDecision = some dec ∧ dec.target = .off ∧
      dec.pool ∈ i.membership.pools := by
  rw [effects_of_reading h] at he
  refine decided_of_target h hauto ?_
  refine (d.machine i).off_of_turnsOff ?_ ?_ (d.tracked_ne_failed i (w.old i) hready) he hoff ?_
  · exact (MachineInput.Reading.start_powerState d i (w.old i)).trans hon
  · exact (MachineInput.Reading.start_nodeReady d i (w.old i)).trans hready
  · -- reading the power state turns nothing off
    intro hcontact
    obtain ⟨_, _, rfl⟩ := List.mem_map.mp hcontact
    cases hoff

/-- **On is decided**: an `Auto` machine is powered on only by a stored decision
of a pool it is in. -/
theorem decided_on (h : w.reading i = some d) (hauto : i.mn.spec.powerPolicy = .auto)
    (hon : PowerAction.powerOn ∈ w.actions i) :
    ∃ dec, (w.old i).scalingDecision = some dec ∧ dec.target = .on ∧
      dec.pool ∈ i.membership.pools := by
  rw [actions_of_reading h] at hon
  refine decided_of_target h hauto ((d.machine i).on_of_powerOn hon ?_)
  show PowerAction.powerOn ∉ issued (d.contacted.map (Effect.contact .status))
  rw [issued_contacts]
  exact List.not_mem_nil

/-- The reconcile of a machine that is drained gives the drain up, as pods are
left, with this decision. -/
def GaveUpDrain (w : MachineState) (i : MachineInput) (dec : ScalingDecision) : Prop :=
  w.stored.phase = .draining ∧ ∃ d, w.reading i = some d ∧ (d.machine i).drained = false ∧
    ∃ st, dec = (d.machine i).abortDecision st

/-- **What is decided after a reconcile** was decided before it, but for a drain
that is given up. -/
theorem stored_decision {dec : ScalingDecision}
    (h : (machineStep w i).stored.scalingDecision = some dec) :
    (w.old i).scalingDecision = some dec ∨ w.GaveUpDrain i dec := by
  rcases w.step_stored i with ⟨-, hst⟩ | ⟨e, he, hst⟩ | ⟨d, hd, -, hst⟩
  -- nothing is stored
  · rw [hst] at h
    exact Or.inl h
  -- the power state cannot be read: the decision is only checked against the pools
  · obtain ⟨_, _, _, _, _, _, _, heq, -⟩ := MachineInput.stopped_frame he
    rw [hst] at h
    have hkept : e.st.scalingDecision = some dec := h
    rw [heq] at hkept
    exact Or.inl (Option.filter_eq_some_iff.mp hkept).1
  · obtain ⟨_, _, _, _, _, _, _, hfresh⟩ := MachineInput.fresh_frame (reading_eq.mp hd)
    obtain ⟨_, _, decision, _, _, _, hstart, hdecision, _⟩ := d.start_frame i (w.old i)
    rw [hst] at h
    have hkept : (i.settle (w.old i) d).1.st.scalingDecision = some dec := h
    have hkeeps := (d.machine i).keeps_step
      (s := ⟨d.start i (w.old i), d.contacted.map (.contact .status)⟩)
      (d.tracked i (w.old i)).2 (i.consistent d.fresh)
    -- what the state machine makes of it
    rcases hkeeps with hsame | hnone | ⟨hphase, hnot, st, habort⟩
    · have hdec : (d.start i (w.old i)).scalingDecision = some dec := hsame.symm.trans hkept
      rw [hstart] at hdec
      simp only at hdec
      rcases hdecision with hnone | hfrom
      · rw [hnone] at hdec
        cases hdec
      · rw [hfrom, hfresh] at hdec
        exact Or.inl (Option.filter_eq_some_iff.mp hdec).1
    · rw [show (i.settle (w.old i) d).1.st.scalingDecision = none from hnone] at hkept
      cases hkept
    · rw [show (i.settle (w.old i) d).1.st.scalingDecision = _ from habort] at hkept
      exact Or.inr ⟨(start_phase_stored hd).symm.trans hphase, d, hd, hnot, st,
        (Option.some.inj hkept).symm⟩

end MachineState

end HardwareAutoscaler
