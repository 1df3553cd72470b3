/-
  HardwareAutoscaler.Controller.Machine.Standby
  ─────────────────────────────────────────────
  WHAT PHASE `Standby` RESTS ON.

  A machine counts as in standby when its Node goes quiet, or its power reads
  Off, while `standbySince` is set.  `act` sets it beside the request, whether
  the request succeeds or not, and two of the three ways into phase `On` leave
  it set.

    • `StandbyMove`, `step_standbyMove` — what one step makes of a standby,
    • `StandbyBacked` — a request that succeeded, with no phase `On` since,
    • `CarefulStandby` — the reconciles that do none of the three,
    • `standby_backed` — the runs of such reconciles,
    • `failedSuspend_standby` — a run that records a standby after a failure.
-/
import HardwareAutoscaler.Controller.Machine.Drain

namespace HardwareAutoscaler

namespace Reconciler

variable (r : Reconciler) (s : Progress)

/-! ## §1. One step. -/

@[simp] theorem standbySince_setPhase (phase : Phase) :
    (r.setPhase phase s).st.standbySince = s.st.standbySince := by
  rw [setPhase_eq]

@[simp] theorem standbySince_act (action : PowerAction) :
    (r.act action s).st.standbySince = r.standbyAfter action s.st.standbySince := rfl

@[simp] theorem standbySince_probeSleep :
    (r.probeSleep s).1.st.standbySince = s.st.standbySince := by
  obtain ⟨support, effects, heq, _⟩ := r.probeSleep_fst s
  rw [heq]

/-- A suspend may be asked for: the drain is over, or the last request failed,
and no standby is recorded yet. -/
structure MaySuspend (st : NodePowerManagementConfigStatus) : Prop where
  target : managedTarget r.mn.spec.powerPolicy st r.manualPolicy = some .off
  power : st.powerState ≠ .off
  mode : r.mn.spec.lifecycle.powerOffMode ≠ .shutdown
  down : r.DrainOver st ∨
    (st.phase = .poweringOff ∧ st.lastPowerAction.any (!·.succeeded) = true)
  since : st.standbySince = none

/-- The machine is seen On and Ready, and only observed, with a standby
recorded. -/
def SeenUp (consistent : Bool) (st : NodePowerManagementConfigStatus) : Prop :=
  (r.node = none ∨ consistent = false ∨
    managedTarget r.mn.spec.powerPolicy st r.manualPolicy = none) ∧
  st.powerState = .on ∧ st.nodeReady = true ∧ st.standbySince.isSome = true

/-- A drain times out for good, with a standby recorded. -/
def GivesUpDrain (st : NodePowerManagementConfigStatus) : Prop :=
  managedTarget r.mn.spec.powerPolicy st r.manualPolicy = some .off ∧ st.powerState ≠ .off ∧
    st.phase = .draining ∧ st.standbySince.isSome = true ∧ r.mn.spec.powerPolicy = .auto ∧
    r.drained = false ∧ r.mn.spec.lifecycle.forceAfterDrainTimeout = false ∧
    asI64 r.mn.spec.lifecycle.drainTimeoutSeconds < r.inPhaseFor st

/-- **What a step makes of a standby**: one that is recorded after it was
recorded before, or is asked for now; `On` is not entered with one, nor
`Standby` without. -/
structure StandbyMove (s out : Progress) : Prop where
  since : out.st.standbySince.isSome = true → s.st.standbySince.isSome = true ∨
    (r.MaySuspend s.st ∧ Effect.act .standby (r.succeeds .standby) ∈ out.effects)
  on : out.st.phase = .on → out.st.standbySince.isSome = true → s.st.phase = .on
  standby : out.st.phase = .standby → s.st.phase = .standby ∨ s.st.standbySince.isSome = true

variable {r s} {out : Progress}

/-- A move that asks for no standby, keeps the phase or enters another one. -/
theorem StandbyMove.quiet
    (hsince : out.st.standbySince = none ∨ out.st.standbySince = s.st.standbySince)
    (hphase : out.st.phase = s.st.phase ∨
      (out.st.phase ≠ .standby ∧ (out.st.phase = .on → out.st.standbySince = none))) :
    r.StandbyMove s out where
  since := by
    intro hsome
    rcases hsince with hsince | hsince
    · rw [hsince] at hsome
      cases hsome
    · rw [← hsince]
      exact Or.inl hsome
  on := by
    intro hon hsome
    rcases hphase with hphase | ⟨_, hnone⟩
    · exact hphase ▸ hon
    · rw [hnone hon] at hsome
      cases hsome
  standby := by
    intro hst
    rcases hphase with hphase | ⟨hne, _⟩
    · exact Or.inl (hphase ▸ hst)
    · exact absurd hst hne

variable (r s)

/-- A first power-on starts no standby. -/
theorem standbyMove_startPowerOn : r.StandbyMove s (r.startPowerOn s) := by
  unfold startPowerOn
  simp only
  split
  · exact StandbyMove.quiet (Or.inr (by simp [standbyAfter])) (Or.inr (by simp))
  · exact StandbyMove.quiet (Or.inr (by simp [standbyAfter])) (Or.inr (by simp))

/-- Phase `On` is entered without a standby. -/
theorem standbyMove_online : r.StandbyMove s (r.online s).1 := by
  have hon : ∀ s' : Progress, (r.enterOn s').st.standbySince = none := fun _ => rfl
  unfold online
  simp only
  split
  · exact StandbyMove.quiet (Or.inr rfl) (Or.inl rfl)
  · split
    · exact StandbyMove.quiet (Or.inr rfl) (Or.inl rfl)
    · split
      · exact StandbyMove.quiet (Or.inl (by simp [hon])) (Or.inr (by simp [hon]))
      · exact StandbyMove.quiet (Or.inl (by simp [hon])) (Or.inr (by simp [hon]))

/-- A power-on given up starts no standby. -/
theorem standbyMove_releaseFailedPowerOn : r.StandbyMove s (r.releaseFailedPowerOn s) := by
  unfold releaseFailedPowerOn
  simp only
  split
  · exact StandbyMove.quiet (Or.inl (by simp [standbyAfter, released])) (Or.inr (by simp))
  · exact StandbyMove.quiet (Or.inl (by simp [released])) (Or.inr (by simp))

/-- Pressing again starts no standby. -/
theorem standbyMove_keepPoweringOn : r.StandbyMove s (r.keepPoweringOn s) := by
  unfold keepPoweringOn
  simp only
  split
  · refine StandbyMove.quiet (Or.inr ?_) (Or.inr (by simp))
    simp only [Progress.message_st, standbySince_setPhase, standbySince_act]
    rfl
  · split
    · exact StandbyMove.quiet (Or.inr rfl) (Or.inl rfl)
    · exact StandbyMove.quiet (Or.inr rfl) (Or.inl rfl)

/-- A machine that is coming up starts no standby. -/
theorem standbyMove_comingUp : r.StandbyMove s (r.comingUp s).1 := by
  unfold comingUp
  simp only
  split
  · exact StandbyMove.quiet (Or.inr rfl) (Or.inl rfl)
  · exact StandbyMove.quiet (Or.inr (by simp)) (Or.inr (by simp))

/-- On the way up a standby is kept or forgotten, and forgotten in phase `On`. -/
theorem standbyMove_ensureOn : r.StandbyMove s (r.ensureOn s).1 := by
  refine r.ensureOn_cases s (P := fun out => r.StandbyMove s out.1)
    ?online ?released ?keep ?callOff ?wait ?comingUp ?hold ?start
  case online =>
    intro _ _
    exact r.standbyMove_online s
  case released =>
    intro _
    exact r.standbyMove_releaseFailedPowerOn s
  case keep =>
    intro _ _
    exact r.standbyMove_keepPoweringOn s
  case callOff =>
    intro _ _ _
    have h := r.standbyMove_startPowerOn (s.did (if r.api.cancel then [.deleteSuspendPod] else []))
    exact ⟨h.since, h.on, h.standby⟩
  case wait =>
    intro _ _ _
    exact StandbyMove.quiet (Or.inr rfl) (Or.inl rfl)
  case comingUp =>
    intro _ _ _
    exact r.standbyMove_comingUp s
  case hold =>
    intro _ _
    exact StandbyMove.quiet (Or.inr rfl) (Or.inl rfl)
  case start =>
    intro _ _ _
    exact r.standbyMove_startPowerOn s

/-- An observed machine enters phase `On` as it is. -/
theorem standbyMove_observe (h : ¬ (s.st.powerState = .on ∧ s.st.nodeReady = true ∧
    s.st.standbySince.isSome = true)) : r.StandbyMove s (r.observe s) := by
  unfold observe
  split
  · exact StandbyMove.quiet (Or.inr rfl) (Or.inl rfl)
  · split
    · rename_i hon
      split
      · rename_i hready
        have hnone : s.st.standbySince = none :=
          Option.not_isSome_iff_eq_none.mp (fun hsome => h ⟨hon, hready, hsome⟩)
        exact StandbyMove.quiet (Or.inr (by simp)) (Or.inr (by simp [hnone]))
      · exact StandbyMove.quiet (Or.inr (by simp)) (Or.inr (by simp))
    · exact StandbyMove.quiet (Or.inr (by simp)) (Or.inr (by simp))
    · exact StandbyMove.quiet (Or.inr (by simp)) (Or.inr (by simp))

/-- A boot starts no standby. -/
theorem standbyMove_boot (event : BootEvent) : r.StandbyMove s (r.boot event s).1 := by
  unfold boot
  cases event with
  | recovered => exact StandbyMove.quiet (Or.inr rfl) (Or.inl rfl)
  | failed =>
    unfold bootFailed
    simp only
    split
    · exact StandbyMove.quiet (Or.inr (by simp [failedBoot])) (Or.inr (by simp))
    · exact StandbyMove.quiet (Or.inl rfl) (Or.inr (by simp))
  | none =>
    simp only
    split
    · exact StandbyMove.quiet (Or.inr rfl) (Or.inl rfl)
    · split
      · exact StandbyMove.quiet (Or.inr rfl) (Or.inl rfl)
      · split
        · exact StandbyMove.quiet (Or.inr (by simp [standbyAfter])) (Or.inr (by simp))
        · exact StandbyMove.quiet (Or.inr (by simp)) (Or.inr (by simp))

variable {r s}

/-- A machine is suspended only if its mode says so. -/
theorem mode_of_standby {st : NodePowerManagementConfigStatus} (h : r.offAction st = .standby) :
    r.mn.spec.lifecycle.powerOffMode ≠ .shutdown := by
  intro hmode
  unfold offAction HardwareAutoscaler.offAction at h
  simp [hmode] at h

/-- An action asks for a standby only where one may be asked for. -/
theorem standbyMove_act {s₀ : Progress} {action : PowerAction}
    (hsame : s.st.standbySince = s₀.st.standbySince)
    (hmay : action = .standby → s₀.st.standbySince = none → r.MaySuspend s₀.st)
    (hsome : (r.act action s).st.standbySince.isSome = true) :
    s₀.st.standbySince.isSome = true ∨
      (r.MaySuspend s₀.st ∧
        Effect.act .standby (r.succeeds .standby) ∈ (r.act action s).effects) := by
  cases hs : s₀.st.standbySince with
  | some t => exact Or.inl rfl
  | none =>
    rw [standbySince_act, hsame, hs] at hsome
    cases action with
    | standby => exact Or.inr ⟨hmay rfl hs, by simp [act]⟩
    | powerOn => cases hsome
    | powerOff => cases hsome
    | forceOff => cases hsome

/-- A power-off starts a standby only with a request. -/
theorem standbyMove_powerOff {s₀ : Progress} (hsame : s.st.standbySince = s₀.st.standbySince)
    (hmay : r.mn.spec.lifecycle.powerOffMode ≠ .shutdown → s₀.st.standbySince = none →
      r.MaySuspend s₀.st) :
    r.StandbyMove s₀ (r.powerOff s) where
  since := by
    intro hsome
    unfold powerOff at hsome ⊢
    simp only [standbySince_setPhase, setPhase_effects] at hsome ⊢
    exact standbyMove_act hsame (fun hact => hmay (mode_of_standby hact)) hsome
  on := by
    intro hon
    rw [phase_powerOff] at hon
    cases hon
  standby := by
    intro hst
    rw [phase_powerOff] at hst
    cases hst

/-- A repeated power-off asks for a standby only where one has failed. -/
theorem standbyMove_keepPoweringOff (hmay : r.mn.spec.lifecycle.powerOffMode ≠ .shutdown →
    s.st.lastPowerAction.any (!·.succeeded) = true → s.st.standbySince = none →
      r.MaySuspend s.st) :
    r.StandbyMove s (r.keepPoweringOff s) := by
  unfold keepPoweringOff
  simp only
  split
  · exact StandbyMove.quiet (Or.inl rfl) (Or.inl rfl)
  · split
    · split
      · exact StandbyMove.quiet (Or.inl rfl) (Or.inl rfl)
      · exact StandbyMove.quiet (Or.inr rfl) (Or.inl rfl)
    · split
      · rename_i hfailed
        refine ⟨fun hsome => ?_, fun hon _ => hon, fun hst => Or.inl hst⟩
        exact standbyMove_act rfl (fun hact => hmay (mode_of_standby hact) hfailed.1) hsome
      · exact StandbyMove.quiet (Or.inr rfl) (Or.inl rfl)

/-- **A drain** ends in a power-off, or is given up: only then is phase `On`
entered. -/
theorem standbyMove_drain (hphase : s.st.phase = .draining)
    (hmay : r.mn.spec.lifecycle.powerOffMode ≠ .shutdown → r.DrainOver s.st →
      s.st.standbySince = none → r.MaySuspend s.st)
    (hon : s.st.standbySince.isSome = true → r.drained = false →
      r.mn.spec.lifecycle.forceAfterDrainTimeout = false →
      asI64 r.mn.spec.lifecycle.drainTimeoutSeconds < r.inPhaseFor s.st →
      r.mn.spec.powerPolicy ≠ .auto) :
    r.StandbyMove s (r.drain s).1 := by
  unfold drain
  simp only
  -- drained; time over with `forceAfterDrainTimeout`; or failed, which is where a standby may stay
  split
  · rename_i hdrained
    have hmay' := fun hmode => hmay hmode ⟨hphase, Or.inl hdrained⟩
    unfold drainDone
    simp only
    split
    · split
      · exact StandbyMove.quiet (Or.inr (by simp)) (Or.inl (by simp))
      · exact standbyMove_powerOff (by simp) hmay'
    · exact standbyMove_powerOff rfl hmay'
  · rename_i hdrained
    split
    · exact StandbyMove.quiet (Or.inr rfl) (Or.inl rfl)
    · rename_i hlate
      have hlate : asI64 r.mn.spec.lifecycle.drainTimeoutSeconds < r.inPhaseFor s.st :=
        lt_of_not_ge hlate
      split
      · rename_i hforce
        exact standbyMove_powerOff rfl
          (fun hmode => hmay hmode ⟨hphase, Or.inr ⟨hforce, hlate⟩⟩)
      · rename_i hforce
        unfold drainFailed
        simp only
        split
        · -- under Auto the drain that failed is recorded, and the decision goes with it
          rename_i hauto
          have hnone : s.st.standbySince = none := by
            apply Option.not_isSome_iff_eq_none.mp
            intro hsome
            exact hon hsome (by simpa using hdrained) (by simpa using hforce) hlate hauto
          split
          · exact StandbyMove.quiet (Or.inr rfl) (Or.inl rfl)
          · refine StandbyMove.quiet (Or.inr ?_) (Or.inr ⟨by simp, fun _ => ?_⟩)
            · rw [standbySince_setPhase]
              rfl
            · rw [standbySince_setPhase]
              exact hnone
        · exact StandbyMove.quiet (Or.inr rfl) (Or.inl rfl)

variable (r s)

/-- A machine that woke by itself is in standby no more. -/
theorem standbySince_awake :
    (r.awake s).st.standbySince = none ∨ (r.awake s).st.standbySince = s.st.standbySince := by
  unfold awake
  split
  · exact Or.inl rfl
  · exact Or.inr rfl

/-- Only a machine in phase `Standby` wakes up by itself. -/
theorem awake_eq (h : s.st.phase ≠ .standby) : r.awake s = s := by
  unfold awake wokeByItself
  rw [if_neg]
  simp [h]

/-- The start of a drain starts no standby. -/
theorem standbyMove_startDrain : r.StandbyMove s (r.startDrain (r.awake s)).1 := by
  have hsince := r.standbySince_awake s
  unfold startDrain
  split
  · simp only
    split
    · exact StandbyMove.quiet (by simpa using hsince) (Or.inl (by simp))
    · exact StandbyMove.quiet (by simpa using hsince) (Or.inr (by simp))
  · exact StandbyMove.quiet (by simpa using hsince) (Or.inl (by simp))

/-- Phase `Standby` is entered with a standby recorded. -/
theorem standbyMove_offline : r.StandbyMove s (r.offline (r.awake s)) := by
  have hsince : ∀ s' : Progress, (r.offline s').st.standbySince = s'.st.standbySince := by
    intro s'
    unfold offline
    simp
  have hphase : (r.offline (r.awake s)).st.phase
      = if (r.awake s).st.standbySince.isSome then .standby else .off := by
    unfold offline
    simp
  have hold : (r.awake s).st.standbySince.isSome = true → s.st.standbySince.isSome = true := by
    intro hsome
    rcases r.standbySince_awake s with h | h
    · rw [h] at hsome
      cases hsome
    · exact h ▸ hsome
  refine ⟨?_, ?_, ?_⟩
  · intro hsome
    rw [hsince] at hsome
    exact Or.inl (hold hsome)
  · intro hon
    rw [hphase] at hon
    split at hon <;> cases hon
  · intro hst
    rw [hphase] at hst
    split at hst
    · rename_i hsome
      exact Or.inr (hold hsome)
    · cases hst

/-- **Bringing the machine down** starts a standby only with a request. -/
theorem standbyMove_ensureOff
    (htarget : managedTarget r.mn.spec.powerPolicy s.st r.manualPolicy = some .off)
    (hdrain : ¬ r.GivesUpDrain s.st) : r.StandbyMove s (r.ensureOff s).1 := by
  refine r.ensureOff_cases s (P := fun out => r.StandbyMove s out.1) ?offline ?keep ?drain ?start
  case offline =>
    intro _
    exact r.standbyMove_offline s
  case keep =>
    intro hpower hphase
    rw [r.awake_eq s (by rw [hphase]; decide)]
    apply standbyMove_keepPoweringOff
    intro hmode hfailed hnone
    exact ⟨htarget, hpower, hmode, Or.inr ⟨hphase, hfailed⟩, hnone⟩
  case drain =>
    intro hpower hphase
    rw [r.awake_eq s (by rw [hphase]; decide)]
    apply standbyMove_drain hphase
      (fun hmode hover hnone => ⟨htarget, hpower, hmode, Or.inl hover, hnone⟩)
    intro hsome hdrained hforce hlate hauto
    exact hdrain ⟨htarget, hpower, hphase, hsome, hauto, hdrained, hforce, hlate⟩
  case start =>
    intro _ _ _
    exact r.standbyMove_startDrain s

/-- **One step** keeps a standby apart from phase `On`, unless it sees the machine
up without driving it or gives a drain up. -/
theorem step_standbyMove (event : BootEvent) (consistent : Bool)
    (hup : ¬ r.SeenUp consistent s.st) (hdrain : ¬ r.GivesUpDrain s.st) :
    r.StandbyMove s (r.step event consistent s).1 := by
  refine r.step_cases s (P := fun out => r.StandbyMove s out.1) ?boot ?gated ?idle ?on ?off
  case boot =>
    intro _ _
    exact r.standbyMove_boot s event
  case gated =>
    intro _ hgate
    have h := r.standbyMove_observe (s.message (some r.gateMessage)) (fun hseen =>
      hup ⟨hgate.elim Or.inl (fun hc => Or.inr (Or.inl hc)), hseen⟩)
    refine ⟨fun hsome => ?_, h.on, h.standby⟩
    rcases h.since hsome with hold | ⟨hmay, hact⟩
    · exact Or.inl hold
    · exact Or.inr ⟨⟨hmay.target, hmay.power, hmay.mode, hmay.down, hmay.since⟩, hact⟩
  case idle =>
    intro _ _ _ htarget
    exact r.standbyMove_observe s (fun hseen => hup ⟨Or.inr (Or.inr htarget), hseen⟩)
  case on =>
    intro _ _ _ _
    exact r.standbyMove_ensureOn s
  case off =>
    intro _ _ _ htarget
    exact r.standbyMove_ensureOff s htarget hdrain

end Reconciler

/-! ## §2. Runs. -/

/-- A Standby request of reconcile `n` succeeded. -/
def SuspendedIn (inp : Nat → MachineInput) (n : Nat) : Prop :=
  Effect.act .standby true ∈ ((machineAt inp n).cycle (inp n)).effects

/-- **A standby before reconcile `n` rests on a request**: one succeeded, and the
machine was not in phase `On` since. -/
def StandbyBacked (inp : Nat → MachineInput) (n : Nat) : Prop :=
  ∃ k < n, SuspendedIn inp k ∧ ∀ j, k < j → j ≤ n → (machineAt inp j).stored.phase ≠ .on

/-- **A reconcile that cannot record a standby wrongly**: a suspend it may ask for
succeeds, and it does not take a machine with a standby recorded into phase
`On`, by seeing it up or by giving its drain up. -/
structure CarefulStandby (i : MachineInput) (old : NodePowerManagementConfigStatus)
    (d : MachineInput.Reading) : Prop where
  suspends : (d.machine i).MaySuspend (d.start i old) → (d.machine i).succeeds .standby = true
  up : ¬ (d.machine i).SeenUp (i.consistent d.fresh) (d.start i old)
  drain : ¬ (d.machine i).GivesUpDrain (d.start i old)

namespace MachineState

variable {w : MachineState} {i : MachineInput}

/-- Without the patch nothing is stored. -/
theorem stored_unpatched (h : i.api.patch = false) : (machineStep w i).stored = w.old i := by
  have hnone : (w.cycle i).status = none := by
    unfold cycle MachineInput.reconcile
    split
    · simp only [h, Bool.false_eq_true, if_false]
    · split
      · simp only [h, Bool.false_eq_true, if_false]
      · rfl
  unfold machineStep
  rw [hnone]

/-- The state machine starts without a standby, or with the one stored. -/
theorem start_standbySince {d : MachineInput.Reading} (h : w.reading i = some d) :
    (d.start i (w.old i)).standbySince = none ∨
      (d.start i (w.old i)).standbySince = w.stored.standbySince := by
  obtain ⟨_, _, _, _, _, _, _, hfresh⟩ := MachineInput.fresh_frame (reading_eq.mp h)
  obtain ⟨_, _, _, _, _, _, hstart, _, hstandby⟩ := d.start_frame i (w.old i)
  rcases hstandby with hstandby | hstandby
  · rw [hstart]
    exact Or.inl hstandby
  · rw [hstart]
    right
    show _ = _
    rw [hstandby, hfresh]
    rfl

/-- A reconcile starts with the standby that is stored, or none. -/
theorem stored_standbySince_of_start {d : MachineInput.Reading} (h : w.reading i = some d)
    (hsome : (d.start i (w.old i)).standbySince.isSome = true) :
    w.stored.standbySince.isSome = true := by
  rcases start_standbySince h with hnone | hsame
  · rw [hnone] at hsome
    cases hsome
  · rwa [hsame] at hsome

variable (w i) in
/-- **A reconcile keeps phase and standby, leaves phase `On` and `Standby` alone,
or makes a move of the state machine.** -/
theorem standby_stored :
    ((machineStep w i).stored.standbySince = w.stored.standbySince ∧
      ((machineStep w i).stored.phase = w.stored.phase ∨
        (machineStep w i).stored.phase = .error)) ∨
    ∃ d, w.reading i = some d ∧ i.api.patch = true ∧
      (machineStep w i).stored.phase = (i.settle (w.old i) d).1.st.phase ∧
      (machineStep w i).stored.standbySince = (i.settle (w.old i) d).1.st.standbySince := by
  by_cases hpatch : i.api.patch = true
  · rcases w.step_stored i with ⟨_, h⟩ | ⟨e, he, h⟩ | ⟨d, hd, _, h⟩
    · rw [h]
      exact Or.inl ⟨rfl, Or.inl rfl⟩
    · obtain ⟨_, _, _, _, _, _, _, heq, hphase⟩ := MachineInput.stopped_frame he
      have hsince : e.st.standbySince = w.stored.standbySince := by
        rw [heq]
        rfl
      rw [h]
      exact Or.inl ⟨hsince, hphase.elim Or.inr Or.inl⟩
    · rw [h]
      exact Or.inr ⟨d, hd, hpatch, rfl, rfl⟩
  · rw [stored_unpatched (by simpa using hpatch)]
    exact Or.inl ⟨rfl, Or.inl rfl⟩

end MachineState

section Runs

variable {inp : Nat → MachineInput} {n : Nat}

/-- What a careful reconcile makes of a standby. -/
theorem CarefulStandby.move {w : MachineState} {i : MachineInput} {d : MachineInput.Reading}
    (h : CarefulStandby i (w.old i) d) :
    (d.machine i).StandbyMove
      { st := d.start i (w.old i), effects := d.contacted.map (.contact .status) }
      (i.settle (w.old i) d).1 :=
  (d.machine i).step_standbyMove _ _ _ h.up h.drain

/-- A backed standby stays backed while phase `On` is not entered. -/
theorem StandbyBacked.succ (h : StandbyBacked inp n)
    (hon : (machineAt inp (n + 1)).stored.phase ≠ .on) : StandbyBacked inp (n + 1) := by
  obtain ⟨k, hk, hsuspended, hsince⟩ := h
  refine ⟨k, by omega, hsuspended, ?_⟩
  intro j hkj hj
  rcases Nat.lt_or_ge n j with hnj | hjn
  · rwa [show j = n + 1 from by omega]
  · exact hsince j hkj hjn

/-- A machine in standby is not in phase `On`. -/
theorem StandbyBacked.not_on (h : StandbyBacked inp n) :
    (machineAt inp n).stored.phase ≠ .on := by
  obtain ⟨k, hk, _, hsince⟩ := h
  exact hsince n hk (Nat.le_refl n)

/-- A request of reconcile `n` that succeeded backs the standby after it. -/
theorem StandbyBacked.of_request {d : MachineInput.Reading}
    (hd : (machineAt inp n).reading (inp n) = some d)
    (hact : Effect.act .standby true
      ∈ ((inp n).settle ((machineAt inp n).old (inp n)) d).1.effects)
    (hon : (machineAt inp (n + 1)).stored.phase ≠ .on) : StandbyBacked inp (n + 1) := by
  refine ⟨n, Nat.lt_succ_self n, ?_, ?_⟩
  · unfold SuspendedIn
    rw [MachineState.effects_of_reading hd]
    exact hact
  · intro j hnj hj
    rwa [show j = n + 1 from by omega]

/-- **The invariant is kept**: a recorded standby is backed after a careful
reconcile if it is before it. -/
theorem recorded_standby_step
    (h : ∀ d, (machineAt inp n).reading (inp n) = some d → (inp n).api.patch = true →
      CarefulStandby (inp n) ((machineAt inp n).old (inp n)) d)
    (ih : (machineAt inp n).stored.standbySince.isSome = true → StandbyBacked inp n)
    (hsome : (machineAt inp (n + 1)).stored.standbySince.isSome = true) :
    StandbyBacked inp (n + 1) := by
  rw [machineAt_succ] at hsome
  rcases (machineAt inp n).standby_stored (inp n) with
    ⟨hsince, hphase⟩ | ⟨d, hd, hpatch, hphase, hsince⟩
  · rw [hsince] at hsome
    have hbacked := ih hsome
    apply hbacked.succ
    rw [machineAt_succ]
    rcases hphase with hphase | hphase
    · rw [hphase]
      exact hbacked.not_on
    · rw [hphase]
      decide
  · have hcareful := h d hd hpatch
    have hmove := hcareful.move
    rw [hsince] at hsome
    rcases hmove.since hsome with hold | ⟨hmay, hact⟩
    · -- recorded before: phase `On` is not entered with it
      have hbacked := ih (MachineState.stored_standbySince_of_start hd hold)
      apply hbacked.succ
      intro hon
      rw [machineAt_succ, hphase] at hon
      have hbefore := hmove.on hon hsome
      rw [MachineState.start_phase_stored hd] at hbefore
      exact hbacked.not_on hbefore
    · -- asked for in this reconcile, and the request succeeded
      rw [hcareful.suspends hmay] at hact
      apply StandbyBacked.of_request hd hact
      intro hon
      rw [machineAt_succ, hphase] at hon
      have hbefore := hmove.on hon hsome
      rcases hmay.down with ⟨hdown, _⟩ | ⟨hdown, _⟩
      · rw [hdown] at hbefore
        cases hbefore
      · rw [hdown] at hbefore
        cases hbefore

/-- **The invariant**: a recorded standby is backed. -/
theorem recorded_standby_backed
    (h : ∀ m < n, ∀ d, (machineAt inp m).reading (inp m) = some d → (inp m).api.patch = true →
      CarefulStandby (inp m) ((machineAt inp m).old (inp m)) d) :
    (machineAt inp n).stored.standbySince.isSome = true → StandbyBacked inp n := by
  refine Lib.stateAt_invariant
    (fun m (w : MachineState) => w.stored.standbySince.isSome = true → StandbyBacked inp m)
    ?start ?step n (Nat.le_refl n)
  case start =>
    intro hsome
    cases hsome
  case step =>
    intro m hm ih hsome
    exact recorded_standby_step (h m hm) ih hsome

/-- **Phase `Standby` rests on a request that succeeded**, in every run of careful
reconciles. -/
theorem standby_backed (inp : Nat → MachineInput) (n : Nat)
    (h : ∀ m ≤ n, ∀ d, (machineAt inp m).reading (inp m) = some d → (inp m).api.patch = true →
      CarefulStandby (inp m) ((machineAt inp m).old (inp m)) d)
    (hbefore : (machineAt inp n).stored.phase ≠ .standby)
    (hafter : (machineAt inp (n + 1)).stored.phase = .standby) : StandbyBacked inp n := by
  have hrecorded := recorded_standby_backed (fun m hm => h m (Nat.le_of_lt hm))
  rw [machineAt_succ] at hafter
  rcases (machineAt inp n).standby_stored (inp n) with ⟨_, hphase⟩ | ⟨d, hd, hpatch, hphase, _⟩
  · rcases hphase with hphase | hphase
    · exact absurd (hphase ▸ hafter) hbefore
    · rw [hphase] at hafter
      cases hafter
  · have hmove := (h n (Nat.le_refl n) d hd hpatch).move
    rw [hphase] at hafter
    rcases hmove.standby hafter with hold | hsome
    · rw [MachineState.start_phase_stored hd] at hold
      exact absurd hold hbefore
    · exact hrecorded (MachineState.stored_standbySince_of_start hd hsome)

end Runs

/-! ## §3. A suspend that fails, and one that succeeds. -/

theorem Reconciler.succeeds_standby {r : Reconciler} (h : r.api.suspend = .ok ()) :
    r.succeeds .standby = true := by
  unfold succeeds command
  split
  · rfl
  · rw [h]
    rfl

/-- Only a machine that reads Off can contradict its Node. -/
theorem MachineInput.consistent_of_on {i : MachineInput} {st : NodePowerManagementConfigStatus}
    (h : st.powerState = .on) : i.consistent st = true := by
  unfold consistent powerStateConsistent
  simp [h]

/-- A machine to be switched off by a standby: its Node is Ready until the
request, and quiet afterwards. -/
def toSuspend (answer : Except String Unit) (n : Nat) : MachineInput :=
  { switchOff { powerOffMode := .standby } [] n with
    cluster :=
      { nodes := [{ name := "m1", conditions :=
          [{ type_ := "Ready", status := if n < 2 then "True" else "False" }] }]
        nodes_distinct := List.nodup_singleton _ }
    api := { suspend := answer } }

/-- The same machine wakes up in reconcile 3, while nobody drives it, and is
found off in the next one. -/
def wokenUp (n : Nat) : MachineInput :=
  { toSuspend (.ok ()) n with
    mn :=
      { name := "m1"
        spec :=
          { nodeName := "m1"
            powerPolicy := if n = 3 then .auto else .alwaysOff
            powerInterfaces := [{ driver := "redfish" }]
            lifecycle := { powerOffMode := .standby } } }
    cluster :=
      { nodes := [{ name := "m1", conditions :=
          [{ type_ := "Ready", status := if n < 2 ∨ n = 3 then "True" else "False" }] }]
        nodes_distinct := List.nodup_singleton _ }
    built := fun _ => .ok { powerState := .ok (if n = 4 then .off else .on) } }

/-- **A machine whose suspend failed is recorded as in standby** as soon as its
Node goes quiet; one that was in phase `On` since its suspend, as soon as it is
off. -/
theorem failedSuspend_standby :
    (machineAt (toSuspend (.error "forbidden")) 1).actions (toSuspend (.error "forbidden") 1)
      = [.standby] ∧
    (machineAt (toSuspend (.error "forbidden")) 2).stored.phase = .poweringOff ∧
    (machineAt (toSuspend (.error "forbidden")) 3).stored.phase = .standby ∧
    ¬ StandbyBacked (toSuspend (.error "forbidden")) 2 ∧
    (machineAt wokenUp 4).stored.phase = .on ∧ (machineAt wokenUp 5).stored.phase = .standby ∧
    ¬ StandbyBacked wokenUp 4 := by
  have hon : (machineAt wokenUp 4).stored.phase = .on := by decide +kernel
  have hnot : ∀ k < 2, Effect.act .standby true ∉
      ((machineAt (toSuspend (.error "forbidden")) k).cycle
        (toSuspend (.error "forbidden") k)).effects := by
    decide +kernel
  refine ⟨by decide +kernel, by decide +kernel, by decide +kernel, ?_, hon, by decide +kernel, ?_⟩
  · rintro ⟨k, hk, hsuspended, _⟩
    exact hnot k hk hsuspended
  · intro hbacked
    exact hbacked.not_on hon

/-- One that succeeds backs the standby. -/
theorem suspended_backed :
    (machineAt (toSuspend (.ok ())) 3).stored.phase = .standby ∧
    StandbyBacked (toSuspend (.ok ())) 2 := by
  have hcareful : ∀ m d, CarefulStandby (toSuspend (.ok ()) m)
      ((machineAt (toSuspend (.ok ())) m).old (toSuspend (.ok ()) m)) d := by
    intro m d
    refine ⟨fun _ => Reconciler.succeeds_standby rfl, ?_, ?_⟩
    · rintro ⟨hgate, hpower, _, _⟩
      rw [MachineInput.Reading.start_powerState] at hpower
      rcases hgate with hnode | hcons | htarget
      · cases hnode
      · rw [MachineInput.consistent_of_on hpower] at hcons
        cases hcons
      · cases htarget
    · rintro ⟨_, _, _, _, hauto, _⟩
      cases hauto
  have hbefore : (machineAt (toSuspend (.ok ())) 2).stored.phase = .poweringOff := by
    decide +kernel
  have hafter : (machineAt (toSuspend (.ok ())) 3).stored.phase = .standby := by decide +kernel
  exact ⟨hafter,
    standby_backed _ 2 (fun m _ d _ _ => hcareful m d) (by rw [hbefore]; decide) hafter⟩

end HardwareAutoscaler
