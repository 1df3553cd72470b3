/-
  HardwareAutoscaler.Controller.Machine.ManualChange
  ──────────────────────────────────────────────────
  A MANUAL CHANGE IS NOT FOUGHT.

  A reconcile that sees a manual change drops the stored decision before it
  looks for a target, so it only observes — unless the boot handler acts
  before the target is looked at.

    • `event_failed_iff` — when a boot fails in the reconcile that sees the
      manual change: a boot timeout that `as i64` makes negative,
    • `manual_change_iff` — otherwise no power action is issued, and no
      decision is left.
-/
import HardwareAutoscaler.Controller.Machine.Boots
import HardwareAutoscaler.Controller.Machine.Manual
import Mathlib.Data.UInt

namespace HardwareAutoscaler

open Reconciler (bootStaysFailed)

/-! ## §1. Which changes are manual. -/

section Detect

variable {old st : NodePowerManagementConfigStatus} {now : Int} {bootTimeout shutdownTimeout : UInt64}

/-- **A manual power-off**: a machine stored as on, or on its way there, is
off, and none of our commands explains it. -/
theorem detect_poweredOff_iff :
    detectManualChange old st now bootTimeout shutdownTimeout = .poweredOff ↔
      old.phase ∈ ([.on, .poweringOn, .bootFailed] : List Phase) ∧ old.powerState = .on ∧
        offNow st = true ∧ ourOff st now shutdownTimeout = false := by
  -- a machine that was off, or asleep, can only have come on
  have hnot : ∀ (c : Prop) [Decidable c],
      (if c then ManualChange.poweredOn else .none) ≠ .poweredOff := by
    intro c _
    split <;> simp
  unfold detectManualChange
  cases old.phase with
  | off => simp [hnot]
  | standby => simp [hnot]
  | _ => simp

/-- **A manual power-on**: a machine stored as off is on, or one in standby has
a Ready Node, and none of our commands explains it. -/
theorem detect_poweredOn_iff :
    detectManualChange old st now bootTimeout shutdownTimeout = .poweredOn ↔
      ourOn st now bootTimeout = false ∧
      ((old.phase = .off ∧ onNow st = true) ∨
        (old.phase = .standby ∧ st.nodeReady = true ∧
          old.standbySince.all (fun t => numSeconds (now - t) > spontaneousWakeSecs) = true)) := by
  have hnot : ∀ (c : Prop) [Decidable c],
      (if c then ManualChange.poweredOff else .none) ≠ .poweredOn := by
    intro c _
    split <;> simp
  unfold detectManualChange
  cases old.phase with
  | off => cases ourOn st now bootTimeout <;> simp
  | standby => cases ourOn st now bootTimeout <;> simp
  | _ => simp [hnot]

end Detect

/-! ## §2. What a manual change leaves. -/

namespace MachineInput.Reading

variable {d : Reading} {i : MachineInput} {old : NodePowerManagementConfigStatus}

/-- The decision is dropped. -/
theorem start_decision_none (h : d.change i old ≠ .none) :
    (d.start i old).scalingDecision = none := by
  unfold start
  cases hc : d.change i old with
  | none => exact absurd hc h
  | poweredOn => rfl
  | poweredOff => rfl

/-- So an `Auto` machine has no target. -/
theorem start_no_target (hauto : i.mn.spec.powerPolicy = .auto) (h : d.change i old ≠ .none)
    (manual : ManualPowerOnPolicy) :
    managedTarget i.mn.spec.powerPolicy (d.start i old) manual = none := by
  unfold managedTarget desiredTarget
  rw [hauto, start_decision_none h]
  split <;> rfl

/-- No failure recorded earlier is acted on. -/
theorem not_bootStaysFailed (h : d.change i old ≠ .none) :
    bootStaysFailed (d.start i old) = false := by
  cases hc : d.change i old with
  | none => exact absurd hc h
  -- a manual power-on clears the failure,
  | poweredOn =>
    have hnone : (d.start i old).bootFailure = none := by
      unfold start
      rw [hc]
      rfl
    unfold bootStaysFailed failureIsCurrent
    rw [hnone]
    simp
  -- and a machine switched off is off
  | poweredOff =>
    obtain ⟨_, _, hoff, _⟩ := detect_poweredOff_iff.mp hc
    have hpower : d.fresh.powerState = .off := by
      unfold offNow at hoff
      simp only [Bool.and_eq_true, beq_iff_eq] at hoff
      exact hoff.1
    unfold bootStaysFailed
    rw [start_powerState, hpower]
    simp

end MachineInput.Reading

namespace Reconciler

variable (r : Reconciler) (s : Progress)

theorem decision_observe : (r.observe s).st.scalingDecision = s.st.scalingDecision := by
  have hphase : ∀ phase, (r.setPhase phase s).st.scalingDecision = s.st.scalingDecision := by
    intro phase
    rw [setPhase_eq]
  unfold observe
  split
  · rfl
  · split
    · split <;> exact hphase _
    · exact hphase _
    · exact hphase _

/-- Without a target nothing is issued, and the decision stays. -/
theorem towards_no_target {consistent : Bool}
    (h : managedTarget r.mn.spec.powerPolicy s.st r.manualPolicy = none) :
    (r.towards consistent s).1.issued = s.issued ∧
      (r.towards consistent s).1.st.scalingDecision = s.st.scalingDecision := by
  unfold towards
  split
  · exact ⟨r.issued_observe _, r.decision_observe _⟩
  · rw [h]
    exact ⟨r.issued_observe s, r.decision_observe s⟩

theorem bootView_no_target {consistent : Bool}
    (h : managedTarget r.mn.spec.powerPolicy s.st r.manualPolicy = none) :
    (r.towards consistent s).1.st.bootView = s.st.bootView := by
  unfold towards
  split
  · exact r.bootView_observe _
  · rw [h]
    exact r.bootView_observe s

/-- A boot that fails drops the decision. -/
theorem decision_boot_failed : (r.boot .failed s).1.st.scalingDecision = none := by
  have hphase : (r.setPhase .bootFailed { s with st := r.failedBoot s.st }).st.scalingDecision
      = none := by
    rw [setPhase_eq]
    rfl
  unfold boot bootFailed
  simp only
  split
  · exact hphase
  · exact hphase

end Reconciler

/-! ## §3. A boot that fails at once. -/

namespace MachineState

/-- **The manual change meets a boot that fails at once**: a machine stored as
off is on, its boot timeout is one that `as i64` makes negative, and the
failure does not leave it on. -/
structure FailsAtOnce (w : MachineState) (i : MachineInput) (d : MachineInput.Reading) : Prop where
  off : w.stored.phase = .off
  on : d.fresh.powerState = .on
  notReady : d.fresh.nodeReady = false
  noStandby : w.stored.standbySince = none
  timeout : asI64 (d.machine i).bootTimeout < 0
  /-- No failure was recorded now or later. -/
  older : w.stored.bootFailure.all (fun f => i.now > f.time) = true
  poweredOff : bootFailureLeavesOn { w.stored with poweredOnNotReadySince := some i.now } .auto
    (d.machine i).manualPolicy = false

variable {w : MachineState} {i : MachineInput} {d : MachineInput.Reading}

/-- What the machine is seen as before its boot is tracked. -/
theorem seenOff_stored (h : w.reading i = some d) :
    (d.seenOff i (w.old i)).phase = w.stored.phase ∧
    (d.seenOff i (w.old i)).phaseSince = w.stored.phaseSince ∧
    (d.seenOff i (w.old i)).standbySince = w.stored.standbySince ∧
    (d.seenOff i (w.old i)).poweredOnNotReadySince = w.stored.poweredOnNotReadySince ∧
    (d.seenOff i (w.old i)).bootFailure = w.stored.bootFailure := by
  obtain ⟨_, _, _, _, _, _, _, hfresh⟩ := MachineInput.fresh_frame (reading_eq.mp h)
  unfold MachineInput.Reading.seenOff
  split
  · rw [hfresh]
    exact ⟨rfl, rfl, rfl, rfl, rfl⟩
  · rw [hfresh]
    exact ⟨rfl, rfl, rfl, rfl, rfl⟩

/-- A change that leaves the machine on without a Ready Node is a power-on of one
stored as off. -/
theorem off_of_change (hchange : d.change i (w.old i) ≠ .none) (hon : d.fresh.powerState = .on)
    (hready : d.fresh.nodeReady = false) : w.stored.phase = .off := by
  cases hc : d.change i (w.old i) with
  | none => exact absurd hc hchange
  | poweredOn =>
    rcases (detect_poweredOn_iff.mp hc).2 with ⟨hp, _⟩ | ⟨_, hr, _⟩
    · exact hp
    · rw [hready] at hr
      cases hr
  | poweredOff =>
    have hdown := (detect_poweredOff_iff.mp hc).2.2.1
    unfold offNow at hdown
    simp [hon] at hdown

/-- A machine stored as off that is on boots from now on. -/
theorem boots_now (h : w.reading i = some d) (htimed : BootTimed w.stored)
    (hoff : w.stored.phase = .off) (hslept : w.stored.standbySince = none)
    (hon : d.fresh.powerState = .on) :
    isBooting (d.seenOff i (w.old i)) = true ∧ bootSince (d.seenOff i (w.old i)) i.now = i.now := by
  obtain ⟨hphase, _, hstandby, hsince, _⟩ := seenOff_stored h
  constructor
  · unfold isBooting
    rw [hphase, hoff, hstandby, hslept, MachineInput.Reading.seenOff_powerState, hon]
    rfl
  · unfold bootSince bootStart
    rw [hsince, htimed.off hoff, hphase, hoff]
    rfl

/-- A boot that starts now fails now only by a negative timeout. -/
theorem failsNow_iff (h : w.reading i = some d)
    (hstart : bootSince (d.seenOff i (w.old i)) i.now = i.now) :
    failsNow (d.seenOff i (w.old i)) i.now (d.machine i).bootTimeout = true ↔
      asI64 (d.machine i).bootTimeout < 0 ∧
        w.stored.bootFailure.all (fun f => i.now > f.time) = true := by
  obtain ⟨_, _, _, _, hfailure⟩ := seenOff_stored h
  have hzero : numSeconds (i.now - i.now) = 0 := by
    rw [Int.sub_self]
    rfl
  unfold failsNow
  rw [hstart, hfailure, hzero, Bool.and_eq_true, decide_eq_true_eq]
  exact And.comm

/-- **When a boot fails in the reconcile that sees a manual change**: it is a
machine stored as off that is on, whose boot was not timed before. -/
theorem event_failed_iff (h : w.reading i = some d) (htimed : BootTimed w.stored)
    (hchange : d.change i (w.old i) ≠ .none) :
    (d.tracked i (w.old i)).2 = .failed ↔
      w.stored.phase = .off ∧ d.fresh.powerState = .on ∧ d.fresh.nodeReady = false ∧
        w.stored.standbySince = none ∧ asI64 (d.machine i).bootTimeout < 0 ∧
        w.stored.bootFailure.all (fun f => i.now > f.time) = true := by
  obtain ⟨_, _, hstandby, _, _⟩ := seenOff_stored h
  unfold MachineInput.Reading.tracked
  by_cases hready : d.fresh.nodeReady = true
  · have hnot := (@trackBoot_ready (d.seenOff i (w.old i)) i.now (d.machine i).bootTimeout
      (by simpa using hready)).2
    simp [hready, hnot]
  have hready : d.fresh.nodeReady = false := by simpa using hready
  rcases MachineInput.power_known (reading_eq.mp h) with hon | hoff
  · have hwasOff := off_of_change hchange hon hready
    by_cases hslept : w.stored.standbySince = none
    · obtain ⟨hbooting, hstart⟩ := boots_now h htimed hwasOff hslept hon
      have hfails := failsNow_iff h hstart
      rw [trackBoot_booting (by simpa using hready) hbooting]
      by_cases hf : failsNow (d.seenOff i (w.old i)) i.now (d.machine i).bootTimeout = true
      · rw [if_pos hf]
        exact ⟨fun _ => ⟨hwasOff, hon, hready, hslept, hfails.mp hf⟩, fun _ => rfl⟩
      · rw [if_neg hf]
        constructor
        · intro hc
          cases hc
        · rintro ⟨_, _, _, _, hnow⟩
          exact absurd (hfails.mpr hnow) hf
    -- a standby still recorded is no boot
    · have hbooting : isBooting (d.seenOff i (w.old i)) = false := by
        unfold isBooting
        rw [hstandby]
        cases hs : w.stored.standbySince with
        | none => exact absurd hs hslept
        | some t => simp
      rw [trackBoot_held (by simpa using hready) (by simp [hon]) hbooting]
      constructor
      · intro hc
        cases hc
      · rintro ⟨_, _, _, hnone, _⟩
        exact absurd hnone hslept
  · rw [trackBoot_off (by simpa using hready) (by simpa using hoff)]
    simp [hoff]

/-- Whether the failure leaves the machine on is judged by what is stored. -/
theorem leavesOn_stored (h : w.reading i = some d) (htimed : BootTimed w.stored)
    (hchange : d.change i (w.old i) ≠ .none) (hfailed : (d.tracked i (w.old i)).2 = .failed)
    (manual : ManualPowerOnPolicy) :
    bootFailureLeavesOn (d.start i (w.old i)) .auto manual
      = bootFailureLeavesOn { w.stored with poweredOnNotReadySince := some i.now } .auto manual := by
  obtain ⟨hoff, hon, hready, hslept, _, _⟩ := (event_failed_iff h htimed hchange).mp hfailed
  have hlast : (d.start i (w.old i)).lastPowerAction = w.stored.lastPowerAction :=
    (d.start_lastPowerAction i (w.old i)).trans (lastPowerAction_of_reading h)
  obtain ⟨hbooting, hstart⟩ := boots_now h htimed hoff hslept hon
  have hnow : (d.start i (w.old i)).poweredOnNotReadySince = some i.now := by
    rw [d.start_since]
    unfold MachineInput.Reading.tracked
    rw [trackBoot_booting (by simpa using hready) hbooting, hstart]
    split <;> rfl
  unfold bootFailureLeavesOn
  rw [hlast, hnow]

/-- **One reconcile** that sees a manual change. -/
theorem actions_of_change (h : w.reading i = some d) (htimed : BootTimed w.stored)
    (hauto : i.mn.spec.powerPolicy = .auto) (hchange : d.change i (w.old i) ≠ .none) :
    (i.settle (w.old i) d).1.st.scalingDecision = none ∧
      (w.actions i = [] ↔ ¬ w.FailsAtOnce i d) := by
  rw [actions_of_reading h]
  have hstays := MachineInput.Reading.not_bootStaysFailed hchange
  by_cases hfailed : (d.tracked i (w.old i)).2 = .failed
  -- the boot handler drops the decision too, and may power the machine off
  · have hleaves := leavesOn_stored h htimed hchange hfailed (d.machine i).manualPolicy
    obtain ⟨hoff, hon, hready, hslept, htimeout, holder⟩ :=
      (event_failed_iff h htimed hchange).mp hfailed
    have hpolicy : (d.machine i).mn.spec.powerPolicy = .auto := hauto
    rw [MachineInput.settle_handled (Or.inl hfailed), hfailed]
    refine ⟨(d.machine i).decision_boot_failed (i.begun (w.old i) d), ?_⟩
    rw [Reconciler.issued_boot, i.begun_issued, List.nil_append]
    unfold Reconciler.bootAction
    simp only
    rw [hpolicy]
    show (if bootFailureLeavesOn (d.start i (w.old i)) .auto (d.machine i).manualPolicy
      then none else some PowerAction.powerOff).toList = [] ↔ _
    rw [hleaves]
    constructor
    · intro hnone hfails
      rw [hfails.poweredOff] at hnone
      cases hnone
    · intro hnot
      cases hl : bootFailureLeavesOn { w.stored with poweredOnNotReadySince := some i.now } .auto
          (d.machine i).manualPolicy with
      | true => rfl
      | false => exact absurd ⟨hoff, hon, hready, hslept, htimeout, holder, hl⟩ hnot
  · have hunhandled : ¬ i.BootHandled (w.old i) d := by
      intro h
      rcases h with h | ⟨_, h⟩
      · exact hfailed h
      · rw [hstays] at h
        cases h
    have hnofail : ¬ w.FailsAtOnce i d := fun hf =>
      hfailed ((event_failed_iff h htimed hchange).mpr
        ⟨hf.off, hf.on, hf.notReady, hf.noStandby, hf.timeout, hf.older⟩)
    have htarget : managedTarget (d.machine i).mn.spec.powerPolicy (i.begun (w.old i) d).st
        (d.machine i).manualPolicy = none :=
      MachineInput.Reading.start_no_target hauto hchange _
    obtain ⟨hissued, hdecision⟩ := (d.machine i).towards_no_target (i.begun (w.old i) d) htarget
    rw [MachineInput.settle_unhandled hunhandled, hissued, hdecision, i.begun_issued]
    exact ⟨MachineInput.Reading.start_decision_none hchange, fun _ => hnofail, fun _ => rfl⟩

end MachineState

/-! ## §4. In every run. -/

/-- **The reconcile that sees a manual change issues no power action and leaves
no decision, exactly when no boot fails at once.** -/
theorem manual_change_iff (inp : Nat → MachineInput) (n : Nat) {d : MachineInput.Reading}
    (hd : (machineAt inp n).reading (inp n) = some d)
    (hauto : (inp n).mn.spec.powerPolicy = .auto)
    (hchange : d.change (inp n) ((machineAt inp n).old (inp n)) ≠ .none) :
    ((machineAt inp n).actions (inp n) = [] ∧
      ∀ st, ((machineAt inp n).cycle (inp n)).status = some st → st.scalingDecision = none) ↔
    ¬ (machineAt inp n).FailsAtOnce (inp n) d := by
  obtain ⟨hdecision, hactions⟩ :=
    MachineState.actions_of_change hd (bootTimed_run inp n) hauto hchange
  have hstored : ∀ st, ((machineAt inp n).cycle (inp n)).status = some st →
      st.scalingDecision = none := by
    intro st hst
    rw [MachineState.status_of_reading hd hst]
    exact hdecision
  rw [hactions]
  exact ⟨fun h => h.1, fun h => ⟨h, hstored⟩⟩

theorem notReady_distinct :
    ([({ pooledNode false with conditions := [{ type_ := "Ready", status := "False" }] } : Node)].map
      (·.name)).Nodup :=
  List.nodup_singleton _

/-- A machine that its pool powered off, and that someone switches on before the
second reconcile. -/
def switchedOn (bootTimeout : Option UInt64) (n : Nat) : MachineInput where
  edit := { decision := if n = 0 then some (some ⟨"a", .off, "unneeded", 0⟩) else none }
  mn :=
    { name := "m1"
      spec :=
        { nodeName := "m1"
          powerInterfaces := [{ driver := "redfish" }]
          lifecycle := { bootTimeoutSeconds := bootTimeout }
          manualPowerOnPolicy := some .adopt } }
  cluster :=
    { nodes := [{ pooledNode false with conditions := [{ type_ := "Ready", status := "False" }] }]
      pools := [poolA]
      nodes_distinct := notReady_distinct
      pools_distinct := poolA_distinct }
  built := fun _ => .ok { powerState := .ok (if n = 0 then .off else .on) }
  now := seconds (10 * n)
  lookupAt := seconds (10 * n)
  storeAt := seconds (10 * n)

/-- With the default boot timeout the manual power-on is respected. -/
theorem switchedOn_respected :
    (machineAt (switchedOn none) 1).actions (switchedOn none 1) = [] := by
  have hread : ((machineAt (switchedOn none) 1).reading (switchedOn none 1)).any (fun d =>
      d.change (switchedOn none 1) ((machineAt (switchedOn none) 1).old (switchedOn none 1))
          == .poweredOn
        && decide (0 ≤ asI64 (d.machine (switchedOn none 1)).bootTimeout)) = true := by
    decide +kernel
  obtain ⟨d, hd, hall⟩ := (Option.any_eq_true _ _).mp hread
  simp only [Bool.and_eq_true, beq_iff_eq, decide_eq_true_eq] at hall
  obtain ⟨hchange, htimeout⟩ := hall
  have hnofail : ¬ (machineAt (switchedOn none) 1).FailsAtOnce (switchedOn none 1) d := by
    intro h
    have hneg := h.timeout
    omega
  exact ((manual_change_iff (switchedOn none) 1 hd rfl (by rw [hchange]; decide)).mpr hnofail).1

/-- **A boot timeout of `2^63` seconds**: the machine that was switched on has
failed to boot at once, and is powered off again. -/
theorem switchedOn_poweredOff :
    (∃ d, (machineAt (switchedOn (some (2 ^ 63))) 1).reading (switchedOn (some (2 ^ 63)) 1) = some d ∧
      d.change (switchedOn (some (2 ^ 63)) 1)
        ((machineAt (switchedOn (some (2 ^ 63))) 1).old (switchedOn (some (2 ^ 63)) 1)) = .poweredOn) ∧
    (switchedOn (some (2 ^ 63)) 1).mn.spec.powerPolicy = .auto ∧
    (machineAt (switchedOn (some (2 ^ 63))) 1).actions (switchedOn (some (2 ^ 63)) 1)
      = [.powerOff] := by
  have hread : ((machineAt (switchedOn (some (2 ^ 63))) 1).reading (switchedOn (some (2 ^ 63)) 1)).any
      (fun d => d.change (switchedOn (some (2 ^ 63)) 1)
        ((machineAt (switchedOn (some (2 ^ 63))) 1).old (switchedOn (some (2 ^ 63)) 1))
          == .poweredOn) = true := by
    decide +kernel
  obtain ⟨d, hd, hchange⟩ := (Option.any_eq_true _ _).mp hread
  exact ⟨⟨d, hd, eq_of_beq hchange⟩, rfl, by decide +kernel⟩

end HardwareAutoscaler
