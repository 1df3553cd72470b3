/-
  HardwareAutoscaler.Controller.Machine.Safety
  ────────────────────────────────────────────
  THE SAFETY GATES: no power action while the Node is missing, while the power
  reading contradicts it, or for an `Auto` machine that no pool selects.

  The target is only driven to when the gates hold, but the boot handler runs
  before they are tested.

    • `gated_issues_nothing_iff` — a gated reconcile issues nothing exactly
      when the boot handler does not act,
    • `gated_powerOff` — a missing Node and a boot that fails: the machine is
      powered off.
-/
import HardwareAutoscaler.Controller.Machine.Readings

namespace HardwareAutoscaler

open Lib (stateAt)

/-! ## §1. The gates. -/

namespace MachineState

variable (w : MachineState) (i : MachineInput)

/-- A safety gate fails: the Node does not exist, the power state is not
consistent with it, or the machine is `Auto` and no pool selects its Node. -/
def Gated : Prop :=
  i.node = none ∨ (∃ d, w.reading i = some d ∧ i.consistent d.fresh = false) ∨
    (i.mn.spec.powerPolicy = .auto ∧ i.membership.pools = [])

variable {w i}

/-- A machine in no pool has no decision left. -/
theorem scalingDecision_start {d : MachineInput.Reading} (h : w.reading i = some d)
    (hpools : i.membership.pools = []) : (d.start i (w.old i)).scalingDecision = none := by
  obtain ⟨_, _, _, _, _, _, _, hfresh⟩ := MachineInput.fresh_frame (reading_eq.mp h)
  obtain ⟨_, _, decision, _, _, _, hstart, hdecision, _⟩ := d.start_frame i (w.old i)
  have hnone : d.fresh.scalingDecision = none := by
    rw [hfresh]
    show (w.old i).scalingDecision.filter (fun dec => i.membership.pools.contains dec.pool) = none
    rw [hpools]
    cases (w.old i).scalingDecision <;> rfl
  rw [hstart]
  rcases hdecision with hdecision | hdecision
  · exact hdecision
  · rw [hdecision, hnone]

/-- Behind a failed gate there is no target. -/
theorem no_target_of_gated (hg : w.Gated i) {d : MachineInput.Reading} (h : w.reading i = some d)
    (hnode : i.node.isSome = true) (hc : i.consistent d.fresh = true) :
    managedTarget i.mn.spec.powerPolicy (d.start i (w.old i)) (d.machine i).manualPolicy = none := by
  rcases hg with hg | ⟨d', hd', hg⟩ | ⟨hauto, hpools⟩
  · rw [hg] at hnode
    cases hnode
  · rw [h] at hd'
    cases hd'
    rw [hg] at hc
    cases hc
  -- no pool: the decision was dropped with the readings, and `Auto` follows nothing else
  · unfold managedTarget
    split
    · rfl
    · unfold desiredTarget
      rw [hauto, scalingDecision_start h hpools]
      rfl

/-- One reconcile behind a failed gate. -/
theorem actions_gated (hg : w.Gated i) : w.actions i = [] ↔ ¬ w.BootActs i := by
  cases hr : w.reading i with
  | none =>
    have hnot : ¬ w.BootActs i := by
      rintro ⟨d, hd, _⟩
      rw [hr] at hd
      cases hd
    exact ⟨fun _ => hnot, fun _ => actions_of_stopped hr⟩
  | some d =>
    have hacts : w.BootActs i ↔
        (d.machine i).bootAction (d.tracked i (w.old i)).2 (d.start i (w.old i)) ≠ none := by
      constructor
      · rintro ⟨d', hd', h⟩
        rw [hr] at hd'
        cases hd'
        exact h
      · intro h
        exact ⟨d, hr, h⟩
    rw [hacts, actions_of_reading hr, not_not]
    unfold MachineInput.settle
    -- the readings issue nothing, so what is issued is what the step issues
    generalize hs : (⟨d.start i (w.old i), d.contacted.map (.contact .status)⟩ : Progress) = s
    have hst : d.start i (w.old i) = s.st := by rw [← hs]
    have hempty : s.issued = [] := by
      rw [← hs]
      exact issued_contacts _
    rw [hst]
    refine Reconciler.step_cases (d.machine i) s (P := fun out =>
      out.1.issued = [] ↔ (d.machine i).bootAction (d.tracked i (w.old i)).2 s.st = none)
      ?boot ?gated ?idle ?on ?off
    -- the one branch in which no gate is asked
    case boot =>
      intro _ _
      rw [Reconciler.issued_boot, hempty, List.nil_append, Option.toList_eq_nil_iff]
    case gated =>
      intro hb _
      rw [Reconciler.issued_observe, Progress.issued_message, hempty]
      simp [((d.machine i).boot_none s hb).2]
    case idle =>
      intro hb _ _ _
      rw [Reconciler.issued_observe, hempty]
      simp [((d.machine i).boot_none s hb).2]
    case on =>
      intro _ hnode hc ht
      have hnone := no_target_of_gated hg hr hnode hc
      rw [hst] at hnone
      have ht : managedTarget i.mn.spec.powerPolicy s.st (d.machine i).manualPolicy = some .on := ht
      rw [hnone] at ht
      cases ht
    case off =>
      intro _ hnode hc ht
      have hnone := no_target_of_gated hg hr hnode hc
      rw [hst] at hnone
      have ht : managedTarget i.mn.spec.powerPolicy s.st (d.machine i).manualPolicy = some .off := ht
      rw [hnone] at ht
      cases ht

end MachineState

/-! ## §2. In every run. -/

/-- **Behind a failed gate nothing is issued, exactly when the boot handler does
not act**: in every reconcile of every run, from any stored status. -/
theorem gated_issues_nothing_iff (w₀ : MachineState) (inp : Nat → MachineInput) (n : Nat)
    (hg : (stateAt machineStep w₀ inp n).Gated (inp n)) :
    (stateAt machineStep w₀ inp n).actions (inp n) = [] ↔
      ¬ (stateAt machineStep w₀ inp n).BootActs (inp n) :=
  MachineState.actions_gated hg

/-! ## §3. A machine whose Node does not exist. -/

/-- The driver of an interface that reads On. -/
def readsOn : Driver := { powerState := .ok .on }

/-- A running machine whose name is that of no Node, reconciled every 1300 s:
longer than the boot timeout. -/
def unknownNode (policy : ManualPowerOnPolicy) (n : Nat) : MachineInput where
  mn :=
    { name := "worker-9"
      spec :=
        { nodeName := "worker-9"
          powerInterfaces := [{ driver := "redfish" }]
          manualPowerOnPolicy := some policy } }
  cluster := {}
  built := fun _ => .ok readsOn
  now := seconds (1300 * n)
  lookupAt := seconds (1300 * n)
  storeAt := seconds (1300 * n)

/-- Under `LeaveOn` the machine is left alone. -/
theorem gated_leaveOn :
    (machineAt (unknownNode .leaveOn) 1).actions (unknownNode .leaveOn 1) = [] ∧
    ¬ (machineAt (unknownNode .leaveOn) 1).BootActs (unknownNode .leaveOn 1) := by
  have hactions : (machineAt (unknownNode .leaveOn) 1).actions (unknownNode .leaveOn 1) = [] := by
    decide +kernel
  exact ⟨hactions, (gated_issues_nothing_iff {} (unknownNode .leaveOn) 1 (Or.inl rfl)).mp hactions⟩

/-- **A machine that nobody ever manages is powered off**: the second reconcile
takes it for a boot that failed, although its Node does not exist. -/
theorem gated_powerOff :
    (machineAt (unknownNode .adopt) 1).Gated (unknownNode .adopt 1) ∧
    (machineAt (unknownNode .adopt) 1).actions (unknownNode .adopt 1) = [.powerOff] :=
  ⟨Or.inl rfl, by decide +kernel⟩

end HardwareAutoscaler
