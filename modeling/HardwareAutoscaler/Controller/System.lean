/-
  HardwareAutoscaler.Controller.System
  ────────────────────────────────────
  BOTH CONTROLLERS AT WORK: any number of pools and machines, whose reconciles
  meet in what the API server stores.

  A pool reads what its stores hold, which may be old, and writes decisions to
  machines and a status of its own; a machine's reconcile acts on the decision
  it finds.  The writes of one cycle of a pool are events of their own, and so
  is the patch that ends a machine's reconcile: anything can happen in between.

    • `systemStep`, `systemAt` — any interleaving of those events,
    • `reconciled_at_once` — a machine's reconcile that nothing interrupts,
    • `released_from` — what a pool publishes as releasable it has let go,
    • `decided_from` — a stored decision and who wrote it,
    • `turned_off_by_agreement` — a machine that runs is taken out of service
      only when every pool has let it go,
    • `woken_by_decision` — who has decided that a machine is powered on.
-/
import HardwareAutoscaler.Controller.Machine.Decided
import HardwareAutoscaler.Controller.Pool.Agreement
import HardwareAutoscaler.Controller.Pool.Hold
import HardwareAutoscaler.Scaling.Published

namespace HardwareAutoscaler

open Std (TreeMap)
open Lib (Json stateAt)
open Lib.Json (lookup get?)

/-! ## §1. The system. -/

/-- A reconcile of a machine under way: the status it has read, and the one it
will patch unless it ends in an error. -/
structure UnderWay where
  old : NodePowerManagementConfigStatus
  new : Option NodePowerManagementConfigStatus

/-- The status after a patch from `old` to `new`, where a pool may have written
its decision since `old` was read: the patch leaves out what it does not change. -/
def patchedOver (old new live : NodePowerManagementConfigStatus) :
    NodePowerManagementConfigStatus :=
  { patched old new with
    scalingDecision :=
      if new.scalingDecision = old.scalingDecision then live.scalingDecision
      else new.scalingDecision }

/-- The status it leaves, where another may have been stored meanwhile. -/
def UnderWay.patch (u : UnderWay) (live : NodePowerManagementConfigStatus) :
    NodePowerManagementConfigStatus :=
  match u.new with
  | some new => patchedOver u.old new live
  | none => live

namespace MachineState

/-- A machine when all of a reconcile is done but its patch. -/
def started (w : MachineState) (i : MachineInput) : MachineState :=
  { machineStep w i with stored := w.old i }

/-- A reconcile that has read what is stored now. -/
def underWay (w : MachineState) (i : MachineInput) : UnderWay := ⟨w.old i, (w.cycle i).status⟩

/-- A decision is written to a machine. -/
def decide (w : MachineState) (dec : ScalingDecision) : MachineState :=
  { w with stored := { w.stored with scalingDecision := some dec } }

end MachineState

/-- What is stored of the pools and the machines, by their names. -/
structure SystemState where
  /-- The stored statuses. -/
  pools : String → Json := fun _ => .null
  machines : String → MachineState := fun _ => {}
  underWay : String → Option UnderWay := fun _ => none

/-- What happens next.  The status and the decisions of a cycle are those of a
pool that has read `stored` as its own status. -/
inductive SystemEvent where
  /-- One of the decisions of a pool's cycle is written. -/
  | decision (i : PoolInput) (stored : Json) (name : String) (dec : ScalingDecision)
      (h : (name, dec) ∈ (i.reconcile stored).written)
  /-- A pool's cycle patches its status. -/
  | poolStatus (i : PoolInput) (stored : Json)
  /-- A machine is reconciled, up to its patch. -/
  | machine (i : MachineInput)
  /-- The reconcile of a machine patches its status. -/
  | machinePatched (name : String)
  /-- A pool is deleted; one created later under its name has no status. -/
  | poolDeleted (name : String)
  /-- A machine is deleted; a reconcile under way finds nothing to patch. -/
  | machineDeleted (name : String)
  /-- The operator starts again; what was under way is not ended. -/
  | restarted

/-- **One step of the system.** -/
def systemStep (w : SystemState) : SystemEvent → SystemState
  | .decision _ _ name dec _ =>
    { w with machines := Function.update w.machines name ((w.machines name).decide dec) }
  | .poolStatus i stored =>
    -- a reconcile that fails on the way stores no status
    match (i.reconcile stored).status with
    | some st =>
      { w with
        pools := Function.update w.pools i.pool.name
          (patchStatusDiff (w.pools i.pool.name) (NodeScalingPoolStatus.ofJson stored).toFields
            st.toFields) }
    | none => w
  | .machine i =>
    { w with
      machines := Function.update w.machines i.mn.name ((w.machines i.mn.name).started i)
      underWay := Function.update w.underWay i.mn.name
        (some ((w.machines i.mn.name).underWay i)) }
  | .machinePatched name =>
    -- a patch is put on what is stored by then, not on what was read
    match w.underWay name with
    | some u =>
      { w with
        machines := Function.update w.machines name
          { w.machines name with stored := u.patch (w.machines name).stored }
        underWay := Function.update w.underWay name none }
    | none => w
  | .poolDeleted name => { w with pools := Function.update w.pools name .null }
  -- a machine created again under the name starts from an empty status
  | .machineDeleted name =>
    { w with
      machines := Function.update w.machines name { w.machines name with stored := {} }
      underWay := Function.update w.underWay name none }
  | .restarted =>
    -- what is only remembered is lost, what is stored stays
    { w with
      machines := fun name => { w.machines name with cache := [] }
      underWay := fun _ => none }

/-- **A reconcile that nothing interrupts** is the step of the machine. -/
theorem reconciled_at_once (w : SystemState) (i : MachineInput) :
    (systemStep (systemStep w (.machine i)) (.machinePatched i.mn.name)).machines i.mn.name
      = machineStep (w.machines i.mn.name) i := by
  simp only [systemStep, Function.update_self]
  unfold MachineState.started MachineState.underWay UnderWay.patch machineStep
  cases hst : ((w.machines i.mn.name).cycle i).status with
  | none => rfl
  | some st =>
    have hpatched : patchedOver ((w.machines i.mn.name).old i) st ((w.machines i.mn.name).old i)
        = patched ((w.machines i.mn.name).old i) st := by
      unfold patchedOver
      split
      · rename_i hsame
        rw [← hsame]
        rfl
      · rfl
    simp only [hpatched]

/-- What is stored before event `n`. -/
def systemAt (inp : Nat → SystemEvent) (n : Nat) : SystemState := stateAt systemStep {} inp n

theorem systemAt_succ (inp : Nat → SystemEvent) (n : Nat) :
    systemAt inp (n + 1) = systemStep (systemAt inp n) (inp n) :=
  Lib.stateAt_succ n

/-- The decision stored for a machine. -/
def SystemState.decided (w : SystemState) (name : String) : Option ScalingDecision :=
  (w.machines name).stored.scalingDecision

/-- What a pool publishes as releasable. -/
def SystemState.releasable (w : SystemState) (pool : String) : List String :=
  (NodeScalingPoolStatus.ofJson (w.pools pool)).releasable

/-- Who writes a pool's status: nobody, a cycle of it, or its deletion. -/
theorem pools_step (w : SystemState) (e : SystemEvent) (pool : String) :
    (systemStep w e).pools pool = w.pools pool ∨
      (∃ i stored st, e = .poolStatus i stored ∧ i.pool.name = pool ∧
        (i.reconcile stored).status = some st ∧
        (systemStep w e).pools pool = patchStatusDiff (w.pools pool)
          (NodeScalingPoolStatus.ofJson stored).toFields st.toFields) ∨
      (systemStep w e).pools pool = .null := by
  cases e with
  | decision | machine | machineDeleted | restarted => exact Or.inl rfl
  | machinePatched name =>
    refine Or.inl ?_
    unfold systemStep
    simp only
    split <;> rfl
  | poolStatus i stored =>
    unfold systemStep
    simp only
    cases hst : (i.reconcile stored).status with
    | none => exact Or.inl rfl
    | some st =>
      by_cases hpool : pool = i.pool.name
      · subst hpool
        exact Or.inr (Or.inl ⟨i, stored, st, rfl, rfl, hst, Function.update_self _ _ _⟩)
      · exact Or.inl (Function.update_of_ne hpool _ _)
  | poolDeleted gone =>
    by_cases hpool : pool = gone
    · subst hpool
      exact Or.inr (Or.inr (Function.update_self _ _ _))
    · exact Or.inl (Function.update_of_ne hpool _ _)

/-- Who writes a machine's decision: nobody, a pool, its own reconcile when it
starts or ends, or its deletion. -/
theorem decided_step (w : SystemState) (e : SystemEvent) (name : String) :
    (systemStep w e).decided name = w.decided name ∨
      (∃ i stored dec hmem, e = .decision i stored name dec hmem ∧
        (systemStep w e).decided name = some dec) ∨
      (∃ i, e = .machine i ∧ i.mn.name = name ∧
        (systemStep w e).decided name = ((w.machines name).old i).scalingDecision) ∨
      (∃ u, e = .machinePatched name ∧ w.underWay name = some u ∧
        (systemStep w e).decided name = (u.patch (w.machines name).stored).scalingDecision) ∨
      (systemStep w e).decided name = none := by
  unfold SystemState.decided
  -- only a decision, a machine's own status, its late patch and its deletion write it
  cases e with
  | restarted | poolDeleted => exact Or.inl rfl
  | poolStatus i stored =>
    refine Or.inl ?_
    unfold systemStep
    simp only
    split <;> rfl
  | decision i stored x dec hmem =>
    by_cases hname : name = x
    · subst hname
      refine Or.inr (Or.inl ⟨i, stored, dec, hmem, rfl, ?_⟩)
      simp [systemStep, MachineState.decide]
    · exact Or.inl (by simp [systemStep, hname])
  | machine i =>
    by_cases hname : name = i.mn.name
    · subst hname
      refine Or.inr (Or.inr (Or.inl ⟨i, rfl, rfl, ?_⟩))
      simp [systemStep, MachineState.started]
    · exact Or.inl (by simp [systemStep, hname])
  | machinePatched x =>
    cases hunder : w.underWay x with
    | none => exact Or.inl (by simp [systemStep, hunder])
    | some u =>
      by_cases hname : name = x
      · subst hname
        refine Or.inr (Or.inr (Or.inr (Or.inl ⟨u, rfl, hunder, ?_⟩)))
        simp [systemStep, hunder]
      · exact Or.inl (by simp [systemStep, hunder, hname])
  | machineDeleted gone =>
    by_cases hname : name = gone
    · subst hname
      refine Or.inr (Or.inr (Or.inr (Or.inr ?_)))
      simp [systemStep]
    · exact Or.inl (by simp [systemStep, hname])

/-- Only a reconcile that starts is under way afterwards and not before. -/
theorem underWay_step {w : SystemState} {e : SystemEvent} {name : String} {u : UnderWay}
    (h : (systemStep w e).underWay name = some u) :
    w.underWay name = some u ∨
      ∃ i, e = .machine i ∧ i.mn.name = name ∧ u = (w.machines name).underWay i := by
  -- only a reconcile of this machine puts one under way; a patch or the deletion ends it
  cases e with
  | decision | poolDeleted => exact Or.inl h
  | restarted => cases h
  | poolStatus i stored =>
    unfold systemStep at h
    simp only at h
    split at h
    · exact Or.inl h
    · exact Or.inl h
  | machine i =>
    by_cases hname : name = i.mn.name
    · subst hname
      simp only [systemStep, Function.update_self] at h
      exact Or.inr ⟨i, rfl, rfl, (Option.some.inj h).symm⟩
    · simp only [systemStep, Function.update_of_ne hname] at h
      exact Or.inl h
  | machinePatched x =>
    unfold systemStep at h
    simp only at h
    split at h
    · by_cases hname : name = x
      · subst hname
        simp only [Function.update_self] at h
        cases h
      · simp only [Function.update_of_ne hname] at h
        exact Or.inl h
    · exact Or.inl h
  | machineDeleted gone =>
    by_cases hname : name = gone
    · subst hname
      simp only [systemStep, Function.update_self] at h
      cases h
    · simp only [systemStep, Function.update_of_ne hname] at h
      exact Or.inl h

/-- **What is under way has been started**, and has read what was stored then. -/
theorem underWay_from (inp : Nat → SystemEvent) (n : Nat) {name : String} {u : UnderWay}
    (h : (systemAt inp n).underWay name = some u) :
    ∃ k < n, ∃ i, inp k = .machine i ∧ i.mn.name = name ∧
      u = ((systemAt inp k).machines name).underWay i := by
  induction n with
  | zero => cases h
  | succ n ih =>
    rw [systemAt_succ] at h
    rcases underWay_step h with hbefore | ⟨i, hev, hname, hu⟩
    · obtain ⟨k, hk, hfrom⟩ := ih hbefore
      exact ⟨k, Nat.lt_succ_of_lt hk, hfrom⟩
    · exact ⟨n, Nat.lt_succ_self n, i, hev, hname, hu⟩

/-- **What is assumed of a run**: a pool reads statuses of other pools that were
stored at some time, however old, and nobody but the two controllers writes
decisions. -/
def ReadsStored (inp : Nat → SystemEvent) : Prop :=
  ∀ k, match inp k with
    | .decision i _ _ _ _ =>
      ∀ q ∈ i.cluster.pools, ∃ j ≤ k, q.status = readStatus ((systemAt inp j).pools q.name)
    | .machine i => i.edit.decision = none
    | _ => True

/-! ## §2. What a pool publishes. -/

/-- The pool has found the machine fit to go: `Auto`, online and with no pod that
blocks it, in a pool with more machines on than it must keep. -/
def PoolSnapshot.LetsGo (s : PoolSnapshot) (name : String) : Prop :=
  (∃ m ∈ s.members, m.name = name ∧ m.auto = true ∧ m.state = .online ∧ m.blockingPods = []) ∧
    s.spec.minOnline < s.onlineNow

/-- A machine said to be releasable is let go. -/
theorem PoolSnapshot.letsGo_of_releasable {s : PoolSnapshot} (hd : s.DistinctMembers)
    {name : String} (h : name ∈ s.releasable) : s.LetsGo name := by
  obtain ⟨m, hcand, hname, hheld⟩ := mem_releasable.mp h
  obtain ⟨hmem, hauto, honline⟩ := mem_candidates.mp hcand
  obtain ⟨-, -, hmin⟩ := held_eq_none.mp hheld
  exact ⟨⟨m, hmem, hname, hauto, honline, blockingPods_of_not_held hd hcand hheld⟩, hmin⟩

/-- A machine powered off is let go. -/
theorem PoolSnapshot.letsGo_of_powerOff {s : PoolSnapshot} (hd : s.DistinctMembers)
    {name : String} (h : name ∈ s.powerOff.map (·.1)) : s.LetsGo name := by
  have hoff : name ∈ s.powerOffNames := List.mem_toFinset.mpr h
  obtain ⟨-, m, hm, hname, -⟩ := mem_powerOff hoff
  obtain ⟨hcand, helig⟩ := mem_eligible.mp hm
  obtain ⟨hmem, hauto, honline⟩ := mem_candidates.mp hcand
  refine ⟨⟨m, hmem, hname, hauto, honline, blockingPods_of_isEligible hd hcand helig⟩, ?_⟩
  -- some machine goes, so the pool is above what it must keep
  have hcard := (powerOff_card_le (s := s)).2
  have hpos : 0 < s.powerOffNames.card := Finset.card_pos.mpr ⟨name, hoff⟩
  omega

/-- Where the releasable machines are stored. -/
theorem lookup_releasable (st : NodeScalingPoolStatus) :
    lookup "releasable" st.toFields = listField strJson st.releasable := by
  refine Lib.Json.lookup_present st.entries_distinct ?_
  simp [NodeScalingPoolStatus.entries]

/-- What is read of a list that is written. -/
theorem readList_listField {j : Json} {k : String} {l : List String}
    (h : get? j k = listField strJson l) : readList HardwareAutoscaler.asStr j k = l := by
  unfold readList
  rw [h]
  unfold listField
  cases l with
  | nil => rfl
  | cons x l =>
    show List.filterMap HardwareAutoscaler.asStr ((x :: l).map strJson) = x :: l
    rw [List.filterMap_map]
    exact List.filterMap_some

/-- A patch stores the new list or leaves the stored one, however old the status
it was made from. -/
theorem releasable_patchStatusDiff (stored : Json) (old new : NodeScalingPoolStatus) :
    (NodeScalingPoolStatus.ofJson (patchStatusDiff stored old.toFields new.toFields)).releasable
        = new.releasable ∨
      (NodeScalingPoolStatus.ofJson (patchStatusDiff stored old.toFields new.toFields)).releasable
        = (NodeScalingPoolStatus.ofJson stored).releasable := by
  have hkey := get?_patchStatusDiff stored old.toFields new.toFields "releasable"
  rw [Lib.Json.lookup_mergeFields_mergeDiff _ old.toFields_distinct new.toFields_distinct,
    lookup_releasable, lookup_releasable] at hkey
  have hkeep : get? (patchStatusDiff stored old.toFields new.toFields) "releasable"
      = get? stored "releasable" →
      readList HardwareAutoscaler.asStr (patchStatusDiff stored old.toFields new.toFields)
        "releasable" = readList HardwareAutoscaler.asStr stored "releasable" := by
    intro hsame
    unfold readList
    rw [hsame]
  cases hnew : listField strJson new.releasable with
  | none =>
    rw [hnew] at hkey
    simp only at hkey
    split at hkey
    · exact Or.inl (readList_listField (hkey.trans hnew.symm))
    · exact Or.inr (hkeep hkey)
  | some v =>
    rw [hnew] at hkey
    simp only at hkey
    split at hkey
    · exact Or.inr (hkeep hkey)
    · refine Or.inl (readList_listField (hkey.trans (Eq.trans ?_ hnew.symm)))
      -- a list replaces what is stored
      unfold listField at hnew
      split at hnew
      · cases hnew
      · cases hnew
        simp [Lib.Json.merged, Lib.Json.mergePatch]

/-- What a cycle publishes is its plan's. -/
theorem releasable_of_status {i : PoolInput} {stored : Json} {st : NodeScalingPoolStatus}
    (h : (i.reconcile stored).status = some st) :
    st.releasable = (i.snapshot stored).releasable := by
  unfold PoolInput.reconcile poolReconcile at h
  simp only at h
  split at h
  · cases h
    rfl
  · cases h

/-- **What a pool publishes as releasable it has let go**, in a cycle of its own
that stored its status. -/
theorem released_from (inp : Nat → SystemEvent) (n : Nat) (pool name : String)
    (h : name ∈ (systemAt inp n).releasable pool) :
    ∃ k < n, ∃ i stored, inp k = .poolStatus i stored ∧ i.pool.name = pool ∧
      (i.snapshot stored).LetsGo name := by
  have hnone : ¬ name ∈ (systemAt inp 0).releasable pool := List.not_mem_nil
  obtain ⟨k, hk, hnot, hsince⟩ := Lib.exists_last_entry
    (fun j => name ∈ (systemAt inp j).releasable pool) hnone n h
  refine ⟨k, hk, ?_⟩
  -- event `k` put the name there
  have hput := hsince (k + 1) (Nat.lt_succ_self k) hk
  rw [systemAt_succ] at hput
  unfold SystemState.releasable at hput hnot
  rcases pools_step (systemAt inp k) (inp k) pool with
    hsame | ⟨i, stored, st, hev, hpool, hst, hpatch⟩ | hgone
  · rw [hsame] at hput
    exact absurd hput hnot
  -- its own cycle, whose plan lists the name unless it was listed before
  · refine ⟨i, stored, hev, hpool, ?_⟩
    rw [hpatch] at hput
    rcases releasable_patchStatusDiff ((systemAt inp k).pools pool)
      (NodeScalingPoolStatus.ofJson stored) st with hnew | hold
    · rw [hnew, releasable_of_status hst] at hput
      exact PoolSnapshot.letsGo_of_releasable (snapshot_distinct _ _ _ _) hput
    · rw [hold] at hput
      exact absurd hput hnot
  · rw [hgone] at hput
    cases hput

/-- What a status that was read lists as releasable was stored so. -/
theorem releasable_readStatus (stored : Json) :
    ((readStatus stored).getD {}).releasable
      = (NodeScalingPoolStatus.ofJson stored).releasable := by
  cases stored with
  | null => rfl
  | _ => rfl

/-! ## §3. What a decision comes from. -/

/-- A power action among a plan's decisions is one of its two lists. -/
theorem PoolSnapshot.mem_of_decision {s : PoolSnapshot} {d : PlannedDecision}
    (hd : d ∈ s.decisions) (hact : d.action ≠ .noAction) :
    (d.action = .powerOn ∧ d.node.getD "" ∈ s.powerOn.map (·.1)) ∨
      (d.action = .powerOff ∧ d.node.getD "" ∈ s.powerOff.map (·.1)) := by
  unfold PoolSnapshot.decisions at hd
  simp only at hd
  split at hd
  · rcases List.mem_append.mp hd with hon | hoff
    · obtain ⟨e, he, rfl⟩ := List.mem_map.mp hon
      exact Or.inl ⟨rfl, List.mem_map_of_mem he⟩
    · obtain ⟨e, he, rfl⟩ := List.mem_map.mp hoff
      exact Or.inr ⟨rfl, List.mem_map_of_mem he⟩
  · rw [List.mem_singleton.mp hd] at hact
    exact absurd rfl hact

/-- **A decision that is written was planned**, by the pool it names. -/
theorem planned_of_written {i : PoolInput} {stored : Json} {name : String} {dec : ScalingDecision}
    (h : (name, dec) ∈ (i.reconcile stored).written) :
    dec.pool = i.pool.name ∧
      ((dec.target = .on ∧ name ∈ (i.snapshot stored).powerOn.map (·.1)) ∨
        (dec.target = .off ∧ name ∈ (i.snapshot stored).powerOff.map (·.1))) := by
  unfold PoolInput.reconcile at h
  rw [written_poolReconcile] at h
  obtain ⟨d, hd, t, hdec⟩ := mem_writeDecisions h
  have hmem : d ∈ (i.snapshot stored).decisions := mem_recordDecisions hd
  unfold decisionFor at hdec
  cases ha : d.action with
  | powerOn =>
    rw [ha] at hdec
    cases hdec
    rcases PoolSnapshot.mem_of_decision hmem (by rw [ha]; decide) with ⟨-, hin⟩ | ⟨hoff, -⟩
    · exact ⟨rfl, Or.inl ⟨rfl, hin⟩⟩
    · rw [ha] at hoff
      cases hoff
  | powerOff =>
    rw [ha] at hdec
    cases hdec
    rcases PoolSnapshot.mem_of_decision hmem (by rw [ha]; decide) with ⟨hon, -⟩ | ⟨-, hin⟩
    · rw [ha] at hon
      cases hon
    · exact ⟨rfl, Or.inr ⟨rfl, hin⟩⟩
  | noAction =>
    rw [ha] at hdec
    cases hdec

/-- A reconcile reads the decision that is stored. -/
theorem old_decided {inp : Nat → SystemEvent} (hinp : ReadsStored inp) {n : Nat} {i : MachineInput}
    (hn : inp n = .machine i) :
    (((systemAt inp n).machines i.mn.name).old i).scalingDecision
      = (systemAt inp n).decided i.mn.name := by
  have hread := hinp n
  rw [hn] at hread
  show i.edit.decision.getD _ = _
  rw [show i.edit.decision = none from hread]
  rfl

/-- What a patch changes a decision to, the reconcile has decided itself. -/
theorem decided_of_patch {w : MachineState} {i : MachineInput} {dec : ScalingDecision}
    {live : NodePowerManagementConfigStatus}
    (h : ((w.underWay i).patch live).scalingDecision = some dec)
    (hlive : live.scalingDecision ≠ some dec) : w.GaveUpDrain i dec := by
  unfold MachineState.underWay UnderWay.patch at h
  cases hst : (w.cycle i).status with
  | none =>
    rw [hst] at h
    exact absurd h hlive
  | some new =>
    rw [hst] at h
    unfold patchedOver at h
    simp only at h
    split at h
    · exact absurd h hlive
    · rename_i hchanged
      have hstored : (machineStep w i).stored.scalingDecision = some dec := by
        unfold machineStep
        rw [hst]
        exact h
      rcases MachineState.stored_decision hstored with hold | hgave
      · exact absurd (h.trans hold.symm) hchanged
      · exact hgave

/-- **A stored decision and who wrote it**: a pool's cycle, or the machine itself
when it gave a drain up; and it has been stored ever since. -/
theorem decided_from {inp : Nat → SystemEvent} (hinp : ReadsStored inp) (n : Nat) (name : String)
    (dec : ScalingDecision) (h : (systemAt inp n).decided name = some dec) :
    ∃ k < n, (∀ j, k < j → j ≤ n → (systemAt inp j).decided name = some dec) ∧
      ((∃ i stored hmem, inp k = .decision i stored name dec hmem) ∨
        inp k = .machinePatched name ∧ ∃ j < k, ∃ i, inp j = .machine i ∧ i.mn.name = name ∧
          ((systemAt inp j).machines name).GaveUpDrain i dec) := by
  have hnone : ¬ (systemAt inp 0).decided name = some dec := by
    intro hf
    cases hf
  obtain ⟨k, hk, hnot, hsince⟩ := Lib.exists_last_entry
    (fun j => (systemAt inp j).decided name = some dec) hnone n h
  refine ⟨k, hk, hsince, ?_⟩
  have hput := hsince (k + 1) (Nat.lt_succ_self k) hk
  rw [systemAt_succ] at hput
  rcases decided_step (systemAt inp k) (inp k) name with
    hsame | ⟨i, stored, dec', hmem, hev, hwritten⟩ | ⟨i, hev, rfl, hstarted⟩ |
      ⟨u, hev, hunder, hpatched⟩ | hgone
  · rw [hsame] at hput
    exact absurd hput hnot
  · rw [hwritten] at hput
    cases hput
    exact Or.inl ⟨i, stored, hmem, hev⟩
  -- a reconcile starts with what is stored
  · rw [hstarted, old_decided hinp hev] at hput
    exact absurd hput hnot
  · rw [hpatched] at hput
    obtain ⟨j, hj, i, hstart, hname, rfl⟩ := underWay_from inp k hunder
    exact Or.inr ⟨hev, j, hj, i, hstart, hname, decided_of_patch hput hnot⟩
  · rw [hgone] at hput
    cases hput

/-- A pool that a decision's cycle saw selecting the machine has let it go in a
cycle of its own. -/
theorem agreed {inp : Nat → SystemEvent} (hinp : ReadsStored inp) {k : Nat} {p : PoolInput}
    {stored : Json} {name : String} {dec : ScalingDecision}
    {hmem : (name, dec) ∈ (p.reconcile stored).written}
    (hk : inp k = .decision p stored name dec hmem)
    (hoff : name ∈ (p.snapshot stored).powerOff.map (·.1)) {q : NodeScalingPool}
    (hq : q ∈ p.cluster.pools) (hne : q.name ≠ p.pool.name) {mn : NodePowerManagementConfig}
    (hmn : mn ∈ p.cluster.configs) (hname : mn.name = name)
    (hsel : p.cluster.selectedBy q mn.spec.nodeName = true) :
    ∃ j < k, ∃ i stored', inp j = .poolStatus i stored' ∧ i.pool.name = q.name ∧
      (i.snapshot stored').LetsGo name := by
  obtain ⟨mn', hmn', -, -, hname', -, -, hnone⟩ := powerOff_source (List.mem_toFinset.mpr hoff)
  -- machines of one name are one
  have hsame : mn' = mn := List.inj_on_of_nodup_map p.cluster.configs_distinct
    (mem_managed.mp hmn').1 hmn (hname'.trans hname.symm)
  subst hsame
  obtain ⟨st, hst, hrel⟩ := released_by_others hnone hq hne hsel
  have hread := hinp k
  rw [hk] at hread
  -- what it saw of the other pool was stored at some time `j`
  obtain ⟨j, hj, hstatus⟩ := hread q hq
  have hstored : name ∈ (systemAt inp j).releasable q.name := by
    have hgot : ((readStatus ((systemAt inp j).pools q.name)).getD {}).releasable
        = st.releasable := by
      rw [← hstatus, hst]
      rfl
    rw [releasable_readStatus] at hgot
    unfold SystemState.releasable
    rw [hgot, ← hname]
    exact hrel
  obtain ⟨l, hl, i, stored', hev, hpool, hgo⟩ := released_from inp j q.name name hstored
  exact ⟨l, Nat.lt_of_lt_of_le hl hj, i, stored', hev, hpool, hgo⟩

/-! ## §4. What is done to a machine. -/

/-- **No machine is switched off unless every pool has let it go**, in any
interleaving of the reconciles of any pools and machines, with stores however
old: whenever an `Auto` machine that reads On with a Ready Node is cordoned,
drained or switched off, a pool it is in has decided so, the decision has been
stored since, and that pool and every other one it saw selecting the machine
have let it go, each in a cycle of its own. -/
theorem turned_off_by_agreement {inp : Nat → SystemEvent} (hinp : ReadsStored inp) {n : Nat}
    {i : MachineInput} (hn : inp n = .machine i) (hauto : i.mn.spec.powerPolicy = .auto)
    {d : MachineInput.Reading}
    (hd : ((systemAt inp n).machines i.mn.name).reading i = some d)
    (hon : d.fresh.powerState = .on) (hready : d.fresh.nodeReady = true) {e : Effect}
    (he : e ∈ (((systemAt inp n).machines i.mn.name).cycle i).effects) (hoff : e.turnsOff = true) :
    ∃ k < n, ∃ p stored dec hmem, inp k = .decision p stored i.mn.name dec hmem ∧
      dec.target = .off ∧ p.pool.name ∈ i.membership.pools ∧
      (∀ j, k < j → j ≤ n → (systemAt inp j).decided i.mn.name = some dec) ∧
      (p.snapshot stored).LetsGo i.mn.name ∧
      ∀ q ∈ p.cluster.pools, q.name ≠ p.pool.name →
        ∀ mn ∈ p.cluster.configs, mn.name = i.mn.name →
          p.cluster.selectedBy q mn.spec.nodeName = true →
          ∃ j < k, ∃ p' stored', inp j = .poolStatus p' stored' ∧ p'.pool.name = q.name ∧
            (p'.snapshot stored').LetsGo i.mn.name := by
  obtain ⟨dec, hdec, htarget, hpool⟩ := MachineState.decided_off hd hauto hon hready he hoff
  rw [old_decided hinp hn] at hdec
  obtain ⟨k, hk, hsince, ⟨p, stored, hmem, hev⟩ | ⟨-, _, -, _, -, -, hgave⟩⟩ :=
    decided_from hinp n i.mn.name dec hdec
  · obtain ⟨hname, ⟨hton, -⟩ | ⟨-, hplanned⟩⟩ := planned_of_written hmem
    · rw [htarget] at hton
      cases hton
    · refine ⟨k, hk, p, stored, dec, hmem, hev, htarget, ?_, hsince, ?_, ?_⟩
      · rw [← hname]
        exact hpool
      · exact PoolSnapshot.letsGo_of_powerOff (snapshot_distinct _ _ _ _) hplanned
      · intro q hq hne mn hmn hmnname hsel
        exact agreed hinp hev hplanned hq hne hmn hmnname hsel
  -- a drain that is given up decides On
  · obtain ⟨-, _, -, -, st, rfl⟩ := hgave
    cases htarget

/-- The pool over the machines labelled `pool=x`, with this status. -/
def poolOverX (name : String) (minOnline : Nat) (status : Option NodeScalingPoolStatus) :
    NodeScalingPool :=
  { overX name minOnline 1 [] with status := status }

/-- Two idle machines, both in pool `a` and in pool `b`, which has this status. -/
def sharedMachines (statusB : Option NodeScalingPoolStatus) : Cluster :=
  { sharedPair 1 [] with
    pools := [poolOverX "a" 0 none, poolOverX "b" 1 statusB]
    pools_distinct := by
      show ["a", "b"].Nodup
      decide }

/-- A cycle of a pool over these two machines. -/
def cycleOf (name : String) (minOnline : Nat) (statusB : Option NodeScalingPoolStatus)
    (now : Int) : PoolInput where
  pool := poolOverX name minOnline none
  cluster := sharedMachines statusB
  times := fun _ => ⟨now, now, now⟩
  preferredAt := now
  now := now
  api := { decideAt := fun _ => now }

/-- What `b` has stored after a cycle at 0 and one an hour later. -/
def storedB : Json :=
  poolStep (poolStep .null (cycleOf "b" 1 none 0)) (cycleOf "b" 1 none hourLater)

/-- What `a` has stored after a cycle at 0, and its next cycle, which reads what
`b` has stored. -/
def storedA : Json := poolStep .null (cycleOf "a" 0 none 0)

/-- The next cycle of pool `a`, an hour later. -/
def cycleA : PoolInput := cycleOf "a" 0 (readStatus storedB) hourLater

/-- What `a` decides for `m2`. -/
def decisionA : ScalingDecision :=
  (((cycleA.reconcile storedA).written.find? (·.1 == "m2")).map (·.2)).getD ⟨"", .on, "", 0⟩

/-- The decision is written. -/
theorem decisionA_written : ("m2", decisionA) ∈ (cycleA.reconcile storedA).written := by
  decide +kernel

/-- A reconcile of a machine whose one interface reads `power`, in pools `a` and
`b`. -/
def inBoth (name : String) (power : PowerState) (ready : String) : MachineInput where
  mn := { name := name, spec := { nodeName := name, powerInterfaces := [{ driver := "redfish" }] } }
  cluster :=
    { nodes :=
        [{ name := name
           labels := (∅ : TreeMap String String).insert "pool" "x"
           conditions := [{ type_ := "Ready", status := ready }] }]
      nodes_distinct := List.nodup_singleton _
      pools := [poolOverX "a" 0 none, poolOverX "b" 1 none]
      pools_distinct := by
        show ["a", "b"].Nodup
        decide }
  built := fun _ => .ok { powerState := .ok power }
  now := hourLater
  lookupAt := hourLater
  storeAt := hourLater

/-- `b` lets the idle machines go, `a` switches `m2` off, and `m2` is reconciled. -/
def idleTogether : Nat → SystemEvent
  | 0 => .poolStatus (cycleOf "b" 1 none 0) .null
  | 1 => .poolStatus (cycleOf "b" 1 none hourLater) (poolStep .null (cycleOf "b" 1 none 0))
  | 2 => .poolStatus (cycleOf "a" 0 none 0) .null
  | 3 => .decision cycleA storedA "m2" decisionA decisionA_written
  | _ => .machine (inBoth "m2" .on "True")

/-- A pool that reads its own status stores as it does on its own. -/
theorem pools_ownStatus (w : SystemState) (i : PoolInput) :
    (systemStep w (.poolStatus i (w.pools i.pool.name))).pools i.pool.name
      = poolStep (w.pools i.pool.name) i := by
  unfold systemStep poolStep
  cases hst : (i.reconcile (w.pools i.pool.name)).status with
  | some st => simp [hst, patchedStatus]
  | none => simp [hst]

/-- Every reconcile of the run reads what is stored. -/
theorem idleTogether_reads : ReadsStored idleTogether := by
  have hfirst : (systemAt idleTogether 1).pools "b" = poolStep .null (cycleOf "b" 1 none 0) :=
    pools_ownStatus {} (cycleOf "b" 1 none 0)
  have hsecond : (systemAt idleTogether 2).pools "b" = storedB := by
    unfold storedB
    rw [systemAt_succ, ← hfirst]
    have hevent : idleTogether 1 = .poolStatus (cycleOf "b" 1 none hourLater)
        ((systemAt idleTogether 1).pools "b") := by
      rw [hfirst]
      rfl
    rw [hevent]
    exact pools_ownStatus (systemAt idleTogether 1) (cycleOf "b" 1 none hourLater)
  intro k
  match k with
  | 0 | 1 | 2 => trivial
  | 3 =>
    refine List.forall_mem_cons.mpr ⟨⟨0, by omega, rfl⟩, List.forall_mem_singleton.mpr ?_⟩
    exact ⟨2, by omega, by rw [show (poolOverX "b" 1 _).name = "b" from rfl, hsecond]; rfl⟩
  | _ + 4 => rfl

/-- `m2` is cordoned, and `a` and `b` have let it go. -/
theorem cordoned_by_agreement :
    Effect.cordon ∈
        (((systemAt idleTogether 4).machines "m2").cycle (inBoth "m2" .on "True")).effects ∧
    ∃ k < 4, ∃ p stored dec hmem, idleTogether k = .decision p stored "m2" dec hmem ∧
      dec.target = .off ∧ (p.snapshot stored).LetsGo "m2" := by
  have hreading : (((systemAt idleTogether 4).machines "m2").reading (inBoth "m2" .on "True")).map
      (fun d => (d.fresh.powerState, d.fresh.nodeReady)) = some (.on, true) := by decide +kernel
  have hcordon : Effect.cordon ∈
      (((systemAt idleTogether 4).machines "m2").cycle (inBoth "m2" .on "True")).effects := by
    decide +kernel
  obtain ⟨d, hd, hboth⟩ := Option.map_eq_some_iff.mp hreading
  obtain ⟨hon, hready⟩ := Prod.mk.inj hboth
  obtain ⟨k, hk, p, stored, dec, hmem, hev, htarget, -, -, hgo, -⟩ :=
    turned_off_by_agreement idleTogether_reads (n := 4) rfl rfl hd hon hready hcordon rfl
  exact ⟨hcordon, k, hk, p, stored, dec, hmem, hev, htarget, hgo⟩

/-- **No machine is switched on but by a decision**: whenever an `Auto` machine
is powered on, in any interleaving, either a pool it is in has planned to power
it on, having found it `Auto` and off, or the machine itself has given a drain
up; and that decision has been stored since. -/
theorem woken_by_decision {inp : Nat → SystemEvent} (hinp : ReadsStored inp) {n : Nat}
    {i : MachineInput} (hn : inp n = .machine i) (hauto : i.mn.spec.powerPolicy = .auto)
    (hon : PowerAction.powerOn ∈ ((systemAt inp n).machines i.mn.name).actions i) :
    ∃ k < n, ∃ dec, dec.target = .on ∧ dec.pool ∈ i.membership.pools ∧
      (∀ j, k < j → j ≤ n → (systemAt inp j).decided i.mn.name = some dec) ∧
      ((∃ p stored hmem, inp k = .decision p stored i.mn.name dec hmem ∧ p.pool.name = dec.pool ∧
          ∃ m ∈ (p.snapshot stored).members, m.name = i.mn.name ∧ m.auto = true ∧
            m.state = .offline) ∨
        inp k = .machinePatched i.mn.name ∧ ∃ j < k, ∃ i', inp j = .machine i' ∧
          i'.mn.name = i.mn.name ∧
          ((systemAt inp j).machines i.mn.name).GaveUpDrain i' dec) := by
  cases hread : ((systemAt inp n).machines i.mn.name).reading i with
  | none =>
    rw [MachineState.actions_of_stopped hread] at hon
    cases hon
  | some d =>
    obtain ⟨dec, hdec, htarget, hpool⟩ := MachineState.decided_on hread hauto hon
    rw [old_decided hinp hn] at hdec
    obtain ⟨k, hk, hsince, hfrom⟩ := decided_from hinp n i.mn.name dec hdec
    refine ⟨k, hk, dec, htarget, hpool, hsince, ?_⟩
    rcases hfrom with ⟨p, stored, hmem, hev⟩ | hgave
    · obtain ⟨hname, ⟨-, hplanned⟩ | ⟨htoff, -⟩⟩ := planned_of_written hmem
      · exact Or.inl ⟨p, stored, hmem, hev, hname.symm, PoolSnapshot.mem_powerOn hplanned⟩
      · rw [htarget] at htoff
        cases htoff
    · exact Or.inr hgave

/-- A machine that is off, in a pool that keeps one on. -/
def oneToKeep : PoolInput where
  pool := poolOverX "b" 1 none
  cluster :=
    { nodes := [{ name := "m1", labels := (∅ : TreeMap String String).insert "pool" "x" }]
      nodes_distinct := List.nodup_singleton _
      configs :=
        [{ name := "m1"
           spec := { nodeName := "m1", powerInterfaces := [] }
           status := some { phase := .off } }]
      configs_distinct := List.nodup_singleton _
      pools := [poolOverX "b" 1 none]
      pools_distinct := List.nodup_singleton _ }
  times := hourTimes
  preferredAt := hourLater
  now := hourLater
  api := { decideAt := fun _ => hourLater }

/-- The decision that the pool wrote. -/
def decisionOn : ScalingDecision :=
  (((oneToKeep.reconcile .null).written.find? (·.1 == "m1")).map (·.2)).getD ⟨"", .on, "", 0⟩

/-- The decision is written. -/
theorem decisionOn_written : ("m1", decisionOn) ∈ (oneToKeep.reconcile .null).written := by
  decide +kernel

/-- `b` wakes `m1`. -/
def wakes : Nat → SystemEvent
  | 0 => .decision oneToKeep .null "m1" decisionOn decisionOn_written
  | _ => .machine (inBoth "m1" .off "False")

/-- Every reconcile of the run reads what is stored. -/
theorem wakes_reads : ReadsStored wakes := by
  intro k
  match k with
  | 0 => exact List.forall_mem_singleton.mpr ⟨0, Nat.le_refl 0, rfl⟩
  | _ + 1 => rfl

/-- A machine is woken by the decision of its pool. -/
theorem woken_by_pool :
    ∃ k < 1, ∃ dec : ScalingDecision, dec.target = .on ∧
      (systemAt wakes (k + 1)).decided "m1" = some dec := by
  have hon : PowerAction.powerOn ∈
      ((systemAt wakes 1).machines "m1").actions (inBoth "m1" .off "False") := by decide +kernel
  obtain ⟨k, hk, dec, htarget, -, hsince, -⟩ :=
    woken_by_decision wakes_reads (n := 1) rfl rfl hon
  exact ⟨k, hk, dec, htarget, hsince (k + 1) (Nat.lt_succ_self k) hk⟩

end HardwareAutoscaler
