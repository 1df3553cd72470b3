/-
  HardwareAutoscaler.Controller.Backoff
  ─────────────────────────────────────
  NOT WOKEN AGAIN AFTER A FAILED BOOT.

  The machine controller records the boot failure; the pool controller reads it
  and leaves the machine out of its plan for `bootFailureBackoffSeconds`.  A
  failure under `AlwaysOn` or `AlwaysOff` is recorded as one that leaves the
  machine on, and replaces the one before: the backoff of that one is lost.

    • `classify_ne_offline` — a failure recorded in the backoff, on the pool's
      side,
    • `HeldFrom` / `heldFrom_step` — the failure in the status, and what one
      reconcile makes of it,
    • `backoff_kept` — the backoff over a whole run,
    • `backoff_cut_short` — a second failure that ends it.
-/
import HardwareAutoscaler.Controller.Machine.BootFailures
import HardwareAutoscaler.Controller.Pool.LeftAlone
import HardwareAutoscaler.Controller.Pool.Reconcile
import HardwareAutoscaler.Scaling.Bounds

namespace HardwareAutoscaler

/-! ## §1. The pool. -/

section Pool

variable {st : NodePowerManagementConfigStatus} {base : MemberState}
  {policy : ManualPowerOnPolicy} {spec : NodeScalingPoolSpec} {boot cooldown : UInt64} {now : Int}

/-- The failure stored holds the machine back at `now`. -/
def HeldBack (spec : NodeScalingPoolSpec) (st : NodePowerManagementConfigStatus) (now : Int) :
    Prop :=
  ∃ f, st.bootFailure = some f ∧ f.leftOn = false ∧
    now < f.time + seconds (asI64 spec.scaleUp.bootFailureBackoffSeconds)

theorem classifyOffline_held (h : HeldBack spec st now) :
    (classifyOffline st spec cooldown now).state = some .unavailable := by
  obtain ⟨f, hf, hoff, hnow⟩ := h
  have hfilter : st.bootFailure.filter (fun f => !f.leftOn &&
      decide (now < f.time + seconds (asI64 spec.scaleUp.bootFailureBackoffSeconds))) = some f := by
    rw [hf, Option.filter_some, if_pos (by simp [hoff, hnow])]
  unfold classifyOffline
  simp only
  rw [hfilter]

/-- A manual power-on never makes a machine count as off. -/
theorem classifyManualOn_ne_offline (on : ManualPowerChange) (hbase : base ≠ .offline) :
    (classifyManualOn st on policy spec).state.getD base ≠ .offline := by
  unfold classifyManualOn
  cases policy with
  | leaveOn => cases st.nodeReady <;> simp
  | adopt => exact hbase
  | powerOff => exact hbase

/-- **In the backoff no machine counts as off**, whatever its phase and
decision. -/
theorem classify_ne_offline (h : HeldBack spec st now) :
    (classify st base policy spec boot cooldown now).state.getD base ≠ .offline := by
  by_cases hfailed : HeldByFailure st
  · rw [(classify_failed hfailed).1]
    simp
  rw [classify_of_not_failed hfailed]
  by_cases hbase : base = .offline
  · rw [if_pos hbase, classifyOffline_held h]
    simp
  · rw [if_neg hbase]
    cases st.manualPowerOn with
    | none => exact hbase
    | some on => exact classifyManualOn_ne_offline on hbase

/-- **The plan of a pool leaves out a machine in its backoff.** -/
theorem not_powerOn_of_held {pool : NodeScalingPool} {c : Cluster} {times : String → BuildTimes}
    {now : Int} {mn : NodePowerManagementConfig} (hmn : mn ∈ c.configs)
    (h : HeldBack pool.spec (mn.status.getD {}) (times mn.name).classify) :
    mn.name ∉ (plan (snapshot pool c times now)).powerOn.map (·.1) := by
  intro hon
  obtain ⟨m, hm, hname, _, hoff⟩ := PoolSnapshot.mem_powerOn hon
  obtain ⟨mn', hmn', hbuilt⟩ := mem_members_snapshot.mp hm
  -- names are unique: the member is that of the machine
  have hsame : mn' = mn := by
    refine List.inj_on_of_nodup_map c.configs_distinct (mem_managed.mp hmn').1 hmn ?_
    rw [← (buildMember_spec hbuilt).1, hname]
  rw [hsame] at hbuilt
  rw [(buildMember_state hbuilt).1] at hoff
  exact classify_ne_offline h hoff

end Pool

/-! ## §2. The machine. -/

/-- The status holds a failure of `t` or later that does not leave the machine
on. -/
def HeldFrom (t : Int) (st : NodePowerManagementConfigStatus) : Prop :=
  ∃ f, st.bootFailure = some f ∧ f.leftOn = false ∧ t ≤ f.time

/-- Reconcile `j` sees the Node Ready, or the machine switched on by hand. -/
def Releases (inp : Nat → MachineInput) (j : Nat) : Bool :=
  ((machineAt inp j).reading (inp j)).any (fun d =>
    d.fresh.nodeReady || d.change (inp j) ((machineAt inp j).old (inp j)) == .poweredOn)

/-- Reconcile `j` finds that a boot failed, and leaves the machine on. -/
def LeavesOnFailed (inp : Nat → MachineInput) (j : Nat) : Bool :=
  ((machineAt inp j).reading (inp j)).any (fun d =>
    (d.tracked (inp j) ((machineAt inp j).old (inp j))).2 == .failed &&
      bootFailureLeavesOn (d.start (inp j) ((machineAt inp j).old (inp j)))
        (inp j).mn.spec.powerPolicy (d.machine (inp j)).manualPolicy)

section Step

variable {inp : Nat → MachineInput} {n : Nat} {t : Int} {d : MachineInput.Reading}

/-- A failure that tracking the boot leaves, and that does not leave the
machine on, is there when the state machine starts. -/
theorem start_of_tracked {w : MachineState} {i : MachineInput} {f : BootFailure}
    (h : (d.tracked i (w.old i)).1.bootFailure = some f) (hoff : f.leftOn = false)
    (hchange : d.change i (w.old i) ≠ .poweredOn) :
    (d.start i (w.old i)).bootFailure = some f := by
  unfold MachineInput.Reading.start
  cases hc : d.change i (w.old i) with
  | none => exact h
  | poweredOn => exact absurd hc hchange
  | poweredOff =>
    unfold Reconciler.manualChange
    simp only
    rw [h]
    simp [hoff]

/-- **One reconcile that got to its state machine.** -/
theorem HeldFrom.settle (h : HeldFrom t (machineAt inp n).stored) (hclock : t ≤ (inp n).now)
    (hrel : Releases inp n = false) (hleaves : LeavesOnFailed inp n = false)
    (hd : (machineAt inp n).reading (inp n) = some d) :
    HeldFrom t ((inp n).settle ((machineAt inp n).old (inp n)) d).1.st := by
  unfold Releases at hrel
  rw [hd, Option.any_some, Bool.or_eq_false_iff] at hrel
  have hready : d.fresh.nodeReady = false := hrel.1
  have hchange : d.change (inp n) ((machineAt inp n).old (inp n)) ≠ .poweredOn := by
    simpa using hrel.2
  by_cases hfailed : (d.tracked (inp n) ((machineAt inp n).old (inp n))).2 = .failed
  -- a newer failure: it takes the place of the old one
  · have hleave : bootFailureLeavesOn (d.start (inp n) ((machineAt inp n).old (inp n)))
        (inp n).mn.spec.powerPolicy (d.machine (inp n)).manualPolicy = false := by
      unfold LeavesOnFailed at hleaves
      rw [hd, Option.any_some, hfailed] at hleaves
      simpa using hleaves
    have hstart := start_of_tracked (trackBoot_failed hfailed).2.2 rfl hchange
    refine ⟨{ time := (inp n).now, leftOn := false }, ?_, rfl, hclock⟩
    rw [MachineInput.settle_failed hfailed]
    unfold Reconciler.failedBoot
    simp only [hstart, Option.map_some]
    exact congrArg (fun leave => some (BootFailure.mk (inp n).now leave)) hleave
  · obtain ⟨f, hf, hoff, hle⟩ := h
    have htracked : (d.tracked (inp n) ((machineAt inp n).old (inp n))).1.bootFailure = some f := by
      obtain ⟨_, _, _, _, hseen⟩ := MachineState.seenOff_stored hd
      rw [← hf, ← hseen]
      exact trackBoot_kept (by simpa using hready) hfailed
    have hstart := start_of_tracked htracked hoff hchange
    rcases MachineState.settle_boot hd with ⟨hf', _⟩ | ⟨_, _, hkept⟩ | ⟨_, _, _, hnow, _⟩
    · exact absurd hf' hfailed
    · exact ⟨f, by rw [hkept, hstart], hoff, hle⟩
    -- a power-on was released: its failure is recorded now
    · exact ⟨_, hnow, rfl, hclock⟩

/-- **One reconcile keeps the backoff**: it leaves the failure as it is, or
records a newer one. -/
theorem heldFrom_step (h : HeldFrom t (machineAt inp n).stored) (hclock : t ≤ (inp n).now)
    (hrel : Releases inp n = false) (hleaves : LeavesOnFailed inp n = false) :
    HeldFrom t (machineAt inp (n + 1)).stored := by
  rw [machineAt_succ]
  rcases (machineAt inp n).step_stored (inp n) with ⟨_, hstored⟩ | ⟨e, he, hstored⟩ |
    ⟨d, hd, _, hstored⟩
  · rw [hstored]
    exact h
  · obtain ⟨_, _, _, _, _, _, _, heq, _⟩ := MachineInput.stopped_frame he
    have hsame : e.st.bootFailure = (machineAt inp n).stored.bootFailure := by
      rw [heq]
      rfl
    obtain ⟨f, hf, hoff, hle⟩ := h
    rw [hstored]
    exact ⟨f, hsame.trans hf, hoff, hle⟩
  · rw [hstored]
    exact h.settle hclock hrel hleaves hd

end Step

/-! ## §3. A run. -/

/-- Reconcile `k` records the boot failure `f`, which does not leave the machine
on. -/
structure RecordsFailure (inp : Nat → MachineInput) (k : Nat) (f : BootFailure) : Prop where
  stored : (machineAt inp (k + 1)).stored.bootFailure = some f
  time : f.time = (inp k).now
  leftOn : f.leftOn = false

/-- Between reconciles `k` and `n` the clock has not gone back behind `k`,
nothing released the machine, and no failed boot left it on. -/
structure Undisturbed (inp : Nat → MachineInput) (k n : Nat) : Prop where
  clock : ∀ j, k < j → j < n → (inp k).now ≤ (inp j).now
  unreleased : ∀ j, k < j → j < n → Releases inp j = false
  notLeftOn : ∀ j, k < j → j < n → LeavesOnFailed inp j = false

/-- **A failure recorded stays, or gives way to a newer one.** -/
theorem heldFrom_run {inp : Nat → MachineInput} {k : Nat} {f : BootFailure}
    (hrec : RecordsFailure inp k f) (n : Nat) (hkn : k < n) (h : Undisturbed inp k n) :
    HeldFrom f.time (machineAt inp n).stored := by
  induction n, hkn using Nat.le_induction with
  | base => exact ⟨f, hrec.stored, hrec.leftOn, le_refl _⟩
  | succ n hkn ih =>
    have hbefore : Undisturbed inp k n :=
      ⟨fun j hkj hjn => h.clock j hkj (by omega), fun j hkj hjn => h.unreleased j hkj (by omega),
        fun j hkj hjn => h.notLeftOn j hkj (by omega)⟩
    refine heldFrom_step (ih hbefore) ?_ (h.unreleased n hkn (by omega))
      (h.notLeftOn n hkn (by omega))
    rw [hrec.time]
    exact h.clock n hkn (by omega)

/-- **A machine whose boot failed is not woken again in the backoff**, through
any later reconciles in which its Node is not Ready, no one switches it on and
no failed boot leaves it on: the status keeps this failure or a newer one, and
no plan of a pool powers the machine on in `bootFailureBackoffSeconds` from
it. -/
theorem backoff_kept (inp : Nat → MachineInput) (k n : Nat) (f : BootFailure)
    (hrec : RecordsFailure inp k f) (hkn : k < n) (hrun : Undisturbed inp k n) :
    ∃ f', (machineAt inp n).stored.bootFailure = some f' ∧ f.time ≤ f'.time ∧
      ∀ (pool : NodeScalingPool) (c : Cluster) (times : String → BuildTimes) (now : Int),
        pool.spec.scaleUp.bootFailureBackoffSeconds.toNat < 2 ^ 63 →
        ∀ mn ∈ c.configs, mn.status = some (machineAt inp n).stored →
          (times mn.name).classify
              < f'.time + seconds pool.spec.scaleUp.bootFailureBackoffSeconds.toNat →
          mn.name ∉ (plan (snapshot pool c times now)).powerOn.map (·.1) := by
  obtain ⟨f', hf', hoff, hle⟩ := heldFrom_run hrec n hkn hrun
  refine ⟨f', hf', hle, ?_⟩
  intro pool c times now hfits mn hmn hstatus hnow
  apply not_powerOn_of_held hmn
  refine ⟨f', ?_, hoff, ?_⟩
  · rw [hstatus]
    exact hf'
  · rw [asI64_of_lt hfits]
    exact hnow

/-! ## §4. A failure that leaves the machine on. -/

/-- A machine whose boot fails at 400 s.  It is set to `AlwaysOn` for a while, is
started again, and fails again at 1100 s; at 1200 s it is set back to `Auto` and
found off. -/
def overriddenMeanwhile (n : Nat) : MachineInput where
  mn :=
    { name := "m1"
      spec :=
        { nodeName := "m1"
          powerPolicy := if n = 3 ∨ n = 4 ∨ n = 5 then .alwaysOn else .auto
          powerInterfaces := [{ driver := "redfish" }]
          lifecycle := { bootTimeoutSeconds := some 300 }
          manualPowerOnPolicy := some .adopt } }
  cluster :=
    { nodes := [{ pooledNode false with conditions := [{ type_ := "Ready", status := "False" }] }]
      pools := [poolA]
      nodes_distinct := notReady_distinct
      pools_distinct := poolA_distinct }
  built := fun _ => .ok { powerState := .ok (if n = 2 ∨ n = 3 ∨ n = 6 then .off else .on) }
  now := seconds ([0, 400, 500, 600, 700, 1100, 1200].getD n 0)
  lookupAt := seconds ([0, 400, 500, 600, 700, 1100, 1200].getD n 0)
  storeAt := seconds ([0, 400, 500, 600, 700, 1100, 1200].getD n 0)

/-- Pool `a`, which keeps one machine on. -/
def onePool : NodeScalingPool := { poolA with spec := { poolA.spec with minOnline := 1 } }

theorem onePool_distinct : ([onePool].map (·.name)).Nodup := List.nodup_singleton _

/-- The machine, with the status it has before reconcile `n`. -/
def overriddenMachine (n : Nat) : NodePowerManagementConfig :=
  { (overriddenMeanwhile 0).mn with status := some (machineAt overriddenMeanwhile n).stored }

theorem overriddenMachine_distinct (n : Nat) : ([overriddenMachine n].map (·.name)).Nodup :=
  List.nodup_singleton _

/-- The stores of the pool controller before reconcile `n`. -/
def overriddenCluster (n : Nat) : Cluster where
  nodes := [{ pooledNode false with conditions := [{ type_ := "Ready", status := "False" }] }]
  configs := [overriddenMachine n]
  pools := [onePool]
  nodes_distinct := notReady_distinct
  configs_distinct := overriddenMachine_distinct n
  pools_distinct := onePool_distinct

/-- One cycle at `t` seconds. -/
def cycleAt (t : Nat) : BuildTimes := ⟨seconds t, seconds t, seconds t⟩

theorem records_overridden :
    RecordsFailure overriddenMeanwhile 1 { time := seconds 400 } :=
  ⟨by decide +kernel, by decide +kernel, rfl⟩

/-- Off again after its first failure, the machine is not woken at 550 s, in a
pool that is to keep one machine on. -/
theorem backoff_kept_off :
    RecordsFailure overriddenMeanwhile 1 { time := seconds 400 } ∧
    (machineAt overriddenMeanwhile 3).stored.phase = .off ∧
    "m1" ∉ (plan (snapshot onePool (overriddenCluster 3) (fun _ => cycleAt 550)
      (seconds 550))).powerOn.map (·.1) := by
  refine ⟨records_overridden, by decide +kernel, ?_⟩
  obtain ⟨f', _, hle, hout⟩ := backoff_kept overriddenMeanwhile 1 3 { time := seconds 400 }
    records_overridden (by decide) (by
      refine ⟨?_, ?_, ?_⟩
      all_goals
        intro j hkj hjn
        have hj : j = 2 := by omega
        subst hj
        decide +kernel)
  have hnow : seconds 550 < f'.time
      + seconds onePool.spec.scaleUp.bootFailureBackoffSeconds.toNat := by
    have hlast : seconds 550 < seconds 400
        + seconds onePool.spec.scaleUp.bootFailureBackoffSeconds.toNat := by
      decide
    exact lt_of_lt_of_le hlast (Int.add_le_add_right hle _)
  exact hout onePool (overriddenCluster 3) (fun _ => cycleAt 550) (seconds 550) (by decide)
    (overriddenMachine 3) (List.mem_singleton_self _) rfl hnow

/-- **The second failure ends the backoff of the first**: the machine, which failed
to boot at 400 s and was neither Ready nor switched on by hand since, is powered
on at 1300 s, before the 1800 s are over. -/
theorem backoff_cut_short :
    RecordsFailure overriddenMeanwhile 1 { time := seconds 400 } ∧
    (∀ j ∈ [2, 3, 4, 5, 6], Releases overriddenMeanwhile j = false) ∧
    (machineAt overriddenMeanwhile 6).stored.bootFailure
      = some { time := seconds 1100, leftOn := true } ∧
    seconds 1300 < seconds 400 + seconds onePool.spec.scaleUp.bootFailureBackoffSeconds.toNat ∧
    "m1" ∈ (plan (snapshot onePool (overriddenCluster 7) (fun _ => cycleAt 1300)
      (seconds 1300))).powerOn.map (·.1) :=
  ⟨records_overridden, by decide +kernel, by decide +kernel, by decide, by decide +kernel⟩

end HardwareAutoscaler
