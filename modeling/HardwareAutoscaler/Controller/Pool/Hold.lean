/-
  HardwareAutoscaler.Controller.Pool.Hold
  ───────────────────────────────────────
  THE HOLD AFTER A POWER-ON, WITH API CALLS THAT FAIL.

  A cycle writes its decisions one by one to other objects and records the
  power-on, `lastScaleUpTime`, with the rest of its own status at the end.  A
  cycle that fails in between has powered machines on and records nothing.

    • `storedScaleUp_patchedStatus` — the stored time after a status patch,
    • `powerOn_of_writesOn` / `powerOff_of_writesOff` — a decision written was
      planned,
    • `HoldRecorded` / `holdRecorded_step` — the stored time covers every
      power-on written so far, and one cycle of it,
    • `hold_respected` — no machine goes off within the hold of a decision, in
      runs whose cycles store their status once they have powered a machine on,
      and of which none starts in the lag,
    • `hold_lost` — a second decision that fails to be written loses the hold
      of the first; `hold_late` — the lag: the hold is counted from the start of
      the cycle that powers on, not from the decision.
-/
import HardwareAutoscaler.Controller.Pool.Timers
import HardwareAutoscaler.Scaling.Bounds
import HardwareAutoscaler.Scaling.OverMax

namespace HardwareAutoscaler

open Std (TreeMap)
open Lib (Json)
open Lib.Json (lookup get?)

/-! ## §1. The stored time of the last power-on. -/

/-- `status.lastScaleUpTime` as it is stored. -/
def storedScaleUp (stored : Json) : Option Int := (get? stored "lastScaleUpTime").bind asTime

/-- Where the time of the last power-on is stored. -/
theorem lookup_lastScaleUpTime (st : NodeScalingPoolStatus) :
    lookup "lastScaleUpTime" st.toFields = st.lastScaleUpTime.map timeJson := by
  refine Lib.Json.lookup_present st.entries_distinct ?_
  simp [NodeScalingPoolStatus.entries]

/-- A time is read back once it is merged. -/
theorem asTime_merged (old : Option Json) (t : Int) :
    (Lib.Json.merged old (timeJson t)).bind asTime = some t := by
  unfold timeJson Lib.Json.merged
  simp [Lib.Json.mergePatch, asTime]

/-- **A patch stores the time of the new status.** -/
theorem storedScaleUp_patchedStatus (stored : Json) (new : NodeScalingPoolStatus) :
    storedScaleUp (patchedStatus stored new) = new.lastScaleUpTime := by
  have hold : (NodeScalingPoolStatus.ofJson stored).lastScaleUpTime = storedScaleUp stored := rfl
  unfold storedScaleUp patchedStatus
  rw [get?_patchStatusDiff,
    Lib.Json.lookup_mergeFields_mergeDiff _ (NodeScalingPoolStatus.toFields_distinct _)
      (NodeScalingPoolStatus.toFields_distinct _),
    lookup_lastScaleUpTime, lookup_lastScaleUpTime, hold]
  cases new.lastScaleUpTime with
  | none =>
    -- no time is written: a stored one is removed, anything else reads as none
    cases hwas : storedScaleUp stored with
    | none => exact hwas
    | some t => rfl
  | some t =>
    show Option.bind (if ((storedScaleUp stored).map timeJson).any
      (Lib.Json.same · (timeJson t)) then _ else _) asTime = some t
    split
    · rename_i hsame
      rw [Option.any_eq_true] at hsame
      obtain ⟨v, hv, hvs⟩ := hsame
      rw [Lib.Json.eq_of_same hvs, Option.map_eq_some_iff] at hv
      obtain ⟨t', ht', htime⟩ := hv
      have : t' = t := Json.time.inj htime
      rw [← this]
      exact ht'
    · exact asTime_merged _ t

/-- A cycle plans with the time that is stored. -/
theorem lastScaleUp_poolSnapshot (inp : Nat → PoolInput) (n : Nat) :
    (poolSnapshot inp n).lastScaleUp = storedScaleUp (poolStored inp n) := by
  show ((readStatus (poolStored inp n)).getD {}).lastScaleUpTime = _
  cases poolStored inp n with
  | null => rfl
  | _ => rfl

/-! ## §2. The decisions a cycle writes. -/

/-- The cycle has written a decision for `target`. -/
def PoolCycle.writes (c : PoolCycle) (target : PowerTarget) : Bool :=
  c.written.any (·.2.target == target)

/-- What is written was decided. -/
theorem mem_writeDecisions {pool : String} {api : PoolApi} {w : String × ScalingDecision} :
    ∀ {i : Nat} {ds : List PlannedDecision}, w ∈ (writeDecisions pool api i ds).1 →
      ∃ d ∈ ds, ∃ t, decisionFor pool d t = some w := by
  intro i ds
  induction ds generalizing i with
  | nil => intro h; cases h
  | cons d ds ih =>
    intro h
    have hlater : w ∈ (writeDecisions pool api (i + 1) ds).1 →
        ∃ d' ∈ d :: ds, ∃ t, decisionFor pool d' t = some w := by
      intro hw
      obtain ⟨d', hd', hdec⟩ := ih hw
      exact ⟨d', List.mem_cons_of_mem _ hd', hdec⟩
    unfold writeDecisions at h
    split at h
    · exact hlater h
    · rename_i w' hw'
      split at h
      · rcases List.mem_cons.mp h with he | hin
        · exact ⟨d, List.mem_cons_self, _, by rw [he]; exact hw'⟩
        · exact hlater hin
      · cases h

/-- A fold whose step hands on no new decision but the one it handles. -/
theorem mem_foldl_new {step : List DecisionRecord × List PlannedDecision → PlannedDecision →
      List DecisionRecord × List PlannedDecision} {d : PlannedDecision}
    (hstep : ∀ acc e, d ∈ (step acc e).2 → d ∈ acc.2 ∨ d = e) :
    ∀ (ds : List PlannedDecision) (acc : List DecisionRecord × List PlannedDecision),
      d ∈ (ds.foldl step acc).2 → d ∈ acc.2 ∨ d ∈ ds := by
  intro ds
  induction ds with
  | nil => intro acc hd; exact Or.inl hd
  | cons e ds ih =>
    intro acc hd
    rcases ih (step acc e) hd with hacc | hrest
    · rcases hstep acc e hacc with hwas | rfl
      · exact Or.inl hwas
      · exact Or.inr List.mem_cons_self
    · exact Or.inr (List.mem_cons_of_mem _ hrest)

/-- What is recorded was decided. -/
theorem mem_recordDecisions {recent : List DecisionRecord} {decisions : List PlannedDecision}
    {now : Int} {d : PlannedDecision} (h : d ∈ (recordDecisions recent decisions now).2) :
    d ∈ decisions := by
  unfold recordDecisions at h
  refine (mem_foldl_new ?_ decisions (recent, []) h).resolve_left List.not_mem_nil
  rintro ⟨log, new⟩ e hd
  simp only at hd
  split at hd
  · exact Or.inl hd
  · rcases List.mem_append.mp hd with hwas | hnew
    · exact Or.inl hwas
    · exact Or.inr (List.mem_singleton.mp hnew)

/-- A cycle writes the plan's decisions that are new. -/
theorem written_poolReconcile (pool : NodeScalingPool) (c : Cluster)
    (times : String → BuildTimes) (preferredAt now : Int) (api : PoolApi) :
    (poolReconcile pool c times preferredAt now api).written
      = (writeDecisions pool.name api 0 (recordDecisions (pool.status.getD {}).recentDecisions
          (plan (snapshot pool c times now)).decisions now).2).1 := by
  simp only [poolReconcile]

/-- A decision to switch on, or off, is one of the plan's. -/
theorem planned_of_writes {pool : NodeScalingPool} {c : Cluster} {times : String → BuildTimes}
    {preferredAt now : Int} {api : PoolApi} {target : PowerTarget}
    (h : (poolReconcile pool c times preferredAt now api).writes target = true) :
    ∃ d ∈ (plan (snapshot pool c times now)).decisions, ∃ w t,
      decisionFor pool.name d t = some w ∧ w.2.target = target := by
  unfold PoolCycle.writes at h
  rw [List.any_eq_true, written_poolReconcile] at h
  obtain ⟨w, hw, htarget⟩ := h
  obtain ⟨d, hd, t, hdec⟩ := mem_writeDecisions hw
  exact ⟨d, mem_recordDecisions hd, w, t, hdec, by simpa using htarget⟩

/-- A decision is written for the target its action asks for. -/
theorem action_of_decisionFor {pool : String} {d : PlannedDecision} {t : Int}
    {w : String × ScalingDecision} (h : decisionFor pool d t = some w) :
    (d.action = .powerOn ∧ w.2.target = .on) ∨ (d.action = .powerOff ∧ w.2.target = .off) := by
  unfold decisionFor at h
  cases ha : d.action with
  | powerOn =>
    rw [ha] at h
    cases h
    exact Or.inl ⟨rfl, rfl⟩
  | powerOff =>
    rw [ha] at h
    cases h
    exact Or.inr ⟨rfl, rfl⟩
  | noAction =>
    rw [ha] at h
    cases h

/-- The power actions among a plan's decisions are those of its two lists. -/
theorem PoolSnapshot.lists_of_decision {s : PoolSnapshot} {d : PlannedDecision}
    (hd : d ∈ s.decisions) :
    (d.action = .powerOn ∧ s.powerOn ≠ []) ∨ (d.action = .powerOff ∧ s.powerOff ≠ []) ∨
      d.action = .noAction := by
  unfold PoolSnapshot.decisions at hd
  simp only at hd
  split at hd
  · rcases List.mem_append.mp hd with hon | hoff
    · obtain ⟨e, he, rfl⟩ := List.mem_map.mp hon
      exact Or.inl ⟨rfl, List.ne_nil_of_mem he⟩
    · obtain ⟨e, he, rfl⟩ := List.mem_map.mp hoff
      exact Or.inr (Or.inl ⟨rfl, List.ne_nil_of_mem he⟩)
  · rw [List.mem_singleton.mp hd]
    exact Or.inr (Or.inr rfl)

/-- Cycle `n` writes a decision to switch a machine on. -/
def WritesOn (inp : Nat → PoolInput) (n : Nat) : Prop :=
  ((inp n).reconcile (poolStored inp n)).writes .on = true

/-- Cycle `n` writes a decision to switch a machine off. -/
def WritesOff (inp : Nat → PoolInput) (n : Nat) : Prop :=
  ((inp n).reconcile (poolStored inp n)).writes .off = true

/-- **A power-on written was planned**, and so was a power-off. -/
theorem powerOn_of_writesOn {inp : Nat → PoolInput} {n : Nat} (h : WritesOn inp n) :
    (poolSnapshot inp n).powerOn ≠ [] := by
  obtain ⟨d, hd, w, t, hdec, htarget⟩ := planned_of_writes h
  rcases action_of_decisionFor hdec with ⟨hon, _⟩ | ⟨_, hoff⟩
  · rcases PoolSnapshot.lists_of_decision hd with ⟨_, hne⟩ | ⟨hoff, _⟩ | hno
    · exact hne
    · exact absurd (hon.symm.trans hoff) (by decide)
    · exact absurd (hon.symm.trans hno) (by decide)
  · rw [htarget] at hoff
    cases hoff

/-- An Off decision that is written was planned. -/
theorem powerOff_of_writesOff {inp : Nat → PoolInput} {n : Nat} (h : WritesOff inp n) :
    (poolSnapshot inp n).powerOff ≠ [] := by
  obtain ⟨d, hd, w, t, hdec, htarget⟩ := planned_of_writes h
  rcases action_of_decisionFor hdec with ⟨_, hon⟩ | ⟨hoff, _⟩
  · rw [htarget] at hon
    cases hon
  · rcases PoolSnapshot.lists_of_decision hd with ⟨hon, _⟩ | ⟨_, hne⟩ | hno
    · exact absurd (hoff.symm.trans hon) (by decide)
    · exact hne
    · exact absurd (hoff.symm.trans hno) (by decide)

/-! ## §3. The hold over the cycles. -/

/-- The pool's hold as cycle `n` reads it. -/
def holdOf (inp : Nat → PoolInput) (n : Nat) : Int :=
  seconds (poolSnapshot inp n).spec.scaleDown.holdAfterPowerOn.toNat

/-- The clock does not go back before cycle `n`. -/
def ClockForward (inp : Nat → PoolInput) (n : Nat) : Prop :=
  ∀ k < n, (inp k).now ≤ (inp (k + 1)).now

/-- A cycle that has written a power-on gets as far as storing its status. -/
def KeepsHold (inp : Nat → PoolInput) (n : Nat) : Prop := WritesOn inp n → Stores inp n

/-- Cycle `i` writes this decision to switch a machine on. -/
def WritesOnAt (inp : Nat → PoolInput) (i : Nat) (dec : ScalingDecision) : Prop :=
  dec.target = .on ∧ ∃ name, (name, dec) ∈ ((inp i).reconcile (poolStored inp i)).written

/-- A decision written at a time is written. -/
theorem WritesOnAt.writesOn {inp : Nat → PoolInput} {i : Nat} {dec : ScalingDecision}
    (h : WritesOnAt inp i dec) : WritesOn inp i := by
  obtain ⟨hon, name, hw⟩ := h
  unfold WritesOn PoolCycle.writes
  exact List.any_eq_true.mpr ⟨(name, dec), hw, beq_iff_eq.mpr hon⟩

/-- Cycle `n` does not start in the lag of a decision: after the hold as counted from
the start of the cycle that wrote it, but before the hold as counted from the time
of the decision. -/
def OutsideLag (inp : Nat → PoolInput) (n : Nat) : Prop :=
  ∀ i < n, ∀ dec, WritesOnAt inp i dec →
    (inp n).now < (inp i).now + holdOf inp n ∨ dec.time + holdOf inp n ≤ (inp n).now

/-- **The invariant**: the stored time is no earlier than any cycle that has
written a power-on. -/
def HoldRecorded (inp : Nat → PoolInput) (n : Nat) : Prop :=
  ∀ i < n, WritesOn inp i → ∃ t, storedScaleUp (poolStored inp n) = some t ∧ (inp i).now ≤ t

/-- The stored time after a cycle that stores its status: its own if it powers
machines on, else the one before. -/
theorem storedScaleUp_succ {inp : Nat → PoolInput} {n : Nat} (hs : Stores inp n) :
    storedScaleUp (poolStored inp (n + 1))
      = if (poolSnapshot inp n).powerOn.isEmpty then storedScaleUp (poolStored inp n)
        else some (inp n).now := by
  unfold Stores at hs
  obtain ⟨st, hst⟩ := Option.isSome_iff_exists.mp hs
  have htime : st.lastScaleUpTime = if (poolSnapshot inp n).powerOn.isEmpty
      then (poolSnapshot inp n).lastScaleUp else some (inp n).now := by
    unfold PoolInput.reconcile poolReconcile at hst
    simp only at hst
    split at hst
    · cases hst
      rfl
    · cases hst
  rw [poolStored_succ]
  unfold poolStep
  rw [hst]
  simp only
  rw [storedScaleUp_patchedStatus, htime, lastScaleUp_poolSnapshot]

/-- A cycle that stores nothing leaves what is stored. -/
theorem poolStored_of_not_stores {inp : Nat → PoolInput} {n : Nat} (hs : ¬ Stores inp n) :
    poolStored inp (n + 1) = poolStored inp n := by
  unfold Stores at hs
  rw [Option.isSome_iff_ne_none, not_not] at hs
  rw [poolStored_succ]
  unfold poolStep
  rw [hs]

/-- The clock of the cycles goes forward. -/
theorem now_le_of_clockForward {inp : Nat → PoolInput} {n : Nat} (hclock : ClockForward inp n)
    {i : Nat} (hi : i ≤ n) : (inp i).now ≤ (inp n).now := by
  induction n with
  | zero =>
    have : i = 0 := by omega
    rw [this]
  | succ n ih =>
    rcases Nat.lt_or_ge n i with hlt | hge
    · have : i = n + 1 := by omega
      rw [this]
    · have hprev := ih (fun k hk => hclock k (by omega)) hge
      have hlast := hclock n (by omega)
      omega

/-- **One cycle keeps the invariant.** -/
theorem holdRecorded_step {inp : Nat → PoolInput} {n : Nat} (hclock : ClockForward inp n)
    (hk : KeepsHold inp n) (ih : HoldRecorded inp n) : HoldRecorded inp (n + 1) := by
  intro i hi hon
  have hnow : (inp i).now ≤ (inp n).now := now_le_of_clockForward hclock (by omega)
  by_cases hs : Stores inp n
  · rw [storedScaleUp_succ hs]
    by_cases hnone : (poolSnapshot inp n).powerOn.isEmpty = true
    -- nothing powered on: this cycle has written no power-on either
    · rw [if_pos hnone]
      have hne : i ≠ n := by
        intro he
        rw [he] at hon
        exact powerOn_of_writesOn hon (by simpa using hnone)
      exact ih i (by omega) hon
    · rw [if_neg hnone]
      exact ⟨(inp n).now, rfl, hnow⟩
  -- not stored, so no power-on was written
  · rw [poolStored_of_not_stores hs]
    have hne : i ≠ n := by
      intro he
      rw [he] at hon
      exact hs (hk hon)
    exact ih i (by omega) hon

/-- **In every run** the time of the last power-on is recorded. -/
theorem holdRecorded_run {inp : Nat → PoolInput} {n : Nat} (hclock : ClockForward inp n)
    (hk : ∀ k < n, KeepsHold inp k) : HoldRecorded inp n := by
  induction n with
  | zero => intro i hi; exact absurd hi (by omega)
  | succ n ih =>
    have hclock' : ClockForward inp n := fun k hkn => hclock k (by omega)
    exact holdRecorded_step hclock' (hk n (by omega)) (ih hclock' (fun k hkn => hk k (by omega)))

/-- Not above `maxOnline`, a plan that powers machines off is past the hold. -/
theorem PoolSnapshot.past_hold {s : PoolSnapshot} (hover : s.overMax = 0) (hoff : s.powerOff ≠ [])
    {t : Int} (ht : s.lastScaleUp = some t)
    (hfit : s.spec.scaleDown.holdAfterPowerOn.toNat < 2 ^ 63) :
    t + seconds s.spec.scaleDown.holdAfterPowerOn.toNat ≤ s.now := by
  have hfree := PoolSnapshot.notHeld_of_powerOff hover hoff
  unfold PoolSnapshot.notHeld at hfree
  simp only [Bool.and_eq_true, Option.isNone_iff_eq_none] at hfree
  have hnone := hfree.2
  -- the latest power-on is the stored one, or an adopted one after it
  obtain ⟨last, hlast⟩ : ∃ last, s.lastPowerOn = some last := by
    unfold PoolSnapshot.lastPowerOn
    rw [ht, ← Option.isSome_iff_exists, Option.isSome_iff_ne_none, Ne, List.max?_eq_none_iff]
    simp
  have hle : t ≤ last := by
    unfold PoolSnapshot.lastPowerOn at hlast
    rw [ht] at hlast
    exact (List.max?_eq_some_iff.mp hlast).2 t (by simp)
  unfold PoolSnapshot.holdUntil at hnone
  rw [hlast, asI64_of_lt hfit, Option.map_some, Option.filter_eq_none_iff] at hnone
  have hpast := hnone _ rfl
  simp only [decide_eq_true_eq] at hpast
  omega

/-- **The hold is respected**: no machine is switched off before the hold of any
power-on decision written so far is over, unless the pool is above `maxOnline`, in
runs in which every cycle that has written a power-on stores its status, by cycles
that do not start in the lag. -/
theorem hold_respected (inp : Nat → PoolInput) (n : Nat) (hclock : ClockForward inp n)
    (hkeeps : ∀ k < n, KeepsHold inp k)
    (hfit : (poolSnapshot inp n).spec.scaleDown.holdAfterPowerOn.toNat < 2 ^ 63)
    (hlag : OutsideLag inp n) :
    ∀ i ≤ n, ∀ dec, WritesOnAt inp i dec → (inp n).now < dec.time + holdOf inp n →
      WritesOff inp n → (poolSnapshot inp n).overMax > 0 := by
  intro i hi dec hwrites hwithin hoff
  have hon : WritesOn inp i := hwrites.writesOn
  have hoff' := powerOff_of_writesOff hoff
  by_contra hover
  have hover : (poolSnapshot inp n).overMax = 0 := by omega
  rcases Nat.lt_or_ge i n with hlt | hge
  · obtain ⟨t, ht, hle⟩ := holdRecorded_run hclock hkeeps i hlt hon
    have hpast := PoolSnapshot.past_hold hover hoff'
      ((lastScaleUp_poolSnapshot inp n).trans ht) hfit
    have hpast : t + holdOf inp n ≤ (inp n).now := hpast
    rcases hlag i hlt dec hwrites with hearly | hlate
    · omega
    · omega
  -- one plan never powers machines on and off
  · have : i = n := by omega
    rw [this] at hon
    exact powerOn_of_writesOn hon (PoolSnapshot.powerOn_nil_of_powerOff hoff')

/-! ## §4. A hold that is lost. -/

/-- A pending pod no node has room for. -/
def waitingPod (name : String) : Pod where
  name := name
  creationTimestamp := some 0
  phase := some "Pending"
  conditions := [{ type_ := "PodScheduled", status := "False", reason := some "Unschedulable" }]

/-- A machine of the pool with room for one pod. -/
def poolMachine (name : String) (phase : Phase) : NodePowerManagementConfig where
  name := name
  spec := { nodeName := name, powerInterfaces := [] }
  status := some { phase := phase, nodeReady := phase == .on }

/-- Two machines that are off and two pods waiting in cycle 0; later the pods
are gone, `m1` is on and `m2` as cycle 0 left it. -/
def twoWaiting (second : Bool) (n : Nat) : Cluster where
  nodes := ["m1", "m2"].map (fun name =>
    { name := name, labels := (∅ : TreeMap String String).insert "pool" "x"
      allocatable := some (((∅ : Quantities).insert "cpu" "4").insert "pods" "1") })
  pods := if n = 0 then [waitingPod "p1", waitingPod "p2"] else []
  configs := if n = 0 then [poolMachine "m1" .off, poolMachine "m2" .off]
    else [poolMachine "m1" .on, poolMachine "m2" (if second then .on else .off)]
  pools := [plainPool]
  nodes_distinct := pairNames_distinct
  configs_distinct := by
    split
    · exact pairNames_distinct
    · exact pairNames_distinct
  pools_distinct := plainPool_distinct

/-- A cycle every `period` seconds of a pool whose machines are unneeded at once,
which writes its decisions `late` seconds after its start; the write of the second
decision of cycle 0 succeeds when `second`. -/
def holdRun (period late : Int) (second : Bool) (n : Nat) : PoolInput where
  pool := { plainPool with spec := { plainPool.spec with scaleDown := { unneededSeconds := 0 } } }
  cluster := twoWaiting second n
  times := fun _ =>
    ⟨seconds (3600 + period * n), seconds (3600 + period * n), seconds (3600 + period * n)⟩
  preferredAt := seconds (3600 + period * n)
  now := seconds (3600 + period * n)
  api := { decide := fun i => i == 0 || second
           decideAt := fun _ => seconds (3600 + period * n + late) }

/-- The decisions of cycle 0 for `m1` in these runs. -/
def decisionFor1 (period late : Int) (second : Bool) : ScalingDecision :=
  ((((holdRun period late second 0).reconcile .null).written.find? (·.1 == "m1")).map
    (·.2)).getD ⟨"", .off, "", 0⟩

/-- With both decisions written the status is stored, and five minutes later
nothing goes off. -/
theorem hold_kept : WritesOnAt (holdRun 300 0 true) 0 (decisionFor1 300 0 true) ∧
    ¬ WritesOff (holdRun 300 0 true) 1 := by
  have hon : WritesOnAt (holdRun 300 0 true) 0 (decisionFor1 300 0 true) :=
    ⟨by decide +kernel, "m1", by decide +kernel⟩
  refine ⟨hon, ?_⟩
  intro hoff
  have hclock : ClockForward (holdRun 300 0 true) 1 := by
    unfold ClockForward
    decide +kernel
  have hkeeps : ∀ k < 1, KeepsHold (holdRun 300 0 true) k := by
    unfold KeepsHold WritesOn Stores
    decide +kernel
  have hlag : OutsideLag (holdRun 300 0 true) 1 := by
    intro i hi dec _
    have hzero : i = 0 := by omega
    subst hzero
    left
    unfold holdOf
    decide +kernel
  have hover := hold_respected (holdRun 300 0 true) 1 hclock hkeeps (by decide +kernel) hlag 0
    (by decide) _ hon (by unfold holdOf; decide +kernel) hoff
  exact absurd hover (by decide +kernel)

/-- **The hold is lost**: the second decision of cycle 0 fails to be written,
and five minutes later, within the ten of the hold and with the pool not above
`maxOnline`, the machine the first one powered on is switched off. -/
theorem hold_lost :
    WritesOnAt (holdRun 300 0 false) 0 (decisionFor1 300 0 false) ∧
    (holdRun 300 0 false 1).now
      < (decisionFor1 300 0 false).time + holdOf (holdRun 300 0 false) 1 ∧
    WritesOff (holdRun 300 0 false) 1 ∧ (poolSnapshot (holdRun 300 0 false) 1).overMax = 0 := by
  refine ⟨⟨by decide +kernel, "m1", by decide +kernel⟩, ?_⟩
  unfold WritesOff holdOf
  decide +kernel

/-- **The lag**: both decisions of cycle 0 are written half a minute after its
start, and the cycle that starts ten minutes after that one, half a minute before
the hold of the decisions is over, switches a machine off. -/
theorem hold_late :
    WritesOnAt (holdRun 600 30 true) 0 (decisionFor1 600 30 true) ∧
    (holdRun 600 30 true 1).now
      < (decisionFor1 600 30 true).time + holdOf (holdRun 600 30 true) 1 ∧
    WritesOff (holdRun 600 30 true) 1 ∧ (poolSnapshot (holdRun 600 30 true) 1).overMax = 0 := by
  refine ⟨⟨by decide +kernel, "m1", by decide +kernel⟩, ?_⟩
  unfold WritesOff holdOf
  decide +kernel

end HardwareAutoscaler
