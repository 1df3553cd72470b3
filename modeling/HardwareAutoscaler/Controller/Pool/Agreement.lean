/-
  HardwareAutoscaler.Controller.Pool.Agreement
  ────────────────────────────────────────────
  OVERLAPPING POOLS.

  A machine selected by several pools is powered off by one of them only when
  every other one lists it in `status.releasable`.

    • `powerOff_vetted` — the vetoes hold for every machine a pool powers off,
      whatever made it eligible,
    • `lost_subset`, `lost_le_of_bounds` — what one pool takes from another,
    • `keeps_minOnline_iff` — when it leaves the other its `minOnline`.

  Agreement is published machine by machine, but `minOnline` bounds a number
  of machines: a pool with two machines more than it publishes as releasable
  can lose both in one step of another pool (`lost_below_minOnline`).
-/
import HardwareAutoscaler.Controller.Pool.Reconcile

namespace HardwareAutoscaler

open Std (TreeMap)

variable {pool : NodeScalingPool} {c : Cluster} {times : String → BuildTimes} {now : Int}

/-! ## §1. The vetoes. -/

/-- Whether pool `p` selects the Node named `node`. -/
def Cluster.selectedBy (c : Cluster) (p : NodeScalingPool) (node : String) : Bool :=
  (c.node node).any (fun n => p.selects n.labels)

/-- A pool that selects a Node has it as a member. -/
theorem Cluster.mem_memberOf_of_selectedBy {p : NodeScalingPool} {node : String}
    (hp : p ∈ c.pools) (h : c.selectedBy p node = true) : p.name ∈ c.memberOf node := by
  unfold Cluster.selectedBy at h
  rw [Option.any_eq_true] at h
  obtain ⟨n, hn, hsel⟩ := h
  unfold Cluster.memberOf
  rw [mem_pools_resolve]
  exact ⟨n.labels, by rw [hn]; rfl, p, hp, hsel, rfl⟩

/-- A machine powered off is a managed one no other pool holds. -/
theorem powerOff_source {name : String}
    (h : name ∈ (snapshot pool c times now).powerOffNames) :
    ∃ mn ∈ managed pool c, ∃ m ∈ (snapshot pool c times now).eligible,
      mn.name = name ∧ m.name = name ∧
      buildMember mn (c.memberOf mn.spec.nodeName) pool c (times mn.name) = some m ∧
      otherPoolsHolding mn.name (c.memberOf mn.spec.nodeName) pool.name c.pools = [] := by
  obtain ⟨_, m, hm, hname, hheld⟩ := PoolSnapshot.mem_powerOff h
  have hmem := (PoolSnapshot.mem_candidates.mp (PoolSnapshot.mem_eligible.mp hm).1).1
  obtain ⟨mn, hmn, hbuild⟩ := mem_members_snapshot.mp hmem
  have hmnname : m.name = mn.name := (buildMember_spec hbuild).1
  refine ⟨mn, hmn, m, hm, hmnname.symm.trans hname, hname, hbuild, ?_⟩
  rw [← @holders_snapshot pool c times now m mn hmn hmnname]
  exact hheld

/-- **A pool that selects the Node of a machine powered off has released it.** -/
theorem released_by_others {mn : NodePowerManagementConfig}
    (hnone : otherPoolsHolding mn.name (c.memberOf mn.spec.nodeName) pool.name c.pools = [])
    {p : NodeScalingPool} (hp : p ∈ c.pools) (hne : p.name ≠ pool.name)
    (hsel : c.selectedBy p mn.spec.nodeName = true) :
    ∃ st, p.status = some st ∧ mn.name ∈ st.releasable := by
  by_cases hrel : mn.name ∈ (p.status.getD {}).releasable
  · cases hst : p.status with
    | none => rw [hst] at hrel; cases hrel
    | some st => rw [hst] at hrel; exact ⟨st, rfl, hrel⟩
  · refine absurd hnone (holding_of_not_releasable (c.mem_memberOf_of_selectedBy hp hsel) hne ?_)
    rw [c.find_pool hp]
    exact hrel

/-- **The vetoes hold for every machine a pool powers off**: it is `Auto` and
online, no active pod on its Node blocks the drain, and every other pool that
selects its Node and is not being deleted lists it as releasable. -/
theorem powerOff_vetted (pool : NodeScalingPool) (c : Cluster) (times : String → BuildTimes)
    (now : Int) (name : String)
    (h : name ∈ (plan (snapshot pool c times now)).powerOff.map (·.1)) :
    ∃ mn ∈ c.configs, mn.name = name ∧ mn.spec.powerPolicy = .auto ∧
      (∃ m ∈ (snapshot pool c times now).members, m.name = name ∧ m.state = .online) ∧
      (∀ pod ∈ c.pods, pod.nodeName = some mn.spec.nodeName → isActive pod = true →
        (drainClass pod).isBlock = false) ∧
      ∀ p ∈ c.pools, p.name ≠ pool.name → c.selectedBy p mn.spec.nodeName = true →
        ∃ st, p.status = some st ∧ name ∈ st.releasable := by
  have hoff : name ∈ (snapshot pool c times now).powerOffNames := List.mem_toFinset.mpr h
  -- the name in the plan is that of a member built from a managed machine
  obtain ⟨mn, hmn, m, hm, hmnname, hmname, hbuild, hnone⟩ := powerOff_source hoff
  obtain ⟨hcand, helig⟩ := PoolSnapshot.mem_eligible.mp hm
  obtain ⟨hmem, hauto, honline⟩ := PoolSnapshot.mem_candidates.mp hcand
  obtain ⟨_, hmauto, hmblock⟩ := buildMember_spec hbuild
  refine ⟨mn, (mem_managed.mp hmn).1, hmnname, ?_, ⟨m, hmem, hmname, honline⟩, ?_, ?_⟩
  · rw [hmauto, beq_iff_eq] at hauto
    exact hauto
  · intro pod hpod hnode hactive
    have hblocking :=
      PoolSnapshot.blockingPods_of_isEligible (snapshot_distinct pool c times now) hcand helig
    rw [hmblock, blockingPods_eq_nil] at hblocking
    apply hblocking pod
    simp [Cluster.podsOn, hpod, hnode, hactive]
  · intro p hp hne hsel
    rw [← hmnname]
    exact released_by_others hnone hp hne hsel

/-! ## §2. What one pool can take from another. -/

/-- A machine of that name is one of pool `b`. -/
def Cluster.inPool (c : Cluster) (b : NodeScalingPool) (name : String) : Bool :=
  c.configs.any (fun mn => mn.name == name && c.selectedBy b mn.spec.nodeName)

/-- The machines of pool `b` among those named. -/
def Cluster.ofPool (c : Cluster) (b : NodeScalingPool) (names : Finset String) : Finset String :=
  names.filter (fun name => c.inPool b name)

/-- The machines of `b` this plan of `pool` powers off. -/
def lost (pool b : NodeScalingPool) (c : Cluster) (times : String → BuildTimes) (now : Int) :
    Finset String :=
  c.ofPool b (snapshot pool c times now).powerOffNames

/-- The machines this plan of `pool` may power off, eligible and held by no
other pool, that a status `st` lists as releasable. -/
def takable (pool : NodeScalingPool) (st : NodeScalingPoolStatus) (c : Cluster)
    (times : String → BuildTimes) (now : Int) : Finset String :=
  let s := snapshot pool c times now
  (((s.eligible.filter (fun m => (s.holders m).isEmpty)).map (·.name)).toFinset).filter
    (· ∈ st.releasable)

/-- **What a pool loses it has released.** -/
theorem lost_subset {b : NodeScalingPool} {st : NodeScalingPoolStatus} (hb : b ∈ c.pools)
    (hne : b.name ≠ pool.name) (hst : b.status = some st) :
    lost pool b c times now ⊆ takable pool st c times now := by
  intro n hn
  unfold lost Cluster.ofPool at hn
  obtain ⟨hoff, hsel⟩ := Finset.mem_filter.mp hn
  unfold Cluster.inPool at hsel
  obtain ⟨mn, hmn, m, hm, hmnname, hmname, hbuild, hnone⟩ := powerOff_source hoff
  rw [List.any_eq_true] at hsel
  obtain ⟨mn', hmn', hsel⟩ := hsel
  simp only [Bool.and_eq_true, beq_iff_eq] at hsel
  have hsame : mn' = mn := List.inj_on_of_nodup_map c.configs_distinct hmn'
    (mem_managed.mp hmn).1 (hsel.1.trans hmnname.symm)
  subst hsame
  obtain ⟨st', hst', hrel⟩ := released_by_others hnone hb hne hsel.2
  rw [hst] at hst'
  cases hst'
  unfold takable
  refine Finset.mem_filter.mpr ⟨?_, by rw [← hmnname]; exact hrel⟩
  simp only [List.mem_toFinset, List.mem_map, List.mem_filter, List.isEmpty_iff]
  refine ⟨m, ⟨hm, ?_⟩, hmname⟩
  rw [holders_snapshot hmn (hmname.trans hmnname.symm)]
  exact hnone

/-- At `minOnline` a pool releases nothing. -/
theorem releasable_eq_nil {s : PoolSnapshot} (h : s.onlineNow ≤ s.spec.minOnline) :
    s.releasable = [] := by
  have hheld : ∀ m, (s.held m).isNone = false := by
    intro m
    unfold PoolSnapshot.held
    rw [if_pos h]
    split
    · rfl
    · split <;> rfl
  unfold PoolSnapshot.releasable
  rw [List.filter_eq_nil_iff.mpr (fun m _ => by simp [hheld m])]
  rfl

/-- Bounds that keep what is taken within what `b` has above its `minOnline`:
it is at its `minOnline`, or it released, or the plan of `a` can take, no more
machines than that. -/
theorem lost_le_of_bounds {a b : NodeScalingPool} {c : Cluster} {times : String → BuildTimes}
    {now : Int} {sb : PoolSnapshot} {st : NodeScalingPoolStatus} (hb : b ∈ c.pools)
    (hne : b.name ≠ a.name) (hspec : sb.spec = b.spec) (hst : b.status = some st)
    (hrel : st.releasable = (plan sb).releasable)
    (h : sb.onlineNow = b.spec.minOnline ∨
      (takable a st c times now).card ≤ sb.onlineNow - b.spec.minOnline ∨
      (snapshot a c times now).budget ≤ sb.onlineNow - b.spec.minOnline ∨
      (snapshot a c times now).onlineNow - a.spec.minOnline ≤ sb.onlineNow - b.spec.minOnline ∨
      (snapshot a c times now).mayScaleDown = false) :
    (lost a b c times now).card ≤ sb.onlineNow - b.spec.minOnline := by
  have hsub : lost a b c times now ⊆ takable a st c times now := lost_subset hb hne hst
  have hlost := Finset.card_le_card hsub
  have hoff : (lost a b c times now).card ≤ (snapshot a c times now).powerOffNames.card :=
    Finset.card_filter_le _ _
  obtain ⟨hbudget, hroom⟩ := PoolSnapshot.powerOff_card_le (s := snapshot a c times now)
  have hroom : (snapshot a c times now).powerOffNames.card
      ≤ (snapshot a c times now).onlineNow - a.spec.minOnline := hroom
  -- one case for each way the plan of `a` is kept within what `b` has to spare
  rcases h with h | h | h | h | h
  -- at `minOnline` pool `b` has released nothing
  · have hnil : st.releasable = [] := by
      rw [hrel]
      exact releasable_eq_nil (by rw [hspec]; omega)
    have hnone : takable a st c times now = ∅ := by
      unfold takable
      rw [hnil]
      simp
    rw [hnone, Finset.card_empty] at hlost
    omega
  · omega
  · omega
  · omega
  -- a plan that may not scale down takes nothing
  · have hnone : lost a b c times now = ∅ := by
      rw [Finset.eq_empty_iff_forall_notMem]
      intro n hn
      have hmay := (PoolSnapshot.mem_powerOff (Finset.mem_filter.mp hn).1).1
      rw [h] at hmay
      cases hmay
    rw [hnone, Finset.card_empty]
    exact Nat.zero_le _

/-- **A step of one pool leaves another its `minOnline` exactly when** the plan
of `a` may not scale down, or its loop, going through the eligible machines in
their order, would take no more machines of `b` once it has taken as many as
`b` has above its `minOnline`.  In particular when `b` is at its `minOnline`,
which it then releases nothing of, and when it released, or `a` can take, no
more machines than that. -/
theorem keeps_minOnline_iff (a b : NodeScalingPool) (c : Cluster) (times : String → BuildTimes)
    (now : Int) (sb : PoolSnapshot) (st : NodeScalingPoolStatus) (hb : b ∈ c.pools)
    (hne : b.name ≠ a.name) (hspec : sb.spec = b.spec) (hst : b.status = some st)
    (hrel : st.releasable = (plan sb).releasable) (hn : b.spec.minOnline ≤ sb.onlineNow) :
    let s := snapshot a c times now
    (b.spec.minOnline + (lost a b c times now).card ≤ sb.onlineNow ↔ (s.mayScaleDown = true →
      s.staysWithin (c.inPool b) (sb.onlineNow - b.spec.minOnline) { free := s.freeAtStart }
        s.eligible = true)) ∧
    (sb.onlineNow = b.spec.minOnline ∨
      (takable a st c times now).card ≤ sb.onlineNow - b.spec.minOnline ∨
      s.budget ≤ sb.onlineNow - b.spec.minOnline ∨
      s.onlineNow - a.spec.minOnline ≤ sb.onlineNow - b.spec.minOnline ∨
      s.mayScaleDown = false →
      b.spec.minOnline + (lost a b c times now).card ≤ sb.onlineNow) := by
  intro s
  have hroom : b.spec.minOnline + (lost a b c times now).card ≤ sb.onlineNow ↔
      (lost a b c times now).card ≤ sb.onlineNow - b.spec.minOnline := by
    omega
  refine ⟨hroom.trans (PoolSnapshot.powerOff_flagged_le_iff _ _), fun h => ?_⟩
  exact hroom.mpr (lost_le_of_bounds hb hne hspec hst hrel h)

/-! ## §3. Two pools over the same two machines. -/

/-- A pool over the machines labelled `pool=x`, idle for an hour. -/
def overX (name : String) (minOnline step : Nat) (releasable : List String) : NodeScalingPool where
  name := name
  spec :=
    { nodeSelector := { matchLabels := (∅ : TreeMap String String).insert "pool" "x" }
      minOnline := minOnline
      scaleDown := { maxNodesPerStep := step } }
  status := some
    { releasable := releasable
      unneededSince := ((∅ : TreeMap String Int).insert "m1" 0).insert "m2" 0 }

/-- Two idle machines, both in pool `a` and in pool `b`, which keeps one
machine on and has published `releasable`. -/
def sharedPair (step : Nat) (releasable : List String) : Cluster where
  nodes := ["m1", "m2"].map (fun n =>
    { name := n, labels := (∅ : TreeMap String String).insert "pool" "x" })
  configs := ["m1", "m2"].map (fun n =>
    { name := n
      spec := { nodeName := n, powerInterfaces := [] }
      status := some { phase := .on, nodeReady := true } })
  pools := [overX "a" 0 step releasable, overX "b" 1 1 releasable]
  pools_distinct := by
    show ["a", "b"].Nodup
    decide

/-- An hour after the machines became idle. -/
def hourLater : Int := seconds 3600

/-- Every machine was set up an hour later. -/
def hourTimes : String → BuildTimes := fun _ => ⟨hourLater, hourLater, hourLater⟩

/-- Pool `b` with the status it publishes. -/
abbrev poolB (releasable : List String) : NodeScalingPool := overX "b" 1 1 releasable

/-- The snapshot `b` publishes from, before `a` plans. -/
def snapshotB (step : Nat) : PoolSnapshot :=
  snapshot (poolB []) (sharedPair step []) hourTimes hourLater

/-- The vetoes at work: with one machine a step `a` powers off `m2`, which
`b` has released. -/
theorem powerOff_vetted_pair :
    "m2" ∈ (plan (snapshot (overX "a" 0 1 ["m1", "m2"]) (sharedPair 1 ["m1", "m2"]) hourTimes
      hourLater)).powerOff.map (·.1) ∧
    ∃ mn ∈ (sharedPair 1 ["m1", "m2"]).configs, mn.name = "m2" ∧ mn.spec.powerPolicy = .auto := by
  have h : "m2" ∈ (plan (snapshot (overX "a" 0 1 ["m1", "m2"]) (sharedPair 1 ["m1", "m2"])
      hourTimes hourLater)).powerOff.map (·.1) := by decide +kernel
  obtain ⟨mn, hmn, hname, hauto, _⟩ := powerOff_vetted _ _ _ _ _ h
  exact ⟨h, mn, hmn, hname, hauto⟩

/-- With one machine a step `a` would take no second machine of `b`, which keeps
its one machine. -/
theorem keeps_minOnline_one_step :
    (plan (snapshotB 1)).releasable = ["m1", "m2"] ∧
    (poolB ["m1", "m2"]).spec.minOnline +
      (lost (overX "a" 0 1 ["m1", "m2"]) (poolB ["m1", "m2"]) (sharedPair 1 ["m1", "m2"]) hourTimes
        hourLater).card ≤ (snapshotB 1).onlineNow := by
  have hrel : (plan (snapshotB 1)).releasable = ["m1", "m2"] := by decide +kernel
  have hiff := keeps_minOnline_iff (overX "a" 0 1 ["m1", "m2"]) (poolB ["m1", "m2"])
    (sharedPair 1 ["m1", "m2"]) hourTimes hourLater (snapshotB 1) _ (by simp [sharedPair])
    (by decide) rfl rfl hrel.symm (by decide +kernel)
  exact ⟨hrel, hiff.1.mpr (fun _ => by decide +kernel)⟩

/-- **With two machines a step `a` takes both**: each was releasable on its
own, and `b` is left below its `minOnline`. -/
theorem lost_below_minOnline :
    (poolB ["m1", "m2"]).status.map (·.releasable) = some (plan (snapshotB 2)).releasable ∧
    (poolB ["m1", "m2"]).spec.minOnline ≤ (snapshotB 2).onlineNow ∧
    ¬ (poolB ["m1", "m2"]).spec.minOnline +
      (lost (overX "a" 0 2 ["m1", "m2"]) (poolB ["m1", "m2"]) (sharedPair 2 ["m1", "m2"]) hourTimes
        hourLater).card ≤ (snapshotB 2).onlineNow := by
  decide +kernel

end HardwareAutoscaler
