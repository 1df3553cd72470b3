/-
  HardwareAutoscaler.Controller.Pool.Reconcile
  ────────────────────────────────────────────
  ONE CYCLE OF A POOL (`src/controller/node_scaling_pool.rs`, `reconcile`):
  the snapshot built from the stores, the plan, the decisions written and the
  status the cycle leaves.

    • `snapshot` — what the plan is computed from,
    • `recordDecisions` — the decision log,
    • `poolReconcile` — the cycle, with its API calls failing or not,
    • `snapshot_distinct` — the members of a snapshot have distinct names,
    • `keptByOthers_snapshot` — the vetoes recorded for a machine.
-/
import HardwareAutoscaler.Controller.Pool.Member
import HardwareAutoscaler.Scaling.Removal

namespace HardwareAutoscaler

open Std (TreeMap)
open Lib (insertAll)

/-! ## §1. The snapshot. -/

/-- The machines `pool` selects, with the pools each belongs to. -/
def managed (pool : NodeScalingPool) (c : Cluster) : List NodePowerManagementConfig :=
  c.configs.filter (fun mn => (c.memberOf mn.spec.nodeName).contains pool.name)

/-- What the other pools hold, by machine. -/
def keptByOthers (pool : NodeScalingPool) (c : Cluster) :
    TreeMap String (List (String × String)) :=
  insertAll (fun mn =>
    let holds := otherPoolsHolding mn.name (c.memberOf mn.spec.nodeName) pool.name c.pools
    if holds.isEmpty then none else some (mn.name, holds)) ∅ (managed pool c)

/-- What one cycle of `pool` computes its plan from. -/
def snapshot (pool : NodeScalingPool) (c : Cluster) (times : String → BuildTimes) (now : Int) :
    PoolSnapshot where
  spec := pool.spec
  members := (managed pool c).filterMap (fun mn =>
    buildMember mn (c.memberOf mn.spec.nodeName) pool c (times mn.name))
  pending := (c.pods.filter isUnschedulable).map PodView.fromPod
  now := now
  lastScaleUp := (pool.status.getD {}).lastScaleUpTime
  unneededSince := (pool.status.getD {}).unneededSince
  external := externalNodes c
  keptByOthers := keptByOthers pool c

/-! ## §2. The status. -/

/-- How many entries `recentDecisions` keeps. -/
def maxRecentDecisions : Nat := 20

/-- Whether a decision is not worth recording: a `NoAction` for the reason the
latest entry already gives. -/
def isRepeated (recent : List DecisionRecord) (d : PlannedDecision) : Bool :=
  d.action == .noAction
    && recent.getLast?.any (fun r => r.action == .noAction && r.reason == d.reason)

/-- Appends this cycle's decisions to `recent`, keeping the last 20; returns
the decisions that were new. -/
def recordDecisions (recent : List DecisionRecord) (decisions : List PlannedDecision) (now : Int) :
    List DecisionRecord × List PlannedDecision :=
  let (recent, new) := decisions.foldl (fun (recent, new) d =>
    if isRepeated recent d then (recent, new)
    else (recent ++ [{ time := now, action := d.action, node := d.node, reason := d.reason
                       candidates := d.candidates }], new ++ [d])) (recent, [])
  (recent.drop (recent.length - maxRecentDecisions), new)

/-- Entries of `preferredNodes` naming no Node, and entries naming a Node the
pool does not select. -/
def preferredNodeProblems (pool : NodeScalingPoolSpec)
    (labelsOf : String → Option (TreeMap String String)) : List String × List String :=
  let names := pool.scaleUp.preferredNodes.map (·.name)
  (names.filter (fun n => (labelsOf n).isNone),
    names.filter (fun n => (labelsOf n).any (fun labels => !pool.nodeSelector.matches labels)))

/-- Sets `PreferredNodesValid`. -/
def checkPreferredNodes (pool : NodeScalingPool) (c : Cluster) (now : Int)
    (conditions : List Condition) : List Condition :=
  let (missing, outside) := preferredNodeProblems pool.spec (fun n => (c.node n).map (·.labels))
  let problems :=
    (if missing.isEmpty then [] else ["no such Node: " ++ ", ".intercalate missing])
    ++ (if outside.isEmpty then []
        else ["not selected by this pool's nodeSelector: " ++ ", ".intercalate outside])
  if problems.isEmpty then
    -- a pool without preferred Nodes has no such condition
    if pool.spec.scaleUp.preferredNodes.isEmpty then
      conditions.filter (·.type_ != condPreferredNodesValid)
    else setCondition condPreferredNodesValid "True" "AllSelected" "" now conditions
  else
    let texts := "; ".intercalate problems
    setCondition condPreferredNodesValid "False"
      (if missing.isEmpty then "NotInPool" else "UnknownNodes")
      s!"scaleUp.preferredNodes entries ignored ({texts}); the other entries apply" now conditions

/-- The status a cycle leaves, after its decisions were written. -/
def statusAfter (pool : NodeScalingPool) (c : Cluster) (result : Plan) (preferredAt now : Int) :
    NodeScalingPoolStatus :=
  let old := pool.status.getD {}
  { old with
    conditions := checkPreferredNodes pool c preferredAt old.conditions
    recentDecisions := (recordDecisions old.recentDecisions result.decisions now).1
    members := sortBy compare ((managed pool c).map (·.name))
    -- always written empty
    conflicts := []
    releasable := result.releasable
    needed := result.needed
    totalNodes := (managed pool c).length
    onlineNodes := result.online + result.powerOn.length - min result.powerOff.length result.online
    pendingPods := result.relevantPending
    unneededSince := result.unneededSince
    message := some result.message
    -- the reconcile's own time, not the one a decision was written at
    lastScaleUpTime := if result.powerOn.isEmpty then old.lastScaleUpTime else some now
    lastScaleDownTime := if result.powerOff.isEmpty then old.lastScaleDownTime else some now }

/-! ## §3. The cycle. -/

/-- The decision written for one planned action. -/
def decisionFor (pool : String) (d : PlannedDecision) (time : Int) :
    Option (String × ScalingDecision) :=
  match d.action with
  | .powerOn => some (d.node.getD "", ⟨pool, .on, d.reason, time⟩)
  | .powerOff => some (d.node.getD "", ⟨pool, .off, d.reason, time⟩)
  | .noAction => none

/-- What the API answers in a cycle, and what the clock reads at each call. -/
structure PoolApi where
  /-- Whether the write of the `i`-th new decision succeeds. -/
  decide : Nat → Bool := fun _ => true
  decideAt : Nat → Int
  /-- Whether the final status patch succeeds. -/
  patch : Bool := true

/-- What one cycle leaves: the decisions that were written, and the status it
patched, if it got that far. -/
structure PoolCycle where
  written : List (String × ScalingDecision)
  status : Option NodeScalingPoolStatus

/-- Writes the decisions in order until one write fails; `true` when none
did. -/
def writeDecisions (pool : String) (api : PoolApi) :
    Nat → List PlannedDecision → List (String × ScalingDecision) × Bool
  | _, [] => ([], true)
  | i, d :: ds =>
    match decisionFor pool d (api.decideAt i) with
    | none => writeDecisions pool api (i + 1) ds
    | some w =>
      if api.decide i then
        let (written, ok) := writeDecisions pool api (i + 1) ds
        (w :: written, ok)
      else ([], false)

/-- `reconcile`: plans, writes the decisions one by one, and stores the status. -/
def poolReconcile (pool : NodeScalingPool) (c : Cluster) (times : String → BuildTimes)
    (preferredAt now : Int) (api : PoolApi) : PoolCycle :=
  let result := plan (snapshot pool c times now)
  let old := pool.status.getD {}
  let new := (recordDecisions old.recentDecisions result.decisions now).2
  let (written, ok) := writeDecisions pool.name api 0 new
  { written := written
    status := if ok && api.patch then some (statusAfter pool c result preferredAt now) else none }

/-! ## §4. What a snapshot holds. -/

/-- The machines a pool manages are those it selects. -/
theorem mem_managed {pool : NodeScalingPool} {c : Cluster} {mn : NodePowerManagementConfig} :
    mn ∈ managed pool c ↔ mn ∈ c.configs ∧ pool.name ∈ c.memberOf mn.spec.nodeName := by
  simp [managed]

/-- The members of a snapshot are the machines that could be built. -/
theorem mem_members_snapshot {pool : NodeScalingPool} {c : Cluster} {times : String → BuildTimes}
    {now : Int} {m : Member} :
    m ∈ (snapshot pool c times now).members ↔
      ∃ mn ∈ managed pool c,
        buildMember mn (c.memberOf mn.spec.nodeName) pool c (times mn.name) = some m := by
  simp [snapshot]

/-- **The members of a snapshot have distinct names**: they are the names of
stored objects. -/
theorem snapshot_distinct (pool : NodeScalingPool) (c : Cluster) (times : String → BuildTimes)
    (now : Int) : (snapshot pool c times now).DistinctMembers := by
  unfold PoolSnapshot.DistinctMembers
  have hnodup : ((managed pool c).map (·.name)).Nodup :=
    c.configs_distinct.sublist (List.filter_sublist.map _)
  have hsub : List.Sublist ((snapshot pool c times now).members.map (·.name))
      ((managed pool c).map (·.name)) := by
    -- a machine without a Node has no member: the names are a sublist
    show List.Sublist (List.map _ (List.filterMap _ (managed pool c))) _
    induction managed pool c with
    | nil => exact .slnil
    | cons mn rest ih =>
      rw [List.filterMap_cons]
      split
      · exact ih.cons _
      · rename_i m hm
        rw [List.map_cons, List.map_cons, (buildMember_spec hm).1]
        exact ih.cons_cons _
  exact hnodup.sublist hsub

/-- **The vetoes recorded for a machine** are what the other pools hold. -/
theorem holders_snapshot {pool : NodeScalingPool} {c : Cluster} {times : String → BuildTimes}
    {now : Int} {m : Member} {mn : NodePowerManagementConfig} (hmn : mn ∈ managed pool c)
    (hname : m.name = mn.name) :
    (snapshot pool c times now).holders m
      = otherPoolsHolding mn.name (c.memberOf mn.spec.nodeName) pool.name c.pools := by
  unfold PoolSnapshot.holders
  show ((keptByOthers pool c)[m.name]?).getD [] = _
  unfold keptByOthers
  rw [hname]
  have hinj : ∀ mn' ∈ managed pool c, mn'.name = mn.name → mn' = mn := by
    intro mn' hmn' hn
    exact List.inj_on_of_nodup_map c.configs_distinct (mem_managed.mp hmn').1
      (mem_managed.mp hmn).1 hn
  -- a machine no other pool holds has no entry in the map
  by_cases hempty :
      (otherPoolsHolding mn.name (c.memberOf mn.spec.nodeName) pool.name c.pools).isEmpty = true
  · rw [Lib.insertAll_of_not_entry]
    · rw [List.isEmpty_iff.mp hempty]
      rfl
    · intro mn' hmn' v hv
      simp only at hv
      split at hv
      · cases hv
      · rename_i hne
        simp only [Option.some.injEq, Prod.mk.injEq] at hv
        rw [hinj mn' hmn' hv.1] at hne
        exact hne hempty
  · rw [Lib.insertAll_of_entry (v := otherPoolsHolding mn.name (c.memberOf mn.spec.nodeName)
      pool.name c.pools)]
    · rfl
    · exact ⟨mn, hmn, by simp only; rw [if_neg hempty]⟩
    · intro mn' hmn' v hv
      simp only at hv
      split at hv
      · cases hv
      · simp only [Option.some.injEq, Prod.mk.injEq] at hv
        rw [← hv.2, hinj mn' hmn' hv.1]

end HardwareAutoscaler
