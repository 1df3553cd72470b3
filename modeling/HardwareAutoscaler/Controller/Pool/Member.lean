/-
  HardwareAutoscaler.Controller.Pool.Member
  ─────────────────────────────────────────
  FROM OBJECTS TO A SNAPSHOT (`src/controller/node_scaling_pool.rs`, first
  half): the state of a member (`memberState`), what boot failures and manual
  power changes make of it (`classify`), and `buildMember`, `externalNodes`,
  `otherPoolsHolding`.

    • `buildMember_spec` — the fields of a built member that vetoes rest on,
    • `holding_of_not_releasable` — a pool that does not list a machine as
      releasable holds it.
-/
import HardwareAutoscaler.Controller.Context
import HardwareAutoscaler.Controller.Machine.Rules

namespace HardwareAutoscaler

open Std (TreeMap)

/-! ## §1. The state of a member. -/

/-- Maps a member to its autoscaler state; a decision by any of `pools`
counts. -/
def memberState (mn : NodePowerManagementConfig) (pools : List String) : MemberState :=
  let st := mn.status.getD {}
  -- an interface that contradicts the Node: nothing is planned for the machine
  if st.conditions.any (fun c => c.type_ == condPowerStateConsistent && c.status == "False") then
    .unavailable
  else
    let readyOn := st.phase == .on && st.nodeReady
    match mn.spec.powerPolicy with
    | .alwaysOn => if readyOn then .online else .unavailable
    | .alwaysOff => .unavailable
    | .auto =>
      let decision : Option PowerTarget :=
        (st.scalingDecision.filter (fun d => pools.contains d.pool)).map (·.target)
      match decision with
      -- decided, but not acted on yet: leaving from the decision on
      | some .off =>
        if st.phase == .off || st.phase == .standby then .offline else .leaving
      | some .on =>
        if readyOn then .online
        else if st.phase == .error || st.phase == .bootFailed then .unavailable
        else .booting
      -- no pool has decided: the phase says what the machine is up to
      | none =>
        match st.phase with
        | .on => if st.nodeReady then .online else .booting
        | .poweringOn => .booting
        | .off | .standby => .offline
        | .draining | .poweringOff => .leaving
        | .unknown | .error | .bootFailed => .unavailable

/-- How boot failures and manual power changes shape a member. -/
structure Special where
  /-- Replaces the state from `memberState`. -/
  state : Option MemberState := none
  note : Option String := none
  /-- `Adopt`: counts as this pool's power-on at that time. -/
  adoptedAt : Option Int := none
  /-- `PowerOff`: powered off once this time has passed. -/
  releaseAfter : Option Int := none
  deriving DecidableEq, Repr

/-- The member that is off: the boot failure backoff and the cooldown after a
manual power-off. -/
def classifyOffline (st : NodePowerManagementConfigStatus) (spec : NodeScalingPoolSpec)
    (cooldownSecs : UInt64) (now : Int) : Special :=
  let backoff := seconds (asI64 spec.scaleUp.bootFailureBackoffSeconds)
  -- a failure that left the machine on holds nothing back
  match st.bootFailure.filter (fun f => !f.leftOn && decide (now < f.time + backoff)) with
  | some f =>
    { state := some .unavailable
      note := some (s!"boot failed at {hhmmss f.time}; not woken again until "
        ++ hhmmss (f.time + backoff)) }
  | none =>
    match st.manualPowerOff with
    | none => {}
    | some off =>
      let cooldown := seconds (asI64 cooldownSecs)
      if cooldownSecs > 0 ∧ now < off.time + cooldown then
        { state := some .unavailable
          note := some (s!"manually powered off at {hhmmss off.time}; not woken again until "
            ++ hhmmss (off.time + cooldown)) }
      -- the cooldown is over: for ten minutes the note says why
      else if now < off.time + seconds 600 then
        { note := some s!"manually powered off at {hhmmss off.time}; back under management" }
      else {}

/-- The member powered on by hand, by policy. -/
def classifyManualOn (st : NodePowerManagementConfigStatus) (on : ManualPowerChange)
    (policy : ManualPowerOnPolicy) (spec : NodeScalingPoolSpec) : Special :=
  let at_ := hhmmss on.time
  match policy with
  | .leaveOn =>
    -- LeaveOn: never this pool's machine, and no capacity until it is Ready
    if st.nodeReady then
      { state := some .manual
        note := some s!"manually powered on at {at_}; policy LeaveOn; not managing" }
    else
      { state := some .unavailable
        note := some s!"manually powered on at {at_}, not Ready yet; policy LeaveOn; not managing" }
  | .adopt =>
    -- Adopt: an ordinary member, from the time it came on
    { note := some
        s!"manually powered on at {at_}; policy Adopt; managed as if this pool woke it"
      adoptedAt := some on.time }
  | .powerOff =>
    let after := on.time + seconds (asI64 spec.manualPowerOnGraceSeconds)
    { note := some
        s!"manually powered on at {at_}; policy PowerOff; powered off after {hhmmss after}"
      releaseAfter := some after }

/-- Applies boot failures, the boot failure backoff, manual power-ons and the
manual power-off cooldown to a member whose plain state is `base`. -/
def classify (st : NodePowerManagementConfigStatus) (base : MemberState)
    (policy : ManualPowerOnPolicy) (spec : NodeScalingPoolSpec)
    (bootTimeoutSecs cooldownSecs : UInt64) (now : Int) : Special :=
  match st.phase, st.bootFailure with
  | .bootFailed, some f =>
    let then_ := if f.leftOn then "left on (powered on by hand, LeaveOn)" else "powering off"
    { state := some .unavailable
      note := some (s!"boot failed at {hhmmss f.time}: on {bootTimeoutSecs.toNat / 60}m+ "
        ++ s!"without Ready; released hold; {then_}") }
  | _, _ =>
    if base = .offline then classifyOffline st spec cooldownSecs now
    else match st.manualPowerOn with
    | none => {}
    | some on => classifyManualOn st on policy spec

/-! ## §2. Building a member. -/

/-- The clock readings of one `build_member` call: for the device
registration window, for `classify` and for `s3_capable`. -/
structure BuildTimes where
  registering : Int
  classify : Int
  s3 : Int

/-- Extended resources the machine had before and reports as 0 now, within
its boot timeout of becoming Ready. -/
def registering (st : NodePowerManagementConfigStatus) (node : Node) (bootTimeout : UInt64)
    (now : Int) : TreeMap String Int64 :=
  let readySince := ((node.conditions.find? (fun c => c.type_ == "Ready" && c.status == "True")).bind
    (·.lastTransitionTime)).map seconds
  if readySince.any (fun t => now - t < seconds (asI64 bootTimeout)) then
    let current := nodeExtended node
    st.extendedResources.filter (fun k v => 0 < v && current[k]?.getD 0 == 0)
  else ∅

/-- Whether a pod is left out of the utilization. -/
def isIgnored (pool : NodeScalingPool) (pod : Pod) : Bool :=
  let down := pool.spec.scaleDown
  (down.ignoreDaemonSetUtilization && isDaemonsetPod pod)
    || (down.ignoreNonSelectingPodUtilization
      && !(PodView.fromPod pod).explicitlySelects pool.spec.nodeSelector)

/-- The pods of a list that are evicted, as the planner sees them. -/
def movablePods (pods : List Pod) : List PodView :=
  pods.filterMap (fun pod => match drainClass pod with
    | .evict => some (PodView.fromPod pod)
    | _ => none)

/-- The pods of a list that block powering off, with the reason. -/
def blockingPods (pods : List Pod) : List String :=
  pods.filterMap (fun pod => match drainClass pod with
    | .block why => some s!"{pod.namespace}/{pod.name} ({why})"
    | _ => none)

/-- The sum of the requests of some pods. -/
def sumRequests (pods : List Pod) : ResourceAmounts :=
  pods.foldl (fun acc pod => acc.add (podRequests pod)) {}

/-- The member `mn` of `pool`; `none` when its Node is missing. -/
def buildMember (mn : NodePowerManagementConfig) (memberOf : List String)
    (pool : NodeScalingPool) (c : Cluster) (times : BuildTimes) : Option Member :=
  (c.node mn.spec.nodeName).map fun node =>
    let st := mn.status.getD {}
    let current := nodeAllocatable node
    let active := (c.podsOn mn.spec.nodeName).filter isActive
    let memberPools := c.pools.filter (fun p => memberOf.contains p.name)
    let bootTimeout := effectiveBootTimeout mn.spec.lifecycle.bootTimeoutSeconds
      (memberPools.map (·.spec.scaleUp.bootTimeoutSeconds))
    let manualPolicy := effectiveManualPowerOnPolicy mn.spec.manualPowerOnPolicy
      (memberPools.map (·.spec.manualPowerOnPolicy))
    let cooldown := effectiveManualPowerOffCooldown mn.spec.manualPowerOffCooldownSeconds
      (memberPools.map (·.spec.manualPowerOffCooldownSeconds))
    let base := memberState mn memberOf
    let special := classify st base manualPolicy pool.spec bootTimeout cooldown times.classify
    { name := mn.name
      state := special.state.getD base
      auto := mn.spec.powerPolicy == .auto
      labels := node.labels
      taints := node.taints
      -- a Node that reports no CPU keeps what it had before
      allocatable := if 0 < current.cpuMillis then current else st.allocatable.getD {}
      requested := sumRequests active
      counted := sumRequests (active.filter (!isIgnored pool ·))
      movablePods := movablePods active
      blockingPods := blockingPods active
      drainFailedAt := st.drainFailedAt
      s3Capable := s3Capable st times.s3
      registering := registering st node bootTimeout times.registering
      wokenBy := (st.scalingDecision.filter (fun d =>
        d.target == .on && memberOf.contains d.pool)).map (·.pool)
      note := special.note
      adoptedAt := special.adoptedAt
      releaseAfter := special.releaseAfter }

/-! ## §3. External nodes and other pools. -/

/-- Schedulable nodes that no scaling pool can power off. -/
def externalNodes (c : Cluster) : List ExternalNode :=
  let autoManaged := (c.configs.filter (·.spec.powerPolicy == .auto)).map (·.spec.nodeName)
  ((c.nodes.filter (fun n => !autoManaged.contains n.name)).filter
      (fun n => nodeReady n && !n.unschedulable)).map fun n =>
    { name := n.name
      labels := n.labels
      taints := n.taints
      free := (nodeAllocatable n).minus (sumRequests ((c.podsOn n.name).filter isActive)) }

/-- The other pools selecting machine `member` that do not (yet) agree to
power it off, with their reason. -/
def otherPoolsHolding (member : String) (memberOf : List String) (thisPool : String)
    (pools : List NodeScalingPool) : List (String × String) :=
  (memberOf.filter (· != thisPool)).filterMap fun other =>
    let st := ((pools.find? (·.name == other)).bind (·.status)).getD {}
    -- a pool without a status holds what it selects
    if st.releasable.contains member then none
    else some (other, (st.needed[member]?).getD "not evaluated yet")

/-! ## §4. What the vetoes rest on. -/

/-- A built member carries the name, the policy and the blocking pods of its
machine. -/
theorem buildMember_spec {mn : NodePowerManagementConfig} {memberOf : List String}
    {pool : NodeScalingPool} {c : Cluster} {times : BuildTimes} {m : Member}
    (h : buildMember mn memberOf pool c times = some m) :
    m.name = mn.name ∧ m.auto = (mn.spec.powerPolicy == .auto) ∧
      m.blockingPods = blockingPods ((c.podsOn mn.spec.nodeName).filter isActive) := by
  unfold buildMember at h
  rw [Option.map_eq_some_iff] at h
  obtain ⟨node, _, rfl⟩ := h
  exact ⟨rfl, rfl, rfl⟩

/-- Every pod of drain class `Block` is named. -/
theorem blockingPods_eq_nil {pods : List Pod} :
    blockingPods pods = [] ↔ ∀ pod ∈ pods, (drainClass pod).isBlock = false := by
  unfold blockingPods
  rw [List.filterMap_eq_nil_iff]
  constructor
  · intro h pod hpod
    have hp := h pod hpod
    cases hc : drainClass pod with
    | block why => rw [hc] at hp; cases hp
    | ignore => rfl
    | evict => rfl
  · intro h pod hpod
    have hp := h pod hpod
    cases hc : drainClass pod with
    | block why => rw [hc] at hp; cases hp
    | ignore => rfl
    | evict => rfl

/-- **A pool that does not list a machine as releasable holds it**, whatever
its status, and also without one. -/
theorem holding_of_not_releasable {member other thisPool : String} {memberOf : List String}
    {pools : List NodeScalingPool} (hmem : other ∈ memberOf) (hne : other ≠ thisPool)
    (h : member ∉ (((pools.find? (·.name == other)).bind (·.status)).getD {}).releasable) :
    otherPoolsHolding member memberOf thisPool pools ≠ [] := by
  unfold otherPoolsHolding
  intro hnil
  rw [List.filterMap_eq_nil_iff] at hnil
  have ho := hnil other (List.mem_filter.mpr ⟨hmem, by simpa using hne⟩)
  simp only at ho
  split at ho
  · rename_i hin
    exact h (by simpa using hin)
  · cases ho

end HardwareAutoscaler
