/-
  HardwareAutoscaler.Controller.Pool.Offered
  ──────────────────────────────────────────
  WHERE EVICTED PODS MAY GO, NODE BY NODE.

  A plan moves the pods of a drained machine to the members that are `Online`
  or `Manual` and to the external nodes.  The two lists are built by different
  functions: the members from `buildMember`, whatever their power policy, the
  external nodes from the Nodes no `Auto` machine claims.

    • `target_iff_override` — when a member under an override takes pods,
    • `mem_external` — which Nodes are external,
    • `offered_once_iff` — when no Node is offered on both lists.
-/
import HardwareAutoscaler.Controller.Pool.LeftAlone
import HardwareAutoscaler.Controller.Pool.Reconcile

namespace HardwareAutoscaler

open Std (TreeMap)

/-! ## §1. Members that take pods. -/

/-- A machine under an override that is up for pods: `AlwaysOn`, on and
consistent, or left on after it was powered on by hand; and Ready. -/
def StandsOn (mn : NodePowerManagementConfig) (manual : ManualPowerOnPolicy) : Prop :=
  (mn.status.getD {}).nodeReady = true ∧
    ((mn.spec.powerPolicy = .alwaysOn ∧ PowerConsistent (mn.status.getD {}) ∧
        (mn.status.getD {}).phase = .on) ∨
      ((mn.status.getD {}).manualPowerOn.isSome = true ∧ manual = .leaveOn ∧
        ¬ HeldByFailure (mn.status.getD {})))

section Target

variable {mn : NodePowerManagementConfig} {memberOf : List String} {pool : NodeScalingPool}
  {c : Cluster} {times : BuildTimes} {m : Member}

/-- A target is online, or was powered on by hand. -/
theorem isTarget_iff : PoolSnapshot.isTarget m = true ↔ m.state = .online ∨ m.state = .manual := by
  unfold PoolSnapshot.isTarget
  simp

/-- The plain state of a machine under an override takes pods as `AlwaysOn`. -/
theorem isTarget_override_base (h : mn.spec.powerPolicy ≠ .auto)
    (hstate : m.state = memberState mn memberOf)
    (hmanual : ¬ ((mn.status.getD {}).manualPowerOn.isSome = true ∧
      manualPolicyOf mn memberOf c = .leaveOn)) :
    PoolSnapshot.isTarget m = true ↔ StandsOn mn (manualPolicyOf mn memberOf c) := by
  rw [isTarget_iff, hstate, memberState_override h]
  unfold StandsOn
  constructor
  · intro hon
    split at hon
    · rename_i hall
      exact ⟨hall.2.2.2, Or.inl ⟨hall.1, hall.2.1, hall.2.2.1⟩⟩
    · simp at hon
  · rintro ⟨hready, ⟨hpolicy, hcons, hphase⟩ | ⟨hon, hleave, _⟩⟩
    · rw [if_pos ⟨hpolicy, hcons, hphase, hready⟩]
      exact Or.inl rfl
    · exact absurd ⟨hon, hleave⟩ hmanual

/-- **A member under an override takes pods** exactly when its machine stands
on. -/
theorem target_iff_override (h : mn.spec.powerPolicy ≠ .auto)
    (hbuild : buildMember mn memberOf pool c times = some m) :
    PoolSnapshot.isTarget m = true ↔ StandsOn mn (manualPolicyOf mn memberOf c) := by
  have hstate := (buildMember_state hbuild).1
  unfold specialOf at hstate
  by_cases hfailed : HeldByFailure (mn.status.getD {})
  · rw [(classify_failed hfailed).1, Option.getD_some] at hstate
    refine iff_of_false (by rw [isTarget_iff, hstate]; simp) ?_
    rintro ⟨_, ⟨_, _, hphase⟩ | ⟨_, _, hnot⟩⟩
    · rw [hfailed.1] at hphase
      cases hphase
    · exact hnot hfailed
  · rw [classify_on hfailed (memberState_override_ne_offline h)] at hstate
    cases hon : (mn.status.getD {}).manualPowerOn with
    | none =>
      rw [hon] at hstate
      exact isTarget_override_base h hstate (by simp [hon])
    | some on =>
      rw [hon, Option.map_some, Option.getD_some] at hstate
      unfold classifyManualOn at hstate
      cases hp : manualPolicyOf mn memberOf c with
      | leaveOn =>
        -- left alone: room for pods once it is Ready
        rw [hp] at hstate
        unfold StandsOn
        by_cases hready : (mn.status.getD {}).nodeReady = true
        · simp only [hready, if_true, Option.getD_some] at hstate
          rw [isTarget_iff, hstate]
          simp [hready, hon, hfailed]
        · simp only [hready] at hstate
          rw [isTarget_iff, hstate]
          simp [hready]
      | adopt =>
        rw [hp] at hstate
        rw [← hp]
        exact isTarget_override_base h hstate (by simp [hp])
      | powerOff =>
        rw [hp] at hstate
        rw [← hp]
        exact isTarget_override_base h hstate (by simp [hp])

end Target

/-! ## §2. The two lists. -/

/-- The Nodes of the members that take evicted pods. -/
def memberNodes (pool : NodeScalingPool) (c : Cluster) (times : String → BuildTimes) :
    List String :=
  ((managed pool c).filter (fun mn =>
    (buildMember mn (c.memberOf mn.spec.nodeName) pool c (times mn.name)).any
      PoolSnapshot.isTarget)).map (·.spec.nodeName)

section Lists

variable {pool : NodeScalingPool} {c : Cluster} {times : String → BuildTimes} {now : Int}
  {n : String}

/-- The Nodes of members that take pods. -/
theorem mem_memberNodes :
    n ∈ memberNodes pool c times ↔ ∃ mn ∈ managed pool c, mn.spec.nodeName = n ∧
      ∃ m, buildMember mn (c.memberOf mn.spec.nodeName) pool c (times mn.name) = some m ∧
        PoolSnapshot.isTarget m = true := by
  unfold memberNodes
  simp only [List.mem_map, List.mem_filter, Option.any_eq_true]
  constructor
  · rintro ⟨mn, ⟨hmn, hm⟩, hname⟩
    exact ⟨mn, hmn, hname, hm⟩
  · rintro ⟨mn, hmn, hname, hm⟩
    exact ⟨mn, ⟨hmn, hm⟩, hname⟩

/-- A name read before building and filtering is the one read after. -/
theorem map_filter_any {α β γ : Type} {f : α → Option β} {p : β → Bool} {g : α → γ} {h : β → γ} :
    ∀ {l : List α}, (∀ x ∈ l, ∀ y, f x = some y → h y = g x) →
      (l.filter (fun x => (f x).any p)).map g = ((l.filterMap f).filter p).map h := by
  intro l
  induction l with
  | nil => intro _; rfl
  | cons x l ih =>
    intro hname
    have hrest := ih (fun y hy => hname y (List.mem_cons_of_mem _ hy))
    cases hf : f x with
    | none =>
      rw [List.filterMap_cons_none hf, List.filter_cons_of_neg (by simp [hf])]
      exact hrest
    | some y =>
      rw [List.filterMap_cons_some hf]
      by_cases hp : p y = true
      · rw [List.filter_cons_of_pos (by simp [hf, hp]), List.filter_cons_of_pos hp, List.map_cons,
          List.map_cons, hrest, hname x List.mem_cons_self y hf]
      · rw [List.filter_cons_of_neg (by simp [hf, hp]), List.filter_cons_of_neg hp]
        exact hrest

/-- A machine is named like its Node, so the members of the snapshot that take
pods are named like the Nodes offered. -/
theorem memberNodes_eq (hnamed : ∀ mn ∈ c.configs, mn.name = mn.spec.nodeName) :
    memberNodes pool c times
      = ((snapshot pool c times now).members.filter PoolSnapshot.isTarget).map (·.name) := by
  apply map_filter_any
  intro mn hmn m hm
  rw [(buildMember_spec hm).1]
  exact hnamed mn (mem_managed.mp hmn).1

/-- Whether the Node named `n` is Ready and not cordoned. -/
def Cluster.schedulable (c : Cluster) (n : String) : Bool :=
  c.nodes.any (fun node => node.name == n && nodeReady node && !node.unschedulable)

/-- Whether an `Auto` machine claims the Node named `n`. -/
def Cluster.autoManaged (c : Cluster) (n : String) : Bool :=
  c.configs.any (fun mn => mn.spec.powerPolicy == .auto && mn.spec.nodeName == n)

/-- **The external Nodes**: schedulable, and claimed by no `Auto` machine. -/
theorem mem_external :
    n ∈ (snapshot pool c times now).external.map (·.name) ↔
      c.schedulable n = true ∧ c.autoManaged n = false := by
  show n ∈ (externalNodes c).map (·.name) ↔ _
  unfold externalNodes Cluster.schedulable Cluster.autoManaged
  simp only [List.map_map, List.mem_map, List.mem_filter, List.any_eq_true, List.any_eq_false,
    Bool.and_eq_true, Bool.not_eq_true', beq_iff_eq, List.contains_eq_mem, decide_eq_false_iff_not,
    Function.comp_apply]
  constructor
  · rintro ⟨node, ⟨⟨hnode, hauto⟩, hready, hcordon⟩, rfl⟩
    refine ⟨⟨node, hnode, ⟨rfl, hready⟩, hcordon⟩, ?_⟩
    rintro mn hmn ⟨hpolicy, hname⟩
    exact hauto ⟨mn, ⟨hmn, hpolicy⟩, hname⟩
  · rintro ⟨⟨node, hnode, ⟨rfl, hready⟩, hcordon⟩, hauto⟩
    refine ⟨node, ⟨⟨hnode, ?_⟩, hready, hcordon⟩, rfl⟩
    rintro ⟨mn, ⟨hmn, hpolicy⟩, hname⟩
    exact hauto mn hmn ⟨hpolicy, hname⟩

theorem node_isSome_of_schedulable (h : c.schedulable n = true) : (c.node n).isSome = true := by
  unfold Cluster.schedulable at h
  obtain ⟨node, hnode, hgood⟩ := List.any_eq_true.mp h
  simp only [Bool.and_eq_true] at hgood
  unfold Cluster.node
  rw [List.find?_isSome]
  exact ⟨node, hnode, hgood.1.1⟩

/-- No Node appears twice among the external ones. -/
theorem external_nodup : ((snapshot pool c times now).external.map (·.name)).Nodup := by
  show ((externalNodes c).map (·.name)).Nodup
  unfold externalNodes
  rw [List.map_map]
  exact c.nodes_distinct.sublist ((List.filter_sublist.trans List.filter_sublist).map _)

/-- No Node appears twice among the members, as no two machines claim one. -/
theorem memberNodes_nodup (hone : (c.configs.map (·.spec.nodeName)).Nodup) :
    (memberNodes pool c times).Nodup := by
  unfold memberNodes managed
  exact hone.sublist ((List.filter_sublist.trans List.filter_sublist).map _)

end Lists

/-! ## §3. When they overlap. -/

/-- No member under an override stands on a Node that is offered as external. -/
def OverridesApart (pool : NodeScalingPool) (c : Cluster) : Prop :=
  ∀ mn ∈ c.configs, mn.spec.powerPolicy ≠ .auto → pool.name ∈ c.memberOf mn.spec.nodeName →
    c.schedulable mn.spec.nodeName = true → c.autoManaged mn.spec.nodeName = false →
    ¬ StandsOn mn (manualPolicyOf mn (c.memberOf mn.spec.nodeName) c)

/-- **No Node is offered on both lists** exactly when no machine of the pool
stands on, Ready and schedulable, under an override; and with one machine for
each Node that is when no Node is offered twice. -/
theorem offered_once_iff (pool : NodeScalingPool) (c : Cluster) (times : String → BuildTimes)
    (now : Int) :
    ((∀ n ∈ memberNodes pool c times, n ∉ (snapshot pool c times now).external.map (·.name)) ↔
      OverridesApart pool c) ∧
    ((c.configs.map (·.spec.nodeName)).Nodup →
      ((memberNodes pool c times ++ (snapshot pool c times now).external.map (·.name)).Nodup ↔
        OverridesApart pool c)) := by
  have hboth : (∀ n ∈ memberNodes pool c times,
      n ∉ (snapshot pool c times now).external.map (·.name)) ↔ OverridesApart pool c := by
    constructor
    · intro happart mn hmn hpolicy hmember hsched hauto hstands
      obtain ⟨m, hm⟩ : ∃ m, buildMember mn (c.memberOf mn.spec.nodeName) pool c (times mn.name)
          = some m := exists_buildMember (node_isSome_of_schedulable hsched)
      have htarget := (target_iff_override hpolicy hm).mpr hstands
      have hin : mn.spec.nodeName ∈ memberNodes pool c times :=
        mem_memberNodes.mpr ⟨mn, mem_managed.mpr ⟨hmn, hmember⟩, rfl, m, hm, htarget⟩
      exact happart _ hin (mem_external.mpr ⟨hsched, hauto⟩)
    · intro happart n hn hext
      obtain ⟨mn, hmn, rfl, m, hm, htarget⟩ := mem_memberNodes.mp hn
      obtain ⟨hsched, hauto⟩ := mem_external.mp hext
      obtain ⟨hconfig, hmember⟩ := mem_managed.mp hmn
      -- an `Auto` machine keeps its Node off the external list
      have hpolicy : mn.spec.powerPolicy ≠ .auto := by
        intro hp
        unfold Cluster.autoManaged at hauto
        rw [List.any_eq_false] at hauto
        exact hauto mn hconfig (by simp [hp])
      exact happart mn hconfig hpolicy hmember hsched hauto
        ((target_iff_override hpolicy hm).mp htarget)
  refine ⟨hboth, fun hone => ?_⟩
  rw [← hboth, List.nodup_append]
  constructor
  · rintro ⟨_, _, hne⟩ n hn hext
    exact hne n hn n hext rfl
  · intro happart
    refine ⟨memberNodes_nodup hone, external_nodup, ?_⟩
    rintro n hn n' hn' rfl
    exact happart n hn hn'

/-! ## §4. A base machine inside the pool. -/

/-- A pod of a controller that asks for `cpu` CPUs. -/
def controlledPod (name node cpu : String) : Pod where
  name := name
  ownerReferences := [{ kind := "ReplicaSet" }]
  nodeName := some node
  containers := [{ requests := (∅ : TreeMap String String).insert "cpu" cpu }]

/-- An idle pool, in which machines less busy than half are unneeded at once. -/
def lightPool : NodeScalingPool where
  name := "a"
  spec :=
    { nodeSelector := { matchLabels := (∅ : TreeMap String String).insert "pool" "x" }
      scaleDown := { utilizationThresholdPercent := 60, unneededSeconds := 0 } }

theorem pairOfNodes_distinct : ["m1", "m2"].Nodup := by decide

/-- Two machines of 4 CPUs in the pool: on `m1` two pods of one CPU, on `m2`
one of three CPUs.  `m1` is `Auto`, `m2` is on under `policy`. -/
def withBase (policy : PowerPolicy) : Cluster where
  nodes := ["m1", "m2"].map (fun n =>
    { name := n
      labels := (∅ : TreeMap String String).insert "pool" "x"
      conditions := [{ type_ := "Ready", status := "True" }]
      allocatable := some (((∅ : TreeMap String String).insert "cpu" "4").insert "pods" "10") })
  pods := [controlledPod "p" "m1" "1", controlledPod "q" "m1" "1", controlledPod "r" "m2" "3"]
  configs := ["m1", "m2"].map (fun n =>
    { name := n
      spec := { nodeName := n, powerInterfaces := []
                powerPolicy := if n = "m2" then policy else .auto }
      status := some { phase := .on, nodeReady := true } })
  pools := [lightPool]
  nodes_distinct := pairOfNodes_distinct
  configs_distinct := pairOfNodes_distinct
  pools_distinct := List.nodup_singleton _

/-- **The room of `m2` is offered twice**: as that of a member and as that of
an external node.  The two pods of `m1` need twice what `m2` has left, and
`m1` is powered off; with `m2` under `Auto` it stays on. -/
theorem offered_twice :
    (memberNodes lightPool (withBase .alwaysOn) (fun _ => ⟨0, 0, 0⟩) = ["m1", "m2"] ∧
      ¬ ∀ n ∈ memberNodes lightPool (withBase .alwaysOn) (fun _ => ⟨0, 0, 0⟩),
        n ∉ (snapshot lightPool (withBase .alwaysOn) (fun _ => ⟨0, 0, 0⟩) 0).external.map (·.name)) ∧
    (plan (snapshot lightPool (withBase .alwaysOn) (fun _ => ⟨0, 0, 0⟩) 0)).powerOff.map (·.1)
      = ["m1"] ∧
    (plan (snapshot lightPool (withBase .auto) (fun _ => ⟨0, 0, 0⟩) 0)).powerOff.map (·.1) = [] := by
  decide +kernel

end HardwareAutoscaler
