/-
  HardwareAutoscaler.Scaling.View
  ───────────────────────────────
  WHAT THE PLANNER SEES (`src/scaling.rs`, first half): pods, members and
  external nodes, whether a pod could be placed on a node
  (`podMatchesNode`), and how a pod on a node counts for draining
  (`drainClass`).
-/
import HardwareAutoscaler.Resources

namespace HardwareAutoscaler

open Std (TreeMap)

/-! ## §1. Pods and machines. -/

/-- Where a member currently is in its power lifecycle. -/
inductive MemberState where
  | online
  | booting
  | offline
  | leaving
  | unavailable
  | manual
  deriving DecidableEq, Repr

/-- Scheduling-relevant view of a pod. -/
structure PodView where
  «namespace» : String := ""
  name : String := ""
  requests : ResourceAmounts := {}
  nodeSelector : TreeMap String String := ∅
  /-- Required node affinity: OR of terms, each an AND of requirements. -/
  affinityTerms : List (List NodeSelectorRequirement) := []
  tolerations : List Toleration := []
  created : Option Int := none
  extendedRequests : TreeMap String Int64 := ∅

/-- A machine of the pool, as the planner sees it. -/
structure Member where
  name : String
  state : MemberState
  auto : Bool
  labels : TreeMap String String := ∅
  taints : List Taint := []
  allocatable : ResourceAmounts := {}
  /-- Sum of requests of all non-terminated pods bound to the node. -/
  requested : ResourceAmounts := {}
  /-- The part of `requested` that counts towards utilization. -/
  counted : ResourceAmounts := {}
  movablePods : List PodView := []
  blockingPods : List String := []
  drainFailedAt : Option Int := none
  s3Capable : Bool := false
  registering : TreeMap String Int64 := ∅
  wokenBy : Option String := none
  note : Option String := none
  adoptedAt : Option Int := none
  releaseAfter : Option Int := none

/-- A schedulable node outside every scaling pool. -/
structure ExternalNode where
  name : String
  labels : TreeMap String String := ∅
  taints : List Taint := []
  free : ResourceAmounts := {}

/-- The key of an external node among the targets. -/
def externalKey (name : String) : String := "external/" ++ name

/-! ## §2. Placement, ignoring resources. -/

/-- Taints that result from the node being powered off or cordoned by us. -/
def transientTaints : List String :=
  ["node.kubernetes.io/unschedulable",
   "node.kubernetes.io/not-ready",
   "node.kubernetes.io/unreachable",
   "node.kubernetes.io/network-unavailable",
   "node.cloudprovider.kubernetes.io/shutdown",
   "node.kubernetes.io/out-of-service",
   "node.cilium.io/agent-not-ready"]

/-- Whether one of the tolerations tolerates the taint. -/
def tolerates (tolerations : List Toleration) (taint : Taint) : Bool :=
  tolerations.any fun t =>
    let effectOk := t.effect.all (fun e => e == "" || e == taint.effect)
    let keyOk := match t.key with
      | none | some "" => t.operator == some "Exists"
      | some k => k == taint.key
    let valueOk := match t.operator with
      | some "Exists" => true
      | _ => t.value.getD "" == taint.value.getD ""
    effectOk && keyOk && valueOk

/-- `str::parse::<i64>`: an optional sign, then digits, in range. -/
def parseI64 (s : String) : Option Int :=
  let (neg, ds) := match s.toList with
    | '-' :: t => (true, t)
    | '+' :: t => (false, t)
    | t => (false, t)
  if ds.isEmpty || !ds.all Char.isDigit then none
  else
    let n : Int := if neg then -(digitsValue ds : Int) else digitsValue ds
    if -(2 ^ 63) ≤ n ∧ n < 2 ^ 63 then some n else none

/-- Whether labels meet a requirement. -/
def requirementMatches (req : NodeSelectorRequirement) (labels : TreeMap String String) : Bool :=
  let value := labels[req.key]?
  let values := req.values.getD []
  match req.operator with
  | "In" => value.any (values.contains ·)
  | "NotIn" => value.all (!values.contains ·)
  | "Exists" => value.isSome
  | "DoesNotExist" => value.isNone
  -- both sides must read as i64, and only the first value counts
  | "Gt" =>
    match value.bind parseI64, values.head?.bind parseI64 with
    | some a, some b => a > b
    | _, _ => false
  | "Lt" =>
    match value.bind parseI64, values.head?.bind parseI64 with
    | some a, some b => a < b
    | _, _ => false
  -- the API knows no other operator
  | _ => false

/-- Whether `pod` could be placed on a node with these labels and taints,
ignoring resources. -/
def podMatchesNode (pod : PodView) (labels : TreeMap String String) (taints : List Taint) : Bool :=
  let selectorOk := pod.nodeSelector.toList.all (fun (k, v) => labels[k]? == some v)
  let affinityOk := pod.affinityTerms.isEmpty
    || pod.affinityTerms.any (fun term => term.all (requirementMatches · labels))
  let taintsOk :=
    ((taints.filter (fun t => t.effect == "NoSchedule" || t.effect == "NoExecute")).filter
      (fun t => !transientTaints.contains t.key)).all (tolerates pod.tolerations)
  selectorOk && affinityOk && taintsOk

/-- `pod_fits`: the pod matches the machine and has room there. -/
def podFits (pod : PodView) (m : Member) (free : ResourceAmounts) : Bool :=
  free.fits pod.requests && podMatchesNode pod m.labels m.taints

/-- Whether the pod explicitly targets nodes carrying all of the pool's
`matchLabels`. -/
def PodView.explicitlySelects (pod : PodView) (pool : NodeSelector) : Bool :=
  if pool.matchLabels.isEmpty then false
  else pool.matchLabels.toList.all fun (key, value) =>
    pod.nodeSelector[key]? == some value
      || (!pod.affinityTerms.isEmpty && pod.affinityTerms.all (fun term =>
            term.any (fun r => r.key == key && r.operator == "In"
              && r.values.any (fun v => !v.isEmpty && v.all (· == value)))))

/-- What the planner sees of a pod. -/
def PodView.fromPod (pod : Pod) : PodView where
  «namespace» := pod.namespace
  name := pod.name
  requests := podRequests pod
  nodeSelector := pod.nodeSelector
  affinityTerms := (pod.requiredNodeAffinity.getD []).map (·.matchExpressions.getD [])
  tolerations := pod.tolerations
  created := pod.creationTimestamp.map seconds
  extendedRequests := podExtendedRequests pod

/-! ## §3. How a pod counts. -/

/-- Whether a pod is waiting because no node can host it. -/
def isUnschedulable (pod : Pod) : Bool :=
  pod.nodeName.isNone && pod.schedulingGates.isEmpty && pod.phase == some "Pending"
    && pod.conditions.any (fun c => c.type_ == "PodScheduled" && c.status == "False"
        && c.reason == some "Unschedulable")
    && pod.deletionTimestamp.isNone

/-- Whether a pod is still consuming node resources. -/
def isActive (pod : Pod) : Bool :=
  pod.phase != some "Succeeded" && pod.phase != some "Failed"

/-- A pod of a DaemonSet. -/
def isDaemonsetPod (pod : Pod) : Bool := pod.ownerReferences.any (·.kind == "DaemonSet")

/-- The mirror of a static pod. -/
def isMirrorPod (pod : Pod) : Bool := pod.annotations.contains "kubernetes.io/config.mirror"

/-- Short-lived pods the operator itself runs on nodes. -/
def isOperatorHelperPod (pod : Pod) : Bool :=
  pod.labels["app.kubernetes.io/name"]? == some "kube-hardware-autoscaler"
    && (pod.labels["app.kubernetes.io/component"]?).any
        (["sleep-probe", "shutdown", "wake-relay"].contains ·)

/-- Classification of a pod for draining purposes. -/
inductive DrainClass where
  /-- Stays on the node; does not block power off. -/
  | ignore
  /-- Must be evicted before power off. -/
  | evict
  /-- Blocks power off. -/
  | block (why : String)
  deriving DecidableEq, Repr

/-- `drain_class`: what a drain does with a pod. -/
def drainClass (pod : Pod) : DrainClass :=
  if !isActive pod || isOperatorHelperPod pod then .ignore
  else
    let safe := pod.annotations[ safeToEvictAnnotation]?
      <|> pod.annotations["cluster-autoscaler.kubernetes.io/safe-to-evict"]?
    -- DaemonSet and mirror pods are not evicted, but an explicit "false" still blocks.
    if isDaemonsetPod pod || isMirrorPod pod then
      if safe = some "false" then .block "annotated safe-to-evict=false" else .ignore
    else if safe = some "false" then .block "annotated safe-to-evict=false"
    else if safe = some "true" then .evict
    else if pod.ownerReferences.isEmpty then .block "not managed by a controller"
    else .evict

/-- Whether the pod has drain class `Block`. -/
def DrainClass.isBlock : DrainClass → Bool
  | .block _ => true
  | _ => false

end HardwareAutoscaler
