/-
  HardwareAutoscaler.Kube
  ───────────────────────
  THE KUBERNETES OBJECTS THE OPERATOR READS: Pods and Nodes, with the fields
  its functions look at.  An optional list or map that every reader treats
  like an empty one is kept as the list or map itself; the options that are
  told apart (a container's requests against its limits, `allocatable`
  against `capacity`, a missing `deletionTimestamp`) stay options.

  Instants (`chrono::DateTime<Utc>`) are `Int` nanoseconds since the Unix
  epoch and durations (`chrono::Duration`) are `Int` nanoseconds; both are
  unbounded here, so what chrono's bounds would make panic is not a value of
  the model.
-/
import Mathlib.Data.List.Sort
import Mathlib.Tactic.Linarith

namespace HardwareAutoscaler

open Std (TreeMap)

/-! ## §1. Time. -/

/-- `x as i64` of an unsigned 64-bit setting. -/
def asI64 (n : UInt64) : Int := n.toInt64.toInt

/-- `Duration::seconds`. -/
def seconds (n : Int) : Int := n * 1000000000

/-- `num_seconds`: whole seconds, rounded towards zero. -/
def numSeconds (d : Int) : Int := d.tdiv 1000000000

theorem asI64_of_lt {n : UInt64} (h : n.toNat < 2 ^ 63) : asI64 n = n.toNat := by
  unfold asI64
  rw [Int64.toInt, UInt64.toBitVec_toInt64, BitVec.toInt_eq_toNat_of_lt]
  · rfl
  · show 2 * n.toNat < 2 ^ 64
    omega

/-- More than `n` whole seconds is more than `n` seconds. -/
theorem seconds_lt_of_lt_numSeconds {n d : Int}
    (h : n < numSeconds d) : seconds n < d := by
  unfold numSeconds at h
  unfold seconds
  rcases Int.le_total 0 d with hd | hd
  · rw [Int.tdiv_eq_ediv_of_nonneg hd] at h
    omega
  · have hneg : (-d).tdiv 1000000000 = -(d.tdiv 1000000000) := Int.neg_tdiv d 1000000000
    rw [Int.tdiv_eq_ediv_of_nonneg (by omega)] at hneg
    omega

/-! ## §2. Taints, tolerations and affinity. -/

/-- A taint of a Node. -/
structure Taint where
  key : String
  value : Option String := none
  effect : String
  deriving DecidableEq, Repr

/-- A toleration of a pod. -/
structure Toleration where
  key : Option String := none
  operator : Option String := none
  value : Option String := none
  effect : Option String := none
  deriving DecidableEq, Repr

/-- A requirement on one label or field of a Node. -/
structure NodeSelectorRequirement where
  key : String
  operator : String
  values : Option (List String) := none
  deriving DecidableEq, Repr

/-- Requirements that a Node is to meet together. -/
structure NodeSelectorTerm where
  matchExpressions : Option (List NodeSelectorRequirement) := none
  matchFields : Option (List NodeSelectorRequirement) := none
  deriving DecidableEq, Repr

/-! ## §3. Pods. -/

/-- Resource quantities by resource name, as Kubernetes writes them. -/
abbrev Quantities := TreeMap String String

/-- A container's `resources`. -/
structure Container where
  requests : Quantities := ∅
  limits : Quantities := ∅

/-- What a pod belongs to. -/
structure OwnerReference where
  kind : String
  name : String := ""
  deriving DecidableEq, Repr

/-- A condition of a pod. -/
structure PodCondition where
  type_ : String
  status : String
  reason : Option String := none
  deriving DecidableEq, Repr

/-- A Pod: `metadata`, `spec` and `status` flattened. -/
structure Pod where
  «namespace» : String := ""
  name : String := ""
  labels : TreeMap String String := ∅
  annotations : TreeMap String String := ∅
  ownerReferences : List OwnerReference := []
  /-- Whole seconds since the epoch (`Timestamp::as_second`). -/
  creationTimestamp : Option Int := none
  deletionTimestamp : Option Int := none
  nodeName : Option String := none
  nodeSelector : TreeMap String String := ∅
  /-- `affinity.nodeAffinity.requiredDuringSchedulingIgnoredDuringExecution`. -/
  requiredNodeAffinity : Option (List NodeSelectorTerm) := none
  tolerations : List Toleration := []
  schedulingGates : List String := []
  containers : List Container := []
  initContainers : List Container := []
  overhead : Quantities := ∅
  phase : Option String := none
  conditions : List PodCondition := []

/-! ## §4. Nodes. -/

/-- A condition of a Node. -/
structure NodeCondition where
  type_ : String
  status : String
  /-- Whole seconds since the epoch. -/
  lastTransitionTime : Option Int := none
  deriving DecidableEq, Repr

/-- What the kubelet tells of its machine. -/
structure NodeInfo where
  systemUuid : String := ""
  bootId : String := ""
  deriving DecidableEq, Repr

/-- A Node: `metadata`, `spec` and `status` flattened. -/
structure Node where
  name : String
  labels : TreeMap String String := ∅
  annotations : TreeMap String String := ∅
  unschedulable : Bool := false
  taints : List Taint := []
  conditions : List NodeCondition := []
  nodeInfo : Option NodeInfo := none
  allocatable : Option Quantities := none
  capacity : Option Quantities := none

/-- `controller::node_ready`: the first `Ready` condition is `True`. -/
def nodeReady (node : Node) : Bool :=
  (node.conditions.find? (·.type_ == "Ready")).any (·.status == "True")

end HardwareAutoscaler
