/-
  HardwareAutoscaler.Crd
  ──────────────────────
  THE CUSTOM RESOURCES (`src/crd.rs`): `NodePowerManagementConfig`, one per
  machine, and `NodeScalingPool`, each with its spec and status, and the
  functions that resolve a setting from a machine and its pools.

  A seconds setting is `u64` in the source and `UInt64` here; a `u32` count
  is a `Nat`, since no arithmetic on it can reach its width.
-/
import HardwareAutoscaler.Kube

namespace HardwareAutoscaler

open Std (TreeMap)

/-- Set on Nodes that the operator has cordoned. -/
def cordonedByAnnotation : String := "hardware-autoscaler.safewords.com/cordoned-by-operator"
/-- On pods: whether a drain may evict them. -/
def safeToEvictAnnotation : String := "hardware-autoscaler.safewords.com/safe-to-evict"
/-- Set on Nodes whose machine the operator has powered off. -/
def poweredOffAnnotation : String := "hardware-autoscaler.safewords.com/powered-off"

/-! ## §1. Enumerations. -/

/-- What the autoscaler does with a machine powered on outside it. -/
inductive ManualPowerOnPolicy where
  | leaveOn
  | adopt
  | powerOff
  deriving DecidableEq, Repr, Inhabited

/-- What a pool does when a power-on has not turned the machine on in time. -/
inductive PowerOnFailurePolicy where
  | release
  | retry
  deriving DecidableEq, Repr, Inhabited

/-- Who decides whether a machine is on. -/
inductive PowerPolicy where
  | auto
  | alwaysOn
  | alwaysOff
  deriving DecidableEq, Repr, Inhabited

/-- An operation a power interface can be used for. -/
inductive InterfaceAction where
  | status
  | powerOn
  | powerOff
  deriving DecidableEq, Repr

/-- How a machine is taken offline. -/
inductive PowerOffMode where
  | shutdown
  | standby
  | auto
  deriving DecidableEq, Repr, Inhabited

/-- Lifecycle phase of a managed machine. -/
inductive Phase where
  | unknown
  | poweringOn
  | on
  | draining
  | poweringOff
  | off
  | standby
  | error
  | bootFailed
  deriving DecidableEq, Repr, Inhabited

/-- Observed power state as reported by the management interface. -/
inductive PowerState where
  | on
  | off
  | unknown
  deriving DecidableEq, Repr

instance : Inhabited PowerState := ⟨.unknown⟩

/-- What a scaling decision asks for. -/
inductive PowerTarget where
  | on
  | off
  deriving DecidableEq, Repr

/-- `lastPowerAction.action`: `PowerOn`, `PowerOff`, `ForceOff` or `Standby`. -/
inductive PowerAction where
  | powerOn
  | powerOff
  | forceOff
  | standby
  deriving DecidableEq, Repr

/-- The name an action has in the status, in Events and in messages. -/
def PowerAction.name : PowerAction → String
  | .powerOn => "PowerOn"
  | .powerOff => "PowerOff"
  | .forceOff => "ForceOff"
  | .standby => "Standby"

/-- What a pool decided. -/
inductive DecisionAction where
  | powerOn
  | powerOff
  | noAction
  deriving DecidableEq, Repr

/-! ## §2. Conditions. -/

/-- A status condition (the usual Kubernetes shape). -/
structure Condition where
  type_ : String
  status : String
  reason : String
  message : String
  lastTransitionTime : Int
  deriving DecidableEq, Repr

/-- The Node of a machine exists. -/
def condNodeFound : String := "NodeFound"
/-- Pools select the machine. -/
def condPoolMembership : String := "PoolMembership"
/-- The interfaces belong to the machine. -/
def condIdentityVerified : String := "IdentityVerified"
/-- Power state and Node readiness agree. -/
def condPowerStateConsistent : String := "PowerStateConsistent"
/-- The preferred nodes of a pool are known. -/
def condPreferredNodesValid : String := "PreferredNodesValid"

/-- Sets a condition, keeping `lastTransitionTime` unless the status changed. -/
def setCondition (type_ status reason message : String) (now : Int) :
    List Condition → List Condition
  | [] => [⟨type_, status, reason, message, now⟩]
  | c :: cs =>
    if c.type_ = type_ then
      { c with
        status := status, reason := reason, message := message
        lastTransitionTime := if c.status ≠ status then now else c.lastTransitionTime } :: cs
    else c :: setCondition type_ status reason message now cs

/-! ## §3. `NodePowerManagementConfig`. -/

/-- One entry of `spec.powerInterfaces` (its driver `config` and credentials
are read only when the driver is built). -/
structure PowerInterface where
  name : Option String := none
  driver : String
  actions : Option (List InterfaceAction) := none
  deriving DecidableEq, Repr

/-- The name of an interface in messages: its own, or else its driver. -/
def PowerInterface.label (pi : PowerInterface) : String := pi.name.getD pi.driver

/-- Whether an interface is used for an action: for all, if none are listed. -/
def PowerInterface.handles (pi : PowerInterface) (action : InterfaceAction) : Bool :=
  pi.actions.all (·.contains action)

/-- Timeouts and policies of one machine (`spec.lifecycle`). -/
structure LifecycleSpec where
  bootTimeoutSeconds : Option UInt64 := none
  drainTimeoutSeconds : UInt64 := 300
  shutdownTimeoutSeconds : UInt64 := 300
  forceAfterDrainTimeout : Bool := false
  powerOffMode : PowerOffMode := .shutdown
  deriving DecidableEq, Repr, Inhabited

/-- How one machine is powered (`spec`). -/
structure NodePowerManagementConfigSpec where
  nodeName : String
  powerPolicy : PowerPolicy := .auto
  powerInterfaces : List PowerInterface
  lifecycle : LifecycleSpec := {}
  manualPowerOnPolicy : Option ManualPowerOnPolicy := none
  manualPowerOffCooldownSeconds : Option UInt64 := none
  deriving DecidableEq, Repr

/-- A decision made by a `NodeScalingPool` autoscaler. -/
structure ScalingDecision where
  pool : String
  target : PowerTarget
  reason : String
  time : Int
  deriving DecidableEq, Repr

/-- A power change made outside the autoscaler. -/
structure ManualPowerChange where
  time : Int
  policy : Option ManualPowerOnPolicy := none
  deriving DecidableEq, Repr

/-- A machine that was powered on but did not become Ready in time. -/
structure BootFailure where
  time : Int
  leftOn : Bool := false
  deriving DecidableEq, Repr

/-- Result of a sleep capability probe. -/
structure SleepSupport where
  bootId : String
  s3 : Bool
  detail : String
  deriving DecidableEq, Repr

/-- The last power action (`status.lastPowerAction`). -/
structure PowerActionRecord where
  action : PowerAction
  time : Int
  succeeded : Bool
  via : Option String := none
  deriving DecidableEq, Repr

/-- Compact resource amounts used for scheduling estimates (`i64` each). -/
structure ResourceAmounts where
  cpuMillis : Int64 := 0
  memoryBytes : Int64 := 0
  pods : Int64 := 0
  deriving DecidableEq, Inhabited

/-- What the operator knows of a machine (`status`). -/
structure NodePowerManagementConfigStatus where
  phase : Phase := .unknown
  phaseSince : Option Int := none
  powerState : PowerState := .unknown
  nodeReady : Bool := false
  pool : Option String := none
  pools : List String := []
  scalingDecision : Option ScalingDecision := none
  conditions : List Condition := []
  interfaceWarnings : List String := []
  lastPowerAction : Option PowerActionRecord := none
  standbySince : Option Int := none
  standbyFailedAt : Option Int := none
  sleepSupport : Option SleepSupport := none
  manualPowerOn : Option ManualPowerChange := none
  manualPowerOff : Option ManualPowerChange := none
  poweredOnNotReadySince : Option Int := none
  bootFailure : Option BootFailure := none
  forcedOffAt : Option Int := none
  drainFailedAt : Option Int := none
  allocatable : Option ResourceAmounts := none
  nodeLabels : Option (TreeMap String String) := none
  extendedResources : TreeMap String Int64 := ∅
  message : Option String := none

/-- A machine, and how it is powered. -/
structure NodePowerManagementConfig where
  name : String
  /-- `metadata.generation`. -/
  generation : Option Int := none
  spec : NodePowerManagementConfigSpec
  status : Option NodePowerManagementConfigStatus := none

/-! ## §4. `NodeScalingPool`. -/

/-- How a label is compared with the values of a requirement. -/
inductive LabelOperator where
  | «in»
  | notIn
  | exists
  | doesNotExist
  deriving DecidableEq, Repr

/-- A requirement on one label. -/
structure LabelRequirement where
  key : String
  operator : LabelOperator
  values : List String := []
  deriving DecidableEq, Repr

/-- Label selector over Kubernetes Nodes. -/
structure NodeSelector where
  matchLabels : TreeMap String String := ∅
  matchExpressions : List LabelRequirement := []

/-- A selector that asks for nothing. -/
def NodeSelector.isEmpty (sel : NodeSelector) : Bool :=
  sel.matchLabels.isEmpty && sel.matchExpressions.isEmpty

/-- Whether labels meet a requirement. -/
def LabelRequirement.matches (r : LabelRequirement) (labels : TreeMap String String) : Bool :=
  let value := labels[r.key]?
  match r.operator with
  | .in => value.any (r.values.contains ·)
  | .notIn => value.all (!r.values.contains ·)
  | .exists => value.isSome
  | .doesNotExist => value.isNone

/-- Whether `labels` satisfy the selector; an empty selector matches nothing. -/
def NodeSelector.matches (sel : NodeSelector) (labels : TreeMap String String) : Bool :=
  if sel.isEmpty then false
  else sel.matchLabels.toList.all (fun (k, v) => labels[k]? == some v)
    && sel.matchExpressions.all (·.matches labels)

/-- One entry of `scaleUp.preferredNodes`. -/
structure PreferredNode where
  name : String
  weight : Nat
  deriving DecidableEq, Repr

/-- When machines are powered on (`spec.scaleUp`). -/
structure ScaleUpSpec where
  enabled : Bool := true
  pendingPodGraceSeconds : UInt64 := 30
  requireExplicitSelection : Bool := false
  maxNodesPerStep : Nat := 3
  preferS3Capable : Bool := false
  preferredNodes : List PreferredNode := []
  bootTimeoutSeconds : Option UInt64 := none
  bootFailureBackoffSeconds : UInt64 := 1800
  powerOnTimeoutSeconds : Option UInt64 := none
  powerOnFailurePolicy : PowerOnFailurePolicy := .release
  deriving DecidableEq, Repr

/-- The weight of Node `node`: its first `preferredNodes` entry, else 0. -/
def ScaleUpSpec.nodeWeight (spec : ScaleUpSpec) (node : String) : Nat :=
  ((spec.preferredNodes.find? (·.name == node)).map (·.weight)).getD 0

/-- When machines are powered off (`spec.scaleDown`). -/
structure ScaleDownSpec where
  enabled : Bool := true
  utilizationThresholdPercent : Nat := 50
  unneededSeconds : UInt64 := 600
  holdAfterPowerOnSeconds : Option UInt64 := none
  delayAfterScaleUpSeconds : Option UInt64 := none
  drainFailureBackoffSeconds : UInt64 := 1800
  ignoreDaemonSetUtilization : Bool := false
  ignoreNonSelectingPodUtilization : Bool := false
  maxNodesPerStep : Nat := 1
  deriving DecidableEq, Repr

/-- The effective `holdAfterPowerOnSeconds`: the new name, else the
deprecated one, else the default. -/
def ScaleDownSpec.holdAfterPowerOn (spec : ScaleDownSpec) : UInt64 :=
  (spec.holdAfterPowerOnSeconds <|> spec.delayAfterScaleUpSeconds).getD 600

/-- Why the use of the deprecated name deserves a warning, if it does. -/
def ScaleDownSpec.deprecationWarning (spec : ScaleDownSpec) : Option String :=
  match spec.holdAfterPowerOnSeconds, spec.delayAfterScaleUpSeconds with
  | some new, some old =>
    if new ≠ old then
      some ("scaleDown.delayAfterScaleUpSeconds (" ++ toString old.toNat
        ++ ") is deprecated and ignored: scaleDown.holdAfterPowerOnSeconds ("
        ++ toString new.toNat ++ ") is also set and wins")
    else
      some ("scaleDown.delayAfterScaleUpSeconds is deprecated and ignored: "
        ++ "scaleDown.holdAfterPowerOnSeconds is also set and wins; remove the old name")
  | none, some _ =>
    some ("scaleDown.delayAfterScaleUpSeconds is deprecated; "
      ++ "rename it to scaleDown.holdAfterPowerOnSeconds")
  | _, _ => none

/-- Which machines a pool scales, and how (`spec`). -/
structure NodeScalingPoolSpec where
  nodeSelector : NodeSelector := {}
  minOnline : Nat := 0
  maxOnline : Option Nat := none
  scaleUp : ScaleUpSpec := {}
  scaleDown : ScaleDownSpec := {}
  manualPowerOnPolicy : Option ManualPowerOnPolicy := none
  manualPowerOnGraceSeconds : UInt64 := 600
  manualPowerOffCooldownSeconds : Option UInt64 := none

/-- One entry of `NodeScalingPool.status.recentDecisions`. -/
structure DecisionRecord where
  time : Int
  action : DecisionAction
  node : Option String := none
  reason : String
  candidates : String
  deriving DecidableEq, Repr

/-- What a pool last found and decided (`status`). -/
structure NodeScalingPoolStatus where
  members : List String := []
  conflicts : List String := []
  releasable : List String := []
  needed : TreeMap String String := ∅
  totalNodes : Nat := 0
  onlineNodes : Nat := 0
  pendingPods : Nat := 0
  lastScaleUpTime : Option Int := none
  lastScaleDownTime : Option Int := none
  unneededSince : TreeMap String Int := ∅
  message : Option String := none
  conditions : List Condition := []
  recentDecisions : List DecisionRecord := []

/-- A pool of machines that are scaled together. -/
structure NodeScalingPool where
  name : String
  deletionTimestamp : Option Int := none
  spec : NodeScalingPoolSpec := {}
  status : Option NodeScalingPoolStatus := none

/-! ## §5. Settings resolved from a machine and its pools. -/

/-- How cautious the policy is; overlapping pools apply the most cautious. -/
def ManualPowerOnPolicy.caution : ManualPowerOnPolicy → Nat
  | .leaveOn => 2
  | .adopt => 1
  | .powerOff => 0

/-- `Iterator::max_by_key`: the last of the maximal elements. -/
def maxByKey {α : Type} (key : α → Nat) : List α → Option α
  | [] => none
  | x :: xs =>
    match maxByKey key xs with
    | none => some x
    | some y => some (if key x ≤ key y then y else x)

/-- The policy for a machine: its own, else the most cautious of its pools'. -/
def effectiveManualPowerOnPolicy (machine : Option ManualPowerOnPolicy)
    (pools : List (Option ManualPowerOnPolicy)) : ManualPowerOnPolicy :=
  machine.getD ((maxByKey ManualPowerOnPolicy.caution (pools.filterMap id)).getD .leaveOn)

/-- `Iterator::max` of the values that are set. -/
def maxSet (values : List (Option UInt64)) : Option UInt64 :=
  (values.filterMap id).max?

/-- The boot timeout, where neither the machine nor the operator sets one. -/
def defaultBootTimeoutSeconds : UInt64 := 1200

/-- A machine's own boot timeout, else the longest of its pools', else 1200. -/
def effectiveBootTimeout (machine : Option UInt64) (pools : List (Option UInt64)) : UInt64 :=
  (machine <|> maxSet pools).getD defaultBootTimeoutSeconds

/-- The power-on failure rule for one attempt: the deciding pool's, else
`Release` over `Retry` and the shortest timeout. -/
def effectivePowerOnFailure (decisionPool : Option String)
    (pools : List (String × ScaleUpSpec)) (bootTimeout : UInt64) :
    PowerOnFailurePolicy × UInt64 :=
  let timeoutOf := fun (spec : ScaleUpSpec) => spec.powerOnTimeoutSeconds.getD bootTimeout
  match decisionPool.bind (fun name => pools.find? (·.1 == name)) with
  | some (_, spec) => (spec.powerOnFailurePolicy, timeoutOf spec)
  | none =>
    if pools.isEmpty then (.release, bootTimeout)
    else
      let policy : PowerOnFailurePolicy :=
        if pools.any (·.2.powerOnFailurePolicy == .release) then .release else .retry
      let timeouts :=
        (pools.filter (·.2.powerOnFailurePolicy == policy)).map (fun p => timeoutOf p.2)
      (policy, timeouts.min?.getD bootTimeout)

/-- The manual power-off cooldown: the machine's, else the longest of its
pools', else none. -/
def effectiveManualPowerOffCooldown (machine : Option UInt64)
    (pools : List (Option UInt64)) : UInt64 :=
  (machine <|> maxSet pools).getD 0

end HardwareAutoscaler
