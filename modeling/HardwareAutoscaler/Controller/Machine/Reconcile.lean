/-
  HardwareAutoscaler.Controller.Machine.Reconcile
  ───────────────────────────────────────────────
  ONE RECONCILE OF A MACHINE, AND ITS RUNS
  (`src/controller/node_power_management_config.rs`, `reconcile`): the Node and
  the pools it is in, the identity of its interfaces, the power reading and
  its consistency, and then the state machine.

    • `MachineInput.read` — everything up to the state machine,
    • `MachineInput.reconcile` — the reconcile, with its effects,
    • `machineStep`, `machineAt` — runs: the stored status, the identity cache
      and the operator's cordon from reconcile to reconcile.
-/
import HardwareAutoscaler.Controller.Context
import HardwareAutoscaler.Controller.Machine.Reconciler
import HardwareAutoscaler.Lib.Run

namespace HardwareAutoscaler

open Std (TreeMap)
open Lib (stateAt)

/-! ## §1. Inputs. -/

/-- What others write to the status of a machine: a pool its decision, a
person the manual power-on.  A write during a reconcile is one before the next
reconcile, or none: the patch leaves alone what it does not change, and
overwrites what it does. -/
structure StatusEdit where
  decision : Option (Option ScalingDecision) := none
  manualPowerOn : Option (Option ManualPowerChange) := none

/-- The status as someone else leaves it. -/
def StatusEdit.apply (e : StatusEdit) (st : NodePowerManagementConfigStatus) :
    NodePowerManagementConfigStatus :=
  { st with
    scalingDecision := e.decision.getD st.scalingDecision
    manualPowerOn := e.manualPowerOn.getD st.manualPowerOn }

/-- What one reconcile reads besides the stored status and the identity cache:
the machine (its status aside), the stores, what the interfaces, the API and
the clocks answer. -/
structure MachineInput where
  /-- Written to the status since the last reconcile. -/
  edit : StatusEdit := {}
  /-- The operator's cordon is gone since the last reconcile: the Node was
  created again, or someone removed the annotation. -/
  cordonDropped : Bool := false
  mn : NodePowerManagementConfig
  cluster : Cluster
  /-- The driver of each interface, or why it cannot be built. -/
  built : Nat → Except String Driver
  /-- The age of the kubelet's lease. -/
  leaseAge : Option Int := none
  now : Int
  /-- When the identity cache is looked up, and when it is written. -/
  lookupAt : Int
  storeAt : Int
  dryRun : Bool := false
  api : MachineApi := {}

namespace MachineInput

variable (i : MachineInput)

/-- The Node of the machine. -/
def node : Option Node := i.cluster.node i.mn.spec.nodeName

/-- The pools that select the machine. -/
def membership : Membership := resolve (i.node.map (·.labels)) i.cluster.pools

/-! ## §2. The Node and its pools. -/

/-- Only non-zero amounts are kept: right after a boot a device plugin reports
0 until it has registered its devices again. -/
def keepExtended (node : Node) (known : TreeMap String Int64) : TreeMap String Int64 :=
  (nodeExtended node).toList.foldl (fun acc (k, v) => if v > 0 then acc.insert k v else acc) known

/-- Gate 1: the Node must exist.  Its facts are kept so that they survive a
power-off. -/
def seeNode (st : NodePowerManagementConfigStatus) : NodePowerManagementConfigStatus :=
  match i.node with
  | some n =>
    let alloc := nodeAllocatable n
    { st with
      nodeReady := nodeReady n
      -- a Node that reports nothing keeps what was known of it
      allocatable := if alloc.cpuMillis > 0 then some alloc else st.allocatable
      extendedResources := keepExtended n st.extendedResources
      nodeLabels := some n.labels
      conditions := setCondition condNodeFound "True" "NodeFound" "" i.now st.conditions }
  -- the rest is kept for a Node that comes back
  | none =>
    { st with
      nodeReady := false
      conditions := setCondition condNodeFound "False" "NodeNotFound"
        s!"Node {i.mn.spec.nodeName} does not exist; no power actions are taken" i.now
        st.conditions }

/-- The condition about its pools. -/
def membershipCondition (conditions : List Condition) : List Condition :=
  match i.membership with
  | .member ps =>
    let message := match ps with
      | [p] => s!"selected by NodeScalingPool {p}"
      | _ =>
        let names := ", ".intercalate ps
        s!"selected by NodeScalingPools {names} (any may power it on; all must agree to power it off)"
    setCondition condPoolMembership "True" "InPool" message i.now conditions
  | .notInPool =>
    setCondition condPoolMembership "False" "NotInPool" "no NodeScalingPool selects this Node" i.now
      conditions
  | .noNode => setCondition condPoolMembership "False" "NodeNotFound" "" i.now conditions

/-- Gate 2: pool membership.  A decision only counts while the machine is still
in the pool that made it. -/
def resolvePools (st : NodePowerManagementConfigStatus) : NodePowerManagementConfigStatus :=
  let pools := i.membership.pools
  { st with
    pools := pools
    pool := if pools.isEmpty then none else some (",".intercalate pools)
    conditions := i.membershipCondition st.conditions
    scalingDecision := st.scalingDecision.filter (fun d => pools.contains d.pool) }

/-- The status after gates 1 and 2. -/
def checked (old : NodePowerManagementConfigStatus) : NodePowerManagementConfigStatus :=
  i.resolvePools (i.seeNode old)

/-! ## §3. Identity. -/

/-- The Node's system UUID. -/
def nodeUuid : Option String := (i.node.bind (·.nodeInfo)).map (·.systemUuid)

/-- What identity results are stored under: the machine and its generation. -/
def identityKey : IdentityKey := (i.mn.name, i.mn.generation.getD 0)

/-- The identity results used in this reconcile, and the cache after it: results
are stored when every interface could answer. -/
def identity (chain : PowerChain) (cache : IdentityCache) :
    List (String × IdentityCheck × Bool) × IdentityCache :=
  match cache.get i.identityKey i.lookupAt with
  | some cached => (cached.map (fun (l, r) => (l, r, true)), cache)
  | none =>
    let fresh := chain.checkIdentity i.nodeUuid
    -- an interface that could not answer is asked again in the next reconcile
    if fresh.all (·.2.2) then
      (fresh, cache.put i.identityKey (fresh.map (fun (l, r, _) => (l, r))) i.storeAt)
    else (fresh, cache)

/-- The condition about the identity of its interfaces. -/
def identityCondition (results : List (String × IdentityCheck × Bool))
    (conditions : List Condition) : List Condition :=
  let mismatched := (results.filter (·.2.1.isMismatch)).map (·.1)
  let verified := (results.filter (·.2.1 == .match)).map (·.1)
  -- one mismatch outweighs every interface that verified
  if !mismatched.isEmpty then
    let labels := ", ".intercalate mismatched
    setCondition condIdentityVerified "False" "Mismatch"
      s!"{labels} report a different system UUID than the Node; disabled" i.now conditions
  else if !verified.isEmpty then
    let labels := ", ".intercalate verified
    setCondition condIdentityVerified "True" "Verified" s!"system UUID confirmed via {labels}" i.now
      conditions
  else
    setCondition condIdentityVerified "Unknown" "NotVerifiable"
      ("no interface can report a system UUID; relying on the power state consistency check")
      i.now conditions

/-! ## §4. The reading. -/

/-- Whether the power reading agrees with the live Node. -/
def consistent (st : NodePowerManagementConfigStatus) : Bool :=
  -- the lease is only fetched where it decides
  let leaseAge := if st.powerState = .off ∧ st.nodeReady then i.leaseAge else none
  powerStateConsistent st.powerState st.nodeReady leaseAge (actionAge st (·.isOff) i.now)

/-- The condition about power state and readiness. -/
def consistencyCondition (consistent : Bool) (conditions : List Condition) : List Condition :=
  if consistent then
    setCondition condPowerStateConsistent "True" "Consistent" "" i.now conditions
  else
    setCondition condPowerStateConsistent "False" "InterfaceReportsOffButNodeIsAlive"
      ("the interface reports Off, yet the Node is Ready and its kubelet lease is fresh; "
        ++ "check that the interface points at this machine") i.now conditions

/-- The pools this machine is in, for the settings that can come from them. -/
def memberPools (st : NodePowerManagementConfigStatus) : List NodeScalingPool :=
  i.cluster.pools.filter (fun p => st.pools.contains p.name)

/-- The state machine's readings and settings, for a status with the fresh
readings. -/
def reconciler (chain : PowerChain) (st : NodePowerManagementConfigStatus) : Reconciler :=
  let pools := i.memberPools st
  let bootTimeout := effectiveBootTimeout i.mn.spec.lifecycle.bootTimeoutSeconds
    (pools.map (·.spec.scaleUp.bootTimeoutSeconds))
  -- the pool that decided gives the policy and the time of a failed power-on
  let failure := effectivePowerOnFailure
    ((st.scalingDecision.filter (·.target == .on)).map (·.pool))
    (pools.map (fun p => (p.name, p.spec.scaleUp))) bootTimeout
  { mn := i.mn
    dryRun := i.dryRun
    pods := i.cluster.podsOn i.mn.spec.nodeName
    api := i.api
    chain := chain
    node := i.node
    now := i.now
    bootTimeout := bootTimeout
    manualPolicy := effectiveManualPowerOnPolicy i.mn.spec.manualPowerOnPolicy
      (pools.map (·.spec.manualPowerOnPolicy))
    powerOnFailurePolicy := failure.1
    powerOnTimeout := failure.2 }

/-- A reconcile that could read the power state, before its state machine. -/
structure Reading where
  /-- The interfaces left after the identity check. -/
  chain : PowerChain
  /-- The interfaces asked for the power state. -/
  contacted : List Nat
  /-- The status with all fresh readings. -/
  fresh : NodePowerManagementConfigStatus

/-- A reconcile that stopped before its state machine. -/
structure Stopped where
  effects : List Effect := []
  st : NodePowerManagementConfigStatus
  requeue : Nat

/-- Everything up to the state machine, and the identity cache after it. -/
def read (old : NodePowerManagementConfigStatus) (cache : IdentityCache) :
    Except Stopped Reading × IdentityCache :=
  let st := i.checked old
  match PowerChain.build i.mn.spec.powerInterfaces i.built with
  | .error e =>
    (.error
      { st :=
          { st with
            phase := .error, message := some e, powerState := .unknown, interfaceWarnings := [] }
        requeue := slow }, cache)
  | .ok chain =>
    let (identity, cache) := i.identity chain cache
    -- from here on the reconcile has no way to reach a mismatched interface
    let chain := chain.disableMismatched identity
    let st := { st with conditions := i.identityCondition identity st.conditions }
    let (answer, contacted) := chain.powerState
    match answer with
    | .error e =>
      (.error
        { effects := contacted.map (.contact .status)
          st :=
            { st with
              interfaceWarnings := chain.unavailable, powerState := .unknown
              message := some s!"cannot read power state: {e}" }
          requeue := normal }, cache)
    | .ok outcome =>
      let st :=
        { st with powerState := outcome.value, interfaceWarnings := outcome.failures }
      let st := { st with conditions := i.consistencyCondition (i.consistent st) st.conditions }
      (.ok { chain := chain, contacted := contacted, fresh := st }, cache)

namespace Reading

variable {i} (d : Reading)

/-- The state machine of this reading. -/
def machine (i : MachineInput) : Reconciler := i.reconciler d.chain d.fresh

/-- The power change made by someone else. -/
def change (i : MachineInput) (old : NodePowerManagementConfigStatus) : ManualChange :=
  detectManualChange old d.fresh i.now (d.machine i).bootTimeout
    i.mn.spec.lifecycle.shutdownTimeoutSeconds

/-- A machine seen off is under normal management again, whoever turned it
off. -/
def seenOff (i : MachineInput) (old : NodePowerManagementConfigStatus) :
    NodePowerManagementConfigStatus :=
  if offNow d.fresh ∧ d.change i old ≠ .poweredOn then { d.fresh with manualPowerOn := none }
  else d.fresh

/-- What tracking the boot finds. -/
def tracked (i : MachineInput) (old : NodePowerManagementConfigStatus) :
    NodePowerManagementConfigStatus × BootEvent :=
  trackBoot (d.seenOff i old) i.now (d.machine i).bootTimeout

/-- The status the state machine starts from: after the manual change. -/
def start (i : MachineInput) (old : NodePowerManagementConfigStatus) :
    NodePowerManagementConfigStatus :=
  (d.machine i).manualChange (d.change i old) (d.tracked i old).1

end Reading

end MachineInput

/-! ## §5. The reconcile. -/

namespace Reconciler

variable (r : Reconciler)

/-- What is reported while a safety gate fails. -/
def gateMessage : String :=
  if r.node.isNone then
    s!"Node {r.mn.spec.nodeName} not found: observing only, no power actions"
  else "power state contradicts the live Node: observing only, no power actions"

/-- The target, unless a safety gate fails: then the state machine never acts. -/
def towards (consistent : Bool) (s : Progress) : Progress × Option Nat :=
  -- the gates are checked after the boot handler
  if r.node.isNone ∨ !consistent then (r.observe (s.message (some r.gateMessage)), some slow)
  else match managedTarget r.mn.spec.powerPolicy s.st r.manualPolicy with
  | none => (r.observe s, some slow)
  | some .on => r.ensureOn s
  | some .off => r.ensureOff s

/-- The boot handler, then the target. -/
def step (event : BootEvent) (consistent : Bool) (s : Progress) : Progress × Option Nat :=
  match r.boot event s with
  | (s, some requeue) => (s, some requeue)
  | (s, none) => r.towards consistent s

end Reconciler

/-- What one reconcile leaves. -/
structure MachineCycle where
  effects : List Effect
  /-- The status it got to patch, unless it ended in an error. -/
  status : Option NodePowerManagementConfigStatus
  cache : IdentityCache
  /-- Seconds until the next reconcile. -/
  requeue : Nat

namespace MachineInput

variable (i : MachineInput)

/-- The state machine on a reading. -/
def settle (old : NodePowerManagementConfigStatus) (d : Reading) : Progress × Option Nat :=
  (d.machine i).step (d.tracked i old).2 (i.consistent d.fresh)
    { st := d.start i old, effects := d.contacted.map (.contact .status) }

/-- `reconcile`: what it does, and the status it stores. -/
def reconcile (old : NodePowerManagementConfigStatus) (cache : IdentityCache) : MachineCycle :=
  match i.read old cache with
  | (.error e, cache) =>
    { effects := e.effects, status := if i.api.patch then some e.st else none, cache := cache
      requeue := if i.api.patch then e.requeue else normal }
  | (.ok d, cache) =>
    match i.settle old d with
    | (s, some requeue) =>
      { effects := s.effects, status := if i.api.patch then some s.st else none, cache := cache
        requeue := if i.api.patch then requeue else normal }
    -- an API error: nothing is stored, and what was done stays done
    | (s, none) => { effects := s.effects, status := none, cache := cache, requeue := normal }

end MachineInput

/-! ## §6. Runs. -/

/-- The stored status after a patch from `old` to `new`: the patch merges nested
objects, so an absent `via` and a label the Node no longer has keep their
stored value. -/
def patched (old new : NodePowerManagementConfigStatus) : NodePowerManagementConfigStatus :=
  { new with
    lastPowerAction := match old.lastPowerAction, new.lastPowerAction with
      | some o, some n => some { n with via := n.via <|> o.via }
      | _, n => n
    nodeLabels := match old.nodeLabels, new.nodeLabels with
      | some o, some n => some (n.toList.foldl (fun acc (k, v) => acc.insert k v) o)
      | _, n => n }

/-- The operator's cordon after some effects. -/
def cordonAfter (effects : List Effect) (cordoned : Bool) : Bool :=
  effects.foldl (fun cordoned e => match e with
    | .cordon => true
    | .uncordon => false
    | _ => cordoned) cordoned

/-- What lasts from one reconcile of a machine to the next. -/
structure MachineState where
  stored : NodePowerManagementConfigStatus := {}
  cache : IdentityCache := []
  /-- The Node carries the operator's own cordon. -/
  cordoned : Bool := false

namespace MachineState

variable (w : MachineState)

/-- The status a reconcile reads. -/
def old (i : MachineInput) : NodePowerManagementConfigStatus := i.edit.apply w.stored

/-- The operator's cordon when the reconcile runs. -/
def cordonedNow (i : MachineInput) : Bool := w.cordoned && !i.cordonDropped

/-- One reconcile in the state `w`. -/
def cycle (i : MachineInput) : MachineCycle := i.reconcile (w.old i) w.cache

/-- The reading of a reconcile, if it could read the power state. -/
def reading (i : MachineInput) : Option MachineInput.Reading := (i.read (w.old i) w.cache).1.toOption

end MachineState

/-- The state after a reconcile that starts from what others have left. -/
def machineStep (w : MachineState) (i : MachineInput) : MachineState where
  stored := match (w.cycle i).status with
    | some st => patched (w.old i) st
    | none => w.old i
  cache := (w.cycle i).cache
  cordoned := cordonAfter (w.cycle i).effects (w.cordonedNow i)

/-- The machine before reconcile `n`, from an empty status. -/
def machineAt (inp : Nat → MachineInput) (n : Nat) : MachineState := stateAt machineStep {} inp n

theorem machineAt_succ (inp : Nat → MachineInput) (n : Nat) :
    machineAt inp (n + 1) = machineStep (machineAt inp n) (inp n) :=
  Lib.stateAt_succ n

end HardwareAutoscaler
