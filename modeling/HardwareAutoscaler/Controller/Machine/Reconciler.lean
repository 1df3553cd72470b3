/-
  HardwareAutoscaler.Controller.Machine.Reconciler
  ────────────────────────────────────────────────
  THE STATE MACHINE OF ONE RECONCILE (`struct Reconciler` of
  `src/controller/node_power_management_config.rs`).

  `Reconciler` holds what the reconcile has read and never changes; the status
  it is writing and the effects it has had so far are passed along as
  `Progress`.  A method that ends in an API error returns no requeue time:
  its effects stay, its status is not stored.

    • `act` — one power action,
    • `ensureOn`, `ensureOff`, `drain` — towards the target,
    • `manualChange`, `boot` — what comes before the target,
    • `observe` — without a target.
-/
import HardwareAutoscaler.Controller.Machine.Effects
import HardwareAutoscaler.Controller.Machine.Rules
import HardwareAutoscaler.Drivers.Chain
import HardwareAutoscaler.Scaling.View

namespace HardwareAutoscaler

/-- What a reconcile has read when its state machine starts. -/
structure Reconciler where
  mn : NodePowerManagementConfig
  dryRun : Bool
  /-- The pods on the Node. -/
  pods : List Pod
  api : MachineApi
  chain : PowerChain
  node : Option Node
  now : Int
  /-- Effective `lifecycle.bootTimeoutSeconds`. -/
  bootTimeout : UInt64
  /-- Effective `manualPowerOnPolicy`. -/
  manualPolicy : ManualPowerOnPolicy
  /-- The deciding pool's `powerOnFailurePolicy`. -/
  powerOnFailurePolicy : PowerOnFailurePolicy
  /-- The deciding pool's power-on timeout, or this machine's boot timeout. -/
  powerOnTimeout : UInt64

/-- The status a reconcile is writing and the effects it has had so far. -/
structure Progress where
  st : NodePowerManagementConfigStatus
  effects : List Effect := []

namespace Progress

/-- The power actions issued so far. -/
def issued (s : Progress) : List PowerAction := HardwareAutoscaler.issued s.effects

/-- More effects, in order. -/
def did (s : Progress) (effects : List Effect) : Progress :=
  { s with effects := s.effects ++ effects }

/-- The status with another message. -/
def message (s : Progress) (m : Option String) : Progress :=
  { s with st := { s.st with message := m } }

end Progress

/-- `set_phase`, on the status: a phase entered is entered `now`. -/
def enterPhase (now : Int) (st : NodePowerManagementConfigStatus) (phase : Phase) :
    NodePowerManagementConfigStatus :=
  if st.phase ≠ phase then { st with phase := phase, phaseSince := some now } else st

namespace Reconciler

variable (r : Reconciler)

/-! ## §1. Phases and actions. -/

/-- `set_phase`. -/
def setPhase (phase : Phase) (s : Progress) : Progress :=
  { s with st := enterPhase r.now s.st phase }

/-- Seconds since the phase was entered. -/
def inPhaseFor (st : NodePowerManagementConfigStatus) : Int :=
  (st.phaseSince.map (fun t => numSeconds (r.now - t))).getD i64Max

/-- Seconds since the last power action, if it was this one. -/
def sinceLastAction (st : NodePowerManagementConfigStatus) (action : PowerAction) : Int :=
  match st.lastPowerAction with
  | some a => if a.action = action then numSeconds (r.now - a.time) else i64Max
  | none => i64Max

/-- Asks an interface, keeping which ones were contacted. -/
def asked (action : InterfaceAction) (answer : Except String (Outcome Unit) × List Nat) :
    Except String (Outcome Unit) × List Effect :=
  (answer.1, answer.2.map (.contact action))

/-- Carries an action out: a management interface, or the host itself for a
standby. -/
def command (action : PowerAction) : Except String (Outcome Unit) × List Effect :=
  if r.dryRun then (.ok ⟨(), "dry-run", []⟩, [])
  else match action with
  | .powerOn => asked .powerOn r.chain.powerOn
  | .powerOff => asked .powerOff (r.chain.powerOff false)
  | .standby =>
    let cmd : HostCommand := match r.mn.spec.lifecycle.powerOffMode with
      | .auto => .suspendS3
      | _ => .suspend
    (r.api.suspend.map (fun _ => ⟨(), "in-band", []⟩), [.suspendPod cmd])
  | .forceOff => asked .powerOff (r.chain.powerOff true)

/-- Whether the action succeeds. -/
def succeeds (action : PowerAction) : Bool := (r.command action).1.isOk

/-- What an action makes of `standbySince`. -/
def standbyAfter (action : PowerAction) (since : Option Int) : Option Int :=
  match action with
  | .standby => some r.now
  | .powerOff => none
  | _ => since

/-- The record of an action. -/
def record (action : PowerAction) : PowerActionRecord where
  action := action
  time := r.now
  succeeded := r.succeeds action
  via := (r.command action).1.toOption.map (·.via)

/-- Issues a power action and records it. -/
def act (action : PowerAction) (s : Progress) : Progress where
  st :=
    { s.st with
      standbySince := r.standbyAfter action s.st.standbySince
      lastPowerAction := some (r.record action)
      message := match (r.command action).1 with
        | .ok _ => s.st.message
        | .error e => some s!"{action.name} failed: {e}" }
  effects := s.effects ++ (r.command action).2 ++ [.act action (r.succeeds action)]

/-! ## §2. The sleep probe. -/

/-- The boot id of the Node, if it tells one. -/
def bootId : Option String :=
  (r.node.bind (·.nodeInfo)).bind (fun i => if i.bootId.isEmpty then none else some i.bootId)

/-- Whether the machine can sleep in S3, if probed during its current boot. -/
def s3Known (st : NodePowerManagementConfigStatus) : Option Bool :=
  r.bootId.bind (fun boot => (st.sleepSupport.filter (·.bootId == boot)).map (·.s3))

/-- The action that takes this machine offline. -/
def offAction (st : NodePowerManagementConfigStatus) : PowerAction :=
  HardwareAutoscaler.offAction r.mn.spec.lifecycle.powerOffMode st.standbyFailedAt (r.s3Known st)
    r.now

/-- What the probe of this boot has found, unless it is pending or ran before
a reboot. -/
def probeResult (boot : String) : Option SleepSupport :=
  match r.api.probe with
  | .ok .pending => none
  | .ok (.done bootId memSleep) =>
    if bootId ≠ boot then none else some ⟨bootId, offersS3 memSleep, memSleep⟩
  | .ok (.failed e) => some ⟨boot, false, s!"probe failed: {e}"⟩
  | .error e => some ⟨boot, false, s!"probe failed: {e}"⟩

/-- Advances the sleep probe for the current boot; `none` while pending. -/
def probeSleep (s : Progress) : Progress × Option Bool :=
  match r.s3Known s.st with
  | some known => (s, some known)
  | none =>
    match r.bootId with
    | none => (s, none)
    | some boot =>
      match r.probeResult boot with
      | none => (s.did [.probe], none)
      | some support =>
        ({ (s.did [.probe]) with st := { s.st with sleepSupport := some support } },
          some support.s3)

/-! ## §3. Powering on. -/

/-- Records that standby does not work on this machine right now. -/
def standbyFailed (s : Progress) : Progress :=
  { s with st := { s.st with standbyFailedAt := some r.now } }

/-- The status of a power-on that did not turn the machine on in time: the
decision is dropped and a boot failure recorded. -/
def released (st : NodePowerManagementConfigStatus) : NodePowerManagementConfigStatus :=
  { st with
    standbyFailedAt := if st.standbySince.isSome then some r.now else st.standbyFailedAt
    bootFailure := some { time := r.now }
    scalingDecision := none
    standbySince := none
    message := some (s!"{r.mn.spec.nodeName} did not power on within {r.powerOnTimeout.toNat}s; "
      ++ "released, not woken again for the pools' bootFailureBackoffSeconds") }

/-- Drops the decision of a power-on that did not turn the machine on in time,
so that the pool can choose another one. -/
def releaseFailedPowerOn (s : Progress) : Progress :=
  let s := { s with st := r.released s.st }
  if s.st.powerState = .on then
    let s := s.did (markPoweredOff r.dryRun r.api)
    -- The same instant as the failure: the boot-failure handler treats this as
    -- the boot in progress and finishes the power-off.
    let s := { s with st := { s.st with poweredOnNotReadySince := some r.now } }
    let s := r.act .forceOff s
    let s := { s with st := { s.st with forcedOffAt := some r.now } }
    r.setPhase .bootFailed s
  else r.setPhase .off s

/-- Powers on: `PoweringOn` if the command was accepted, `Error` otherwise. -/
def startPowerOn (s : Progress) : Progress :=
  let s := r.act .powerOn s
  if r.succeeds .powerOn then r.setPhase .poweringOn s else r.setPhase .error s

/-- In phase `PoweringOn`: gives up on a standby that does not wake, or repeats
the command. -/
def keepPoweringOn (s : Progress) : Progress :=
  let timeout := asI64 r.bootTimeout
  -- the sleeping machine is cut, and `Error` powers it on again from cold
  if r.inPhaseFor s.st > timeout ∧ s.st.standbySince.isSome then
    let s := r.setPhase .error (r.act .forceOff (r.standbyFailed s))
    s.message (some s!"did not wake from standby within {timeout}s; forced off for a cold boot")
  else if (s.st.powerState = .off ∨ s.st.standbySince.isSome)
      ∧ r.sinceLastAction s.st .powerOn > retryActionAfter then
    r.act .powerOn s
  else s

/-- `uncordonIfOurs`, if the Node is there. -/
def uncordon : Bool × List Effect :=
  match r.node with
  | some node => uncordonIfOurs r.api node
  | none => (true, [])

/-- `clearPoweredOff`, if the Node is there. -/
def clearMarker : Bool × List Effect :=
  match r.node with
  | some node => clearPoweredOff r.api node
  | none => (true, [])

/-- Enters phase `On`. -/
def enterOn (s : Progress) : Progress :=
  let s := r.setPhase .on s
  { s with st := { s.st with forcedOffAt := none, standbySince := none, message := none } }

/-- The machine is On and its Node Ready. -/
def online (s : Progress) : Progress × Option Nat :=
  let s := s.did r.uncordon.2
  if !r.uncordon.1 then (s, none)
  else
    let s := s.did r.clearMarker.2
    if !r.clearMarker.1 then (s, none)
    else
      let s := r.enterOn s
      -- Find out early, so that a scale-down does not have to wait for it.
      if r.mn.spec.lifecycle.powerOffMode = .auto then ((r.probeSleep s).1, some slow)
      else (s, some slow)

/-- Powered but not Ready yet: booting, or an aborted scale-down. -/
def comingUp (s : Progress) : Progress × Option Nat :=
  let s := s.did r.uncordon.2
  if !r.uncordon.1 then (s, none) else (r.setPhase .poweringOn s, some fast)

/-- A standby is called off: the suspend pod is withdrawn if it has not run
yet, and the machine is woken if it has. -/
def callOffStandby (s : Progress) : Progress :=
  r.startPowerOn (s.did (if r.api.cancel then [.deleteSuspendPod] else []))

/-- `ensure_on`: brings the machine up. -/
def ensureOn (s : Progress) : Progress × Option Nat :=
  let power := s.st.powerState
  if power = .on ∧ s.st.nodeReady then r.online s
  else if powerOnAttempt s.st r.now r.powerOnFailurePolicy r.powerOnTimeout = .expired then
    (r.releaseFailedPowerOn s, some fast)
  -- from here on the machine is not On and Ready, and its attempt has not expired
  else if s.st.phase = .poweringOn then (r.keepPoweringOn s, some fast)
  else if (s.st.phase = .poweringOff ∨ s.st.phase = .standby) ∧ s.st.standbySince.isSome then
    (r.callOffStandby s, some fast)
  -- A graceful shutdown cannot be cancelled: wait for it to finish.
  else if s.st.phase = .poweringOff ∧ power = .on
      ∧ r.inPhaseFor s.st ≤ asI64 r.mn.spec.lifecycle.shutdownTimeoutSeconds then
    (s.message (some "waiting for shutdown to complete before powering back on"), some fast)
  -- past its shutdown timeout, or on for another reason: it is on, so it boots
  else if power = .on ∧ s.st.standbySince.isNone then r.comingUp s
  -- a power-on that failed is not repeated at once
  else if s.st.phase = .error ∧ r.sinceLastAction s.st .powerOn < retryActionAfter then
    (s, some normal)
  else (r.startPowerOn s, some fast)

/-! ## §4. Powering off. -/

/-- The machine is off, or asleep. -/
def offline (s : Progress) : Progress :=
  let s := r.setPhase (if s.st.standbySince.isSome then .standby else .off) s
  { s with st := { s.st with forcedOffAt := none, message := none } }

/-- In phase `PoweringOff`: a standby that does not hold becomes a shutdown, a
shutdown that does not finish is forced, and a failed request is repeated. -/
def keepPoweringOff (s : Progress) : Progress :=
  let shutdownTimeout := asI64 r.mn.spec.lifecycle.shutdownTimeoutSeconds
  let settle := min shutdownTimeout standbySettleSecs
  if s.st.standbySince.isSome ∧ r.inPhaseFor s.st > settle then
    -- the failure is recorded before the shutdown, which then stays a shutdown
    let s := r.act .powerOff (r.standbyFailed s)
    { s with st := { s.st with phaseSince := some r.now } }
  else if r.inPhaseFor s.st > shutdownTimeout then
    let sinceForce := s.st.forcedOffAt.map (fun t => numSeconds (r.now - t))
    -- repeated, as a single forced power-off may be lost
    if sinceForce.all (· > retryActionAfter) then
      let s := s.message (some
        s!"graceful shutdown did not finish within {shutdownTimeout}s; forcing power off")
      let s := r.act .forceOff s
      { s with st := { s.st with forcedOffAt := some r.now, standbySince := none } }
    else s
  -- the request itself failed: a third of the usual wait, then again
  else if s.st.lastPowerAction.any (!·.succeeded)
      ∧ r.sinceLastAction s.st (r.offAction s.st) > retryActionAfter / 3 then
    r.act (r.offAction s.st) s
  else s

/-- Marks the Node, issues the off action and moves on to `PoweringOff`. -/
def powerOff (s : Progress) : Progress :=
  let s := s.did (markPoweredOff r.dryRun r.api)
  r.setPhase .poweringOff (r.act (r.offAction s.st) s)

/-- The name of a pod in messages. -/
def podId (pod : Pod) : String := s!"{pod.namespace}/{pod.name}"

/-- The pods that must leave before the power-off. -/
def remaining : List Pod := r.pods.filter (drainClass · = .evict)

/-- The pods that block the power-off, with why. -/
def blocked : List String :=
  r.pods.filterMap (fun pod => match drainClass pod with
    | .block why => some s!"{podId pod} ({why})"
    | _ => none)

/-- The evictions of one drain: the pods that are not leaving yet. -/
def evictions : List Effect :=
  (r.remaining.filter (·.deletionTimestamp.isNone)).map (fun pod => .evict (podId pod))

/-- Nothing is left that the drain waits for. -/
def drained : Bool := r.remaining.isEmpty && r.blocked.isEmpty

/-- What the drain waits for. -/
def drainSummary : String :=
  s!"waiting for {r.remaining.length} pod(s) to leave"
    ++ if r.blocked.isEmpty then ""
       else "; blocked by " ++ ", ".intercalate r.blocked

/-- The decision that aborts a scale-down. -/
def abortDecision (st : NodePowerManagementConfigStatus) : ScalingDecision where
  pool := ((st.scalingDecision.map (·.pool)) <|> st.pools.head?).getD ""
  target := .on
  reason := "scale down aborted: drain failed"
  time := r.now

/-- The status of a drain that timed out: the pool backs off from this machine
for a while. -/
def drainTimedOut (st : NodePowerManagementConfigStatus) : NodePowerManagementConfigStatus :=
  let drainTimeout := asI64 r.mn.spec.lifecycle.drainTimeoutSeconds
  { st with
    message := some s!"drain timed out after {drainTimeout}s: {r.drainSummary}"
    drainFailedAt := some r.now }

/-- A drain that timed out without `forceAfterDrainTimeout`. -/
def drainFailed (s : Progress) : Progress × Option Nat :=
  let s := { s with st := r.drainTimedOut s.st }
  if r.mn.spec.powerPolicy = .auto then
    let s := { s with st := { s.st with scalingDecision := some (r.abortDecision s.st) } }
    let s := s.did r.uncordon.2
    if !r.uncordon.1 then (s, none) else (r.setPhase .on s, some normal)
  -- Manual Off: keep trying, restarting the drain timer.
  else ({ s with st := { s.st with phaseSince := some r.now } }, some normal)

/-- A drain that has nothing to wait for but, in mode `Auto`, the probe. -/
def drainDone (s : Progress) : Progress × Option Nat :=
  if r.mn.spec.lifecycle.powerOffMode = .auto then
    let known := (r.probeSleep s).2
    let s := (r.probeSleep s).1
    if known.isNone ∧ r.inPhaseFor s.st ≤ probeWaitSecs then
      -- Not known yet; after `probeWaitSecs` it is a shutdown.
      (s.message (some "checking whether the machine can sleep in S3"), some 2)
    else (r.powerOff (s.message none), some fast)
  else (r.powerOff (s.message none), some fast)

/-- `drain`: evicts the pods and waits until they have left. -/
def drain (s : Progress) : Progress × Option Nat :=
  let s := s.did r.evictions
  -- evicting is not waiting for: the pods leave in a later reconcile
  if r.drained then r.drainDone s
  else if r.inPhaseFor s.st ≤ asI64 r.mn.spec.lifecycle.drainTimeoutSeconds then
    (s.message (some r.drainSummary), some 5)
  else if r.mn.spec.lifecycle.forceAfterDrainTimeout then
    let s := s.message (some s!"drain timed out ({r.drainSummary}); powering off anyway")
    (r.powerOff s, some fast)
  else r.drainFailed s

/-- Cordons the Node and starts to drain it; a machine whose Node is not seen
is never powered off. -/
def startDrain (s : Progress) : Progress × Option Nat :=
  match r.node with
  | some node =>
    let s := s.did (cordon r.api node).2
    if !(cordon r.api node).1 then (s, none) else (r.setPhase .draining s, some 2)
  | none =>
    (s.message (some s!"refusing to power off: Node {r.mn.spec.nodeName} not found, cannot drain"),
      some normal)

/-- A machine that woke from standby by itself is not suspended again. -/
def wokeByItself (st : NodePowerManagementConfigStatus) : Bool :=
  st.phase == .standby && st.standbySince.isSome && st.nodeReady && st.powerState != .off

/-- `ensure_off`: brings the machine down. -/
def ensureOff (s : Progress) : Progress × Option Nat :=
  let s := if wokeByItself s.st then
      let s := r.standbyFailed s
      { s with st := { s.st with standbySince := none } }
    else s
  let suspended := inStandby s.st.phase s.st.standbySince.isSome s.st.nodeReady
  -- in standby the interface may still read On: the Node going away decides
  if s.st.powerState = .off ∨ suspended then (r.offline s, some slow)
  else if s.st.phase = .poweringOff then (r.keepPoweringOff s, some fast)
  else if s.st.phase = .draining then r.drain s
  else r.startDrain s

/-! ## §5. Before the target. -/

/-- Reacts to a power change made by someone else: the stored decision is
dropped, so that it does not fight the change. -/
def manualChange (change : ManualChange) (st : NodePowerManagementConfigStatus) :
    NodePowerManagementConfigStatus :=
  match change with
  | .none => st
  | .poweredOn =>
    { st with
      manualPowerOn := some { time := r.now, policy := some r.manualPolicy }
      scalingDecision := none
      -- whoever switched it on ended its standby and any recorded boot failure
      standbySince := none
      bootFailure := none }
  | .poweredOff =>
    { st with
      manualPowerOn := none
      manualPowerOff := some { time := r.now }
      scalingDecision := none
      -- a boot failure that left the machine on ends with the power-off
      bootFailure := if st.bootFailure.any (·.leftOn) then none else st.bootFailure }

/-- The message about a boot that failed. -/
def bootFailedMessage (leave : Bool) : String :=
  let what :=
    if r.mn.spec.powerPolicy = .alwaysOn then "left as it is: powerPolicy is AlwaysOn"
    else if r.mn.spec.powerPolicy = .alwaysOff then "left as it is: powerPolicy is AlwaysOff"
    else if leave then "left on: it was powered on by hand and the policy is LeaveOn"
    else "powering it off; it is not woken again for the pools' bootFailureBackoffSeconds"
  s!"{r.mn.spec.nodeName} powered on {r.bootTimeout.toNat / 60}m+ without its Node becoming Ready; "
    ++ s!"boot failed, {what}"

/-- The status of a boot that has just failed. -/
def failedBoot (st : NodePowerManagementConfigStatus) : NodePowerManagementConfigStatus :=
  let leave := bootFailureLeavesOn st r.mn.spec.powerPolicy r.manualPolicy
  { st with
    bootFailure := st.bootFailure.map (fun f => { f with leftOn := leave })
    scalingDecision := none
    message := some (r.bootFailedMessage leave) }

/-- A boot has just failed: the machine is powered off unless it is left on. -/
def bootFailed (s : Progress) : Progress :=
  let leave := bootFailureLeavesOn s.st r.mn.spec.powerPolicy r.manualPolicy
  let s := r.setPhase .bootFailed { s with st := r.failedBoot s.st }
  -- no drain: the Node never became Ready, so no pod runs on it
  if leave then s else r.act .powerOff (s.did (markPoweredOff r.dryRun r.api))

/-- The graceful request after boot failure `f` did nothing: the power is cut,
again and again. -/
def cutsPower (st : NodePowerManagementConfigStatus) (f : BootFailure) : Bool :=
  !f.leftOn
    && numSeconds (r.now - f.time)
        > min (asI64 r.mn.spec.lifecycle.shutdownTimeoutSeconds) standbySettleSecs
    && (st.forcedOffAt.map (fun t => numSeconds (r.now - t))).all (· > retryActionAfter)

/-- Handles a machine that is powered on without its Node becoming Ready.
Returns the requeue time while it is boot-failed and still powered (the normal
state machine is skipped). -/
def boot (event : BootEvent) (s : Progress) : Progress × Option Nat :=
  match event with
  | .recovered => (s, none)
  | .failed => (r.bootFailed s, some fast)
  | .none =>
    match s.st.bootFailure with
    | none => (s, none)
    | some f =>
      -- a failure of an earlier boot does not stop this one
      if s.st.nodeReady ∨ s.st.powerState ≠ .on ∨ !failureIsCurrent s.st then (s, none)
      else
        let s := r.setPhase .bootFailed s
        if r.cutsPower s.st f then
          let s := r.act .forceOff s
          ({ s with st := { s.st with forcedOffAt := some r.now } }, some fast)
        else (s, some fast)

/-- Without a desired state, only mirrors what the interface reports. -/
def observe (s : Progress) : Progress :=
  if inStandby s.st.phase s.st.standbySince.isSome s.st.nodeReady then s
  else match s.st.powerState with
  | .on => if s.st.nodeReady then r.setPhase .on s else r.setPhase .poweringOn s
  | .off => r.setPhase .off s
  | .unknown => r.setPhase .unknown s

end Reconciler

end HardwareAutoscaler
