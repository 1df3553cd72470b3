/-
  HardwareAutoscaler.Controller.Machine.Rules
  ───────────────────────────────────────────
  THE RULES OF THE MACHINE CONTROLLER: the functions of
  `node_power_management_config.rs` that look at a status and the clock and
  decide something, without side effects.

    • `desiredTarget`, `managedTarget` — the state to drive towards,
    • `detectManualChange` — power changes made by someone else,
    • `trackBoot`, `failureIsCurrent`, `bootFailureLeavesOn` — boot failures,
    • `powerOnAttempt`, `offAction`, `inStandby`, `s3Capable`,
    • `powerStateConsistent` — the reading against a live Node.
-/
import HardwareAutoscaler.Crd

namespace HardwareAutoscaler

/-! ## §1. Constants (seconds). -/

/-- Requeue while something is under way. -/
def fast : Nat := 10
/-- Requeue while all is as it should be. -/
def normal : Nat := 30
/-- Requeue where nothing can be done now. -/
def slow : Nat := 60
/-- Minimum time between repeated power commands. -/
def retryActionAfter : Int := 90
/-- A machine still up this long after being suspended did not go to sleep. -/
def standbySettleSecs : Int := 240
/-- After standby failed on a machine, it is shut down instead for this long. -/
def standbyBackoffSecs : Int := 24 * 3600
/-- How long a drained machine waits for its sleep probe. -/
def probeWaitSecs : Int := 60
/-- Waking up this soon after being suspended is not a manual power-on. -/
def spontaneousWakeSecs : Int := 300
/-- How long after our own power-off a live Node is expected. -/
def offGraceSecs : Int := 90
/-- A kubelet lease renewed this recently means the node is running. -/
def leaseFreshSecs : Int := 15
/-- `i64::MAX`: no time is known. -/
def i64Max : Int := 2 ^ 63 - 1

/-! ## §2. Targets. -/

/-- The state to drive towards. With `Auto`, only a decision from a pool the
machine currently belongs to counts. -/
def desiredTarget (policy : PowerPolicy) (st : NodePowerManagementConfigStatus) :
    Option PowerTarget :=
  match policy with
  | .alwaysOn => some .on
  | .alwaysOff => some .off
  | .auto => (st.scalingDecision.filter (fun d => st.pools.contains d.pool)).map (·.target)

/-- The state to drive towards, after the manual power-on policy. -/
def managedTarget (policy : PowerPolicy) (st : NodePowerManagementConfigStatus)
    (manual : ManualPowerOnPolicy) : Option PowerTarget :=
  if policy = .auto ∧ st.manualPowerOn.isSome ∧ manual = .leaveOn then none
  else desiredTarget policy st

/-! ## §3. Manual changes. -/

/-- A power change the autoscaler did not make. -/
inductive ManualChange where
  | none
  /-- Was off (or in standby), is on now, and no PowerOn of ours explains it. -/
  | poweredOn
  /-- Was on, reads off now, and no power-off of ours explains it. -/
  | poweredOff
  deriving DecidableEq, Repr

/-- The actions that switch a machine off or suspend it. -/
def PowerAction.isOff : PowerAction → Bool
  | .powerOn => false
  | _ => true

/-- Seconds since the last power action, if it is one of `actions`. -/
def actionAge (st : NodePowerManagementConfigStatus) (actions : PowerAction → Bool) (now : Int) :
    Option Int :=
  (st.lastPowerAction.filter (fun a => actions a.action)).map (fun a => numSeconds (now - a.time))

/-- A `PowerOn` within the boot timeout. -/
def ourOn (st : NodePowerManagementConfigStatus) (now : Int) (bootTimeoutSecs : UInt64) : Bool :=
  (actionAge st (!·.isOff) now).any (· ≤ asI64 bootTimeoutSecs)

/-- A `PowerOff`, `ForceOff` or `Standby` within the shutdown timeout and
300 s (the sum wraps, as it does in a release build). -/
def ourOff (st : NodePowerManagementConfigStatus) (now : Int) (shutdownTimeoutSecs : UInt64) :
    Bool :=
  (actionAge st (·.isOff) now).any
    (· ≤ ((Int64.ofInt (asI64 shutdownTimeoutSecs)) + 300).toInt)

/-- The machine is seen to be up. -/
def onNow (st : NodePowerManagementConfigStatus) : Bool := st.powerState == .on || st.nodeReady

/-- The machine is seen to be down. -/
def offNow (st : NodePowerManagementConfigStatus) : Bool := st.powerState == .off && !st.nodeReady

/-- Compares the previous status with the fresh readings in `st` to find power
changes made by someone else. -/
def detectManualChange (old st : NodePowerManagementConfigStatus) (now : Int)
    (bootTimeoutSecs shutdownTimeoutSecs : UInt64) : ManualChange :=
  let off := if old.powerState = .on ∧ offNow st ∧ !ourOff st now shutdownTimeoutSecs then
    ManualChange.poweredOff else .none
  match old.phase with
  | .off => if onNow st ∧ !ourOn st now bootTimeoutSecs then .poweredOn else .none
  -- a sleeping machine may read On: only its Node shows that it woke up
  | .standby =>
    if st.nodeReady ∧ !ourOn st now bootTimeoutSecs
        ∧ old.standbySince.all (fun t => numSeconds (now - t) > spontaneousWakeSecs) then
      .poweredOn
    else .none
  | .on | .poweringOn | .bootFailed => off
  | _ => .none

/-! ## §4. Boots. -/

/-- What `trackBoot` found. -/
inductive BootEvent where
  | none
  /-- Powered on, Node not Ready past the boot timeout (just now). -/
  | failed
  /-- The Node of a machine that had failed to boot is Ready after all. -/
  | recovered
  deriving DecidableEq, Repr

/-- Whether the machine is on its way up as far as `trackBoot` is concerned. -/
def isBooting (st : NodePowerManagementConfigStatus) : Bool :=
  st.powerState == .on && st.standbySince.isNone
    && !(st.phase == .poweringOff || st.phase == .draining || st.phase == .standby)

/-- When a boot first seen now started: our own PowerOn if one started this
phase. -/
def bootStart (st : NodePowerManagementConfigStatus) (now : Int) : Int :=
  match st.phase with
  | .poweringOn | .bootFailed => min (st.phaseSince.getD now) now
  | _ => now

/-- Tracks how long the machine has been powered on without its Node being
Ready, and records a boot failure past the boot timeout. -/
def trackBoot (st : NodePowerManagementConfigStatus) (now : Int) (bootTimeoutSecs : UInt64) :
    NodePowerManagementConfigStatus × BootEvent :=
  if st.nodeReady then
    ({ st with poweredOnNotReadySince := none, bootFailure := none },
      if st.bootFailure.isSome then .recovered else .none)
  else if !isBooting st then
    (if st.powerState = .off then { st with poweredOnNotReadySince := none } else st, .none)
  else
    let since := st.poweredOnNotReadySince.getD (bootStart st now)
    let st : NodePowerManagementConfigStatus := { st with poweredOnNotReadySince := some since }
    -- one failure for each boot, however long it lasts
    let newBoot : Bool := st.bootFailure.all (fun f => since > f.time)
    if newBoot ∧ numSeconds (now - since) > asI64 bootTimeoutSecs then
      ({ st with bootFailure := some { time := now } }, .failed)
    else (st, .none)

/-- Whether the recorded boot failure belongs to the boot in progress. -/
def failureIsCurrent (st : NodePowerManagementConfigStatus) : Bool :=
  match st.bootFailure, st.poweredOnNotReadySince with
  | some f, some since => since ≤ f.time
  | _, _ => false

/-- Whether a boot failure leaves the machine on: always under `AlwaysOn` and
`AlwaysOff`, and with `Auto` only when it was powered on by hand under
`LeaveOn`. -/
def bootFailureLeavesOn (st : NodePowerManagementConfigStatus) (powerPolicy : PowerPolicy)
    (policy : ManualPowerOnPolicy) : Bool :=
  if powerPolicy ≠ .auto then true
  else
    let since := st.poweredOnNotReadySince
    let ours := st.lastPowerAction.any (fun a =>
      a.action == .powerOn && since.all (fun s => a.time ≥ s - seconds 120))
    !ours && policy == .leaveOn

/-! ## §5. Attempts and actions. -/

/-- Where a power-on attempt stands. -/
inductive PowerOnAttempt where
  | ongoing
  /-- Still off, or still suspended, and the timeout has elapsed. -/
  | expired
  deriving DecidableEq, Repr

/-- A power-on that has not reached a machine that is actually on. The clock is
the scaling decision's time. -/
def powerOnAttempt (st : NodePowerManagementConfigStatus) (now : Int)
    (policy : PowerOnFailurePolicy) (timeoutSeconds : UInt64) : PowerOnAttempt :=
  if policy = .retry ∨ st.nodeReady then .ongoing
  else match st.scalingDecision.filter (·.target == .on) with
  | none => .ongoing
  | some d =>
    if st.powerState = .on ∧ st.standbySince.isNone then .ongoing
    else if numSeconds (now - d.time) > asI64 timeoutSeconds then .expired
    else .ongoing

/-- Standby failed on this machine within the backoff. -/
def standbyBroken (standbyFailedAt : Option Int) (now : Int) : Bool :=
  standbyFailedAt.any (fun t => numSeconds (now - t) < standbyBackoffSecs)

/-- `Standby` or `PowerOff`. -/
def offAction (mode : PowerOffMode) (standbyFailedAt : Option Int) (s3 : Option Bool)
    (now : Int) : PowerAction :=
  -- for a day after standby failed, whatever the mode
  if standbyBroken standbyFailedAt now then .powerOff
  else match mode with
  | .standby => .standby
  | .auto => if s3 = some true then .standby else .powerOff
  | .shutdown => .powerOff

/-- Whether a machine can sleep in S3, for scale-up ordering. -/
def s3Capable (st : NodePowerManagementConfigStatus) (now : Int) : Bool :=
  st.phase == .standby
    || (!standbyBroken st.standbyFailedAt now && st.sleepSupport.any (·.s3))

/-- Whether a standby we requested has taken effect. -/
def inStandby (phase : Phase) (standbyRequested nodeReady : Bool) : Bool :=
  standbyRequested && (phase == .poweringOff || phase == .standby) && !nodeReady

/-- Whether the interface's power reading agrees with the Node: it must not
report Off while the kubelet is demonstrably alive. -/
def powerStateConsistent (reported : PowerState) (nodeReady : Bool)
    (leaseAgeSecs sinceOurOffActionSecs : Option Int) : Bool :=
  let nodeAlive := nodeReady && leaseAgeSecs.any (· ≤ leaseFreshSecs)
  let recentlyTurnedOff := sinceOurOffActionSecs.any (· ≤ offGraceSecs)
  !(reported == .off && nodeAlive && !recentlyTurnedOff)

/-! ## §6. What the rules leave alone. -/

/-- `trackBoot` changes nothing but its own two fields. -/
theorem trackBoot_frame (st : NodePowerManagementConfigStatus) (now : Int) (t : UInt64) :
    ∃ since failure, (trackBoot st now t).1
      = { st with poweredOnNotReadySince := since, bootFailure := failure } := by
  unfold trackBoot
  split
  · exact ⟨_, _, rfl⟩
  · split
    · split
      · exact ⟨_, _, rfl⟩
      · exact ⟨_, _, rfl⟩
    · simp only
      split
      · exact ⟨_, _, rfl⟩
      · exact ⟨_, _, rfl⟩

/-- A standby in effect is not consistent with a Ready Node. -/
theorem inStandby_of_nodeReady {phase : Phase} {requested : Bool} :
    inStandby phase requested true = false := by
  simp [inStandby]

end HardwareAutoscaler
