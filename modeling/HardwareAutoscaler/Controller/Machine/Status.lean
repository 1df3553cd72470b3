/-
  HardwareAutoscaler.Controller.Machine.Status
  ────────────────────────────────────────────
  A MACHINE'S STATUS AS IT IS WRITTEN: its JSON fields with the skip rules of
  `src/crd.rs`, and those of the records in it.
-/
import HardwareAutoscaler.Controller.Pool.Status

namespace HardwareAutoscaler

open Std (TreeMap)
open Lib (Json Fields)
open Lib.Json (present ofMap DistinctKeys)

/-! ## §1. Names. -/

/-- The name a phase is stored under. -/
def Phase.name : Phase → String
  | .unknown => "Unknown"
  | .poweringOn => "PoweringOn"
  | .on => "On"
  | .draining => "Draining"
  | .poweringOff => "PoweringOff"
  | .off => "Off"
  | .standby => "Standby"
  | .error => "Error"
  | .bootFailed => "BootFailed"

/-- The name a power state is stored under. -/
def PowerState.name : PowerState → String
  | .on => "On"
  | .off => "Off"
  | .unknown => "Unknown"

/-- The name a target is stored under. -/
def PowerTarget.name : PowerTarget → String
  | .on => "On"
  | .off => "Off"

/-- The name a policy is stored under. -/
def ManualPowerOnPolicy.name : ManualPowerOnPolicy → String
  | .leaveOn => "LeaveOn"
  | .adopt => "Adopt"
  | .powerOff => "PowerOff"

/-! ## §2. Records. -/

/-- A number, as serde writes it. -/
def int64Json (n : Int64) : Json := .num n.toInt

/-- The entries of a decision, as it is stored. -/
def ScalingDecision.entries (d : ScalingDecision) : List (String × Option Json) :=
  [("pool", some (.str d.pool)), ("target", some (.str d.target.name)),
   ("reason", some (.str d.reason)), ("time", some (.time d.time))]

/-- The entries of an action, as it is stored. -/
def PowerActionRecord.entries (a : PowerActionRecord) : List (String × Option Json) :=
  [("action", some (.str a.action.name)), ("time", some (.time a.time)),
   ("succeeded", some (.bool a.succeeded)), ("via", a.via.map strJson)]

/-- The entries of a probe's result, as it is stored. -/
def SleepSupport.entries (s : SleepSupport) : List (String × Option Json) :=
  [("bootId", some (.str s.bootId)), ("s3", some (.bool s.s3)), ("detail", some (.str s.detail))]

/-- The entries of a manual change, as it is stored. -/
def ManualPowerChange.entries (c : ManualPowerChange) : List (String × Option Json) :=
  [("time", some (.time c.time)), ("policy", c.policy.map (fun p => .str p.name))]

/-- The entries of a boot failure, as it is stored. -/
def BootFailure.entries (f : BootFailure) : List (String × Option Json) :=
  [("time", some (.time f.time)), ("leftOn", some (.bool f.leftOn))]

/-- The entries of some amounts, as they are stored. -/
def ResourceAmounts.entries (a : ResourceAmounts) : List (String × Option Json) :=
  [("cpuMillis", some (int64Json a.cpuMillis)), ("memoryBytes", some (int64Json a.memoryBytes)),
   ("pods", some (int64Json a.pods))]

/-- A record that is skipped when there is none. -/
def recordField {α : Type} (entries : α → List (String × Option Json)) (r : Option α) :
    Option Json :=
  r.map (fun r => .obj (present (entries r)))

/-! ## §3. The status. -/

/-- The fields of a machine's status, `none` for a skipped one. -/
def NodePowerManagementConfigStatus.entries (st : NodePowerManagementConfigStatus) :
    List (String × Option Json) :=
  [("phase", some (.str st.phase.name)),
   ("phaseSince", st.phaseSince.map timeJson),
   ("powerState", some (.str st.powerState.name)),
   ("nodeReady", some (.bool st.nodeReady)),
   ("pool", st.pool.map strJson),
   ("pools", listField strJson st.pools),
   ("scalingDecision", recordField ScalingDecision.entries st.scalingDecision),
   ("conditions", listField Condition.toJson st.conditions),
   ("interfaceWarnings", listField strJson st.interfaceWarnings),
   ("lastPowerAction", recordField PowerActionRecord.entries st.lastPowerAction),
   ("standbySince", st.standbySince.map timeJson),
   ("standbyFailedAt", st.standbyFailedAt.map timeJson),
   ("sleepSupport", recordField SleepSupport.entries st.sleepSupport),
   ("manualPowerOn", recordField ManualPowerChange.entries st.manualPowerOn),
   ("manualPowerOff", recordField ManualPowerChange.entries st.manualPowerOff),
   ("poweredOnNotReadySince", st.poweredOnNotReadySince.map timeJson),
   ("bootFailure", recordField BootFailure.entries st.bootFailure),
   ("forcedOffAt", st.forcedOffAt.map timeJson),
   ("drainFailedAt", st.drainFailedAt.map timeJson),
   ("allocatable", recordField ResourceAmounts.entries st.allocatable),
   -- an empty map of labels is written, an empty one of resources is not
   ("nodeLabels", st.nodeLabels.map (fun l => .obj (ofMap strJson l))),
   ("extendedResources", mapField int64Json st.extendedResources),
   ("message", st.message.map strJson)]

/-- The status, as it is stored: fields that are unset are left out. -/
def NodePowerManagementConfigStatus.toFields (st : NodePowerManagementConfigStatus) : Fields :=
  present st.entries

theorem NodePowerManagementConfigStatus.entries_distinct (st : NodePowerManagementConfigStatus) :
    (st.entries.map Prod.fst).Nodup := by
  show ["phase", "phaseSince", "powerState", "nodeReady", "pool", "pools", "scalingDecision",
    "conditions", "interfaceWarnings", "lastPowerAction", "standbySince", "standbyFailedAt",
    "sleepSupport", "manualPowerOn", "manualPowerOff", "poweredOnNotReadySince", "bootFailure",
    "forcedOffAt", "drainFailedAt", "allocatable", "nodeLabels", "extendedResources",
    "message"].Nodup
  decide

theorem NodePowerManagementConfigStatus.toFields_distinct (st : NodePowerManagementConfigStatus) :
    DistinctKeys st.toFields :=
  Lib.Json.present_distinct st.entries_distinct

end HardwareAutoscaler
