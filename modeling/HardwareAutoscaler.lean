import HardwareAutoscaler.Crd
import HardwareAutoscaler.Lib.Run
import HardwareAutoscaler.Lib.Binary64
import HardwareAutoscaler.Resources
import HardwareAutoscaler.Scaling.Order
import HardwareAutoscaler.Scaling.ScaleUp
import HardwareAutoscaler.Scaling.ScaleDown
import HardwareAutoscaler.Scaling.Plan
import HardwareAutoscaler.Lib.Packing
import HardwareAutoscaler.Scaling.Eviction
import HardwareAutoscaler.Scaling.OverMax
import HardwareAutoscaler.Identity.Verdict
import HardwareAutoscaler.Drivers.Chain
import HardwareAutoscaler.Drivers.Fallback
import HardwareAutoscaler.Lib.Json
import HardwareAutoscaler.Membership
import HardwareAutoscaler.Controller.Context
import HardwareAutoscaler.Controller.Machine.Rules
import HardwareAutoscaler.Controller.Pool.Member
import HardwareAutoscaler.Controller.Pool.Reconcile
import HardwareAutoscaler.Controller.Pool.Agreement
import HardwareAutoscaler.Controller.Pool.Status
import HardwareAutoscaler.Controller.Pool.Timers
import HardwareAutoscaler.Controller.Machine.Effects
import HardwareAutoscaler.Controller.Machine.Reconciler
import HardwareAutoscaler.Controller.Machine.Reconcile
import HardwareAutoscaler.Controller.Machine.Moves
import HardwareAutoscaler.Controller.Machine.Readings
import HardwareAutoscaler.Controller.Machine.Safety
import HardwareAutoscaler.Controller.Machine.Phases
import HardwareAutoscaler.Controller.Machine.Drain
import HardwareAutoscaler.Controller.Machine.Cordon
import HardwareAutoscaler.Controller.Machine.IdentityGate
import HardwareAutoscaler.Controller.Machine.Manual
import HardwareAutoscaler.Controller.Machine.Boots
import HardwareAutoscaler.Controller.Machine.ManualChange
import HardwareAutoscaler.Controller.Machine.PoweredOff
import HardwareAutoscaler.Controller.Machine.Attempts
import HardwareAutoscaler.Controller.Machine.CallOff
import HardwareAutoscaler.Controller.Machine.Override
import HardwareAutoscaler.Controller.Machine.BootFailures
import HardwareAutoscaler.Scaling.Bounds
import HardwareAutoscaler.Scaling.NextPlan
import HardwareAutoscaler.Scaling.Published
import HardwareAutoscaler.Scaling.StepCap
import HardwareAutoscaler.Scaling.DrainBackoff
import HardwareAutoscaler.Lib.FirstFit
import HardwareAutoscaler.Scaling.Absorbed
import HardwareAutoscaler.Controller.Pool.Hold
import HardwareAutoscaler.Controller.Pool.LeftAlone
import HardwareAutoscaler.Controller.Pool.Offered
import HardwareAutoscaler.Scaling.Ranking
import HardwareAutoscaler.Scaling.Placement
import HardwareAutoscaler.Controller.Machine.BootWindow
import HardwareAutoscaler.Lib.JsonPath
import HardwareAutoscaler.Controller.Machine.Status
import HardwareAutoscaler.Controller.StatusPatch
import HardwareAutoscaler.Controller.Backoff
import HardwareAutoscaler.Lib.TwoOrders
import HardwareAutoscaler.Scaling.MemberOrder
import HardwareAutoscaler.Scaling.TargetOrder
import HardwareAutoscaler.Scaling.Affinity
import HardwareAutoscaler.Scaling.Registering
import HardwareAutoscaler.Scaling.Explanation
import HardwareAutoscaler.Scaling.Steady
import HardwareAutoscaler.Controller.Machine.Standby
import HardwareAutoscaler.Controller.Waits
import HardwareAutoscaler.Lib.Log
import HardwareAutoscaler.Controller.Pool.DecisionLog
import HardwareAutoscaler.Lib.OnesComplement
import HardwareAutoscaler.Drivers.Ping
import HardwareAutoscaler.Lib.Text
import HardwareAutoscaler.Wake
import HardwareAutoscaler.Drivers.JetKvm
import HardwareAutoscaler.Lib.Calls
import HardwareAutoscaler.Drivers.Inband
import HardwareAutoscaler.Lib.Wrapping
import HardwareAutoscaler.Controller.Pool.Totals
import HardwareAutoscaler.Lib.Rely
import HardwareAutoscaler.Webhook.Certificate
import HardwareAutoscaler.Webhook.Operators
import HardwareAutoscaler.Webhook.Review
import HardwareAutoscaler.Controller.Remembered
import HardwareAutoscaler.Controller.NodePatch
import HardwareAutoscaler.Drivers.NanoKvm
import HardwareAutoscaler.Drivers.JetKvmPower
import HardwareAutoscaler.Drivers.WakeOnLan
import HardwareAutoscaler.Controller.Machine.Decided
import HardwareAutoscaler.Controller.System
import HardwareAutoscaler.Drivers.ButtonChain
