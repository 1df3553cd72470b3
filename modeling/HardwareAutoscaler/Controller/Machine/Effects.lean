/-
  HardwareAutoscaler.Controller.Machine.Effects
  ─────────────────────────────────────────────
  WHAT A RECONCILE DOES TO THE WORLD: the effects it has besides the status it
  writes, in the order it has them, and the helpers of `controller/mod.rs`
  that write to the Node.

    • `Effect` — power actions, calls of an interface, writes to the Node, to
      pods and to the in-band pods,
    • `MachineApi` — what the API and the in-band pods answer,
    • `cordon`, `uncordonIfOurs`, `clearPoweredOff`, `markPoweredOff`,
    • `offersS3` — reading a `/sys/power/mem_sleep` listing.
-/
import HardwareAutoscaler.Resources

namespace HardwareAutoscaler

/-! ## §1. In-band commands. -/

/-- What the host is asked to do to go to sleep. -/
inductive HostCommand where
  | suspend
  /-- Suspend to RAM in ACPI S3, not the kernel's default mode. -/
  | suspendS3
  deriving DecidableEq, Repr

/-- Progress of a sleep capability probe. -/
inductive Probe where
  | pending
  /-- The host's boot id and the contents of its `/sys/power/mem_sleep`. -/
  | done (bootId memSleep : String)
  | failed (e : String)
  deriving DecidableEq, Repr

/-- `split_whitespace`: the maximal runs of other characters. -/
def splitWhitespace : List Char → List Char → List (List Char)
  | [], word => if word.isEmpty then [] else [word.reverse]
  | c :: cs, word =>
    if isWhiteSpace c then
      if word.isEmpty then splitWhitespace cs [] else word.reverse :: splitWhitespace cs []
    else splitWhitespace cs (c :: word)

/-- `trim_matches(['[', ']'])`. -/
def trimBrackets (cs : List Char) : List Char :=
  let isBracket := fun c => c == '[' || c == ']'
  ((cs.dropWhile isBracket).reverse.dropWhile isBracket).reverse

/-- Whether a `/sys/power/mem_sleep` listing (`s2idle [deep]`) offers S3. -/
def offersS3 (memSleep : String) : Bool :=
  (splitWhitespace memSleep.toList []).any (fun m => trimBrackets m == "deep".toList)

example : offersS3 "s2idle [deep]" = true ∧ offersS3 "[s2idle] deep" = true
    ∧ offersS3 "[s2idle]" = false ∧ offersS3 "" = false := by decide +kernel

/-! ## §2. Effects. -/

/-- What a reconcile does besides writing its status. -/
inductive Effect where
  /-- `Reconciler::act`: a power action was issued. -/
  | act (action : PowerAction) (ok : Bool)
  /-- The interface at a position was asked for its state or to act. -/
  | contact (action : InterfaceAction) (interface : Nat)
  /-- `inband::run`. -/
  | suspendPod (cmd : HostCommand)
  /-- `inband::cancel`. -/
  | deleteSuspendPod
  /-- `inband::probe_sleep`. -/
  | probe
  | cordon
  | uncordon
  /-- With the taints that are kept, when a fence was among them. -/
  | clearPoweredOff (taints : Option (List Taint))
  | markPoweredOff
  | evict (pod : String)
  deriving DecidableEq, Repr

/-- What the API and the in-band pods answer in one reconcile; a write that
fails is not made. -/
structure MachineApi where
  suspend : Except String Unit := .ok ()
  cancel : Bool := true
  probe : Except String Probe := .ok .pending
  cordon : Bool := true
  uncordon : Bool := true
  clearPoweredOff : Bool := true
  markPoweredOff : Bool := true
  /-- Whether the status patch succeeds. -/
  patch : Bool := true

/-- The power actions issued among `effects`. -/
def issued (effects : List Effect) : List PowerAction :=
  effects.filterMap (fun e => match e with
    | .act action _ => some action
    | _ => none)

@[simp] theorem issued_nil : issued [] = [] := rfl

@[simp] theorem issued_append (xs ys : List Effect) :
    issued (xs ++ ys) = issued xs ++ issued ys :=
  List.filterMap_append

@[simp] theorem issued_act (action : PowerAction) (ok : Bool) :
    issued [.act action ok] = [action] := rfl

/-! ## §3. Writes to the Node. -/

/-- `is_cordoned`: `spec.unschedulable` is set. -/
def isCordoned (node : Node) : Bool := node.unschedulable

/-- Whether the Node carries the operator's own cordon. -/
def cordonedByUs (node : Node) : Bool := node.annotations.contains cordonedByAnnotation

/-- Cordons a Node, remembering that the operator did it; a Node that is
cordoned already is left alone.  `false`: the call failed. -/
def cordon (api : MachineApi) (node : Node) : Bool × List Effect :=
  if isCordoned node then (true, [])
  else if api.cordon then (true, [.cordon])
  else (false, [])

/-- Uncordons a Node only if the operator cordoned it. -/
def uncordonIfOurs (api : MachineApi) (node : Node) : Bool × List Effect :=
  if !cordonedByUs node then (true, [])
  else if api.uncordon then (true, [.uncordon])
  else (false, [])

/-- The taint that releases the volumes of a Node that is off. -/
def outOfServiceTaint : String := "node.kubernetes.io/out-of-service"

/-- Removes the powered-off marker and any out-of-service fence added while
the machine was off; only on Nodes carrying the marker. -/
def clearPoweredOff (api : MachineApi) (node : Node) : Bool × List Effect :=
  if !node.annotations.contains poweredOffAnnotation then (true, [])
  else if api.clearPoweredOff then
    let kept := if node.taints.any (·.key == outOfServiceTaint) then
        some (node.taints.filter (·.key != outOfServiceTaint))
      else none
    (true, [.clearPoweredOff kept])
  else (false, [])

/-- Marks the Node as deliberately powered off; a failure is only logged, and
nothing is written in a dry run. -/
def markPoweredOff (dryRun : Bool) (api : MachineApi) : List Effect :=
  if !dryRun && api.markPoweredOff then [.markPoweredOff] else []

theorem issued_cordon (api : MachineApi) (node : Node) : issued (cordon api node).2 = [] := by
  unfold cordon
  split
  · rfl
  · split <;> rfl

theorem issued_uncordonIfOurs (api : MachineApi) (node : Node) :
    issued (uncordonIfOurs api node).2 = [] := by
  unfold uncordonIfOurs
  split
  · rfl
  · split <;> rfl

theorem issued_clearPoweredOff (api : MachineApi) (node : Node) :
    issued (clearPoweredOff api node).2 = [] := by
  unfold clearPoweredOff
  split
  · rfl
  · split <;> rfl

theorem issued_markPoweredOff (dryRun : Bool) (api : MachineApi) :
    issued (markPoweredOff dryRun api) = [] := by
  unfold markPoweredOff
  split <;> rfl

end HardwareAutoscaler
