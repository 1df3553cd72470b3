/-
  HardwareAutoscaler.Scaling.Order
  ────────────────────────────────
  THE SNAPSHOT, THE ORDER OF A POOL'S MACHINES AND ITS EXPLANATION
  (`power_on_order`, `deciding_rule` and the texts built from them).
-/
import HardwareAutoscaler.Scaling.View

namespace HardwareAutoscaler

open Std (TreeMap)
open Lib (F64)

/-- What one pool's plan is computed from. -/
structure PoolSnapshot where
  spec : NodeScalingPoolSpec
  members : List Member
  /-- All unschedulable pods in the cluster. -/
  pending : List PodView := []
  now : Int
  lastScaleUp : Option Int := none
  unneededSince : TreeMap String Int := ∅
  /-- Nodes outside every pool that can absorb evicted pods. -/
  external : List ExternalNode := []
  /-- Members also selected by other pools that do not agree to power them
  off: member ↦ [(pool, its reason)]. -/
  keptByOthers : TreeMap String (List (String × String)) := ∅

/-! ## §1. The order. -/

/-- The order in which a pool powers its machines on; scale-down uses the
exact reverse: weight, S3 capability, size, name. -/
def powerOnOrder (spec : NodeScalingPoolSpec) (a b : Member) : Ordering :=
  (compare (spec.scaleUp.nodeWeight b.name) (spec.scaleUp.nodeWeight a.name)).then <|
  (compare (spec.scaleUp.preferS3Capable && !a.s3Capable)
    (spec.scaleUp.preferS3Capable && !b.s3Capable)).then <|
  (compare b.allocatable.cpuMillis.toInt a.allocatable.cpuMillis.toInt).then <|
  (compare b.allocatable.memoryBytes.toInt a.allocatable.memoryBytes.toInt).then <|
  compare a.name b.name

/-- `sort_by` with a comparison: a stable sort. -/
def sortBy {α : Type} (cmp : α → α → Ordering) (l : List α) : List α :=
  l.insertionSort (fun a b => (cmp a b).isLE = true)

theorem sortBy_perm {α : Type} (cmp : α → α → Ordering) (l : List α) :
    (sortBy cmp l).Perm l :=
  List.perm_insertionSort _ l

@[simp] theorem mem_sortBy {α : Type} {cmp : α → α → Ordering} {l : List α} {x : α} :
    x ∈ sortBy cmp l ↔ x ∈ l :=
  (sortBy_perm cmp l).mem_iff

/-- Largest requests first: CPU, then memory (`sort_by_key` on `Reverse`). -/
def largestFirst (a b : PodView) : Ordering :=
  (compare b.requests.cpuMillis.toInt a.requests.cpuMillis.toInt).then
    (compare b.requests.memoryBytes.toInt a.requests.memoryBytes.toInt)

/-! ## §2. Texts. -/

/-- Text in two renderings: `stable` for status and events (absolute times),
`live` for logs (seconds). -/
structure Note where
  stable : String
  live : String
  deriving DecidableEq, Repr

/-- A note that reads the same in both renderings. -/
def Note.same (s : String) : Note := ⟨s, s⟩

/-- A number in at least two digits. -/
def pad2 (n : Nat) : String := (if n < 10 then "0" else "") ++ toString n

/-- The format `%H:%M:%SZ`. -/
def hhmmss (t : Int) : String :=
  let s := ((t / 1000000000) % 86400).toNat
  s!"{pad2 (s / 3600)}:{pad2 (s / 60 % 60)}:{pad2 (s % 60)}Z"

/-- The size of a machine, in reasons. -/
def size (m : Member) : String :=
  let cpu := (F64.ofInt m.allocatable.cpuMillis.toInt).div (.ofInt 1000)
  let gib := (F64.ofInt m.allocatable.memoryBytes.toInt).div (.ofInt 1073741824)
  s!"{cpu.display}c/{gib.fixed0}Gi"

/-- What the rules compare of a machine, in reasons. -/
def traits (spec : NodeScalingPoolSpec) (m : Member) : String :=
  let s3 := if m.s3Capable then "yes" else "no"
  s!"weight {spec.scaleUp.nodeWeight m.name}, S3 {s3}, {size m}"

/-- The rule of `powerOnOrder` that puts `chosen` ahead of `other`; for
scale-down (`down`) the rule that ranks it after. -/
def decidingRule (spec : NodeScalingPoolSpec) (chosen other : Member) (down : Bool) : String :=
  let wc := spec.scaleUp.nodeWeight chosen.name
  let wo := spec.scaleUp.nodeWeight other.name
  if wc ≠ wo then s!"weight ({wc} vs {wo})"
  else if spec.scaleUp.preferS3Capable && chosen.s3Capable != other.s3Capable then
    if down then "S3 capability (not S3-capable)" else "S3 capability (S3-capable)"
  else if (chosen.allocatable.cpuMillis, chosen.allocatable.memoryBytes)
      ≠ (other.allocatable.cpuMillis, other.allocatable.memoryBytes) then
    s!"size ({size chosen} vs {size other})"
  else
    let sign := if down then ">" else "<"
    s!"name ({chosen.name} {sign} {other.name})"

end HardwareAutoscaler
