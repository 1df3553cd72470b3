/-
  HardwareAutoscaler.Membership
  ─────────────────────────────
  POOL MEMBERSHIP (`src/membership.rs`): the pools a machine belongs to,
  resolved from the labels of its Node.  Both controllers use `resolve`.

    • `mem_pools_resolve` — a machine belongs to exactly the pools that
      select its Node and are not being deleted.
-/
import HardwareAutoscaler.Scaling.Order

namespace HardwareAutoscaler

open Std (TreeMap)

/-- Which pools select a machine. -/
inductive Membership where
  /-- The Node object does not exist. -/
  | noNode
  /-- No pool selects this Node. -/
  | notInPool
  /-- The pools selecting this Node (at least one), sorted by name. -/
  | member (pools : List String)
  deriving DecidableEq, Repr

/-- The pools this machine belongs to (empty unless `member`). -/
def Membership.pools : Membership → List String
  | .member p => p
  | _ => []

/-- Whether a pool selects a Node with these labels: its selector matches and
it is not being deleted. -/
def NodeScalingPool.selects (p : NodeScalingPool) (labels : TreeMap String String) : Bool :=
  p.deletionTimestamp.isNone && p.spec.nodeSelector.matches labels

/-- Resolves membership for a Node with `labels` (`none`: it is missing). -/
def resolve (labels : Option (TreeMap String String)) (pools : List NodeScalingPool) :
    Membership :=
  match labels with
  | none => .noNode
  | some labels =>
    let matching := sortBy compare ((pools.filter (·.selects labels)).map (·.name))
    if matching.isEmpty then .notInPool else .member matching

@[simp] theorem pools_resolve_none (pools : List NodeScalingPool) :
    (resolve none pools).pools = [] := rfl

theorem pools_resolve_some (labels : TreeMap String String) (pools : List NodeScalingPool) :
    (resolve (some labels) pools).pools
      = sortBy compare ((pools.filter (·.selects labels)).map (·.name)) := by
  unfold resolve
  simp only
  split
  · rename_i h
    rw [List.isEmpty_iff.mp h]
    rfl
  · rfl

/-- **Membership is selection.** -/
theorem mem_pools_resolve {labels : Option (TreeMap String String)}
    {pools : List NodeScalingPool} {name : String} :
    name ∈ (resolve labels pools).pools ↔
      ∃ l, labels = some l ∧ ∃ p ∈ pools, p.selects l = true ∧ p.name = name := by
  cases labels with
  | none => simp
  | some l =>
    rw [pools_resolve_some, mem_sortBy]
    simp [and_assoc]

end HardwareAutoscaler
