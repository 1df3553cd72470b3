/-
  HardwareAutoscaler.Controller.Context
  ─────────────────────────────────────
  WHAT THE CONTROLLERS SHARE (`src/controller/mod.rs`): the stores of
  Kubernetes objects and the cache of identity results.

    • `Cluster` — the stores; objects of a kind have distinct names,
    • `IdentityCache` — identity results by machine and generation.
-/
import HardwareAutoscaler.Membership
import HardwareAutoscaler.Identity

namespace HardwareAutoscaler

/-! ## §1. The stores. -/

/-- The stores of the operator. -/
structure Cluster where
  nodes : List Node := []
  pods : List Pod := []
  configs : List NodePowerManagementConfig := []
  pools : List NodeScalingPool := []
  nodes_distinct : (nodes.map (·.name)).Nodup := by first | exact List.nodup_nil | decide
  configs_distinct : (configs.map (·.name)).Nodup := by first | exact List.nodup_nil | decide
  pools_distinct : (pools.map (·.name)).Nodup := by first | exact List.nodup_nil | decide

namespace Cluster

/-- The Node of a name. -/
def node (c : Cluster) (name : String) : Option Node := c.nodes.find? (·.name == name)

/-- The pods on a Node. -/
def podsOn (c : Cluster) (node : String) : List Pod :=
  c.pods.filter (·.nodeName == some node)

/-- The pools a machine on Node `name` belongs to. -/
def memberOf (c : Cluster) (name : String) : List String :=
  (resolve ((c.node name).map (·.labels)) c.pools).pools

/-- A pool is found by its name. -/
theorem find_pool (c : Cluster) {p : NodeScalingPool} (hp : p ∈ c.pools) :
    c.pools.find? (·.name == p.name) = some p := by
  cases hf : c.pools.find? (·.name == p.name) with
  | none =>
    rw [List.find?_eq_none] at hf
    exact absurd (beq_self_eq_true p.name) (hf p hp)
  | some q =>
    have hname : q.name = p.name := by simpa using List.find?_some hf
    rw [List.inj_on_of_nodup_map c.pools_distinct (List.mem_of_find?_eq_some hf) hp hname]

end Cluster

/-! ## §2. The identity cache. -/

/-- `IDENTITY_TTL` (600 s), in nanoseconds of the monotonic clock. -/
def identityTtl : Int := seconds 600

/-- Machine name and `metadata.generation`. -/
abbrev IdentityKey := String × Int

/-- When the results were stored, and one result for each interface label. -/
abbrev IdentityEntry := Int × List (String × IdentityCheck)

/-- Cached identity results. -/
abbrev IdentityCache := List (IdentityKey × IdentityEntry)

namespace IdentityCache

/-- The entry of a key that is younger than the TTL at `instant`. -/
def get (cache : IdentityCache) (key : IdentityKey) (instant : Int) :
    Option (List (String × IdentityCheck)) :=
  ((cache.find? (·.1 == key)).filter (fun e => instant - e.2.1 < identityTtl)).map (·.2.2)

/-- Stores results, dropping the entries of other generations of the object. -/
def put (cache : IdentityCache) (key : IdentityKey) (results : List (String × IdentityCheck))
    (instant : Int) : IdentityCache :=
  (key, (instant, results)) :: cache.filter (fun e => e.1.1 != key.1)

end IdentityCache

end HardwareAutoscaler
