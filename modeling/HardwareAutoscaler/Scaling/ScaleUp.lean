/-
  HardwareAutoscaler.Scaling.ScaleUp
  ──────────────────────────────────
  `plan`, FIRST HALF: which pending pods count (`relevant`), their first-fit
  packing onto booting and newly opened machines (`placePod`), and the
  machines opened for `minOnline` (`fillMinOnline`).
-/
import HardwareAutoscaler.Scaling.Order

namespace HardwareAutoscaler

namespace PoolSnapshot

variable (s : PoolSnapshot)

/-! ## §1. Counts and pending pods. -/

/-- Members online or booting, before applying the plan. -/
def onlineNow : Nat :=
  (s.members.filter (fun m => m.state == .online || m.state == .booting)).length

/-- `maxOnline`, or `usize::MAX` when it is not set. -/
def maxOnline : Nat := s.spec.maxOnline.getD (2 ^ 64 - 1)

/-- Pending pods this pool cares about: past the grace period, and targeting
the pool where that is required. -/
def selected : List PodView :=
  (s.pending.filter (fun p => p.created.all (fun c =>
      s.now - c ≥ seconds (asI64 s.spec.scaleUp.pendingPodGraceSeconds)))).filter
    (fun p => !s.spec.scaleUp.requireExplicitSelection
      || p.explicitlySelects s.spec.nodeSelector)

/-- The selected pods that a booting, or an `Auto` offline, member could host. -/
def relevant : List PodView :=
  s.selected.filter (fun p => s.members.any (fun m =>
    m.allocatable.fits p.requests && podMatchesNode p m.labels m.taints
      && (m.state == .booting || (m.auto && m.state == .offline))))

/-- The machines that are off and `Auto`, in power-on order. -/
def rankedUp : List Member :=
  sortBy (powerOnOrder s.spec) (s.members.filter (fun m => m.auto && m.state == .offline))

/-- The rank of a machine among those that are off. -/
def rankUp (m : Member) : Nat :=
  (s.rankedUp.findIdx? (·.name == m.name)).getD 0 + 1

/-! ## §2. The packing loop. -/

/-- The variables of the scale-up loops. -/
structure UpState where
  /-- Booting machines and machines opened for a pod, with their free room. -/
  bins : List (Member × ResourceAmounts)
  /-- Machines still off, in power-on order. -/
  offline : List Member
  opened : List (String × String) := []
  upNotes : List (String × String) := []
  unplaced : List (String × String) := []

/-- Why no further machine may be opened, if so. -/
def canOpen (opened : Nat) : Option String :=
  if s.onlineNow + opened ≥ s.maxOnline then
    some s!"maxOnline ({s.maxOnline}) reached"
  else if opened ≥ max s.spec.scaleUp.maxNodesPerStep 1 then
    some s!"maxNodesPerStep ({max s.spec.scaleUp.maxNodesPerStep 1}) reached this cycle"
  else none

/-- Takes the pod's requests from the first bin it fits in. -/
def takeBin (pod : PodView) :
    List (Member × ResourceAmounts) → Option (List (Member × ResourceAmounts))
  | [] => none
  | (m, free) :: bins =>
    if podFits pod m free then some ((m, free.minus pod.requests) :: bins)
    else (takeBin pod bins).map ((m, free) :: ·)

/-- Splits a list at its first element satisfying `p`. -/
def splitFirst {α : Type} (p : α → Bool) : List α → Option (List α × α × List α)
  | [] => none
  | x :: xs =>
    if p x then some ([], x, xs)
    else (splitFirst p xs).map (fun (before, y, after) => (x :: before, y, after))

/-- The name of a pending pod in reasons. -/
def podName (pod : PodView) : String := s!"{pod.namespace}/{pod.name}"

/-- One iteration of the loop over the pending pods. -/
def placePod (st : UpState) (pod : PodView) : UpState :=
  -- no bin is tried either: a pod that a booting machine could host waits as well
  if !s.spec.scaleUp.enabled then
    { st with unplaced := st.unplaced ++ [(podName pod, "scale-up disabled")] }
  else match takeBin pod st.bins with
  | some bins => { st with bins := bins }
  | none =>
    -- the bounds are checked before the machines, so they name the reason first
    match s.canOpen st.opened.length with
    | some why => { st with unplaced := st.unplaced ++ [(podName pod, why)] }
    | none =>
      match splitFirst (fun m => podFits pod m m.allocatable) st.offline with
      | some (before, m, after) =>
        let decided := match after.find? (fun o => podFits pod o o.allocatable) with
          | some next => s!"over {next.name} by {decidingRule s.spec m next false}"
          | none => "the only machine off that fits"
        let reason := s!"unschedulable pod {podName pod}; #{s.rankUp m} of "
          ++ s!"{s.rankedUp.length} to power on, {decided}"
        { st with
          offline := before ++ after
          upNotes := st.upNotes ++ [(m.name, reason)]
          opened := st.opened ++ [(m.name, reason)]
          -- the machine is a bin for the pods that follow, with all it has when empty
          bins := st.bins ++ [(m, m.allocatable.minus pod.requests)] }
      | none =>
        { st with unplaced := st.unplaced ++ [(podName pod, "fits no machine that is off and Auto")] }

/-- The pending pods, first-fit decreasing. -/
def packPending : UpState :=
  (sortBy largestFirst s.relevant).foldl s.placePod
    { bins := (s.members.filter (·.state == .booting)).map
        (fun m => (m, m.allocatable.minus m.requested))
      offline := s.rankedUp }

/-- `minOnline` is enforced even when scale-up is disabled: opens the first
machines still off until it is reached. -/
def fillMinOnline (st : UpState) : List Member → UpState
  | [] => { st with offline := [] }
  | m :: rest =>
    -- `maxNodesPerStep` does not bound these
    if s.onlineNow + st.opened.length < s.spec.minOnline
        ∧ s.onlineNow + st.opened.length < s.maxOnline then
      let decided := match rest.head? with
        | some next => s!"over {next.name} by {decidingRule s.spec m next false}"
        | none => "the only machine off"
      let reason := s!"pool below minOnline ({s.spec.minOnline}); #{s.rankUp m} of "
        ++ s!"{s.rankedUp.length} to power on, {decided}"
      fillMinOnline
        { st with
          upNotes := st.upNotes ++ [(m.name, reason)]
          opened := st.opened ++ [(m.name, reason)] } rest
    else { st with offline := m :: rest }

/-- The state after both scale-up loops. -/
def scaledUp : UpState := s.fillMinOnline s.packPending s.packPending.offline

/-- `plan.power_on`: (member, reason). -/
def powerOn : List (String × String) := s.scaledUp.opened

end PoolSnapshot

end HardwareAutoscaler
