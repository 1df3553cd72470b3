/-
  HardwareAutoscaler.Scaling.ScaleDown
  ────────────────────────────────────
  `plan`, SECOND HALF: the unneeded timers (`downStatus`), what holds the
  pool's scale-down (`blockedReason`), which machines are eligible, and the
  greedy removal loop (`removeLoop`) with its simulated evictions.
-/
import HardwareAutoscaler.Scaling.ScaleUp
import HardwareAutoscaler.Lib.MapFold

namespace HardwareAutoscaler

open Std (TreeMap TreeSet)
open Lib (F64 insertAll)

/-! ## §1. The unneeded timers. -/

/-- The extended resources `p` asks for that `m` is still registering and
once had enough of. -/
def waitsFor (m : Member) (p : PodView) : List String :=
  (p.extendedRequests.toList.filter (fun (k, v) => m.registering[k]?.any (· ≥ v))).map (·.1)

/-- Whether `p` waits for a device of `m` and would otherwise fit it. -/
def waitsOn (m : Member) (p : PodView) : Bool :=
  !((waitsFor m p).isEmpty
    || !(m.allocatable.minus m.requested).fits p.requests
    || !podMatchesNode p m.labels m.taints)

/-- Why `m` is needed although it may look idle: pending pods that would fit
it once the devices its plugin is still registering appear. -/
def waitingForRegistration (m : Member) (selected : List PodView) : Option String :=
  if m.registering.isEmpty then none
  else
    let waiting := selected.filter (waitsOn m)
    let resources : TreeSet String := (waiting.flatMap (waitsFor m)).foldl (·.insert ·) ∅
    if waiting.length > 0 then
      some (s!"needed: {waiting.length} pending pod(s) waiting for its "
        ++ ", ".intercalate resources.toList ++ " to register")
    else none

/-- What the scale-down loop finds about one candidate. -/
inductive DownStatus where
  /-- Pending pods wait for its devices to register. -/
  | waiting (note : String)
  /-- It runs pods that block powering it off. -/
  | blocked
  /-- Its drain failed within the backoff. -/
  | drainFailed (t : Int)
  /-- Its utilization is at or above the threshold. -/
  | busy
  /-- It is unneeded, since the given time. -/
  | unneeded (since : Int)
  deriving DecidableEq, Repr

namespace PoolSnapshot

variable (s : PoolSnapshot)

/-- `Auto` members that are online, in the reverse of the power-on order. -/
def candidates : List Member :=
  sortBy (fun a b => powerOnOrder s.spec b a)
    (s.members.filter (fun m => m.auto && m.state == .online))

/-- The utilization a machine is unneeded below. -/
def threshold : F64 := .ofInt s.spec.scaleDown.utilizationThresholdPercent

/-- How long a machine whose drain failed is left alone. -/
def backoff : Int := seconds (asI64 s.spec.scaleDown.drainFailureBackoffSeconds)

/-- How long a machine is to be unneeded before it goes. -/
def unneededFor : Int := seconds (asI64 s.spec.scaleDown.unneededSeconds)

/-- The utilization of a machine, in percent. -/
def util (m : Member) : F64 := m.allocatable.utilizationPercent m.counted

/-- Why a candidate is not (yet) eligible, in the order of the tests. -/
def downStatus (m : Member) : DownStatus :=
  match waitingForRegistration m s.selected with
  | some note => .waiting note
  | none =>
    if !m.blockingPods.isEmpty then .blocked
    else match m.drainFailedAt.filter (fun t => s.now - t < s.backoff) with
    | some t => .drainFailed t
    | none =>
      if (util m).ge s.threshold then .busy
      else .unneeded (s.unneededSince[m.name]?.getD s.now)

/-- Why a candidate is not (yet) eligible to power off, in both renderings. -/
def downNote (m : Member) : Note :=
  match s.downStatus m with
  | .waiting note => .same note
  | .blocked =>
    let by_ := ", ".intercalate m.blockingPods
    .same s!"busy: blocked by {by_}"
  | .drainFailed t =>
    -- the stable text names a time, the live one what is left of it
    { stable := s!"drain failed; retry after {hhmmss (t + s.backoff)}"
      live := s!"drain failed; retry in {numSeconds (t + s.backoff - s.now)}s" }
  | .busy => .same s!"busy: utilization {(util m).fixed0}% >= {s.threshold.fixed0}%"
  | .unneeded since =>
    -- past the time there is nothing left to count
    if s.now - since ≥ s.unneededFor then .same s!"unneeded since {hhmmss since}"
    else
      { stable := s!"unneeded since {hhmmss since}, eligible at {hhmmss (since + s.unneededFor)}"
        live := s!"unneeded for {numSeconds (s.now - since)} of {numSeconds s.unneededFor}s" }

/-- `plan.unneeded_since`: the timers of the members that are unneeded now. -/
def newUnneededSince : TreeMap String Int :=
  insertAll (fun m => match s.downStatus m with
    | .unneeded since => some (m.name, since)
    | _ => none) ∅ s.candidates

/-- The notes of all candidates, by name. -/
def downNotes : TreeMap String Note :=
  insertAll (fun m => some (m.name, s.downNote m)) ∅ s.candidates

/-- The machines that wait for devices to register. -/
def waitingNotes : List String :=
  s.candidates.filterMap (fun m => match s.downStatus m with
    | .waiting note => some s!"{m.name} {note}"
    | _ => none)

/-! ## §2. What holds the pool's scale-down. -/

/-- By how much the pool is above `maxOnline`. -/
def overMax : Nat := s.onlineNow - s.maxOnline

/-- How many machines are on their way off. -/
def leaving : Nat := (s.members.filter (·.state == .leaving)).length

/-- The latest power-on of this pool, adopted manual ones included. -/
def lastPowerOn : Option Int :=
  (s.lastScaleUp.toList ++ s.members.filterMap (·.adoptedAt)).max?

/-- Until when `holdAfterPowerOnSeconds` holds the pool's scale-down. -/
def holdUntil : Option Int :=
  (s.lastPowerOn.map (· + seconds (asI64 s.spec.scaleDown.holdAfterPowerOn))).filter
    (fun until_ => s.now < until_)

/-- Whether a machine is on its way on. -/
def booting : Bool := s.members.any (·.state == .booting)

/-- Why no machine is powered off, if so. -/
def blockedReason : Option Note :=
  if !s.powerOn.isEmpty then some (.same "scaling up")
  -- everything below holds a pool only while it is not above `maxOnline`
  else if s.overMax > 0 then none
  else if !s.spec.scaleDown.enabled then some (.same "scale down disabled")
  else if s.relevant.length > 0 then some (.same s!"{s.relevant.length} pending pod(s)")
  else if s.booting then some (.same "nodes booting")
  else s.holdUntil.map (fun until_ =>
    { stable := s!"holding after power-on until {hhmmss until_}"
      live := s!"holding after power-on, {numSeconds (until_ - s.now)}s left" })

/-! ## §3. Which machines are eligible. -/

/-- How many machines a cycle powers off, at least one. -/
def step : Nat := max s.spec.scaleDown.maxNodesPerStep 1

/-- `manualPowerOnPolicy: PowerOff` past its grace. -/
def released (m : Member) : Bool :=
  m.releaseAfter.any (fun t => s.now ≥ t) && m.blockingPods.isEmpty

/-- Unneeded for `unneededSeconds`. -/
def expired (m : Member) : Bool :=
  s.newUnneededSince[m.name]?.any (fun t => s.now - t ≥ s.unneededFor)

/-- A candidate that may be powered off. -/
def isEligible (m : Member) : Bool :=
  -- above `maxOnline` a machine need not be unneeded
  (s.overMax > 0 && m.blockingPods.isEmpty) || s.expired m || s.released m

/-- `eligible`, in power-off order. -/
def eligible : List Member := s.candidates.filter s.isEligible

/-- How many machines this plan may power off. -/
def budget : Nat :=
  -- above `maxOnline` all that is too much may go in one step
  if s.overMax > 0 then max s.overMax (s.step - s.leaving) else s.step - s.leaving

/-! ## §4. The removal loop. -/

/-- A node evicted pods could go to. -/
structure EvictionTarget where
  key : String
  labels : TreeMap String String
  taints : List Taint

/-- Free capacity by eviction-target key. -/
abbrev FreeMap := TreeMap String ResourceAmounts

/-- The variables of the removal loop. -/
structure DownState where
  free : FreeMap
  removed : TreeSet String := ∅
  powerOff : List (String × String) := []
  offNotes : TreeMap String String := ∅

/-- Whether evicted pods may go to this member. -/
def isTarget (m : Member) : Bool := m.state == .online || m.state == .manual

/-- Where evicted pods could go: online pool members, plus schedulable nodes
outside any scaling pool. -/
def freeAtStart : FreeMap :=
  insertAll (fun e => some (externalKey e.name, e.free))
    (insertAll (fun m => some (m.name, m.allocatable.minus m.requested)) ∅
      (s.members.filter isTarget))
    s.external

/-- The eviction targets for the pods of `m`, in the order they are tried. -/
def targets (m : Member) (removed : TreeSet String) : List EvictionTarget :=
  (s.members.filter (fun o => isTarget o && o.name != m.name && !removed.contains o.name)).map
      (fun o => ⟨o.name, o.labels, o.taints⟩)
    ++ s.external.map (fun e => ⟨externalKey e.name, e.labels, e.taints⟩)

/-- The first target with room for the pod (every key of `targets` is in
`trial`, so the source's lookup does not fail). -/
def findSlot (trial : FreeMap) (targets : List EvictionTarget) (p : PodView) :
    Option EvictionTarget :=
  targets.find? (fun t =>
    trial[t.key]?.any (·.fits p.requests) && podMatchesNode p t.labels t.taints)

/-- Moves the pods one by one to the first target that takes them; `none`
when one of them fits nowhere. -/
def moveAll (targets : List EvictionTarget) : FreeMap → List PodView → Option FreeMap
  | trial, [] => some trial
  | trial, p :: pods =>
    match findSlot trial targets p with
    | some t =>
      moveAll targets (trial.insert t.key ((trial[t.key]?.getD {}).minus p.requests)) pods
    | none => none

/-- The simulated eviction of `m`: the free capacity afterwards, if every pod
finds a place. -/
def tryEvict (st : DownState) (m : Member) : Option FreeMap :=
  -- pods that were moved to `m` before are not moved again: only its own are
  moveAll (s.targets m st.removed) (st.free.erase m.name) (sortBy largestFirst m.movablePods)

/-- Why `m` may be powered off. -/
def offWhy (m : Member) : String :=
  if s.overMax > 0 then s!"pool above maxOnline ({s.maxOnline})"
  else if s.released m && !s.expired m then "manually powered on; policy PowerOff, grace over"
  else s!"utilization {(util m).fixed0}% below {s.threshold.fixed0}% for "
    ++ s!"{numSeconds s.unneededFor}s"

/-- The reason recorded with the power-off of `m`, `rest` being the eligible
machines after it. -/
def offReason (removed : TreeSet String) (m : Member) (rest : List Member) : String :=
  let decided := match rest.find? (fun o => !removed.contains o.name) with
    | some next => s!"before {next.name} by {decidingRule s.spec m next true}"
    | none => "the only machine eligible"
  let rank := (s.candidates.findIdx? (·.name == m.name)).getD 0 + 1
  s!"{s.offWhy m}; #{rank} of {s.candidates.length} to power off, {decided}"

/-- The other pools that do not let `m` go. -/
def holders (m : Member) : List (String × String) := s.keptByOthers[m.name]?.getD []

/-- One iteration of the removal loop. -/
def removeStep (st : DownState) (m : Member) (rest : List Member) : DownState :=
  -- the vetoes of other pools come first, also above `maxOnline`
  if !(s.holders m).isEmpty then
    let by_ := "; ".intercalate
      ((s.holders m).map (fun (pool, why) => s!"needed by pool {pool}: {why}"))
    { st with offNotes := st.offNotes.insert m.name s!"kept: {by_}" }
  else if st.removed.size ≥ s.budget then
    { st with offNotes := st.offNotes.insert m.name s!"kept: maxNodesPerStep ({s.step}) reached" }
  else if s.onlineNow - st.removed.size ≤ s.spec.minOnline then
    { st with offNotes := st.offNotes.insert m.name s!"kept: minOnline ({s.spec.minOnline})" }
  else match s.tryEvict st m with
  | some trial =>
    -- the room of `m` is gone from `trial`, and what its pods take from the others
    let removed := st.removed.insert m.name
    let reason := s.offReason removed m rest
    { free := trial
      removed := removed
      offNotes := st.offNotes.insert m.name reason
      powerOff := st.powerOff ++ [(m.name, reason)] }
  | none =>
    { st with offNotes := st.offNotes.insert m.name "kept: its pods would not fit elsewhere" }

/-- The removal loop, over the machines that are eligible. -/
def removeLoop (st : DownState) : List Member → DownState
  | [] => st
  | m :: rest => removeLoop (s.removeStep st m rest) rest

/-- Whether the removal loop runs at all. -/
def mayScaleDown : Bool := s.blockedReason.isNone && (s.leaving < s.step || s.overMax > 0)

/-- The state after the scale-down section. -/
def scaledDown : DownState :=
  if s.mayScaleDown then s.removeLoop { free := s.freeAtStart } s.eligible
  -- nothing holds the pool, but as many as a step allows are leaving already
  else if s.blockedReason.isNone && s.leaving ≥ s.step && s.overMax == 0 then
    { free := s.freeAtStart
      offNotes := insertAll (fun m =>
        some (m.name, s!"kept: maxNodesPerStep ({s.step}) already powering off")) ∅ s.eligible }
  else { free := s.freeAtStart }

/-- `plan.power_off`: (member, reason). -/
def powerOff : List (String × String) := s.scaledDown.powerOff

end PoolSnapshot

end HardwareAutoscaler
