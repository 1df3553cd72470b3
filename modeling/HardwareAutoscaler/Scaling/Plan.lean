/-
  HardwareAutoscaler.Scaling.Plan
  ───────────────────────────────
  `plan`, LAST PART: what the pool tells overlapping pools (`releasable`,
  `needed`), the explanation of the plan, and the assembled `Plan`.
-/
import HardwareAutoscaler.Scaling.ScaleDown

namespace HardwareAutoscaler

open Std (TreeMap)
open Lib (insertAll)

/-- One decision of a plan; `liveReason` is the reason for the log. -/
structure PlannedDecision where
  action : DecisionAction
  node : Option String := none
  reason : String
  liveReason : String
  candidates : String
  deriving DecidableEq, Repr

/-- What a plan decides and says. -/
structure Plan where
  powerOn : List (String × String) := []
  powerOff : List (String × String) := []
  unneededSince : TreeMap String Int := ∅
  releasable : List String := []
  needed : TreeMap String String := ∅
  online : Nat := 0
  relevantPending : Nat := 0
  message : String := ""
  decisions : List PlannedDecision := []
  details : List String := []
  liveDetails : List String := []

/-- The text before the first `pat`, all of it without one (`split(..).next()`). -/
def beforeFirst (pat : List Char) : List Char → List Char
  | [] => []
  | c :: cs => if pat.isPrefixOf (c :: cs) then [] else c :: beforeFirst pat cs

namespace PoolSnapshot

variable (s : PoolSnapshot)

/-! ## §1. Agreement with overlapping pools. -/

/-- Why this pool keeps the candidate `m` on, if it does. -/
def held (m : Member) : Option String :=
  -- not old enough: the note of the candidate is the reason, whatever holds the pool
  if !s.expired m && !s.released m then some ((s.downNotes[m.name]?.map (·.stable)).getD "")
  else match s.blockedReason with
  | some r => some r.stable
  | none =>
    -- asked of each machine alone, not of all that are listed together
    if s.onlineNow ≤ s.spec.minOnline then some s!"minOnline ({s.spec.minOnline})" else none

/-- `plan.releasable`: the members this pool would let go now, sorted. -/
def releasable : List String :=
  sortBy compare ((s.candidates.filter (fun m => (s.held m).isNone)).map (·.name))

/-- `plan.needed`: why it keeps the others. -/
def needed : TreeMap String String :=
  insertAll (fun m => some (m.name, "powering on"))
    (insertAll (fun m => (s.held m).map (fun why => (m.name, why))) ∅ s.candidates)
    (s.members.filter (·.state == .booting))

/-! ## §2. Explanation. -/

/-- `plan.message`: one line for the status. -/
def message : String :=
  let unneeded := s.newUnneededSince.size
  let steady := "steady"
  match s.powerOn.length, s.powerOff.length, s.blockedReason with
  | 0, 0, some r =>
    -- the time is cut off: the message stays the same while the hold lasts
    if r.stable ≠ "scaling up" ∧ unneeded > 0 then
      let why := String.ofList (beforeFirst " until ".toList r.stable.toList)
      s!"steady ({unneeded} unneeded; scale down held: {why})"
    else steady
  | 0, 0, none => steady
  | on, off, _ => s!"powering on {on}, powering off {off}"

/-- A ranked list of machines on one line. -/
def compact (list : List Member) : String :=
  " > ".intercalate (list.map (fun m =>
    let tags := [s!"w{s.spec.scaleUp.nodeWeight m.name}"]
      ++ (if m.s3Capable then ["s3"] else []) ++ [size m]
    let tags := " ".intercalate tags
    s!"{m.name}({tags})"))

/-- `; ` and the text, when there is one. -/
def appended (note : Option String) : String := (note.map (fun n => "; " ++ n)).getD ""

/-- The line of a machine that is off. -/
def upLine (m : Member) : String :=
  let chosen :=
    if s.scaledUp.upNotes.any (·.1 == m.name) then "; chosen"
    else if !s.relevant.any (fun p => podFits p m m.allocatable) && !s.relevant.isEmpty then
      "; no pending pod fits"
    else ""
  s!"{m.name}: #{s.rankUp m} to power on ({traits s.spec m})" ++ chosen ++ appended m.note

/-- The note of a candidate in the asked rendering. -/
def downText (live : Bool) (name : String) : String :=
  (s.downNotes[name]?.map (fun n => if live then n.live else n.stable)).getD ""

/-- The line of the candidate at position `i`. -/
def downLine (live : Bool) (i : Nat) (m : Member) : String :=
  let woken := (m.wokenBy.map (fun p => s!", woken by pool {p}")).getD ""
  let chosen := match s.scaledDown.offNotes[m.name]? with
    | some off => if s.powerOff.any (·.1 == m.name) then "; chosen" else "; " ++ off
    | none => ""
  s!"{m.name}: #{i + 1} to power off ({traits s.spec m}{woken}); {s.downText live m.name}"
    ++ chosen ++ appended m.note

/-- Why a machine that is in neither ranking is left out. -/
def otherWhy (m : Member) : String :=
  if !m.auto then "excluded: powerPolicy is not Auto"
  else match m.note, m.state with
  | some note, _ => note
  | none, .manual => "powered on by hand; not managing"
  | none, .booting =>
    match m.wokenBy with
    | some p => s!"powering on (woken by pool {p})"
    | none => "powering on"
  | none, .leaving => "powering off"
  | none, .unavailable => "excluded: state unknown or in error"
  | none, .online | none, .offline => "not ranked"

/-- One line for each member. -/
def render (live : Bool) : List String :=
  -- machines in neither ranking come last, by name
  let ranked := s.rankedUp ++ s.candidates
  let others := sortBy (fun a b => compare a.name b.name)
    (s.members.filter (fun m => !ranked.any (·.name == m.name)))
  s.rankedUp.map s.upLine
    ++ s.candidates.mapIdx (fun i m => s.downLine live i m)
    ++ others.map (fun m => s!"{m.name}: {otherWhy m}")

/-- The names of the unneeded candidates. -/
def unneeded : List String :=
  (s.candidates.filter (fun m => s.newUnneededSince.contains m.name)).map (·.name)

/-- Why nothing is done. -/
def noActionWhy (live : Bool) : String :=
  match s.scaledUp.unplaced, s.blockedReason, s.unneeded with
  -- pods that wait come first, then machines that could go
  | (pod, why) :: more, _, _ =>
    let more := if more.isEmpty then "" else s!" (and {more.length} more)"
    s!"pod {pod}{more} waits: {why}"
  | [], some r, n :: ns =>
    let texts := "; ".intercalate ((n :: ns).map (fun n => s!"{n} {s.downText live n}"))
    let held := if live then r.live else r.stable
    s!"scale-down held ({held}): {texts}"
  | [], none, n :: ns =>
    "; ".intercalate ((n :: ns).map (fun n =>
      s!"{n} {s.downText live n}" ++ appended s.scaledDown.offNotes[n]?))
  -- nothing to tell of either
  | [], _, [] =>
    if !s.waitingNotes.isEmpty then "; ".intercalate s.waitingNotes
    else if s.relevant.length > 0 then
      s!"{s.relevant.length} pending pod(s) fit capacity already powering on"
    else s!"{s.onlineNow} online, nothing pending, nothing unneeded"

/-- A reason for doing nothing, with the notes of the members that have one. -/
def withNotes (reason : String) : String :=
  let notes := s.members.filterMap (fun m => m.note.map (fun n => s!"{m.name} {n}"))
  if notes.isEmpty then reason else reason ++ "; " ++ "; ".intercalate notes

/-- `plan.decisions`: the power actions, or why there is none. -/
def decisions : List PlannedDecision :=
  let acting :=
    s.powerOn.map (fun (name, reason) =>
      ⟨.powerOn, some name, reason, reason, s.compact s.rankedUp⟩)
    ++ s.powerOff.map (fun (name, reason) =>
      ⟨.powerOff, some name, reason, reason, s.compact s.candidates⟩)
  if !acting.isEmpty then acting
  -- the reason of doing nothing is given once, for the pool
  else
    [{ action := .noAction
       reason := s.withNotes (s.noActionWhy false)
       liveReason := s.withNotes (s.noActionWhy true)
       candidates :=
        if s.unneeded.isEmpty && s.scaledUp.unplaced.isEmpty then ""
        else if s.scaledUp.unplaced.isEmpty then s.compact s.candidates
        else s.compact s.rankedUp }]

end PoolSnapshot

/-! ## §3. The plan. -/

/-- Computes the scaling plan for one pool. -/
def plan (s : PoolSnapshot) : Plan where
  powerOn := s.powerOn
  powerOff := s.powerOff
  unneededSince := s.newUnneededSince
  releasable := s.releasable
  needed := s.needed
  online := s.onlineNow
  relevantPending := s.relevant.length
  message := s.message
  decisions := s.decisions
  details := s.render false
  liveDetails := s.render true

end HardwareAutoscaler
