/-
  HardwareAutoscaler.Scaling.TargetOrder
  ──────────────────────────────────────
  THE ORDER IN WHICH THE MEMBERS ARE LISTED: what a plan powers off.

  The machines to remove are ranked, but the pods of each are moved, in the
  simulation, to the first member in the list that has room.  Which one that is
  decides what room is left for the pods that are looked at afterwards.

    • `turns`, `lookedAt` — the machines the loop tries, and the pods of each it
      looks at,
    • `removesAnyhow` — whichever member takes a pod, the members left are alike,
    • `MoveAlike` / `moveAll_alike` — the moves of both listings, in step,
    • `DownAlike` / `removeLoop_alike` — the two removal loops,
    • `listing_irrelevant` — when no listing changes what a plan decides,
    • `listing_decides` — two snapshots in which one does.
-/
import Mathlib.Data.List.Find
import HardwareAutoscaler.Scaling.MemberOrder
import HardwareAutoscaler.Scaling.OverMax
import HardwareAutoscaler.Scaling.DrainBackoff

namespace HardwareAutoscaler

open Std (TreeMap TreeSet)
open Lib (Matched Takes AlikeFor Shrinks firstFit insertAll)

namespace PoolSnapshot

variable {s : PoolSnapshot} {members : List Member}

/-! ## §1. Another listing. -/

/-- The timers do not depend on the listing. -/
theorem newUnneededSince_listed (hd : s.DistinctMembers) (h : s.members.Perm members) :
    (s.listed members).newUnneededSince = s.newUnneededSince := by
  unfold newUnneededSince
  rw [← candidates_eq_of_perm hd h]
  rfl

theorem overMax_listed (h : s.members.Perm members) :
    (s.listed members).overMax = s.overMax := by
  unfold overMax
  rw [onlineNow_listed h]
  rfl

theorem leaving_listed (h : s.members.Perm members) :
    (s.listed members).leaving = s.leaving := (h.filter _).length_eq.symm

theorem booting_listed (h : s.members.Perm members) :
    (s.listed members).booting = s.booting := h.any_eq.symm

/-- The end of the hold does not depend on the listing. -/
theorem holdUntil_listed (h : s.members.Perm members) :
    (s.listed members).holdUntil = s.holdUntil := by
  have hmax : (s.listed members).lastPowerOn = s.lastPowerOn := by
    unfold lastPowerOn
    have hperm := (h.filterMap (·.adoptedAt)).append_left s.lastScaleUp.toList
    apply Option.ext
    intro t
    rw [List.max?_eq_some_iff, List.max?_eq_some_iff]
    simp only [← hperm.mem_iff]
  unfold holdUntil
  rw [hmax]

/-- Whether a machine is eligible does not depend on the listing. -/
theorem isEligible_listed (hd : s.DistinctMembers) (h : s.members.Perm members) (m : Member) :
    (s.listed members).isEligible m = s.isEligible m := by
  unfold isEligible expired
  rw [overMax_listed h, newUnneededSince_listed hd h]
  rfl

/-- The eligible machines are ranked, and do not depend on the listing. -/
theorem eligible_listed (hd : s.DistinctMembers) (h : s.members.Perm members) :
    (s.listed members).eligible = s.eligible := by
  unfold eligible
  rw [← candidates_eq_of_perm hd h]
  apply List.filter_congr
  intro m _
  exact isEligible_listed hd h m

/-- The budget does not depend on the listing. -/
theorem budget_listed (h : s.members.Perm members) :
    (s.listed members).budget = s.budget := by
  unfold budget
  rw [overMax_listed h, leaving_listed h]
  rfl

/-- Whether the removal loop runs depends on the listing through what is powered
on alone. -/
theorem mayScaleDown_listed (h : s.members.Perm members)
    (hon : (s.listed members).powerOn = s.powerOn) :
    (s.listed members).mayScaleDown = s.mayScaleDown := by
  unfold mayScaleDown blockedReason
  rw [hon, overMax_listed h, relevant_listed h, booting_listed h, holdUntil_listed h,
    leaving_listed h]
  rfl

/-! ## §2. What the order may decide. -/

/-- The members evicted pods may still go to. -/
def standing (s : PoolSnapshot) (removed : TreeSet String) : List Member :=
  s.members.filter (fun o => isTarget o && !removed.contains o.name)

/-- The machine is tried on its turn: no other pool holds it, and neither the
budget nor `minOnline` is reached. -/
def tries (s : PoolSnapshot) (st : DownState) (m : Member) : Bool :=
  (s.holders m).isEmpty && st.removed.size < s.budget
    && s.spec.minOnline < s.onlineNow - st.removed.size

/-- The pods that are looked at: up to the first one that fits nowhere. -/
def lookedAt (targets : List EvictionTarget) : FreeMap → List PodView → List PodView
  | _, [] => []
  | trial, p :: pods => p :: match findSlot trial targets p with
    | some t =>
      lookedAt targets (trial.insert t.key ((trial[t.key]?.getD {}).minus p.requests)) pods
    | none => []

/-- A machine that is tried, with the pods that are looked at. -/
abbrev Turn := Member × List PodView

/-- The turn of a machine, in this state. -/
def turnOf (s : PoolSnapshot) (st : DownState) (m : Member) : Turn :=
  (m, lookedAt (s.targets m st.removed) (st.free.erase m.name)
    (sortBy largestFirst m.movablePods))

/-- The turns of the machines that are tried. -/
def turns (s : PoolSnapshot) (st : DownState) : List Member → List Turn
  | [] => []
  | m :: rest =>
    let later := s.turns (s.removeStep st m rest) rest
    if s.tries st m then s.turnOf st m :: later else later

/-- The pods looked at in these turns. -/
def podsOf (turns : List Turn) : List PodView := turns.flatMap (·.2)

/-- The machines whose turn comes before the last pod is looked at. -/
def goers : List Turn → List String
  | [] => []
  | t :: ts => if (podsOf (t :: ts)).isEmpty then [] else t.1.name :: goers ts

/-- What a member has left. -/
def roomIn (free : FreeMap) (a : Member) : Option ResourceAmounts := free[a.name]?

/-- Whether a room takes the pod. -/
def takesPod (p : PodView) (r : Option ResourceAmounts) : Bool := r.any (·.fits p.requests)

/-- What the pod leaves of a room. -/
def leftBy (p : PodView) (r : Option ResourceAmounts) : Option ResourceAmounts :=
  some ((r.getD {}).minus p.requests)

/-- A pod may still fit in a room. -/
def mayTake (pods : List PodView) (q : PodView) (r : Option ResourceAmounts) : Bool :=
  r.any (mayFit pods q)

/-- The members that match the pod and have room for it are alike for the pods
looked at afterwards, and their own turn comes after these, if at all. -/
def anyMember (pods : List PodView) (ks : List Member) (free : FreeMap) (p : PodView)
    (later : List PodView) (going : List String) : Bool :=
  let takers := ks.filter (fun a => takesPod p (roomIn free a) && admits p a)
  takers.all (fun a => takers.all (fun b => a.name == b.name ||
    (decide (AlikeFor admits (mayTake pods) later (roomIn free) a b)
      && !going.contains a.name && !going.contains b.name)))

/-- The pods that may have to move. -/
def evictable (s : PoolSnapshot) : List PodView := s.eligible.flatMap (·.movablePods)

/-- Any member will do, at each pod of one machine that is looked at. -/
def movesAnyhow (s : PoolSnapshot) (ks : List Member) (targets : List EvictionTarget)
    (after : List Turn) : FreeMap → List PodView → Bool
  | _, [] => true
  | trial, p :: pods =>
    anyMember s.evictable ks trial p ((lookedAt targets trial (p :: pods)).tail ++ podsOf after)
        (goers after)
      && match findSlot trial targets p with
        | some t => s.movesAnyhow ks targets after
            (trial.insert t.key ((trial[t.key]?.getD {}).minus p.requests)) pods
        | none => true

/-- **Any member will do**, at each pod the removal loop looks at.  Where the
pods of a machine do not all fit, the moves are undone, and only its own pods
follow. -/
def removesAnyhow (s : PoolSnapshot) (st : DownState) : List Member → Bool
  | [] => true
  | m :: rest =>
    let next := s.removeStep st m rest
    let after := if (s.tryEvict st m).isSome then s.turns next rest else []
    (!s.tries st m || s.movesAnyhow (s.standing (st.removed.insert m.name))
        (s.targets m st.removed) after (st.free.erase m.name) (sortBy largestFirst m.movablePods))
      && s.removesAnyhow next rest

/-- **Any member will do for the pods of the machines tried**, and no member is
named like the key of an external node. -/
structure TargetsAlike (s : PoolSnapshot) : Prop where
  apart : ∀ a ∈ s.members, ∀ e ∈ s.external, a.name ≠ externalKey e.name
  alike : s.removesAnyhow { free := s.freeAtStart } s.eligible = true

/-- Machines may be removed: the pool is above `minOnline`, and above `maxOnline`
or nothing holds its scale-down. -/
def mayRemove (s : PoolSnapshot) : Bool :=
  decide (s.spec.minOnline < s.onlineNow)
    && (decide (0 < s.overMax) || s.notHeld && decide (s.leaving < s.step))

/-- A member still standing is a target. -/
theorem mem_standing {removed : TreeSet String} {a : Member} (h : a ∈ s.standing removed) :
    a ∈ s.members.filter isTarget := by
  obtain ⟨hm, ha⟩ := List.mem_filter.mp h
  simp only [Bool.and_eq_true] at ha
  exact List.mem_filter.mpr ⟨hm, ha.1⟩

/-- The pods of a turn, and of those after it. -/
theorem podsOf_cons (t : Turn) (ts : List Turn) : podsOf (t :: ts) = t.2 ++ podsOf ts := rfl

/-- While pods are still looked at, the turns bind their machines. -/
theorem goers_cons {t : Turn} {ts : List Turn} (h : podsOf (t :: ts) ≠ []) :
    goers (t :: ts) = t.1.name :: goers ts := by
  show (if (podsOf (t :: ts)).isEmpty then [] else t.1.name :: goers ts) = _
  rw [if_neg (by simpa using h)]

/-- Where no pod is looked at, no turn binds its machine. -/
theorem goers_of_nil {ts : List Turn} (h : podsOf ts = []) : goers ts = [] := by
  cases ts with
  | nil => rfl
  | cons t ts =>
    show (if (podsOf (t :: ts)).isEmpty then [] else t.1.name :: goers ts) = _
    rw [if_pos (by simpa using h)]

/-- A turn more binds more machines. -/
theorem goers_subset (t : Turn) (ts : List Turn) : ∀ n ∈ goers ts, n ∈ goers (t :: ts) := by
  intro n hn
  by_cases hnil : podsOf (t :: ts) = []
  · rw [podsOf_cons, List.append_eq_nil_iff] at hnil
    rw [goers_of_nil hnil.2] at hn
    cases hn
  · rw [goers_cons hnil]
    exact List.mem_cons_of_mem _ hn

/-- A pod with a slot is followed by the pods looked at from there. -/
theorem lookedAt_of_slot {targets : List EvictionTarget} {trial : FreeMap} {p : PodView}
    {t : EvictionTarget} (h : findSlot trial targets p = some t) (pods : List PodView) :
    lookedAt targets trial (p :: pods) = p :: lookedAt targets
      (trial.insert t.key ((trial[t.key]?.getD {}).minus p.requests)) pods := by
  show p :: (match findSlot trial targets p with
    | some t => lookedAt targets
        (trial.insert t.key ((trial[t.key]?.getD {}).minus p.requests)) pods
    | none => []) = _
  rw [h]

/-! ## §3. The moves of one machine's pods. -/

/-- A member as a target. -/
def memberTarget (o : Member) : EvictionTarget := ⟨o.name, o.labels, o.taints⟩

/-- An external node as a target. -/
def externalTarget (e : ExternalNode) : EvictionTarget := ⟨externalKey e.name, e.labels, e.taints⟩

/-- The members `ks` as targets, and the external nodes after them. -/
abbrev targetsOver (s : PoolSnapshot) (ks : List Member) : List EvictionTarget :=
  ks.map memberTarget ++ s.external.map externalTarget

/-- **The moves of both listings are in step**: the members `ks`, listed
otherwise as `ks'`, are matched for the pods `later`, those that are going to be
tried with themselves, and the external nodes have the same room. -/
structure MoveAlike (s : PoolSnapshot) (later : List PodView) (going : List String)
    (ks ks' : List Member) (free free' : FreeMap) : Prop where
  matched : Matched admits (mayTake s.evictable) later (fun a => a.name ∈ going) ks
    (roomIn free) (roomIn free')
  external : ∀ e ∈ s.external, free[externalKey e.name]? = free'[externalKey e.name]?

/-- The slot of a pod: the first of the members that matches it and has room, or
else the first external node. -/
theorem findSlot_eq (ks : List Member) (free : FreeMap) (p : PodView) :
    findSlot free (s.targetsOver ks) p
      = ((firstFit admits takesPod ks (roomIn free) p).map memberTarget).or
        ((s.external.map externalTarget).find? (fun t =>
          free[t.key]?.any (·.fits p.requests) && podMatchesNode p t.labels t.taints)) := by
  unfold findSlot targetsOver
  rw [List.find?_append, List.find?_map]
  rfl

/-- A pod moved to one of the members. -/
theorem takes_insert {ks : List Member} {free : FreeMap} {k : Member} {p : PodView}
    (hnames : (ks.map (·.name)).Nodup) (hk : k ∈ ks) :
    Takes leftBy ks (roomIn free) p k
      (roomIn (free.insert k.name ((free[k.name]?.getD {}).minus p.requests))) where
  self := TreeMap.getElem?_insert_self
  others := by
    intro j hj hne
    exact Lib.getElem?_insert_of_ne (fun he => hne (List.inj_on_of_nodup_map hnames hj hk he.symm))

/-- A pod moved leaves less room. -/
theorem shrinks_leftBy {pods : List PodView} {p : PodView} (hp : p ∈ pods) :
    Shrinks takesPod (mayTake pods) leftBy p where
  could_of_fits := by
    intro q r hfits
    obtain ⟨x, hx, hfx⟩ := (Option.any_eq_true _ _).mp hfits
    exact (Option.any_eq_true _ _).mpr ⟨x, hx, Bool.or_eq_true_iff.mpr (Or.inr hfx)⟩
  could_before := by
    intro q r hfits hq
    obtain ⟨x, rfl, hfx⟩ := (Option.any_eq_true _ _).mp hfits
    exact mayFit_of_minus hp hfx hq

/-- Members that will all do are alike, or the same. -/
theorem alikeFor_of_anyMember {pods : List PodView} {ks : List Member} {free : FreeMap}
    {p : PodView} {later : List PodView} {going : List String} (hnames : (ks.map (·.name)).Nodup)
    (h : anyMember pods ks free p later going = true) {a b : Member} (ha : a ∈ ks) (hb : b ∈ ks)
    (hfa : takesPod p (roomIn free a) = true) (hsa : admits p a = true)
    (hfb : takesPod p (roomIn free b) = true) (hsb : admits p b = true) :
    a = b ∨ (AlikeFor admits (mayTake pods) later (roomIn free) a b ∧
      ¬ a.name ∈ going ∧ ¬ b.name ∈ going) := by
  have hone := List.all_eq_true.mp (List.all_eq_true.mp h a
    (List.mem_filter.mpr ⟨ha, Bool.and_eq_true_iff.mpr ⟨hfa, hsa⟩⟩)) b
    (List.mem_filter.mpr ⟨hb, Bool.and_eq_true_iff.mpr ⟨hfb, hsb⟩⟩)
  simp only [Bool.or_eq_true, Bool.and_eq_true, beq_iff_eq, decide_eq_true_eq, Bool.not_eq_true',
    List.contains_eq_mem, decide_eq_false_iff_not] at hone
  rcases hone with hname | ⟨⟨halike, hna⟩, hnb⟩
  · exact Or.inl (List.inj_on_of_nodup_map hnames ha hb hname)
  · exact Or.inr ⟨halike, hna, hnb⟩

section Moves

variable {ks ks' : List Member} (hapart : ∀ a ∈ s.members, ∀ e ∈ s.external,
  a.name ≠ externalKey e.name)

/-- Both listings move the pods over the members `ks`. -/
structure Listings (s : PoolSnapshot) (ks ks' : List Member) : Prop where
  members : ∀ a ∈ ks, a ∈ s.members
  names : (ks.map (·.name)).Nodup
  perm : ks.Perm ks'

include hapart in
/-- A pod that both listings move to the external node `e`. -/
theorem MoveAlike.toExternal (hks : s.Listings ks ks') {later : List PodView}
    {going : List String} {free free' : FreeMap} (h : s.MoveAlike later going ks ks' free free')
    {e : ExternalNode} (he : e ∈ s.external) (x : ResourceAmounts) :
    s.MoveAlike later going ks ks' (free.insert (externalKey e.name) x)
      (free'.insert (externalKey e.name) x) := by
  have hframe : ∀ f : FreeMap, ∀ a ∈ ks,
      roomIn (f.insert (externalKey e.name) x) a = roomIn f a := by
    intro f a ha
    exact Lib.getElem?_insert_of_ne (hapart a (hks.members a ha) e he).symm
  constructor
  · exact h.matched.congr (hframe free) (hframe free')
  · intro e' he'
    by_cases hkey : externalKey e.name = externalKey e'.name
    · rw [← hkey, TreeMap.getElem?_insert_self, TreeMap.getElem?_insert_self]
    · rw [Lib.getElem?_insert_of_ne hkey, Lib.getElem?_insert_of_ne hkey, h.external e' he']

include hapart in
/-- **One pod**: both listings move it or neither does. -/
theorem findSlot_alike (hks : s.Listings ks ks') {p : PodView} {later : List PodView}
    {going : List String} {free free' : FreeMap}
    (hp : p ∈ s.evictable) (h : s.MoveAlike (p :: later) going ks ks' free free')
    (hany : anyMember s.evictable ks free p later going = true) :
    (findSlot free (s.targetsOver ks) p = none ∧
      findSlot free' (s.targetsOver ks') p = none) ∨
    ∃ t t', findSlot free (s.targetsOver ks) p = some t ∧
      findSlot free' (s.targetsOver ks') p = some t' ∧
      s.MoveAlike later going ks ks'
        (free.insert t.key ((free[t.key]?.getD {}).minus p.requests))
        (free'.insert t'.key ((free'[t'.key]?.getD {}).minus p.requests)) := by
  rw [findSlot_eq, findSlot_eq]
  rcases h.matched.first (shrinks_leftBy hp) hks.perm
    (fun a ha b hb => alikeFor_of_anyMember hks.names hany ha hb) with
    ⟨hnone, hnone'⟩ | ⟨k, k', hk, hk', hafter⟩
  -- to an external node, the same for both
  · have hless : s.MoveAlike later going ks ks' free free' :=
      ⟨h.matched.mono (fun q hq => List.mem_cons_of_mem p hq) (fun _ hg => hg), h.external⟩
    have hfind : (s.external.map externalTarget).find? (fun t =>
          free[t.key]?.any (·.fits p.requests) && podMatchesNode p t.labels t.taints)
        = (s.external.map externalTarget).find? (fun t =>
          free'[t.key]?.any (·.fits p.requests) && podMatchesNode p t.labels t.taints) := by
      apply List.find?_congr
      intro t ht
      obtain ⟨e, he, rfl⟩ := List.mem_map.mp ht
      show (free[externalKey e.name]?.any _ && _) = (free'[externalKey e.name]?.any _ && _)
      rw [h.external e he]
    rw [hnone, hnone', hfind, Option.map_none, Option.none_or]
    cases hslot : (s.external.map externalTarget).find? (fun t =>
        free'[t.key]?.any (·.fits p.requests) && podMatchesNode p t.labels t.taints) with
    | none => exact Or.inl ⟨rfl, rfl⟩
    | some t =>
      obtain ⟨e, he, rfl⟩ := List.mem_map.mp (List.mem_of_find?_eq_some hslot)
      refine Or.inr ⟨externalTarget e, externalTarget e, rfl, rfl, ?_⟩
      show s.MoveAlike later going ks ks' (free.insert (externalKey e.name)
          ((free[externalKey e.name]?.getD {}).minus p.requests))
        (free'.insert (externalKey e.name)
          ((free'[externalKey e.name]?.getD {}).minus p.requests))
      rw [h.external e he]
      exact hless.toExternal hapart hks he _
  -- to a member, another one perhaps in the other listing
  · rw [hk, hk']
    have hkb := (Lib.firstFit_some hk).1
    have hkb' : k' ∈ ks := hks.perm.mem_iff.mpr (Lib.firstFit_some hk').1
    have hmem : ∀ a ∈ ks, ∀ e ∈ s.external, a.name ≠ externalKey e.name :=
      fun a ha => hapart a (hks.members a ha)
    refine Or.inr ⟨memberTarget k, memberTarget k', rfl, rfl, ?_, ?_⟩
    · exact hafter _ _ (takes_insert hks.names hkb)
        (takes_insert ((hks.perm.map _).nodup hks.names) (hks.perm.mem_iff.mp hkb'))
    · intro e he
      show (free.insert k.name _)[externalKey e.name]?
        = (free'.insert k'.name _)[externalKey e.name]?
      rw [Lib.getElem?_insert_of_ne (hmem k hkb e he),
        Lib.getElem?_insert_of_ne (hmem k' hkb' e he), h.external e he]

include hapart in
/-- **The moves stay in step**, and succeed in both listings or in neither. -/
theorem moveAll_alike (hks : s.Listings ks ks') (after : List Turn) (pods : List PodView) :
    ∀ {free free' : FreeMap}, (∀ p ∈ pods, p ∈ s.evictable) →
      s.MoveAlike (lookedAt (s.targetsOver ks) free pods
        ++ podsOf after) (goers after) ks ks' free free' →
      s.movesAnyhow ks (s.targetsOver ks) after free pods
        = true →
      (moveAll (s.targetsOver ks) free pods = none ∧
        moveAll (s.targetsOver ks') free' pods = none) ∨
      ∃ trial trial',
        moveAll (s.targetsOver ks) free pods = some trial ∧
        moveAll (s.targetsOver ks') free' pods = some trial' ∧
        s.MoveAlike (podsOf after) (goers after) ks ks' trial trial' := by
  induction pods with
  | nil =>
    intro free free' _ h _
    exact Or.inr ⟨free, free', rfl, rfl, h⟩
  | cons p pods ih =>
    intro free free' hpods h hmoves
    unfold movesAnyhow at hmoves
    simp only [Bool.and_eq_true] at hmoves
    obtain ⟨hany, hrest⟩ := hmoves
    unfold moveAll
    have hhead : s.MoveAlike (p :: ((lookedAt (s.targetsOver ks) free (p :: pods)).tail
        ++ podsOf after)) (goers after) ks ks' free free' := h
    -- both find a slot or neither does; slots that differ are swapped from here on
    rcases findSlot_alike hapart hks (hpods p List.mem_cons_self) hhead hany with
      ⟨hnone, hnone'⟩ | ⟨t, t', ht, ht', hstep⟩
    · rw [hnone, hnone']
      exact Or.inl ⟨rfl, rfl⟩
    · rw [lookedAt_of_slot ht, List.tail_cons] at hstep
      rw [ht] at hrest
      rw [ht, ht']
      exact ih (fun q hq => hpods q (List.mem_cons_of_mem p hq)) hstep hrest

end Moves

/-! ## §4. The two removal loops. -/

/-- The targets are the members that stand, and the external nodes. -/
theorem targets_eq (m : Member) (removed : TreeSet String) :
    s.targets m removed
      = s.targetsOver ((s.standing removed).filter (fun a => a.name != m.name)) := by
  unfold targets targetsOver standing
  rw [List.filter_filter]
  congr 2
  apply List.filter_congr
  intro o _
  cases isTarget o <;> cases o.name != m.name <;> rfl

/-- A machine removed stands no more. -/
theorem standing_insert (m : Member) (removed : TreeSet String) :
    s.standing (removed.insert m.name)
      = (s.standing removed).filter (fun a => a.name != m.name) := by
  unfold standing
  rw [List.filter_filter]
  apply List.filter_congr
  intro o _
  by_cases he : o.name = m.name
  · simp [he]
  · have hcontains : (removed.insert m.name).contains o.name = removed.contains o.name := by
      rw [TreeSet.contains_insert]
      have hcmp : compare m.name o.name ≠ .eq :=
        fun hc => he (Std.LawfulEqOrd.eq_of_compare hc).symm
      simp [hcmp]
    rw [hcontains]
    simp [he]

/-- **The removal loops of both listings are in step**, for the turns that come. -/
structure DownAlike (s : PoolSnapshot) (members : List Member) (later : List Turn)
    (st st' : DownState) : Prop where
  removed : st'.removed = st.removed
  names : st'.powerOff.map (·.1) = st.powerOff.map (·.1)
  moves : s.MoveAlike (podsOf later) (goers later) (s.standing st.removed)
    ((s.listed members).standing st.removed) st.free st'.free

/-- With fewer turns to come. -/
theorem MoveAlike.tail {t : Turn} {ts : List Turn} {ks ks' : List Member} {free free' : FreeMap}
    (h : s.MoveAlike (podsOf (t :: ts)) (goers (t :: ts)) ks ks' free free') :
    s.MoveAlike (podsOf ts) (goers ts) ks ks' free free' where
  matched := h.matched.mono (fun _ hq => List.mem_append_right _ hq)
    (fun _ ha => goers_subset t ts _ ha)
  external := h.external

section Loop

variable (hd : s.DistinctMembers) (hperm : s.members.Perm members)
  (hapart : ∀ a ∈ s.members, ∀ e ∈ s.external, a.name ≠ externalKey e.name)

/-- A target starts with what its pods leave free. -/
theorem roomIn_start {t : PoolSnapshot} (hd : t.DistinctMembers)
    (hapart : ∀ a ∈ t.members, ∀ e ∈ t.external, a.name ≠ externalKey e.name) {a : Member}
    (ha : a ∈ t.members.filter isTarget) : roomIn t.freeAtStart a = some (spare a) := by
  have hmem := (List.mem_filter.mp ha).1
  unfold roomIn freeAtStart
  rw [Lib.insertAll_of_not_entry]
  · apply Lib.insertAll_of_entry
    · exact ⟨a, ha, rfl⟩
    · intro b hb v hv
      simp only [Option.some.injEq, Prod.mk.injEq] at hv
      rw [← hv.2, hd.eq_of_name (List.mem_filter.mp hb).1 hmem hv.1]
      rfl
  · intro e he v hv
    simp only [Option.some.injEq, Prod.mk.injEq] at hv
    exact hapart a hmem e he hv.1.symm

include hperm hapart in
/-- The external nodes start with the same room. -/
theorem external_start {e : ExternalNode} (he : e ∈ s.external) :
    s.freeAtStart[externalKey e.name]? = (s.listed members).freeAtStart[externalKey e.name]? := by
  have hmembers : ∀ ms : List Member, (∀ a ∈ ms, a ∈ s.members) →
      (insertAll (fun m : Member => some (m.name, m.allocatable.minus m.requested)) ∅
        (ms.filter isTarget))[externalKey e.name]?
        = (∅ : FreeMap)[externalKey e.name]? := by
    intro ms hms
    apply Lib.insertAll_of_not_entry
    intro a ha v hv
    simp only [Option.some.injEq, Prod.mk.injEq] at hv
    exact hapart a (hms a (List.mem_filter.mp ha).1) e he hv.1
  unfold freeAtStart
  apply Lib.insertAll_congr
  rw [hmembers s.members (fun a ha => ha), hmembers members (fun a ha => hperm.mem_iff.mpr ha)]

include hd hperm hapart in
/-- **The loops start in step.** -/
theorem downAlike_start (later : List Turn) :
    s.DownAlike members later { free := s.freeAtStart }
      { free := (s.listed members).freeAtStart } where
  removed := rfl
  names := rfl
  moves := by
    have hd' : (s.listed members).DistinctMembers := (hperm.map _).nodup hd
    have hstart : ∀ a ∈ s.standing ∅, roomIn s.freeAtStart a = some (spare a) :=
      fun a ha => roomIn_start hd hapart (mem_standing ha)
    have hstart' : ∀ a ∈ (s.listed members).standing ∅,
        roomIn (s.listed members).freeAtStart a = some (spare a) :=
      fun a ha => roomIn_start hd' (fun b hb => hapart b (hperm.mem_iff.mpr hb))
        (mem_standing ha)
    have hstand : (s.standing ∅).Perm ((s.listed members).standing ∅) := hperm.filter _
    constructor
    · apply Lib.matched_start
      intro a ha
      rw [hstart a ha, hstart' a (hstand.mem_iff.mp ha)]
    · intro e he
      exact external_start hperm hapart he

/-- The machine `m` leaves the targets, and its room with it. -/
theorem MoveAlike.leave {st st' : DownState} {m : Member} {ahead after : List Turn}
    (hm : ∀ e ∈ s.external, m.name ≠ externalKey e.name)
    (hpods : ∀ q ∈ podsOf after, q ∈ podsOf ahead) (hgoers : ∀ n ∈ goers after, n ∈ goers ahead)
    (h : s.DownAlike members (s.turnOf st m :: ahead) st st') :
    s.MoveAlike ((s.turnOf st m).2 ++ podsOf after) (goers after)
      (s.standing (st.removed.insert m.name))
      ((s.listed members).standing (st.removed.insert m.name)) (st.free.erase m.name)
      (st'.free.erase m.name) := by
  have herase : ∀ (f : FreeMap), ∀ a ∈ s.standing (st.removed.insert m.name),
      roomIn (f.erase m.name) a = roomIn f a := by
    intro f a ha
    rw [standing_insert] at ha
    have hne : a.name ≠ m.name := by simpa using (List.mem_filter.mp ha).2
    exact Lib.getElem?_erase_of_ne hne.symm
  refine ⟨?_, ?_⟩
  · by_cases hnil : podsOf (s.turnOf st m :: ahead) = []
    -- no pod is looked at any more
    · rw [podsOf_cons, List.append_eq_nil_iff] at hnil
      have hnone : podsOf after = [] := by
        rw [List.eq_nil_iff_forall_not_mem]
        intro q hq
        rw [hnil.2] at hpods
        exact List.not_mem_nil (hpods q hq)
      rw [hnil.1, hnone]
      exact Lib.matched_nil
    · have hgo := goers_cons hnil
      have hgoes : ∀ a ∈ s.standing st.removed, (a.name != m.name) = false →
          a.name ∈ goers (s.turnOf st m :: ahead) := by
        intro a _ hkeep
        rw [hgo, show a.name = m.name by simpa using hkeep]
        exact List.mem_cons_self
      have hdrop := h.moves.matched.drop hgoes
      rw [← standing_insert] at hdrop
      refine (hdrop.mono ?_ ?_).congr (herase st.free) (herase st'.free)
      · intro q hq
        rcases List.mem_append.mp hq with hq | hq
        · exact List.mem_append_left _ hq
        · exact List.mem_append_right _ (hpods q hq)
      · intro a ha
        rw [hgo]
        exact List.mem_cons_of_mem _ (hgoers _ ha)
  · intro e he
    rw [Lib.getElem?_erase_of_ne (hm e he), Lib.getElem?_erase_of_ne (hm e he)]
    exact h.moves.external e he

include hd hperm hapart in
/-- **The pods of one machine**: both listings find places for them or neither
does. -/
theorem tryEvict_alike {st st' : DownState} {m : Member} {ahead after : List Turn}
    (hm : m ∈ s.eligible) (hpods : ∀ q ∈ podsOf after, q ∈ podsOf ahead)
    (hgoers : ∀ n ∈ goers after, n ∈ goers ahead)
    (h : s.DownAlike members (s.turnOf st m :: ahead) st st')
    (hmoves : s.movesAnyhow (s.standing (st.removed.insert m.name)) (s.targets m st.removed) after
      (st.free.erase m.name) (sortBy largestFirst m.movablePods) = true) :
    (s.tryEvict st m = none ∧ (s.listed members).tryEvict st' m = none) ∨
    ∃ trial trial', s.tryEvict st m = some trial ∧
      (s.listed members).tryEvict st' m = some trial' ∧
      s.MoveAlike (podsOf after) (goers after) (s.standing (st.removed.insert m.name))
        ((s.listed members).standing (st.removed.insert m.name)) trial trial' := by
  have hks : s.Listings (s.standing (st.removed.insert m.name))
      ((s.listed members).standing (st.removed.insert m.name)) :=
    ⟨fun a ha => (List.mem_filter.mp ha).1, (List.filter_sublist.map _).nodup hd, hperm.filter _⟩
  have hmem : m ∈ s.members := (mem_candidates.mp (mem_eligible.mp hm).1).1
  have hleave := MoveAlike.leave (hapart m hmem) hpods hgoers h
  unfold turnOf at hleave
  unfold tryEvict
  rw [targets_eq, ← standing_insert] at hmoves hleave ⊢
  rw [h.removed, targets_eq, ← standing_insert]
  refine moveAll_alike hapart hks after _ ?_ hleave hmoves
  intro p hp
  exact List.mem_flatMap.mpr ⟨m, hm, mem_sortBy.mp hp⟩

/-- A machine is taken if it is tried and its pods fit elsewhere. -/
theorem takes_eq (t : PoolSnapshot) (st : DownState) (m : Member) :
    t.takes st m = (t.tries st m && (t.tryEvict st m).isSome) := rfl

/-- A machine tried whose pods fit is taken. -/
theorem takes_of_tries {t : PoolSnapshot} {st : DownState} {m : Member}
    (ht : t.tries st m = true) (he : (t.tryEvict st m).isSome = true) : t.takes st m = true := by
  rw [takes_eq, ht, he]
  rfl

/-- A machine not tried is not taken, nor one whose pods do not fit. -/
theorem takes_eq_false {t : PoolSnapshot} {st : DownState} {m : Member}
    (h : t.tries st m = false ∨ t.tryEvict st m = none) : t.takes st m = false := by
  rw [takes_eq]
  rcases h with h | h
  · rw [h, Bool.false_and]
  · rw [h, Option.isSome_none, Bool.and_false]

/-- Both listings try the same machines. -/
theorem tries_listed (hperm : s.members.Perm members) {st st' : DownState}
    (h : st'.removed = st.removed) (m : Member) :
    (s.listed members).tries st' m = s.tries st m := by
  have hholders : (s.listed members).holders m = s.holders m := rfl
  unfold tries
  rw [hholders, h, budget_listed hperm, onlineNow_listed hperm]

/-- A machine that is not tried stays, and so does one whose pods do not fit. -/
theorem DownAlike.kept {st st' next next' : DownState} {later : List Turn}
    (h : s.DownAlike members later st st') (hk : Keeps st next) (hk' : Keeps st' next') :
    s.DownAlike members later next next' := by
  refine ⟨?_, ?_, ?_⟩
  · rw [hk.removed, hk'.removed, h.removed]
  · rw [hk.powerOff, hk'.powerOff, h.names]
  · rw [hk.removed, hk.free, hk'.free]
    exact h.moves

include hd hperm hapart in
/-- **One turn keeps the loops in step.** -/
theorem removeStep_alike {st st' : DownState} {m : Member} {rest : List Member}
    (hm : m ∈ s.eligible) (h : s.DownAlike members (s.turns st (m :: rest)) st st')
    (hany : s.removesAnyhow st (m :: rest) = true) :
    s.DownAlike members (s.turns (s.removeStep st m rest) rest) (s.removeStep st m rest)
      ((s.listed members).removeStep st' m rest) := by
  have htries := tries_listed hperm h.removed m
  unfold turns at h
  by_cases ht : s.tries st m = true
  · rw [if_pos ht] at h
    unfold removesAnyhow at hany
    simp only [ht, Bool.not_true, Bool.false_or, Bool.and_eq_true] at hany
    cases htry : s.tryEvict st m with
    -- its pods do not fit, and the moves are undone
    | none =>
      rw [htry] at hany
      rcases tryEvict_alike hd hperm hapart hm (fun _ hq => absurd hq List.not_mem_nil)
        (fun _ hn => absurd hn List.not_mem_nil) h hany.1 with ⟨_, hnone'⟩ | ⟨_, _, hsome, _⟩
      · have hk := keeps_of_not_takes rest (takes_eq_false (Or.inr htry))
        have hk' := keeps_of_not_takes rest (takes_eq_false (Or.inr hnone'))
        exact DownAlike.kept ⟨h.removed, h.names, h.moves.tail⟩ hk hk'
      · rw [htry] at hsome
        cases hsome
    | some trial =>
      rw [htry] at hany
      rcases tryEvict_alike hd hperm hapart hm (fun _ hq => hq) (fun _ hn => hn) h hany.1 with
        ⟨hnone, _⟩ | ⟨after, after', hafter, hafter', hmoves⟩
      · rw [htry] at hnone
        cases hnone
      · have hr := removes_of_takes rest (takes_of_tries ht (by rw [hafter]; rfl))
        have hr' := removes_of_takes rest
          (takes_of_tries (htries.trans ht) (by rw [hafter']; rfl))
        obtain ⟨reason, hoff⟩ := hr.powerOff
        obtain ⟨reason', hoff'⟩ := hr'.powerOff
        rw [hr.tryEvict] at hafter
        rw [hr'.tryEvict] at hafter'
        rw [← Option.some.inj hafter, ← Option.some.inj hafter', ← hr.removed] at hmoves
        refine ⟨?_, ?_, hmoves⟩
        · rw [hr.removed, hr'.removed, h.removed]
        · rw [hoff, hoff', List.map_append, List.map_append, h.names]
          rfl
  · rw [if_neg ht] at h
    have hno : s.tries st m = false := by simpa using ht
    exact h.kept (keeps_of_not_takes rest (takes_eq_false (Or.inl hno)))
      (keeps_of_not_takes rest (takes_eq_false (Or.inl (htries.trans hno))))

include hd hperm hapart in
/-- **Both loops remove the same machines**, if at each pod any member will do. -/
theorem removeLoop_alike (l : List Member) :
    ∀ {st st' : DownState}, s.DownAlike members (s.turns st l) st st' →
      (∀ m ∈ l, m ∈ s.eligible) → s.removesAnyhow st l = true →
      ((s.listed members).removeLoop st' l).powerOff.map (·.1)
        = (s.removeLoop st l).powerOff.map (·.1) := by
  induction l with
  | nil => intro st st' h _ _; exact h.names
  | cons m rest ih =>
    intro st st' h hl hany
    have hstep := removeStep_alike hd hperm hapart (hl m List.mem_cons_self) h hany
    unfold removesAnyhow at hany
    simp only [Bool.and_eq_true] at hany
    exact ih hstep (fun n hn => hl n (List.mem_cons_of_mem _ hn)) hany.2

end Loop

/-! ## §5. What both listings power off. -/

/-- A plan powers off only where machines may be removed. -/
theorem mayRemove_of_powerOff (h : s.powerOff ≠ []) : s.mayRemove = true := by
  have hcard : 0 < s.powerOffNames.card := by
    rw [Finset.card_pos]
    obtain ⟨x, hx⟩ := List.exists_mem_of_ne_nil _ h
    exact ⟨x.1, List.mem_toFinset.mpr (List.mem_map.mpr ⟨x, hx, rfl⟩)⟩
  have hmin := (powerOff_card_le (s := s)).2
  unfold mayRemove
  rw [decide_eq_true (by omega), Bool.true_and]
  by_cases hover : 0 < s.overMax
  · simp [hover]
  · have hzero : s.overMax = 0 := by omega
    have hleaving : s.leaving < s.step := by
      rcases scaledDown_cases (s := s) with ⟨hmay, _⟩ | ⟨_, hnil⟩
      · unfold mayScaleDown at hmay
        rw [hzero] at hmay
        simp only [Bool.and_eq_true] at hmay
        simpa using hmay.2
      · exact absurd hnil h
    simp [notHeld_of_powerOff hzero h, hleaving]

/-- Whether machines may be removed does not depend on the listing. -/
theorem mayRemove_listed (h : s.members.Perm members) :
    (s.listed members).mayRemove = s.mayRemove := by
  unfold mayRemove notHeld
  rw [onlineNow_listed h, overMax_listed h, relevant_listed h, booting_listed h,
    holdUntil_listed h, leaving_listed h]
  rfl

/-- **Both listings power off the same machines.** -/
theorem powerOff_listed (hd : s.DistinctMembers) (hperm : s.members.Perm members)
    (hon : (s.listed members).powerOn = s.powerOn)
    (halike : s.mayRemove = true → s.TargetsAlike) :
    (s.listed members).powerOff.map (·.1) = s.powerOff.map (·.1) := by
  by_cases hmay : s.mayRemove = true
  · obtain ⟨hapart, hany⟩ := halike hmay
    have hloop := removeLoop_alike hd hperm hapart s.eligible (downAlike_start hd hperm hapart _)
      (fun m hm => hm) hany
    have hruns := mayScaleDown_listed hperm hon
    rcases scaledDown_cases (s := s) with ⟨hyes, heq⟩ | ⟨hno, hnil⟩
    · rcases scaledDown_cases (s := s.listed members) with ⟨_, heq'⟩ | ⟨hno', _⟩
      · unfold powerOff
        rw [heq, heq', eligible_listed hd hperm]
        exact hloop
      · rw [hruns, hyes] at hno'
        cases hno'
    · rcases scaledDown_cases (s := s.listed members) with ⟨hyes', _⟩ | ⟨_, hnil'⟩
      · rw [hruns, hno] at hyes'
        cases hyes'
      · rw [hnil, hnil']
  -- where none may be removed none is
  · have hnil : s.powerOff = [] := by
      by_contra hne
      exact hmay (mayRemove_of_powerOff hne)
    have hnil' : (s.listed members).powerOff = [] := by
      by_contra hne
      exact hmay ((mayRemove_listed hperm).symm.trans (mayRemove_of_powerOff hne))
    rw [hnil, hnil']

/-- **The order in which the members are listed decides nothing**, if any booting
machine will do for the pending pods and, wherever machines may be removed, any
member for the pods of the machines tried. -/
theorem listing_irrelevant (s : PoolSnapshot) (hd : s.DistinctMembers)
    (hup : s.BootingAlike) (hdown : s.mayRemove = true → s.TargetsAlike)
    (members : List Member) (hperm : s.members.Perm members) :
    (plan (s.listed members)).powerOn.map (·.1) = (plan s).powerOn.map (·.1) ∧
    (plan (s.listed members)).powerOff.map (·.1) = (plan s).powerOff.map (·.1) := by
  have hon : (s.listed members).powerOn = s.powerOn := powerOn_listed hd hperm hup
  exact ⟨congrArg (List.map (·.1)) hon, powerOff_listed hd hperm hon hdown⟩

/-! ## §6. Listings that decide. -/

instance (s : PoolSnapshot) : Decidable s.BootingAlike :=
  inferInstanceAs (Decidable (_ = true))

instance (s : PoolSnapshot) : Decidable s.TargetsAlike :=
  decidable_of_iff ((∀ a ∈ s.members, ∀ e ∈ s.external, a.name ≠ externalKey e.name) ∧
    s.removesAnyhow { free := s.freeAtStart } s.eligible = true)
    ⟨fun h => ⟨h.1, h.2⟩, fun h => ⟨h.apart, h.alike⟩⟩

/-- A machine of 2 CPUs. -/
def twoCpus (name : String) (state : MemberState) (memory : Int64) : Member where
  name := name
  state := state
  auto := false
  allocatable := { cpuMillis := 2000, memoryBytes := memory, pods := 10 }

/-- Two pods, the one with less memory placed first. -/
def twoPods : List PodView :=
  [{ name := "p1", requests := { cpuMillis := 2000, memoryBytes := 1, pods := 1 } },
   { name := "p2", requests := { cpuMillis := 1000, memoryBytes := 4, pods := 1 } }]

/-- `c` is off, `a` and `b` are booting, `b` with the given memory; two pods are
pending. -/
def twoBooting (memory : Int64) : PoolSnapshot where
  spec := {}
  members := [twoCpus "a" .booting 4, twoCpus "b" .booting memory,
    { twoCpus "c" .offline 4 with auto := true }]
  pending := twoPods
  now := seconds 3600

/-- `c`, with the two pods, has been unneeded for an hour; `a` and `b` were
powered on by hand, `b` with the given memory. -/
def twoTargets (memory : Int64) : PoolSnapshot where
  spec := {}
  members := [twoCpus "a" .manual 4, twoCpus "b" .manual memory,
    { twoCpus "c" .online 4 with auto := true, movablePods := twoPods }]
  now := seconds 3600
  unneededSince := (∅ : TreeMap String Int).insert "c" 0

/-- The members of a snapshot, the first two exchanged. -/
def swapped (s : PoolSnapshot) : List Member :=
  match s.members with
  | a :: b :: rest => b :: a :: rest
  | short => short

theorem twoBooting_distinct (memory : Int64) : (twoBooting memory).DistinctMembers := by
  show ["a", "b", "c"].Nodup
  decide

theorem twoTargets_distinct (memory : Int64) : (twoTargets memory).DistinctMembers := by
  show ["a", "b", "c"].Nodup
  decide

theorem swapped_twoBooting (memory : Int64) :
    (twoBooting memory).members.Perm (swapped (twoBooting memory)) := List.Perm.swap _ _ _

theorem swapped_twoTargets (memory : Int64) :
    (twoTargets memory).members.Perm (swapped (twoTargets memory)) := List.Perm.swap _ _ _

/-- With `a` and `b` alike, no machine is powered on for the pods, and `c` is
powered off, in both listings. -/
theorem listing_irrelevant_alike :
    ((plan (twoBooting 4)).powerOn.map (·.1) = [] ∧
      (plan ((twoBooting 4).listed (swapped (twoBooting 4)))).powerOn.map (·.1)
        = (plan (twoBooting 4)).powerOn.map (·.1)) ∧
    ((plan (twoTargets 4)).powerOff.map (·.1) = ["c"] ∧
      (plan ((twoTargets 4).listed (swapped (twoTargets 4)))).powerOff.map (·.1)
        = (plan (twoTargets 4)).powerOff.map (·.1)) := by
  refine ⟨⟨by decide +kernel, ?_⟩, by decide +kernel, ?_⟩
  · exact (listing_irrelevant (twoBooting 4) (twoBooting_distinct 4) (by decide +kernel)
      (fun _ => by decide +kernel) _ (swapped_twoBooting 4)).1
  · exact (listing_irrelevant (twoTargets 4) (twoTargets_distinct 4) (by decide +kernel)
      (fun _ => by decide +kernel) _ (swapped_twoTargets 4)).2

/-- **The listing decides**: if `b` has little memory, the order of `a` and `b`
decides whether `c` is powered on for a pod, and whether it is powered off. -/
theorem listing_decides :
    ((twoBooting 1).DistinctMembers ∧
      (twoBooting 1).members.Perm (swapped (twoBooting 1)) ∧
      (plan (twoBooting 1)).powerOn.map (·.1) = ["c"] ∧
      (plan ((twoBooting 1).listed (swapped (twoBooting 1)))).powerOn.map (·.1) = []) ∧
    ((twoTargets 1).DistinctMembers ∧
      (twoTargets 1).members.Perm (swapped (twoTargets 1)) ∧
      (plan (twoTargets 1)).powerOff.map (·.1) = [] ∧
      (plan ((twoTargets 1).listed (swapped (twoTargets 1)))).powerOff.map (·.1) = ["c"]) :=
  ⟨⟨twoBooting_distinct 1, swapped_twoBooting 1, by decide +kernel, by decide +kernel⟩,
    twoTargets_distinct 1, swapped_twoTargets 1, by decide +kernel, by decide +kernel⟩

end PoolSnapshot

end HardwareAutoscaler
