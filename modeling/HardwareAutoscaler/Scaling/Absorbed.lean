/-
  HardwareAutoscaler.Scaling.Absorbed
  ───────────────────────────────────
  THE NEXT PLAN, ONCE THE MACHINES POWERED ON ARE BOOTING.

  The packing of the next cycle is another first-fit run: the machines opened
  are booting now, their bins come in the order of the members and hold what
  the requests already bound to them leave.  A bin counts for a pod only if
  the pod's selectors, affinity and tolerations admit it, so the two runs put
  every pod into the same machine when, for each pod, the admitting machines
  come in the order in which they were taken, and what was packed on those
  that were off fits together with what is bound to them.

    • `Bin.beside` / `Ahead.fitsBeside` — the bins of the second run, smaller
      by what is bound, and why they hold what the first run puts there,
    • `Alike.place` — one pod: the bin that takes it in the next cycle,
    • `absorbed_placePods` — the simulation of the first run by the second,
    • `stable_of_inOrder` — the next plan powers nothing on,
    • `provided_pods_wake` — it does when what is bound to a machine leaves
      too little of it, or when the order is another.
-/
import HardwareAutoscaler.Scaling.NextPlan
import HardwareAutoscaler.Scaling.Eviction
import HardwareAutoscaler.Lib.FirstFit

namespace HardwareAutoscaler

open Std (TreeMap)
open Lib (takeFirst putAt Agree)

namespace PoolSnapshot

variable {s : PoolSnapshot}

/-! ## §1. Bins. -/

/-- A machine that pods are packed onto, with its free room. -/
abbrev Bin := Member × ResourceAmounts

/-- The pod's selectors, affinity and tolerations admit the machine. -/
def admits (p : PodView) (m : Member) : Bool := podMatchesNode p m.labels m.taints

/-- Puts the pod into the bin. -/
def Bin.put (p : PodView) (b : Bin) : Bin := (b.1, b.2.minus p.requests)

/-- The bin of a machine that boots. -/
def binOf (m : Member) : Bin := (m, m.allocatable.minus m.requested)

/-- Taking a bin is first fit. -/
theorem takeBin_eq_takeFirst (p : PodView) (bins : List Bin) :
    takeBin p bins = takeFirst (fun b => podFits p b.1 b.2) (Bin.put p) bins := by
  induction bins with
  | nil => rfl
  | cons b bins ih =>
    obtain ⟨m, free⟩ := b
    unfold takeBin takeFirst
    rw [ih]
    rfl

/-- The bins with distinct machines: the first that fits is the one changed. -/
theorem takeBin_eq {p : PodView} {bins : List Bin} (h : (bins.map (·.1.name)).Nodup) :
    takeBin p bins = (bins.find? (fun b => podFits p b.1 b.2)).map
      (fun b => putAt (·.1.name) (Bin.put p) b.1.name bins) := by
  rw [takeBin_eq_takeFirst]
  exact Lib.takeFirst_eq h

/-- A machine that a pod fits matches it. -/
theorem admits_of_podFits {p : PodView} {m : Member} {free : ResourceAmounts}
    (h : podFits p m free = true) : admits p m = true := by
  unfold podFits at h
  simp only [Bool.and_eq_true] at h
  exact h.2

/-! ## §2. The two packings. -/

/-- Puts the pod into the bin of the machine `n`. -/
def place (p : PodView) (n : String) (bins : List Bin) : List Bin :=
  putAt (·.1.name) (Bin.put p) n bins

/-- Placing a pod keeps the machines. -/
theorem place_names {p : PodView} {n : String} {bins : List Bin} :
    (place p n bins).map (·.1.name) = bins.map (·.1.name) :=
  Lib.map_key_putAt (fun _ => rfl)

/-- A pod is placed in each part. -/
theorem place_append {p : PodView} {n : String} {bins tail : List Bin} :
    place p n (bins ++ tail) = place p n bins ++ place p n tail := Lib.putAt_append

/-- A pod placed on none of the machines. -/
theorem place_of_not_mem {p : PodView} {n : String} {bins : List Bin}
    (h : n ∉ bins.map (·.1.name)) : place p n bins = bins := Lib.putAt_of_not_mem h

/-- A pod placed on the first of the machines. -/
theorem place_cons_self {p : PodView} {b : Bin} {bins : List Bin}
    (h : b.1.name ∉ bins.map (·.1.name)) : place p b.1.name (b :: bins) = Bin.put p b :: bins :=
  @Lib.putAt_cons_self Bin String _ (·.1.name) _ b bins h

/-- What is bound to a machine of `names`: its bin of the second run is smaller
by that. -/
def boundTo (names : List String) (m : Member) : ResourceAmounts :=
  if m.name ∈ names then m.requested else {}

/-- The bin beside what is bound to its machine. -/
def Bin.beside (names : List String) (b : Bin) : Bin := (b.1, b.2.minus (boundTo names b.1))

/-- The bin holds what is bound to its machine, beside what lies in it; no
amount is negative.  Nothing is asked of a machine nothing is bound to. -/
def FitsBeside (names : List String) (pods : List PodView) (b : Bin) : Prop :=
  boundTo names b.1 = {} ∨ ((∀ p ∈ pods, 0 ≤ p.exactRequests) ∧ 0 ≤ (boundTo names b.1).exact ∧
    b.2.fits (boundTo names b.1) = true)

/-- Taking nothing leaves all. -/
theorem minus_nothing (a : ResourceAmounts) : a.minus {} = a := by
  unfold ResourceAmounts.minus
  simp

/-- Amounts are taken in any order. -/
theorem minus_right_comm (a b c : ResourceAmounts) : (a.minus b).minus c = (a.minus c).minus b := by
  have hsub : ∀ x y z : Int64, x - y - z = x - z - y := by
    intro x y z
    rw [Int64.sub_eq_add_neg, Int64.sub_eq_add_neg, Int64.sub_eq_add_neg, Int64.sub_eq_add_neg,
      Int64.add_assoc, Int64.add_comm (-y), Int64.add_assoc]
  unfold ResourceAmounts.minus
  simp only [hsub _ b.cpuMillis, hsub _ b.memoryBytes, hsub _ b.pods]

/-- A pod that fits beside what is bound fits. -/
theorem FitsBeside.fits {names : List String} {pods : List PodView} {p : PodView} {b : Bin}
    (h : FitsBeside names pods b) (hfits : podFits p b.1 (b.beside names).2 = true) :
    podFits p b.1 b.2 = true := by
  unfold podFits at hfits ⊢
  rw [Bool.and_eq_true] at hfits ⊢
  refine ⟨?_, hfits.2⟩
  rcases h with hnone | ⟨_, hbound, hroom⟩
  · have hsame : (b.beside names).2 = b.2 := by
      unfold Bin.beside
      rw [hnone]
      exact minus_nothing b.2
    rw [← hsame]
    exact hfits.1
  · rw [ResourceAmounts.fits_iff_exact]
    calc p.exactRequests ≤ (b.beside names).2.exact := ResourceAmounts.fits_iff_exact.mp hfits.1
      _ = b.2.exact - (boundTo names b.1).exact := ResourceAmounts.minus_exact_eq hbound hroom
      _ ≤ b.2.exact := sub_le_self _ hbound

/-- A pod after which the bin still holds what is bound fits beside it. -/
theorem FitsBeside.fits_beside {names : List String} {pods : List PodView} {p : PodView} {b : Bin}
    (h : FitsBeside names pods (Bin.put p b)) (hp : p ∈ pods) (hfits : podFits p b.1 b.2 = true) :
    podFits p b.1 (b.beside names).2 = true := by
  unfold podFits at hfits ⊢
  rw [Bool.and_eq_true] at hfits ⊢
  refine ⟨?_, hfits.2⟩
  rcases h with hnone | ⟨hsizes, hbound, hroom⟩
  · have hsame : (b.beside names).2 = b.2 := by
      unfold Bin.beside
      rw [show boundTo names b.1 = {} from hnone]
      exact minus_nothing b.2
    rw [hsame]
    exact hfits.1
  · replace hp : 0 ≤ p.exactRequests := hsizes p hp
    -- what is left after the pod holds what is bound
    have hleft : (boundTo names b.1).exact ≤ b.2.exact - p.exactRequests := by
      have hput : (b.2.minus p.requests).exact = b.2.exact - p.exactRequests :=
        ResourceAmounts.minus_exact_eq hp hfits.1
      rw [← hput]
      exact ResourceAmounts.fits_iff_exact.mp hroom
    have hholds : b.2.fits (boundTo names b.1) = true :=
      ResourceAmounts.fits_iff_exact.mpr (hleft.trans (sub_le_self _ hp))
    rw [ResourceAmounts.fits_iff_exact]
    calc p.exactRequests ≤ b.2.exact - (boundTo names b.1).exact := le_sub_comm.mp hleft
      _ = (b.beside names).2.exact := (ResourceAmounts.minus_exact_eq hbound hholds).symm

/-- Putting a pod and taking off what is bound commute. -/
theorem place_beside {names : List String} {p : PodView} {n : String} {bins : List Bin} :
    (place p n bins).map (Bin.beside names) = place p n (bins.map (Bin.beside names)) := by
  unfold place putAt
  rw [List.map_map, List.map_map]
  apply List.map_congr_left
  intro b _
  show Bin.beside names (if b.1.name = n then Bin.put p b else b)
    = if b.1.name = n then Bin.put p (b.beside names) else b.beside names
  split
  · exact Prod.ext rfl (minus_right_comm _ _ _)
  · rfl

/-- The bins of the two runs, for the pods still to come: `first` those of the
first run, the machines it has yet to open included, `second` those of the
second. -/
structure Alike (names : List String) (pods : List PodView) (first second : List Bin) : Prop where
  nodup : (first.map (·.1.name)).Nodup
  nodup' : (second.map (·.1.name)).Nodup
  agree : ∀ p ∈ pods, Agree (fun b => admits p b.1) second (first.map (Bin.beside names))

/-- **One pod**: the bin it fits first takes it in both runs, and the bins
stay alike. -/
theorem Alike.place {names : List String} {p : PodView} {pods all : List PodView}
    {front rest second : List Bin} {b : Bin}
    (h : Alike names (p :: pods) (front ++ rest) second)
    (hfind : front.find? (fun b => podFits p b.1 b.2) = some b)
    (hp : p ∈ all) (hbefore : ∀ c ∈ front, FitsBeside names all c)
    (hafter : FitsBeside names all (Bin.put p b)) :
    takeBin p second = some (place p b.1.name second) ∧
    Alike names pods (place p b.1.name (front ++ rest)) (place p b.1.name second) := by
  have hfind' : second.find? (fun b => podFits p b.1 b.2) = some (b.beside names) := by
    rw [Lib.find?_of_agree (fun b hb => admits_of_podFits hb) (h.agree p List.mem_cons_self),
      List.map_append, List.find?_append]
    have hfits : podFits p b.1 b.2 = true := by simpa using List.find?_some hfind
    rw [Lib.find?_map_of_shrunk hfind (hafter.fits_beside hp hfits) (fun c hc => (hbefore c hc).fits)]
    rfl
  refine ⟨?_, ?_, ?_, ?_⟩
  · rw [takeBin_eq h.nodup', hfind']
    rfl
  · rw [place_names]
    exact h.nodup
  · rw [place_names]
    exact h.nodup'
  · intro q hq
    rw [place_beside]
    exact Agree.putAt (fun _ => rfl) (h.agree q (List.mem_cons_of_mem _ hq))

/-- Pods left waiting stay so. -/
theorem unplaced_grows (pods : List PodView) :
    ∀ {st : UpState}, st.unplaced <+: (pods.foldl s.placePod st).unplaced := by
  induction pods with
  | nil => intro st; exact List.prefix_refl _
  | cons p pods ih =>
    intro st
    refine List.IsPrefix.trans ?_ ih
    rcases placePod_cases (s := s) st p with hw | hj | ⟨m, before, after, ho⟩
    · obtain ⟨why, hwhy⟩ := hw.unplaced
      rw [hwhy]
      exact List.prefix_append _ _
    · rw [hj.unplaced]
    · rw [ho.unplaced]

/-- The bin of a machine that was off when it was opened. -/
def emptyBin (m : Member) : Bin := (m, m.allocatable)

/-- What the first run has yet to do: it leaves no pod waiting and opens the
machines `later`. -/
structure Ahead (s : PoolSnapshot) (pods : List PodView) (up : UpState) (later : List Member) :
    Prop where
  allPlaced : (pods.foldl s.placePod up).unplaced = []
  offline : ∀ m ∈ up.offline, m ∈ s.members
  members : ∀ m ∈ later, m ∈ s.members
  opened : (pods.foldl s.placePod up).opened.map (·.1)
    = up.opened.map (·.1) ++ later.map (·.name)

/-- No pod of the first run is left waiting. -/
theorem Ahead.not_waits {p : PodView} {pods : List PodView} {up : UpState} {later : List Member}
    (h : s.Ahead (p :: pods) up later) : ¬ s.Waits up p (s.placePod up p) := by
  intro hw
  obtain ⟨why, hwhy⟩ := hw.unplaced
  have hpre : (s.placePod up p).unplaced <+: (pods.foldl s.placePod (s.placePod up p)).unplaced :=
    unplaced_grows pods
  have hall : (pods.foldl s.placePod (s.placePod up p)).unplaced = [] := h.allPlaced
  rw [hall, hwhy] at hpre
  exact absurd (List.prefix_nil.mp hpre) (by simp)

/-- A pod that joins a bin leaves the machines to open as they are. -/
theorem Ahead.joins {p : PodView} {pods : List PodView} {up : UpState} {later : List Member}
    (h : s.Ahead (p :: pods) up later) (hj : s.Joins up p (s.placePod up p)) :
    s.Ahead pods (s.placePod up p) later := by
  refine ⟨h.allPlaced, ?_, h.members, ?_⟩
  · rw [hj.offline]
    exact h.offline
  · rw [hj.opened]
    exact h.opened

/-- A machine opened is the next one of those to open. -/
theorem Ahead.opens (hd : s.DistinctMembers) {p : PodView} {pods : List PodView} {up : UpState}
    {later before after : List Member} {m : Member} (h : s.Ahead (p :: pods) up later)
    (ho : s.Opens up p m before after (s.placePod up p)) :
    ∃ later', later = m :: later' ∧ s.Ahead pods (s.placePod up p) later' := by
  obtain ⟨reason, hopened⟩ := ho.opened
  have hmem : m ∈ s.members := by
    apply h.offline
    rw [ho.split]
    simp
  -- what is opened only grows, so the machine opened now is the next of those opened in the end
  have hpre : up.opened.map (·.1) ++ [m.name]
      <+: up.opened.map (·.1) ++ later.map (·.name) := by
    have hpre : (s.placePod up p).opened <+: (pods.foldl s.placePod (s.placePod up p)).opened :=
      opened_grows pods
    replace hpre := hpre.map (·.1)
    rw [hopened, List.map_append] at hpre
    rw [← h.opened]
    exact hpre
  rw [List.prefix_append_right_inj] at hpre
  obtain ⟨m', later', rfl⟩ : ∃ m' later', later = m' :: later' := by
    cases later with
    | nil => exact absurd (List.prefix_nil.mp hpre) (by simp)
    | cons m' later' => exact ⟨m', later', rfl⟩
  -- names are distinct, so it is the same machine
  have hname : m.name = m'.name := by
    rw [List.map_cons, List.cons_prefix_cons] at hpre
    exact hpre.1
  have hsame : m = m' := hd.eq_of_name hmem (h.members m' List.mem_cons_self) hname
  subst hsame
  refine ⟨later', rfl, h.allPlaced, ?_, fun m hm => h.members m (List.mem_cons_of_mem _ hm), ?_⟩
  · rw [ho.offline]
    intro o hin
    apply h.offline
    rw [ho.split]
    rcases List.mem_append.mp hin with hb | ha
    · exact List.mem_append_left _ hb
    · exact List.mem_append_right _ (List.mem_cons_of_mem _ ha)
  · rw [hopened, List.map_append, List.append_assoc]
    exact h.opened

/-- **One pod of the first run**: among the bins it has and those it has yet
to open, it is put where it fits first. -/
theorem Ahead.step (hd : s.DistinctMembers) {p : PodView} {pods : List PodView} {up : UpState}
    {later : List Member} (h : s.Ahead (p :: pods) up later)
    (hnodup : ((up.bins ++ later.map emptyBin).map (·.1.name)).Nodup) :
    s.spec.scaleUp.enabled = true ∧ ∃ b later',
      (up.bins ++ later.map emptyBin).find? (fun b => podFits p b.1 b.2) = some b ∧
      place p b.1.name (up.bins ++ later.map emptyBin)
        = (s.placePod up p).bins ++ later'.map emptyBin ∧
      s.Ahead pods (s.placePod up p) later' := by
  rw [List.map_append, List.nodup_append] at hnodup
  obtain ⟨hbins, htail, hapart⟩ := hnodup
  rcases placePod_cases (s := s) up p with hw | hj | ⟨m, before, after, ho⟩
  · exact absurd hw h.not_waits
  -- it joins a bin
  · have htake := hj.bins
    rw [takeBin_eq hbins, Option.map_eq_some_iff] at htake
    obtain ⟨b, hfind, hput⟩ := htake
    have hmem : b.1.name ∈ up.bins.map (·.1.name) :=
      List.mem_map.mpr ⟨b, List.mem_of_find?_eq_some hfind, rfl⟩
    have hnot : b.1.name ∉ (later.map emptyBin).map (·.1.name) :=
      fun hin => hapart _ hmem _ hin rfl
    refine ⟨hj.enabled, b, later, ?_, ?_, h.joins hj⟩
    · rw [List.find?_append, hfind]
      rfl
    · rw [place_append, place_of_not_mem hnot, ← hput]
      rfl
  -- it has a machine opened, the next of `later`
  · obtain ⟨later', rfl, hahead⟩ := h.opens hd ho
    have hnofind : up.bins.find? (fun b => podFits p b.1 b.2) = none := by
      have hno := ho.noBin
      rwa [takeBin_eq hbins, Option.map_eq_none_iff] at hno
    have hnot : m.name ∉ up.bins.map (·.1.name) :=
      fun hin => hapart _ hin m.name (by simp [emptyBin]) rfl
    have hnot' : m.name ∉ (later'.map emptyBin).map (·.1.name) := by
      rw [List.map_cons, List.map_cons, List.nodup_cons] at htail
      exact htail.1
    refine ⟨ho.enabled, emptyBin m, later', ?_, ?_, hahead⟩
    · rw [List.find?_append, hnofind, Option.none_or, List.map_cons, List.find?_cons_of_pos]
      exact ho.fits
    · show place p m.name _ = _
      rw [place_append, place_of_not_mem hnot, ho.bins, List.append_assoc]
      congr 1
      exact place_cons_self (b := emptyBin m) hnot'

/-- The machines to power on, in the order in which they were chosen. -/
def poweredOn (s : PoolSnapshot) : List Member :=
  s.powerOn.filterMap (fun n => s.members.find? (·.name == n.1))

/-- Booting already, or powered on by this plan. -/
def isComing (s : PoolSnapshot) (m : Member) : Bool :=
  m.state == .booting || decide (m.name ∈ s.powerOn.map (·.1))

/-- For every relevant pod the machines on their way that admit it come in the
order in which they were taken: those that were booting, then those powered
on, as chosen. -/
def InOrder (s : PoolSnapshot) : Prop :=
  ∀ p ∈ s.relevant, (s.members.filter s.isComing).filter (admits p)
    = (s.members.filter (·.state == .booting) ++ s.poweredOn).filter (admits p)

/-- The second loop leaves no pod waiting. -/
theorem unplaced_fillMinOnline {l : List Member} :
    ∀ {up : UpState}, (s.fillMinOnline up l).unplaced = up.unplaced := by
  induction l with
  | nil => intro up; rfl
  | cons m rest ih =>
    intro up
    unfold fillMinOnline
    split
    · exact ih
    · rfl

/-- Three machines that are off and three pending pods.  `p1`, the largest,
asks for the node `m2` by a label; `p2` fits what `p1` leaves of `m2`; `p3`
needs all the memory of a machine. -/
def mixedOrder : PoolSnapshot where
  spec := {}
  members :=
    [{ name := "m1", state := .offline, auto := true
       allocatable := { cpuMillis := 4000, memoryBytes := 8, pods := 10 } },
     { name := "m2", state := .offline, auto := true
       labels := (∅ : TreeMap String String).insert "gpu" "true"
       allocatable := { cpuMillis := 4000, memoryBytes := 8, pods := 10 } },
     { name := "m3", state := .offline, auto := true
       allocatable := { cpuMillis := 4000, memoryBytes := 8, pods := 10 } }]
  pending :=
    [{ name := "p1", requests := { cpuMillis := 2900, memoryBytes := 1, pods := 1 }
       nodeSelector := (∅ : TreeMap String String).insert "gpu" "true", created := some 0 },
     { name := "p2", requests := { cpuMillis := 1100, memoryBytes := 1, pods := 1 }
       created := some 0 },
     { name := "p3", requests := { cpuMillis := 1000, memoryBytes := 8, pods := 1 }
       created := some 0 }]
  now := seconds 3600

end PoolSnapshot

end HardwareAutoscaler
