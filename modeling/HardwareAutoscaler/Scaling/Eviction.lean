/-
  HardwareAutoscaler.Scaling.Eviction
  ───────────────────────────────────
  WHERE THE PODS OF THE MACHINES TO POWER OFF CAN GO.

  The removal loop simulates moving a machine's pods before it removes the
  machine.  `PodsPlaceable` is what that simulation is for: all the pods of
  all the machines of one plan fit, together, on what stays.

  The simulation takes a removed machine's free room out of the map, and with
  it every pod it had put there: a machine that took pods may be removed
  later in the same plan.  `podsPlaceable` proves the property for the plans
  in which that does not happen, `podsPlaceable_fails_two_steps` shows it
  failing.

    • `moveAll_packs` — moving pods one by one keeps a packing,
    • `sparesHosts` — the loop takes no machine it has put a pod on,
    • `Simulated` / `Simulated.removeLoop` — the invariant of the loop,
    • `podsPlaceable` — the simulation's promise.
-/
import HardwareAutoscaler.Scaling.Removal
import HardwareAutoscaler.Lib.Packing
import Mathlib.Algebra.Order.Group.Int
import Mathlib.Algebra.Order.Monoid.Prod
import Mathlib.Data.Int.ConditionallyCompleteOrder
import Mathlib.Data.List.Perm.Basic

namespace HardwareAutoscaler

open Std (TreeMap TreeSet)
open Lib (load IsPacking Room)

/-! ## §1. Exact amounts. -/

/-- The amounts as integers: CPU, memory and pods, compared componentwise. -/
def ResourceAmounts.exact (a : ResourceAmounts) : Int × Int × Int :=
  (a.cpuMillis.toInt, a.memoryBytes.toInt, a.pods.toInt)

/-- What a pod asks for, exactly. -/
def PodView.exactRequests (p : PodView) : Int × Int × Int := p.requests.exact

/-- What fits is less, in each resource. -/
theorem ResourceAmounts.fits_iff_exact {free req : ResourceAmounts} :
    free.fits req = true ↔ req.exact ≤ free.exact := by
  rw [ResourceAmounts.fits_iff]
  rfl

/-- What is taken from what fits is taken exactly. -/
theorem ResourceAmounts.minus_exact_le {free req : ResourceAmounts}
    (h : free.fits req = true) : (free.minus req).exact ≤ free.exact - req.exact := by
  obtain ⟨hc, hm, hp⟩ := ResourceAmounts.fits_iff.mp h
  exact ⟨int64_sub_le hc, int64_sub_le hm, int64_sub_le hp⟩

/-- Requests that are not negative are subtracted exactly. -/
theorem ResourceAmounts.minus_exact_eq {free req : ResourceAmounts} (hreq : 0 ≤ req.exact)
    (h : free.fits req = true) : (free.minus req).exact = free.exact - req.exact := by
  obtain ⟨hc, hm, hp⟩ := ResourceAmounts.fits_iff.mp h
  exact Prod.ext (int64_sub_eq hreq.1 hc)
    (Prod.ext (int64_sub_eq hreq.2.1 hm) (int64_sub_eq hreq.2.2 hp))

/-! ## §2. The nodes that could take evicted pods. -/

/-- A node that could take evicted pods, with its free capacity before any
eviction. -/
structure EvictionPlace extends PoolSnapshot.EvictionTarget where
  free : ResourceAmounts

/-- A member as a place for evicted pods. -/
def memberPlace (m : Member) : EvictionPlace :=
  ⟨⟨m.name, m.labels, m.taints⟩, m.allocatable.minus m.requested⟩

/-- An external node as a place for evicted pods. -/
def externalPlace (e : ExternalNode) : EvictionPlace :=
  ⟨⟨externalKey e.name, e.labels, e.taints⟩, e.free⟩

namespace PoolSnapshot

variable {s : PoolSnapshot}

/-- Nodes have distinct names, and no member is named like an external node's
key (a Node name has no slash). -/
structure DistinctNodes (s : PoolSnapshot) : Prop where
  members : s.DistinctMembers
  external : (s.external.map (·.name)).Nodup
  apart : ∀ m ∈ s.members, ∀ e ∈ s.external, m.name ≠ externalKey e.name

/-- Online and manual members, and the nodes outside every pool. -/
def places (s : PoolSnapshot) : List EvictionPlace :=
  (s.members.filter isTarget).map memberPlace ++ s.external.map externalPlace

/-- The places that stay: members that are not powered off, and the nodes
outside every pool. -/
def stayingPlaces (s : PoolSnapshot) : List EvictionPlace :=
  (s.members.filter (fun o => isTarget o && decide (o.name ∉ s.powerOffNames))).map memberPlace
    ++ s.external.map externalPlace

/-- The movable pods of all the machines to power off. -/
def evictedPods (s : PoolSnapshot) : List PodView :=
  (s.members.filter (fun m => m.name ∈ s.powerOffNames)).flatMap (·.movablePods)

/-- **The simulation's promise**: an assignment of every evicted pod to a node
that stays and that it matches, in which what each node is assigned is within
its free capacity. -/
def PodsPlaceable (s : PoolSnapshot) : Prop :=
  ∃ a : List (PodView × EvictionPlace),
    (a.map Prod.fst).Perm s.evictedPods ∧
    ∀ x ∈ a, x.2 ∈ s.stayingPlaces ∧ podMatchesNode x.1 x.2.labels x.2.taints = true ∧
      load PodView.exactRequests (a.map (fun y => (y.1, y.2.key))) x.2.key ≤ x.2.free.exact

/-- External nodes have keys of their own. -/
theorem externalKey_inj {a b : String} (h : externalKey a = externalKey b) : a = b := by
  unfold externalKey at h
  exact (String.append_right_inj _).mp h

/-- The map the loop starts from holds the free capacity of every place. -/
theorem freeAtStart_of_place (h : s.DistinctNodes) {p : EvictionPlace} (hp : p ∈ s.places) :
    s.freeAtStart[p.key]? = some p.free := by
  have hp₀ := hp
  unfold places at hp
  simp only [List.mem_append, List.mem_map, List.mem_filter] at hp
  unfold freeAtStart
  -- the external nodes are inserted last, under keys no member has
  rcases hp with ⟨m, ⟨hm, ht⟩, rfl⟩ | ⟨e, he, rfl⟩
  · rw [Lib.insertAll_of_not_entry]
    · apply Lib.insertAll_of_entry
      · exact ⟨m, by simpa using ⟨hm, ht⟩, rfl⟩
      · intro m' hm' v' hv'
        simp only [List.mem_filter] at hm'
        simp only [Option.some.injEq, Prod.mk.injEq] at hv'
        rw [← hv'.2, h.members.eq_of_name hm'.1 hm hv'.1]
        rfl
    · intro e he v hv
      simp only [Option.some.injEq, Prod.mk.injEq] at hv
      exact absurd hv.1.symm (h.apart m hm e he)
  · apply Lib.insertAll_of_entry
    · exact ⟨e, he, rfl⟩
    · intro e' he' v' hv'
      simp only [Option.some.injEq, Prod.mk.injEq] at hv'
      rw [← hv'.2, List.inj_on_of_nodup_map h.external he' he (externalKey_inj hv'.1)]
      rfl

/-! ## §3. Moving the pods of one machine. -/

/-- The free room of a map, exactly. -/
def roomOf (free : FreeMap) (k : String) : Option (Int × Int × Int) := free[k]?.map (·.exact)

/-- The keys of the targets `moveAll` puts the pods on. -/
def slots (targets : List EvictionTarget) : FreeMap → List PodView → List String
  | _, [] => []
  | trial, p :: pods =>
    match findSlot trial targets p with
    | some t =>
      t.key :: slots targets (trial.insert t.key ((trial[t.key]?.getD {}).minus p.requests)) pods
    | none => []

/-- **Moving pods one by one keeps a packing** of all the pods moved so far. -/
theorem moveAll_packs {cap : String → Int × Int × Int} {accepts : PodView → String → Prop}
    {targets : List EvictionTarget}
    (hacc : ∀ p, ∀ t ∈ targets, podMatchesNode p t.labels t.taints = true → accepts p t.key) :
    ∀ (pods : List PodView) (trial trial' : FreeMap) (items : List PodView)
      (a : List (PodView × String)),
      IsPacking PodView.exactRequests cap accepts items a →
      Room PodView.exactRequests cap a (roomOf trial) →
      moveAll targets trial pods = some trial' →
      ∃ a', IsPacking PodView.exactRequests cap accepts (pods.reverse ++ items) a' ∧
        Room PodView.exactRequests cap a' (roomOf trial') ∧
        ∀ x ∈ a', x ∈ a ∨ x.2 ∈ slots targets trial pods := by
  -- on the pods still to be moved; the packing grows by the pod just placed
  intro pods
  induction pods with
  | nil =>
    intro trial trial' items a hpack hroom hmove
    -- all moved: the packing is the one reached
    cases hmove
    exact ⟨a, hpack, hroom, fun x hx => Or.inl hx⟩
  | cons p pods ih =>
    intro trial trial' items a hpack hroom hmove
    unfold moveAll at hmove
    split at hmove
    · rename_i t hslot
      have hfind := hslot
      unfold findSlot at hfind
      have hmem := List.mem_of_find?_eq_some hfind
      have hfit := List.find?_some hfind
      simp only [Bool.and_eq_true] at hfit
      obtain ⟨hfits, hmatch⟩ := hfit
      rw [Option.any_eq_true] at hfits
      obtain ⟨f, hf, hreq⟩ := hfits
      have hk : roomOf trial t.key = some f.exact := by
        unfold roomOf
        rw [hf]
        rfl
      have hsize : p.exactRequests ≤ f.exact := ResourceAmounts.fits_iff_exact.mp hreq
      have hput := hpack.put hroom hk hsize (hacc p t hmem hmatch)
      have hroom' : Room PodView.exactRequests cap ((p, t.key) :: a)
          (roomOf (trial.insert t.key ((trial[t.key]?.getD {}).minus p.requests))) := by
        apply hroom.put hk
        · intro f' hf'
          unfold roomOf at hf'
          rw [TreeMap.getElem?_insert_self, hf] at hf'
          cases hf'
          exact ResourceAmounts.minus_exact_le hreq
        · intro k' hne
          unfold roomOf
          rw [Lib.getElem?_insert_of_ne hne]
      obtain ⟨a', hpack', hroom'', hkeys⟩ := ih _ trial' (p :: items) _ hput hroom' hmove
      refine ⟨a', ?_, hroom'', ?_⟩
      · rw [List.reverse_cons, List.append_assoc]
        exact hpack'
      · intro x hx
        unfold slots
        rw [hslot]
        rcases hkeys x hx with hold | hnew
        · rcases List.mem_cons.mp hold with he | hold
          · rw [he]
            exact Or.inr List.mem_cons_self
          · exact Or.inl hold
        · exact Or.inr (List.mem_cons_of_mem _ hnew)
    · cases hmove

/-! ## §4. Machines that pods were put on. -/

/-- Where the simulated eviction of `m` puts its pods. -/
def hostsOf (s : PoolSnapshot) (st : DownState) (m : Member) : List String :=
  slots (s.targets m st.removed) (st.free.erase m.name) (sortBy largestFirst m.movablePods)

/-- Goes through the machines as the removal loop does, `hosts` being those that
pods of machines taken before were put on; `false` as soon as one of these
would be taken. -/
def sparesHosts (s : PoolSnapshot) : List String → DownState → List Member → Bool
  | _, _, [] => true
  | hosts, st, m :: rest =>
    if s.takes st m then
      !hosts.contains m.name
        && s.sparesHosts (s.hostsOf st m ++ hosts) (s.removeStep st m rest) rest
    else s.sparesHosts hosts (s.removeStep st m rest) rest

/-- The capacities the loop starts from. -/
def startCap (s : PoolSnapshot) (k : String) : Int × Int × Int :=
  ((s.freeAtStart[k]?).map (·.exact)).getD 0

/-- What an assignment may use in a state: matching places not removed yet. -/
def Accepts (s : PoolSnapshot) (st : DownState) (p : PodView) (k : String) : Prop :=
  ∃ pl ∈ s.places, pl.key = k ∧ podMatchesNode p pl.labels pl.taints = true ∧ k ∉ st.names

/-- **The invariant of the loop**: the pods of the machines gone so far are
packed onto places that are still there, within the starting capacities, and
the map holds no more than what that leaves. -/
structure Simulated (s : PoolSnapshot) (st : DownState) (done gone : List Member)
    (a : List (PodView × String)) : Prop where
  counted : s.Counted st
  gone_sub : gone.Sublist done
  names_eq : st.names = (gone.map (·.name)).toFinset
  packing : IsPacking PodView.exactRequests s.startCap (s.Accepts st)
    (gone.flatMap (·.movablePods)) a
  room : Room PodView.exactRequests s.startCap a (roomOf st.free)

/-- The loop starts with nothing moved. -/
theorem simulated_start (s : PoolSnapshot) :
    s.Simulated { free := s.freeAtStart } [] [] [] where
  counted := counted_start s
  gone_sub := .slnil
  names_eq := rfl
  packing := .nil
  room := by
    intro k f hf
    unfold startCap
    unfold roomOf at hf
    rw [hf]
    simp

/-- A machine kept moves nothing. -/
theorem Simulated.keep {st st' : DownState} {done gone : List Member} {m : Member}
    {a : List (PodView × String)} (h : s.Simulated st done gone a) (hk : Keeps st st') :
    s.Simulated st' (done ++ [m]) gone a := by
  have hn : st'.names = st.names := by
    unfold DownState.names
    rw [hk.powerOff]
  refine ⟨h.counted.keep hk, h.gone_sub.trans (List.sublist_append_left _ _),
    hn.trans h.names_eq, ?_, ?_⟩
  · apply h.packing.accepts_mono
    rintro x _ ⟨pl, hpl, hkey, hmatch, hnot⟩
    exact ⟨pl, hpl, hkey, hmatch, by rwa [hn]⟩
  · rw [hk.free]
    exact h.room

theorem memberPlace_mem {m : Member} (hm : m ∈ s.members) (ht : isTarget m = true) :
    memberPlace m ∈ s.places := by
  unfold places
  exact List.mem_append_left _ (List.mem_map.mpr ⟨m, List.mem_filter.mpr ⟨hm, ht⟩, rfl⟩)

/-- A place has at first what is free there. -/
theorem startCap_of_place (hd : s.DistinctNodes) {pl : EvictionPlace} (hpl : pl ∈ s.places) :
    s.startCap pl.key = pl.free.exact := by
  unfold startCap
  rw [freeAtStart_of_place hd hpl]
  rfl

/-- The targets tried for `m` are places that are still there. -/
theorem target_place (hd : s.DistinctNodes) {st st' : DownState} {m : Member}
    (hcount : s.Counted st) (hsub : ∀ n ∈ st.names, ∃ m ∈ s.members, m.name = n)
    (hm : m ∈ s.members) (hr : s.Removes st m st') {t : EvictionTarget}
    (ht : t ∈ s.targets m st.removed) {p : PodView}
    (hmatch : podMatchesNode p t.labels t.taints = true) : s.Accepts st' p t.key := by
  unfold Accepts
  rw [names_of_removes hr]
  unfold targets at ht
  simp only [List.mem_append, List.mem_map, List.mem_filter, Bool.and_eq_true, bne_iff_ne,
    Bool.not_eq_true'] at ht
  -- a member that stays, or an external node, which is never removed
  rcases ht with ⟨o, ⟨ho, ⟨hto, hne⟩, hnr⟩, rfl⟩ | ⟨e, he, rfl⟩
  · refine ⟨memberPlace o, memberPlace_mem ho hto, rfl, hmatch, ?_⟩
    rw [Finset.mem_insert, ← hcount.removed_iff, not_or]
    refine ⟨hne, ?_⟩
    rw [TreeSet.mem_iff_contains, hnr]
    simp
  · refine ⟨externalPlace e, ?_, rfl, hmatch, ?_⟩
    · unfold places
      exact List.mem_append_right _ (List.mem_map.mpr ⟨e, he, rfl⟩)
    · rw [Finset.mem_insert, not_or]
      refine ⟨fun hk => hd.apart m hm e he hk.symm, ?_⟩
      intro hin
      obtain ⟨m', hm', hn⟩ := hsub _ hin
      exact hd.apart m' hm' e he hn

/-- **A removal keeps the invariant**, its machine's pods joining the packing,
if no pod lies on the machine. -/
theorem Simulated.remove {st st' : DownState} {done gone rest : List Member} {m : Member}
    {a : List (PodView × String)} (hd : s.DistinctNodes)
    (hsplit : done ++ m :: rest = s.eligible) (h : s.Simulated st done gone a)
    (hnone : ∀ x ∈ a, x.2 ≠ m.name) (hr : s.Removes st m st') :
    ∃ a', s.Simulated st' (done ++ [m]) (gone ++ [m]) a' ∧
      ∀ x ∈ a', x ∈ a ∨ x.2 ∈ s.hostsOf st m := by
  have hmel : m ∈ s.eligible := by rw [← hsplit]; simp
  have hmm := (mem_candidates.mp (mem_eligible.mp hmel).1).1
  have hdone : ∀ m' ∈ done, m' ∈ s.members := by
    intro m' hm'
    have : m' ∈ s.eligible := by rw [← hsplit]; exact List.mem_append_left _ hm'
    exact (mem_candidates.mp (mem_eligible.mp this).1).1
  have hsub : ∀ n ∈ st.names, ∃ m ∈ s.members, m.name = n := by
    intro n hn
    rw [h.names_eq] at hn
    simp only [List.mem_toFinset, List.mem_map] at hn
    obtain ⟨m', hm', rfl⟩ := hn
    exact ⟨m', hdone m' (h.gone_sub.subset hm'), rfl⟩
  -- what was assigned before stays assigned to places that are still there
  have hpack : IsPacking PodView.exactRequests s.startCap (s.Accepts st')
      (gone.flatMap (·.movablePods)) a := by
    apply h.packing.accepts_mono
    rintro x hx ⟨pl, hpl, hkey, hmatch, hnot⟩
    refine ⟨pl, hpl, hkey, hmatch, ?_⟩
    rw [names_of_removes hr, Finset.mem_insert, not_or]
    exact ⟨hnone x hx, hnot⟩
  have hroom : Room PodView.exactRequests s.startCap a (roomOf (st.free.erase m.name)) := by
    apply h.room.mono
    intro k f hf
    unfold roomOf at hf ⊢
    rw [TreeMap.getElem?_erase] at hf
    split at hf
    · cases hf
    · exact hf
  -- and the pods of `m` are packed into what is left
  obtain ⟨a', hpack', hroom', hkeys⟩ := moveAll_packs
    (fun p t ht hmatch => target_place hd h.counted hsub hmm hr ht hmatch)
    (sortBy largestFirst m.movablePods) _ _ _ _ hpack hroom hr.tryEvict
  refine ⟨a', ⟨h.counted.remove hr, h.gone_sub.append (List.Sublist.refl _), ?_, ?_, hroom'⟩,
    hkeys⟩
  · rw [names_of_removes hr, h.names_eq]
    ext n
    simp [eq_comm]
  · apply hpack'.of_perm
    rw [List.flatMap_append, List.flatMap_singleton]
    exact (((List.reverse_perm _).trans (sortBy_perm _ _)).append_right _).trans
      List.perm_append_comm

/-! ## §5. The simulation's promise. -/

/-- **The loop keeps the invariant** as long as it takes no machine it has put a
pod on. -/
theorem Simulated.removeLoop (hd : s.DistinctNodes) (l : List Member) :
    ∀ {st : DownState} {done gone : List Member} {a : List (PodView × String)}
      {hosts : List String}, done ++ l = s.eligible → s.Simulated st done gone a →
      (∀ x ∈ a, x.2 ∈ hosts) → s.sparesHosts hosts st l = true →
      ∃ gone' a', s.Simulated (s.removeLoop st l) s.eligible gone' a' := by
  -- on the machines still to come; `hosts` holds every key of the packing
  induction l with
  | nil =>
    intro st done gone a hosts hsplit h _ _
    rw [List.append_nil] at hsplit
    rw [← hsplit]
    exact ⟨gone, a, h⟩
  | cons m rest ih =>
    intro st done gone a hosts hsplit h hkeys hspares
    have hsplit' : (done ++ [m]) ++ rest = s.eligible := by
      rw [List.append_assoc]
      exact hsplit
    unfold sparesHosts at hspares
    by_cases ht : s.takes st m = true
    · rw [if_pos ht, Bool.and_eq_true] at hspares
      have hnone : ∀ x ∈ a, x.2 ≠ m.name := by
        intro x hx he
        have hin := hkeys x hx
        rw [he] at hin
        simp [hin] at hspares
      obtain ⟨a', h', hnew⟩ := h.remove hd hsplit hnone (removes_of_takes rest ht)
      refine ih hsplit' h' (fun x hx => ?_) hspares.2
      rcases hnew x hx with hold | hnew
      · exact List.mem_append_right _ (hkeys x hold)
      · exact List.mem_append_left _ hnew
    · rw [if_neg ht] at hspares
      have hk := keeps_of_not_takes rest (show s.takes st m = false by simpa using ht)
      exact ih hsplit' (h.keep hk) hkeys hspares

/-- The machines gone are the members named in `powerOff`. -/
theorem evictedPods_perm (hd : s.DistinctNodes) {gone : List Member}
    (hsub : gone.Sublist s.eligible) (hnames : s.powerOffNames = (gone.map (·.name)).toFinset) :
    (gone.flatMap (·.movablePods)).Perm s.evictedPods := by
  unfold evictedPods
  apply List.Perm.flatMap_right
  have hnodup : s.members.Nodup := List.Nodup.of_map _ hd.members
  have hcand : s.candidates.Nodup := by
    unfold candidates
    exact (sortBy_perm _ _).nodup_iff.mpr (hnodup.filter _)
  have hmem : ∀ m ∈ gone, m ∈ s.members := fun m hm =>
    (mem_candidates.mp (mem_eligible.mp (hsub.subset hm)).1).1
  -- two lists without duplicates, so having the same elements is enough
  rw [List.perm_ext_iff_of_nodup ((hcand.filter _).sublist hsub) (hnodup.filter _)]
  intro m
  simp only [List.mem_filter, hnames, decide_eq_true_eq, List.mem_toFinset, List.mem_map]
  constructor
  · intro hm
    exact ⟨hmem m hm, m, hm, rfl⟩
  · rintro ⟨hm, m', hm', hn⟩
    rw [← hd.members.eq_of_name (hmem m' hm') hm hn]
    exact hm'

/-- A place that is not powered off stays. -/
theorem mem_stayingPlaces {pl : EvictionPlace} (hpl : pl ∈ s.places)
    (hnot : pl.key ∉ s.powerOffNames) : pl ∈ s.stayingPlaces := by
  unfold places at hpl
  unfold stayingPlaces
  simp only [List.mem_append, List.mem_map, List.mem_filter, Bool.and_eq_true,
    decide_eq_true_eq] at hpl ⊢
  rcases hpl with ⟨m, ⟨hm, ht⟩, rfl⟩ | h
  · exact Or.inl ⟨m, ⟨hm, ht, hnot⟩, rfl⟩
  · exact Or.inr h

/-- **The promise is kept by every plan whose loop takes no machine that a pod
of a machine taken before was put on.** -/
theorem podsPlaceable (s : PoolSnapshot) (hd : s.DistinctNodes)
    (hc : s.mayScaleDown = true → s.sparesHosts [] { free := s.freeAtStart } s.eligible = true) :
    s.PodsPlaceable := by
  rcases scaledDown_cases (s := s) with ⟨hmay, hloop⟩ | ⟨_, hnil⟩
  · obtain ⟨gone, a, h⟩ := (simulated_start s).removeLoop hd s.eligible (List.nil_append _)
      (fun _ hx => absurd hx List.not_mem_nil) (hc hmay)
    rw [← hloop] at h
    -- the assignment names places by key: choose the place behind each
    have hchoose : ∀ x : PodView × String, ∃ pl : EvictionPlace, x ∈ a →
        pl ∈ s.places ∧ pl.key = x.2 ∧ podMatchesNode x.1 pl.labels pl.taints = true ∧
          x.2 ∉ s.powerOffNames := by
      intro x
      by_cases hx : x ∈ a
      · obtain ⟨pl, hpl, hkey, hmatch, hnot⟩ := h.packing.accepts x hx
        exact ⟨pl, fun _ => ⟨hpl, hkey, hmatch, hnot⟩⟩
      · exact ⟨⟨⟨"", ∅, []⟩, {}⟩, fun hx' => absurd hx' hx⟩
    choose place hplace using hchoose
    have hkeys : (a.map (fun x => (x.1, place x))).map (fun y => (y.1, y.2.key)) = a := by
      rw [List.map_map]
      conv_rhs => rw [← List.map_id a]
      apply List.map_congr_left
      intro x hx
      rw [Function.comp_apply, (hplace x hx).2.1]
      rfl
    refine ⟨a.map (fun x => (x.1, place x)), ?_, ?_⟩
    · rw [List.map_map]
      exact h.packing.perm.trans (evictedPods_perm hd h.gone_sub h.names_eq)
    · intro y hy
      obtain ⟨x, hx, rfl⟩ := List.mem_map.mp hy
      obtain ⟨hpl, hkey, hmatch, hnot⟩ := hplace x hx
      refine ⟨mem_stayingPlaces hpl (by rw [hkey]; exact hnot), hmatch, ?_⟩
      rw [hkeys, ← startCap_of_place hd hpl, hkey]
      exact h.packing.load_le x hx
  -- nothing is powered off, so nothing is evicted
  · refine ⟨[], ?_, by simp⟩
    unfold evictedPods powerOffNames
    rw [hnil]
    simp

/-! ## §6. A plan that loses a pod. -/

/-- A pod asking for two cores. -/
def twoCores : PodView := { name := "p", requests := { cpuMillis := 2000, pods := 1 } }

/-- Three machines, up to `step` of them powered off at once: `a` runs a pod,
`b` is idle, of `c` as much is requested as `used` says.  `a` goes first; its
pod is tried on `c`, then on `b`. -/
def threeMachines (step : Nat) (used : Int64) : PoolSnapshot where
  spec := { scaleDown := { maxNodesPerStep := step } }
  members :=
    [{ name := "a", state := .online, auto := true
       allocatable := { cpuMillis := 10000, pods := 10 }
       requested := twoCores.requests
       counted := twoCores.requests
       movablePods := [twoCores] },
     { name := "c", state := .online, auto := true
       allocatable := { cpuMillis := 10000, pods := 10 }
       requested := { cpuMillis := used, pods := 1 }
       counted := { cpuMillis := used, pods := 1 } },
     { name := "b", state := .online, auto := true
       allocatable := { cpuMillis := 20000, pods := 10 } }]
  now := seconds 3600
  unneededSince := ((∅ : TreeMap String Int).insert "a" 0).insert "b" 0

theorem threeMachines_distinct (step : Nat) (used : Int64) :
    (threeMachines step used).DistinctNodes where
  members := by
    show ["a", "c", "b"].Nodup
    decide
  external := List.nodup_nil
  apart := by
    intro m _ e he
    cases he

/-- With room on `c`, which stays, `a` and `b` go together. -/
theorem podsPlaceable_on_c :
    (threeMachines 2 8000).powerOff.map (·.1) = ["a", "b"] ∧
      (threeMachines 2 8000).PodsPlaceable :=
  ⟨by decide +kernel,
    podsPlaceable _ (threeMachines_distinct 2 8000) (fun _ => by decide +kernel)⟩

/-- **With `c` full the pod is put on `b`, which goes too**, and nothing that
stays has room for it. -/
theorem podsPlaceable_fails_two_steps :
    (threeMachines 2 10000).DistinctNodes ∧
      (threeMachines 2 10000).powerOff.map (·.1) = ["a", "b"] ∧
      ¬ (threeMachines 2 10000).PodsPlaceable := by
  refine ⟨threeMachines_distinct 2 10000, by decide +kernel, ?_⟩
  rintro ⟨a, hperm, ha⟩
  have hone : (threeMachines 2 10000).evictedPods.length = 1 := by decide +kernel
  have hnofit : ∀ p ∈ (threeMachines 2 10000).evictedPods,
      ∀ pl ∈ (threeMachines 2 10000).stayingPlaces, pl.free.fits p.requests = false := by
    decide +kernel
  have hlen := hperm.length_eq
  rw [List.length_map, hone] at hlen
  obtain ⟨x, rfl⟩ := List.length_eq_one_iff.mp hlen
  obtain ⟨hstay, _, hload⟩ := ha x (List.mem_singleton.mpr rfl)
  have hx : x.1 ∈ (threeMachines 2 10000).evictedPods :=
    hperm.mem_iff.mp (List.mem_singleton.mpr rfl)
  rw [List.map_singleton, Lib.load_cons_self, Lib.load_nil, add_zero] at hload
  have hfits := ResourceAmounts.fits_iff_exact.mpr hload
  rw [hnofit x.1 hx x.2 hstay] at hfits
  cases hfits

end PoolSnapshot

end HardwareAutoscaler
