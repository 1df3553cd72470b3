/-
  HardwareAutoscaler.Scaling.MemberOrder
  ──────────────────────────────────────
  THE ORDER IN WHICH THE MEMBERS ARE LISTED: what a plan powers on.

  The machines to open are ranked, but the booting machines are tried for a
  pending pod in the order in which they are listed.  That order decides
  nothing as long as the machines with room for the pod are alike for the pods
  after it, at each pod that comes before it is settled what is opened.

    • `listed` — the same snapshot, its members listed otherwise,
    • `opensNone`, `undecided` — which pods may still decide what is opened,
    • `packsAnyhow` — whichever booting machine takes a pod, the machines left
      are alike,
    • `UpAlike` / `opened_alike` — the packing of both listings, in step,
    • `powerOn_listed` — when both power on the same machines.
-/
import HardwareAutoscaler.Scaling.Placement
import HardwareAutoscaler.Lib.TwoOrders

namespace HardwareAutoscaler

open Lib (Matched Takes AlikeFor Shrinks)

namespace PoolSnapshot

variable {s : PoolSnapshot} {members : List Member}

/-! ## §1. Another listing. -/

/-- The snapshot with its members listed as `members`. -/
abbrev listed (s : PoolSnapshot) (members : List Member) : PoolSnapshot :=
  { s with members := members }

theorem onlineNow_listed (h : s.members.Perm members) :
    (s.listed members).onlineNow = s.onlineNow := (h.filter _).length_eq.symm

/-- The relevant pods do not depend on the listing. -/
theorem relevant_listed (h : s.members.Perm members) :
    (s.listed members).relevant = s.relevant := by
  unfold relevant
  apply List.filter_congr
  intro p _
  exact h.any_eq.symm

/-- The booting machines are the same, listed otherwise. -/
theorem bootingMembers_listed (h : s.members.Perm members) :
    s.bootingMembers.Perm (s.listed members).bootingMembers := h.filter _

/-- Whether a machine may be opened does not depend on the listing. -/
theorem canOpen_listed (h : s.members.Perm members) (n : Nat) :
    (s.listed members).canOpen n = s.canOpen n := by
  unfold canOpen
  rw [onlineNow_listed h]
  rfl

theorem rankUp_listed (hd : s.DistinctMembers) (h : s.members.Perm members) (m : Member) :
    (s.listed members).rankUp m = s.rankUp m := by
  unfold rankUp
  rw [rankedUp_eq_of_perm hd h]

/-- The loops over the pending pods and over the machines still off do not look
at the list of members. -/
theorem placePod_listed (hd : s.DistinctMembers) (h : s.members.Perm members) (st : UpState)
    (p : PodView) : (s.listed members).placePod st p = s.placePod st p := by
  unfold placePod
  simp only [canOpen_listed h, rankUp_listed hd h, ← rankedUp_eq_of_perm hd h]

theorem fillMinOnline_listed (hd : s.DistinctMembers) (h : s.members.Perm members)
    (l : List Member) : ∀ st : UpState,
      (s.listed members).fillMinOnline st l = s.fillMinOnline st l := by
  induction l with
  | nil => intro st; rfl
  | cons m rest ih =>
    intro st
    unfold fillMinOnline
    simp only [onlineNow_listed h, rankUp_listed hd h, ← rankedUp_eq_of_perm hd h, ih]
    rfl

/-! ## §2. What the order may decide. -/

/-- What the pods bound to a machine leave free. -/
def spare (m : Member) : ResourceAmounts := m.allocatable.minus m.requested

/-- These pods open no machine: scale-up is disabled, no further machine may be
opened, or none that is off has room for one of them. -/
def opensNone (s : PoolSnapshot) (st : UpState) (pods : List PodView) : Bool :=
  !s.spec.scaleUp.enabled || (s.canOpen st.opened.length).isSome
    || pods.all (fun p => st.offline.all (fun m => !podFits p m m.allocatable))

/-- The pods the loop comes to before it is settled what it opens. -/
def undecided (s : PoolSnapshot) (st : UpState) : List PodView → List PodView
  | [] => []
  | p :: pods =>
    if s.opensNone st (p :: pods) then [] else p :: s.undecided (s.placePod st p) pods

/-- No pod asks for a negative amount. -/
def noneNegative (pods : List PodView) : Bool := pods.all (fun q => decide (0 ≤ q.exactRequests))

/-- A pod may still fit in a room: it fits now, or one of `pods` asks for a
negative amount, which makes room. -/
def mayFit (pods : List PodView) (q : PodView) (room : ResourceAmounts) : Bool :=
  !noneNegative pods || room.fits q.requests

/-- The booting machines that match the pod and have room for it are alike for
the pods that follow: the same ones match and may still fit, and find the same
room. -/
def anyBooting (pods : List PodView) (bins : List Bin) (p : PodView) (later : List PodView) :
    Bool :=
  let takers := bins.filter (fun b => b.1.state == .booting && podFits p b.1 b.2)
  takers.all (fun a => takers.all (fun b =>
    decide (AlikeFor (fun q c => admits q c.1) (mayFit pods) later Prod.snd a b)))

/-- **Any booting machine will do**, at each pod the loop comes to before it is
settled what it opens. -/
def packsAnyhow (s : PoolSnapshot) (st : UpState) : List PodView → Bool
  | [] => true
  | p :: pods =>
    s.opensNone st (p :: pods) ||
      (anyBooting s.relevant st.bins p (s.undecided (s.placePod st p) pods)
        && s.packsAnyhow (s.placePod st p) pods)

/-- Any booting machine will do for the pending pods. -/
def BootingAlike (s : PoolSnapshot) : Prop :=
  s.packsAnyhow s.packStart.st (sortBy largestFirst s.relevant) = true

/-! ## §3. One pod. -/

/-- The bins of some machines, with the room that is left in each. -/
def binsOf (room : Member → ResourceAmounts) (ms : List Member) : List Bin :=
  ms.map (fun m => (m, room m))

/-- What a pod leaves of a room. -/
def leaves (p : PodView) (room : ResourceAmounts) : ResourceAmounts := room.minus p.requests

/-- Whether a room takes a pod. -/
def hasRoom (p : PodView) (room : ResourceAmounts) : Bool := room.fits p.requests

/-- A pod that asks for no negative amount makes no room. -/
theorem minus_le_of_noneNegative {pods : List PodView} {p : PodView} {room : ResourceAmounts}
    (hp : p ∈ pods) (hneg : noneNegative pods = true) (hfits : room.fits p.requests = true) :
    (room.minus p.requests).exact ≤ room.exact := by
  have hpos : 0 ≤ p.exactRequests := of_decide_eq_true (List.all_eq_true.mp hneg p hp)
  exact (ResourceAmounts.minus_exact_le hfits).trans (sub_le_self _ hpos)

/-- With no negative requests, room is never gained. -/
theorem mayFit_of_minus {pods : List PodView} {p q : PodView} {room : ResourceAmounts}
    (hp : p ∈ pods) (hfits : room.fits p.requests = true)
    (h : mayFit pods q (room.minus p.requests) = true) : mayFit pods q room = true := by
  unfold mayFit at h ⊢
  by_cases hneg : noneNegative pods = true
  · rw [hneg, Bool.not_true, Bool.false_or] at h ⊢
    rw [ResourceAmounts.fits_iff_exact] at h ⊢
    exact h.trans (minus_le_of_noneNegative hp hneg hfits)
  · simp [hneg]

/-- A pod placed leaves less room. -/
theorem shrinks_leaves {pods : List PodView} {p : PodView} (hp : p ∈ pods) :
    Shrinks hasRoom (mayFit pods) leaves p where
  could_of_fits := fun _ _ hfits => Bool.or_eq_true_iff.mpr (Or.inr hfits)
  could_before := fun _ _ hfits hq => mayFit_of_minus hp hfits hq

/-- The rooms once the pod is put into `k`. -/
def putRoom (room : Member → ResourceAmounts) (k : Member) (p : PodView) (m : Member) :
    ResourceAmounts :=
  if m.name = k.name then (room m).minus p.requests else room m

theorem takes_putRoom {room : Member → ResourceAmounts} {ms : List Member} {k : Member}
    {p : PodView} (hnodup : (ms.map (·.name)).Nodup) (hk : k ∈ ms) :
    Takes leaves ms room p k (putRoom room k p) where
  self := if_pos rfl
  others := by
    intro j hj hne
    exact if_neg (fun he => hne (List.inj_on_of_nodup_map hnodup hj hk he))

/-- The first of the machines that fits takes the pod. -/
theorem takeBin_binsOf {room : Member → ResourceAmounts} {ms : List Member} (p : PodView)
    (hnodup : (ms.map (·.name)).Nodup) :
    takeBin p (binsOf room ms) = (ms.find? (fun m => podFits p m (room m))).map
      (fun k => binsOf (putRoom room k p) ms) := by
  have hnames : ((binsOf room ms).map (·.1.name)).Nodup := by
    unfold binsOf
    rw [List.map_map]
    exact hnodup
  rw [takeBin_eq hnames]
  unfold binsOf
  rw [List.find?_map, Option.map_map]
  congr 1
  funext k
  show Lib.putAt _ _ _ (ms.map _) = _
  unfold Lib.putAt
  rw [List.map_map]
  apply List.map_congr_left
  intro m _
  show (if m.name = k.name then _ else _) = (m, if m.name = k.name then _ else _)
  split <;> rfl

theorem takeBin_cons {p : PodView} {m : Member} {free : ResourceAmounts} {bins : List Bin} :
    takeBin p ((m, free) :: bins) = if podFits p m free then
      some ((m, free.minus p.requests) :: bins) else (takeBin p bins).map ((m, free) :: ·) := rfl

/-- Bins after the one taken are left. -/
theorem takeBin_append_some {p : PodView} {tail : List Bin} :
    ∀ {bins taken : List Bin}, takeBin p bins = some taken →
      takeBin p (bins ++ tail) = some (taken ++ tail) := by
  intro bins
  induction bins with
  | nil => intro taken h; cases h
  | cons b bins ih =>
    intro taken h
    obtain ⟨m, free⟩ := b
    rw [takeBin_cons] at h
    show takeBin p ((m, free) :: (bins ++ tail)) = _
    rw [takeBin_cons]
    by_cases hfits : podFits p m free = true
    · rw [if_pos hfits] at h ⊢
      rw [← Option.some.inj h]
      rfl
    · rw [if_neg hfits] at h ⊢
      obtain ⟨rest, hrest, he⟩ := Option.map_eq_some_iff.mp h
      rw [ih hrest, ← he]
      rfl

/-- Where no bin takes the pod, those after are tried. -/
theorem takeBin_append_none {p : PodView} {tail : List Bin} :
    ∀ {bins : List Bin}, takeBin p bins = none →
      takeBin p (bins ++ tail) = (takeBin p tail).map (bins ++ ·) := by
  intro bins
  induction bins with
  | nil =>
    intro _
    show takeBin p tail = _
    cases takeBin p tail <;> rfl
  | cons b bins ih =>
    intro h
    obtain ⟨m, free⟩ := b
    rw [takeBin_cons] at h
    show takeBin p ((m, free) :: (bins ++ tail)) = _
    rw [takeBin_cons]
    by_cases hfits : podFits p m free = true
    · rw [if_pos hfits] at h
      cases h
    · rw [if_neg hfits] at h ⊢
      rw [ih (Option.map_eq_none_iff.mp h), Option.map_map]
      rfl

section Bins

variable {room : Member → ResourceAmounts} {ms : List Member} {p : PodView} {bins tail : List Bin}

/-- When none of the machines fits, the pod looks among the bins after theirs. -/
theorem takeBin_after (hnodup : (ms.map (·.name)).Nodup) (hbins : bins = binsOf room ms ++ tail)
    (hnone : ms.find? (fun m => podFits p m (room m)) = none) :
    takeBin p bins = (takeBin p tail).map (binsOf room ms ++ ·) := by
  rw [hbins]
  apply takeBin_append_none
  rw [takeBin_binsOf p hnodup, hnone]
  rfl

/-- The first of the machines that fits takes the pod, whatever bins follow. -/
theorem takeBin_among {k : Member} (hnodup : (ms.map (·.name)).Nodup)
    (hbins : bins = binsOf room ms ++ tail)
    (hk : ms.find? (fun m => podFits p m (room m)) = some k) :
    takeBin p bins = some (binsOf (putRoom room k p) ms ++ tail) := by
  rw [hbins]
  apply takeBin_append_some
  rw [takeBin_binsOf p hnodup, hk]
  rfl

end Bins

/-- A pod that goes into a bin changes the bins, and nothing else. -/
theorem placePod_of_taken (hen : s.spec.scaleUp.enabled = true) {st : UpState} {p : PodView}
    {bins : List Bin} (h : takeBin p st.bins = some bins) :
    s.placePod st p = { st with bins := bins } := by
  unfold placePod
  rw [if_neg (by simp [hen]), h]

/-- Where no bin takes the pod, the bins matter no further: what is done is the
same, and the bins grow by the same. -/
theorem placePod_of_none {st : UpState} {p : PodView} {bins : List Bin}
    (h : takeBin p st.bins = none) (h' : takeBin p bins = none) :
    ∃ new, (s.placePod st p).bins = st.bins ++ new ∧
      s.placePod { st with bins := bins } p = { s.placePod st p with bins := bins ++ new } := by
  unfold placePod
  simp only [h, h']
  split
  · exact ⟨[], by simp, by simp⟩
  · split
    · exact ⟨[], by simp, by simp⟩
    · split
      · exact ⟨_, rfl, rfl⟩
      · exact ⟨[], by simp, by simp⟩

/-! ## §4. Pods that open no machine. -/

/-- A pod that may open no machine opens none. -/
theorem opened_placePod {st : UpState} {p : PodView} {pods : List PodView}
    (h : s.opensNone st (p :: pods) = true) :
    (s.placePod st p).opened = st.opened ∧ (s.placePod st p).offline = st.offline := by
  rcases placePod_cases (s := s) st p with hw | hj | ⟨m, before, after, ho⟩
  · exact ⟨hw.opened, hw.offline⟩
  · exact ⟨hj.opened, hj.offline⟩
  · have hoff : m ∈ st.offline := by
      rw [ho.split]
      exact List.mem_append_right _ List.mem_cons_self
    unfold opensNone at h
    rw [ho.enabled, ho.canOpen] at h
    have hnofit := List.all_eq_true.mp h p List.mem_cons_self
    have hno := List.all_eq_true.mp hnofit m hoff
    rw [ho.fits] at hno
    cases hno

/-- Pods that may open no machine may open none later. -/
theorem opensNone_of_cons {st : UpState} {p : PodView} {pods : List PodView}
    (h : s.opensNone st (p :: pods) = true) : s.opensNone (s.placePod st p) pods = true := by
  obtain ⟨hopened, hoffline⟩ := opened_placePod h
  unfold opensNone at h ⊢
  rw [hopened, hoffline]
  simp only [List.all_cons, Bool.or_eq_true, Bool.and_eq_true] at h ⊢
  rcases h with h | ⟨_, h⟩
  · exact Or.inl h
  · exact Or.inr h

/-- **Pods that may open no machine open none**, wherever they are put. -/
theorem opened_placePods (pods : List PodView) :
    ∀ {st : UpState}, s.opensNone st pods = true →
      (pods.foldl s.placePod st).opened = st.opened ∧
      (pods.foldl s.placePod st).offline = st.offline := by
  induction pods with
  | nil => intro st _; exact ⟨rfl, rfl⟩
  | cons p pods ih =>
    intro st h
    obtain ⟨hopened, hoffline⟩ := opened_placePod h
    have hrest := ih (opensNone_of_cons h)
    exact ⟨hrest.1.trans hopened, hrest.2.trans hoffline⟩

/-! ## §5. The two packings. -/

/-- **The invariant of the two runs**: they differ in the booting machines'
bins alone, and these are matched for the pods `later`. -/
structure UpAlike (s : PoolSnapshot) (members : List Member) (later : List PodView)
    (st st' : UpState) : Prop where
  same : st' = { st with bins := st'.bins }
  bins : ∃ room room' tail, st.bins = binsOf room s.bootingMembers ++ tail ∧
    st'.bins = binsOf room' (s.listed members).bootingMembers ++ tail ∧
    Matched admits (mayFit s.relevant) later (fun _ => False) s.bootingMembers room room'

/-- The booting machines' bins, at a pod for which any of them will do. -/
theorem alikeFor_of_anyBooting {room : Member → ResourceAmounts} {bins tail : List Bin}
    {pods : List PodView} {p : PodView} {later : List PodView}
    (h : anyBooting pods bins p later = true)
    (hbins : bins = binsOf room s.bootingMembers ++ tail) {a b : Member}
    (ha : a ∈ s.bootingMembers) (hb : b ∈ s.bootingMembers)
    (hfa : podFits p a (room a) = true) (hfb : podFits p b (room b) = true) :
    AlikeFor admits (mayFit pods) later room a b := by
  have htaker : ∀ m ∈ s.bootingMembers, podFits p m (room m) = true →
      (m, room m) ∈ bins.filter (fun b => b.1.state == .booting && podFits p b.1 b.2) := by
    intro m hm hfits
    rw [List.mem_filter, hbins]
    refine ⟨List.mem_append_left _ (List.mem_map.mpr ⟨m, hm, rfl⟩), ?_⟩
    rw [hfits, Bool.and_true]
    exact (List.mem_filter.mp hm).2
  have halike := List.all_eq_true.mp (List.all_eq_true.mp h _ (htaker a ha hfa)) _
    (htaker b hb hfb)
  exact of_decide_eq_true halike

/-- **One pod keeps the two runs in step.** -/
theorem UpAlike.step (hd : s.DistinctMembers) (hperm : s.members.Perm members)
    (hen : s.spec.scaleUp.enabled = true) {p : PodView} {later : List PodView} {st st' : UpState}
    (hp : p ∈ s.relevant) (h : s.UpAlike members (p :: later) st st')
    (hany : anyBooting s.relevant st.bins p later = true) :
    s.UpAlike members later (s.placePod st p) (s.placePod st' p) := by
  have hboot := bootingMembers_listed hperm
  have hnames : (s.bootingMembers.map (·.name)).Nodup := (List.filter_sublist.map _).nodup hd
  have hnames' : ((s.listed members).bootingMembers.map (·.name)).Nodup :=
    (hboot.map _).nodup hnames
  obtain ⟨room, room', tail, hbins, hbins', hmatched⟩ := h.bins
  rcases hmatched.first (shrinks_leaves hp) hboot (fun a ha b hb hfa hsa hfb hsb =>
    Or.inr ⟨alikeFor_of_anyBooting hany hbins ha hb (Bool.and_eq_true_iff.mpr ⟨hfa, hsa⟩)
      (Bool.and_eq_true_iff.mpr ⟨hfb, hsb⟩), id, id⟩) with
    ⟨hnone, hnone'⟩ | ⟨k, k', hk, hk', hafter⟩
  -- no booting machine takes it: the other bins are the same in both runs
  · have htake := takeBin_after hnames hbins hnone
    have htake' := takeBin_after hnames' hbins' hnone'
    have hless := hmatched.mono (fun q hq => List.mem_cons_of_mem p hq) (fun _ hf => hf)
    cases htail : takeBin p tail with
    | some taken =>
      rw [htail] at htake htake'
      rw [placePod_of_taken hen htake, placePod_of_taken hen htake']
      refine ⟨?_, room, room', taken, rfl, rfl, hless⟩
      rw [h.same]
    | none =>
      rw [htail] at htake htake'
      obtain ⟨new, hnew, hplace⟩ := placePod_of_none (s := s) htake htake'
      rw [h.same, hplace]
      refine ⟨rfl, room, room', tail ++ new, ?_, ?_, hless⟩
      · rw [hnew, hbins, List.append_assoc]
      · show st'.bins ++ new = _
        rw [hbins', List.append_assoc]
  -- a booting machine takes it, another one perhaps in the other run
  · have htake := takeBin_among hnames hbins hk
    have htake' := takeBin_among hnames' hbins' hk'
    rw [placePod_of_taken hen htake, placePod_of_taken hen htake']
    refine ⟨?_, putRoom room k p, putRoom room' k' p, tail, rfl, rfl, ?_⟩
    · rw [h.same]
    · exact hafter _ _ (takes_putRoom hnames (Lib.firstFit_some hk).1)
        (takes_putRoom hnames' (Lib.firstFit_some hk').1)

/-- **Both packings open the same machines**, if at each pod any booting machine
will do. -/
theorem opened_alike (hd : s.DistinctMembers) (hperm : s.members.Perm members)
    (pods : List PodView) :
    ∀ {st st' : UpState}, (∀ p ∈ pods, p ∈ s.relevant) →
      s.UpAlike members (s.undecided st pods) st st' → s.packsAnyhow st pods = true →
      (pods.foldl s.placePod st').opened = (pods.foldl s.placePod st).opened ∧
      (pods.foldl s.placePod st').offline = (pods.foldl s.placePod st).offline := by
  induction pods with
  | nil =>
    intro st st' _ h _
    rw [h.same]
    exact ⟨rfl, rfl⟩
  | cons p pods ih =>
    intro st st' hpods h hpacks
    by_cases hnone : s.opensNone st (p :: pods) = true
    -- it is settled what is opened
    · have hnone' : s.opensNone st' (p :: pods) = true := by
        rw [h.same]
        exact hnone
      have hend := opened_placePods (p :: pods) hnone
      have hend' := opened_placePods (p :: pods) hnone'
      rw [hend.1, hend.2, hend'.1, hend'.2, h.same]
      exact ⟨rfl, rfl⟩
    · have hen : s.spec.scaleUp.enabled = true := by
        by_contra hdis
        exact hnone (by simp [opensNone, hdis])
      unfold undecided at h
      rw [if_neg hnone] at h
      unfold packsAnyhow at hpacks
      simp only [Bool.or_eq_true, Bool.and_eq_true] at hpacks
      rcases hpacks with hsettled | ⟨hany, hrest⟩
      · exact absurd hsettled hnone
      · exact ih (fun q hq => hpods q (List.mem_cons_of_mem p hq))
          (h.step hd hperm hen (hpods p List.mem_cons_self) hany) hrest

/-- The packing of another listing, by the loop of this one. -/
theorem packPending_listed (hd : s.DistinctMembers) (hperm : s.members.Perm members) :
    (s.listed members).packPending = (sortBy largestFirst s.relevant).foldl s.placePod
      { s.packStart.st with bins := binsOf spare (s.listed members).bootingMembers } := by
  have hloop : (s.listed members).placePod = s.placePod := by
    funext st p
    exact placePod_listed hd hperm st p
  unfold packPending
  rw [hloop, relevant_listed hperm, ← rankedUp_eq_of_perm hd hperm]
  rfl

/-! ## §6. What both listings power on. -/

/-- The second loop does not look at the bins. -/
theorem opened_fillMinOnline (l : List Member) : ∀ {st st' : UpState}, st.opened = st'.opened →
    (s.fillMinOnline st l).opened = (s.fillMinOnline st' l).opened := by
  induction l with
  | nil => intro st st' h; exact h
  | cons m rest ih =>
    intro st st' h
    unfold fillMinOnline
    rw [h]
    split
    · exact ih rfl
    · rfl

/-- **Both listings power on the same machines**, for the same reasons, if any
booting machine will do for the pending pods. -/
theorem powerOn_listed (hd : s.DistinctMembers) (hperm : s.members.Perm members)
    (halike : s.BootingAlike) : (s.listed members).powerOn = s.powerOn := by
  have hstart : s.UpAlike members (s.undecided s.packStart.st (sortBy largestFirst s.relevant))
      s.packStart.st
      { s.packStart.st with bins := binsOf spare (s.listed members).bootingMembers } :=
    ⟨rfl, spare, spare, [], (List.append_nil _).symm, (List.append_nil _).symm,
      Lib.matched_start (fun _ _ => rfl)⟩
  have hpack := opened_alike hd hperm _ (fun p hp => mem_sortBy.mp hp) hstart halike
  rw [← packPending_listed hd hperm] at hpack
  show ((s.listed members).fillMinOnline (s.listed members).packPending
    (s.listed members).packPending.offline).opened = _
  rw [fillMinOnline_listed hd hperm, hpack.2]
  exact opened_fillMinOnline _ hpack.1

end PoolSnapshot

end HardwareAutoscaler
