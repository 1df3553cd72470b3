/-
  HardwareAutoscaler.Scaling.NextPlan
  ───────────────────────────────────
  THE NEXT PLAN, AFTER MACHINES HAVE GONE OFF.

  Which pending pods count is asked of the machines that boot or are off.  A
  pod that only a machine that is on could host does not count: it holds no
  scale-down.  As soon as that machine is off the pod counts, and the next
  plan may power the machine on again.

    • `withState` — a snapshot in which some machines have changed state,
    • `onlineNow_wentOff` — how many are on once those to power off are off,
    • `wanted_of_powerOn` / `powerOn_of_relevant` — a machine powered on is
      one a relevant pod fits, and there is one when there is room,
    • `not_undone_iff` — when the next plan leaves off what was powered off.
-/
import HardwareAutoscaler.Scaling.Bounds
import HardwareAutoscaler.Scaling.OverMax

namespace HardwareAutoscaler

open Std (TreeMap)

namespace PoolSnapshot

variable {s : PoolSnapshot}

/-! ## §1. Machines that have changed state. -/

/-- The member `m`, in the state `st` if it is one of `names`. -/
def changed (names : List String) (st : MemberState) (m : Member) : Member :=
  if m.name ∈ names then { m with state := st } else m

/-- The snapshot with the machines of `names` in the state `st` and nothing
else changed. -/
def withState (s : PoolSnapshot) (names : List String) (st : MemberState) : PoolSnapshot :=
  { s with members := s.members.map (changed names st) }

/-- The snapshot once the machines to power off are off. -/
def wentOff (s : PoolSnapshot) : PoolSnapshot := s.withState (s.powerOff.map (·.1)) .offline

section Changed

variable {names : List String} {st : MemberState} {m : Member}

/-- A machine named changes its state. -/
theorem changed_of_mem (h : m.name ∈ names) : changed names st m = { m with state := st } :=
  if_pos h

/-- Any other stays as it is. -/
theorem changed_of_not_mem (h : m.name ∉ names) : changed names st m = m := if_neg h

@[simp] theorem changed_name : (changed names st m).name = m.name := by
  unfold changed
  split <;> rfl

@[simp] theorem changed_auto : (changed names st m).auto = m.auto := by
  unfold changed
  split <;> rfl

@[simp] theorem changed_allocatable : (changed names st m).allocatable = m.allocatable := by
  unfold changed
  split <;> rfl

@[simp] theorem podFits_changed {p : PodView} {free : ResourceAmounts} :
    podFits p (changed names st m) free = podFits p m free := by
  unfold changed
  split <;> rfl

end Changed

/-- The members are those there were, changed. -/
theorem mem_withState {names : List String} {st : MemberState} {m' : Member}
    (h : m' ∈ (s.withState names st).members) :
    ∃ m ∈ s.members, changed names st m = m' := List.mem_map.mp h

/-- The machines named are in the new state. -/
theorem state_withState {names : List String} {st : MemberState} {m' : Member}
    (h : m' ∈ (s.withState names st).members) (hin : m'.name ∈ names) : m'.state = st := by
  obtain ⟨m, _, rfl⟩ := mem_withState h
  rw [changed_name] at hin
  exact congrArg Member.state (changed_of_mem hin)

/-! ## §2. How many are on. -/

/-- A machine that is on or coming up. -/
def isOn (st : MemberState) : Bool := st == .online || st == .booting

/-- How many of the machines `names` are on. -/
def onAmong (s : PoolSnapshot) (names : List String) : Nat :=
  (s.members.filter (fun m => isOn m.state && decide (m.name ∈ names))).length

/-- How many others are on. -/
def onOutside (s : PoolSnapshot) (names : List String) : Nat :=
  (s.members.filter (fun m => isOn m.state && !decide (m.name ∈ names))).length

/-- The machines on are named or not. -/
theorem onlineNow_eq (names : List String) :
    s.onlineNow = s.onAmong names + s.onOutside names := by
  have hsplit := List.length_eq_length_filter_add (l := s.members.filter (fun m => isOn m.state))
    (fun m => decide (m.name ∈ names))
  rw [List.filter_filter, List.filter_filter] at hsplit
  unfold onAmong onOutside
  simp only [Bool.and_comm (isOn _)]
  exact hsplit

/-- The others are as they were. -/
theorem onOutside_withState {names : List String} {st : MemberState} :
    (s.withState names st).onOutside names = s.onOutside names := by
  unfold onOutside
  show ((s.members.map (changed names st)).filter _).length = _
  rw [List.filter_map, List.length_map]
  congr 1
  apply List.filter_congr
  intro m _
  by_cases hin : m.name ∈ names
  · simp [hin]
  · simp [hin, changed_of_not_mem]

/-- Machines that are off do not count. -/
theorem onAmong_of_off {names : List String}
    (hoff : ∀ m ∈ s.members, m.name ∈ names → isOn m.state = false) : s.onAmong names = 0 := by
  unfold onAmong
  rw [List.length_eq_zero_iff, List.filter_eq_nil_iff]
  intro m hm
  by_cases hin : m.name ∈ names
  · simp [hoff m hm hin]
  · simp [hin]

/-- Machines that are on count one each. -/
theorem onAmong_of_on (hd : s.DistinctMembers) {names : List String} (hn : names.Nodup)
    (hmem : ∀ n ∈ names, ∃ m ∈ s.members, m.name = n)
    (hon : ∀ m ∈ s.members, m.name ∈ names → isOn m.state = true) :
    s.onAmong names = names.length := by
  let named : Member → Bool := fun m => isOn m.state && decide (m.name ∈ names)
  -- the names of those machines are the names of the list, each once
  have hperm : ((s.members.filter named).map (·.name)).Perm names := by
    rw [List.perm_ext_iff_of_nodup ((List.filter_sublist.map _).nodup hd) hn]
    intro n
    simp only [named, List.mem_map, List.mem_filter, Bool.and_eq_true, decide_eq_true_eq]
    constructor
    · intro h
      obtain ⟨m, ⟨_, _, hin⟩, rfl⟩ := h
      exact hin
    · intro h
      obtain ⟨m, hm, rfl⟩ := hmem n h
      exact ⟨m, ⟨hm, hon m hm h, h⟩, rfl⟩
  have hlen := hperm.length_eq
  rw [List.length_map] at hlen
  exact hlen

/-- A machine to power off is an `Auto` member that is on. -/
theorem mem_powerOff_online {n : String} (h : n ∈ s.powerOff.map (·.1)) :
    ∃ m ∈ s.members, m.name = n ∧ m.auto = true ∧ m.state = .online := by
  have hn : n ∈ s.powerOffNames := List.mem_toFinset.mpr h
  obtain ⟨_, m, hm, hname, _⟩ := mem_powerOff hn
  obtain ⟨hmem, hauto, hon⟩ := mem_candidates.mp (mem_eligible.mp hm).1
  exact ⟨m, hmem, hname, hauto, hon⟩

/-- A machine powered off was online, and `Auto`. -/
theorem online_of_powerOff (hd : s.DistinctMembers) {m : Member} (hm : m ∈ s.members)
    (h : m.name ∈ s.powerOff.map (·.1)) : m.auto = true ∧ m.state = .online := by
  obtain ⟨m', hm', hname, hauto, hon⟩ := mem_powerOff_online h
  rw [hd.eq_of_name hm hm' hname.symm]
  exact ⟨hauto, hon⟩

/-- **As many fewer are on as were powered off.** -/
theorem onlineNow_wentOff (hd : s.DistinctMembers) :
    s.wentOff.onlineNow + s.powerOff.length = s.onlineNow := by
  have hbefore : s.onAmong (s.powerOff.map (·.1)) = (s.powerOff.map (·.1)).length := by
    apply onAmong_of_on hd (powerOff_nodup hd)
    · intro n hn
      obtain ⟨m, hm, hname, _⟩ := mem_powerOff_online hn
      exact ⟨m, hm, hname⟩
    · intro m hm hin
      rw [(online_of_powerOff hd hm hin).2]
      rfl
  have hafter : s.wentOff.onAmong (s.powerOff.map (·.1)) = 0 := by
    apply onAmong_of_off
    intro m' hm' hin
    rw [state_withState hm' hin]
    rfl
  have houtside : s.wentOff.onOutside (s.powerOff.map (·.1))
      = s.onOutside (s.powerOff.map (·.1)) := onOutside_withState
  rw [List.length_map] at hbefore
  rw [onlineNow_eq (s := s) (s.powerOff.map (·.1)),
    onlineNow_eq (s := s.wentOff) (s.powerOff.map (·.1)), hbefore, hafter, houtside]
  omega

/-! ## §3. What a machine is powered on for. -/

/-- The pods that a machine coming up could host. -/
theorem mem_relevant {p : PodView} :
    p ∈ s.relevant ↔ p ∈ s.selected ∧ ∃ m ∈ s.members, podFits p m m.allocatable = true ∧
      (m.state = .booting ∨ m.auto = true ∧ m.state = .offline) := by
  unfold relevant podFits
  simp only [List.mem_filter, List.any_eq_true, Bool.and_eq_true, Bool.or_eq_true, beq_iff_eq]

/-- A relevant pod is selected. -/
theorem selected_of_relevant {p : PodView} (h : p ∈ s.relevant) : p ∈ s.selected :=
  (mem_relevant.mp h).1

/-- Every machine opened is one of those off that a relevant pod fits. -/
structure ForPods (s : PoolSnapshot) (st : UpState) : Prop where
  opened : ∀ n ∈ st.opened.map (·.1), ∃ m ∈ s.rankedUp, m.name = n ∧
    ∃ p ∈ s.relevant, podFits p m m.allocatable = true
  offline : ∀ m ∈ st.offline, m ∈ s.rankedUp

/-- A machine opened is opened for a pod. -/
theorem forPods_placePod {st : UpState} {p : PodView} (hp : p ∈ s.relevant)
    (h : s.ForPods st) : s.ForPods (s.placePod st p) := by
  rcases placePod_cases (s := s) st p with hw | hj | ⟨m, before, after, ho⟩
  · refine ⟨?_, ?_⟩
    · rw [hw.opened]
      exact h.opened
    · rw [hw.offline]
      exact h.offline
  · refine ⟨?_, ?_⟩
    · rw [hj.opened]
      exact h.opened
    · rw [hj.offline]
      exact h.offline
  · -- the machine opened is off, and opened for this pod
    have hoff := h.offline
    rw [ho.split] at hoff
    refine ⟨?_, ?_⟩
    · obtain ⟨reason, hopened⟩ := ho.opened
      rw [hopened]
      intro n hn
      rw [List.map_append, List.mem_append] at hn
      rcases hn with hn | hn
      · exact h.opened n hn
      · rw [List.mem_singleton.mp hn]
        exact ⟨m, hoff m (by simp), rfl, p, hp, ho.fits⟩
    · rw [ho.offline]
      intro o hmem
      apply hoff
      rcases List.mem_append.mp hmem with hb | ha
      · exact List.mem_append_left _ hb
      · exact List.mem_append_right _ (List.mem_cons_of_mem _ ha)

/-- So are all that the loop opens. -/
theorem forPods_placePods (pods : List PodView) :
    ∀ {st : UpState}, (∀ p ∈ pods, p ∈ s.relevant) → s.ForPods st →
      s.ForPods (pods.foldl s.placePod st) := by
  induction pods with
  | nil => intro st _ h; exact h
  | cons p pods ih =>
    intro st hsub h
    exact ih (fun q hq => hsub q (List.mem_cons_of_mem _ hq))
      (forPods_placePod (hsub p List.mem_cons_self) h)

/-- With `minOnline` reached no further machine is opened for it. -/
theorem fillMinOnline_opened {st : UpState} {l : List Member}
    (h : s.spec.minOnline ≤ s.onlineNow + st.opened.length ∨
      s.maxOnline ≤ s.onlineNow + st.opened.length) :
    (s.fillMinOnline st l).opened = st.opened := by
  cases l with
  | nil => rfl
  | cons m rest =>
    unfold fillMinOnline
    rw [if_neg (by omega)]

/-- **A machine powered on with `minOnline` reached is one a relevant pod fits.** -/
theorem wanted_of_powerOn (hmin : s.spec.minOnline ≤ s.onlineNow) {n : String}
    (h : n ∈ s.powerOn.map (·.1)) :
    ∃ m ∈ s.rankedUp, m.name = n ∧ ∃ p ∈ s.relevant, podFits p m m.allocatable = true := by
  have hpack : s.ForPods s.packPending := by
    apply forPods_placePods
    · intro p hp
      exact mem_sortBy.mp hp
    · refine ⟨?_, fun m hm => hm⟩
      intro n hn
      cases hn
  have hopened : s.powerOn = s.packPending.opened := fillMinOnline_opened (Or.inl (by omega))
  rw [hopened] at h
  exact hpack.opened n h

/-- At `maxOnline` nothing is powered on. -/
theorem powerOn_nil_of_full (h : s.maxOnline ≤ s.onlineNow) : s.powerOn = [] := by
  by_contra hne
  have hroom := (opening_scaledUp s).room hne
  have hpos : 0 < s.powerOn.length := List.length_pos_iff.mpr hne
  omega

/-- Machines opened stay so. -/
theorem opened_grows (pods : List PodView) :
    ∀ {st : UpState}, st.opened <+: (pods.foldl s.placePod st).opened := by
  induction pods with
  | nil => intro st; exact List.prefix_refl _
  | cons p pods ih =>
    intro st
    refine List.IsPrefix.trans ?_ ih
    rcases placePod_cases (s := s) st p with hw | hj | ⟨m, before, after, ho⟩
    · rw [hw.opened]
    · rw [hj.opened]
    · obtain ⟨reason, hopened⟩ := ho.opened
      rw [hopened]
      exact List.prefix_append _ _

/-- Machines opened stay so in the second loop. -/
theorem opened_fill_grows {l : List Member} :
    ∀ {st : UpState}, st.opened <+: (s.fillMinOnline st l).opened := by
  induction l with
  | nil => intro st; exact List.prefix_refl _
  | cons m rest ih =>
    intro st
    unfold fillMinOnline
    split
    · refine List.IsPrefix.trans ?_ ih
      exact List.prefix_append _ _
    · exact List.prefix_refl _

/-- With none booting, a relevant pod fits a machine that is off. -/
theorem rankedUp_fits (hboot : s.booting = false) {p : PodView} (hp : p ∈ s.relevant) :
    ∃ o ∈ s.rankedUp, podFits p o o.allocatable = true := by
  obtain ⟨_, o, ho, hfits, hstate⟩ := mem_relevant.mp hp
  refine ⟨o, ?_, hfits⟩
  rcases hstate with hb | ⟨hauto, hoff⟩
  · unfold booting at hboot
    exact absurd (by simp [hb]) (List.any_eq_false.mp hboot o ho)
  · exact mem_rankedUp.mpr ⟨ho, hauto, hoff⟩

/-- A pod that finds no bin, with room below `maxOnline` and a machine it fits,
has one opened if none has been. -/
theorem opens_of_fits (hen : s.spec.scaleUp.enabled = true) (hroom : s.onlineNow < s.maxOnline)
    {up : UpState} {p : PodView} (hbins : up.bins = []) (hopened : up.opened = [])
    {o : Member} (ho : o ∈ up.offline) (hfits : podFits p o o.allocatable = true) :
    ∃ m before after, s.Opens up p m before after (s.placePod up p) := by
  have hcan : s.canOpen up.opened.length = none := by
    rw [canOpen_none, hopened]
    constructor
    · exact hroom
    · show 0 < max s.spec.scaleUp.maxNodesPerStep 1
      omega
  rcases placePod_cases (s := s) up p with hw | hj | hopens
  · rcases hw.why with hdis | ⟨_, hfull | hunfit⟩
    · rw [hen] at hdis
      cases hdis
    · exact absurd hcan hfull
    · rw [hunfit o ho] at hfits
      cases hfits
  · have htake := hj.bins
    rw [hbins] at htake
    cases htake
  · exact hopens

/-- **With none booting and room below `maxOnline`, a relevant pod has a
machine powered on that a relevant pod fits.** -/
theorem powerOn_of_relevant (hen : s.spec.scaleUp.enabled = true) (hboot : s.booting = false)
    (hroom : s.onlineNow < s.maxOnline) (hrel : s.relevant ≠ []) :
    ∃ m ∈ s.rankedUp, m.name ∈ s.powerOn.map (·.1) ∧
      ∃ p ∈ s.relevant, podFits p m m.allocatable = true := by
  have hsorted : sortBy largestFirst s.relevant ≠ [] := by
    intro he
    have hperm := sortBy_perm largestFirst s.relevant
    rw [he] at hperm
    exact hrel (List.Perm.nil_eq hperm).symm
  obtain ⟨p, pods, hpods⟩ := List.exists_cons_of_ne_nil hsorted
  have hp : p ∈ s.relevant := by
    have hin : p ∈ sortBy largestFirst s.relevant := by
      rw [hpods]
      exact List.mem_cons_self
    exact mem_sortBy.mp hin
  -- the first pod finds no bin, and a machine that is off takes it
  let start : UpState :=
    { bins := (s.members.filter (·.state == .booting)).map
        (fun m => (m, m.allocatable.minus m.requested))
      offline := s.rankedUp }
  have hbins : start.bins = [] := by
    show (s.members.filter (·.state == .booting)).map _ = []
    rw [List.map_eq_nil_iff, List.filter_eq_nil_iff]
    unfold booting at hboot
    exact fun m hm => List.any_eq_false.mp hboot m hm
  obtain ⟨o, ho, hfits⟩ := rankedUp_fits hboot hp
  have hopens : ∃ m before after, s.Opens start p m before after (s.placePod start p) :=
    opens_of_fits hen hroom hbins rfl ho hfits
  obtain ⟨m, before, after, hopen⟩ := hopens
  have hm : m ∈ s.rankedUp := by
    have hsplit : s.rankedUp = before ++ m :: after := hopen.split
    rw [hsplit]
    simp
  refine ⟨m, hm, ?_, p, hp, hopen.fits⟩
  obtain ⟨reason, hopened⟩ := hopen.opened
  have hfirst : (m.name, reason) ∈ (s.placePod start p).opened := by
    rw [hopened]
    simp
  have hpack : s.packPending = pods.foldl s.placePod (s.placePod start p) := by
    unfold packPending
    rw [hpods]
    rfl
  have hlast : (m.name, reason) ∈ s.powerOn := by
    show (m.name, reason) ∈ (s.fillMinOnline s.packPending s.packPending.offline).opened
    apply opened_fill_grows.subset
    rw [hpack]
    exact (opened_grows pods).subset hfirst
  exact List.mem_map.mpr ⟨_, hlast, rfl⟩

/-! ## §4. What was powered off stays off. -/

/-- The plan does not undo itself: the next one, with the same pods pending at
the same time, powers on none of the machines this one powers off. -/
def NotUndone (s : PoolSnapshot) : Prop :=
  ∀ n ∈ (plan s).powerOff.map (·.1), n ∉ (plan s.wentOff).powerOn.map (·.1)

/-- A pending pod past its grace and targeting the pool fits, empty, a machine
that is powered off. -/
def WantedBack (s : PoolSnapshot) : Prop :=
  ∃ m ∈ s.members, m.name ∈ (plan s).powerOff.map (·.1) ∧
    ∃ p ∈ s.selected, podFits p m m.allocatable = true

/-- Below `maxOnline` a plan that powers machines off has no relevant pod
pending and no member booting. -/
theorem quiet_of_powerOff (hover : s.overMax = 0) (hoff : s.powerOff ≠ []) :
    s.relevant = [] ∧ s.booting = false := by
  have hfree := notHeld_of_powerOff hover hoff
  unfold notHeld at hfree
  simp only [Bool.and_eq_true, Bool.not_eq_true', List.isEmpty_iff] at hfree
  exact ⟨hfree.1.1.2, hfree.1.2⟩

/-- Without a machine booting none is after a power-off. -/
theorem wentOff_not_booting (h : s.booting = false) : s.wentOff.booting = false := by
  unfold booting at h ⊢
  rw [List.any_eq_false] at h ⊢
  intro m' hm'
  obtain ⟨m, hm, rfl⟩ := mem_withState hm'
  by_cases hin : m.name ∈ s.powerOff.map (·.1)
  · rw [changed_of_mem hin]
    simp
  · rw [changed_of_not_mem hin]
    exact h m hm

/-- A machine powered on again is wanted back. -/
theorem not_undone_of_not_wanted (hd : s.DistinctMembers) (h : ¬ s.WantedBack) :
    s.NotUndone := by
  intro n hoff hon
  have hne : s.powerOff ≠ [] := by
    intro he
    have hnil : (plan s).powerOff = [] := he
    rw [hnil] at hoff
    cases hoff
  have hpos : 0 < s.powerOff.length := List.length_pos_iff.mpr hne
  have hfewer := onlineNow_wentOff hd
  have hroom := (powerOff_card_le (s := s)).2
  rw [← powerOff_length hd] at hroom
  -- `minOnline` is still reached, so it is for a pod that the machine comes on
  have hmin : s.wentOff.spec.minOnline ≤ s.wentOff.onlineNow := by
    show s.spec.minOnline ≤ s.wentOff.onlineNow
    omega
  obtain ⟨m', hm', hname, p, hp, hfits⟩ := wanted_of_powerOn hmin hon
  obtain ⟨m, hm, rfl⟩ := mem_withState (mem_rankedUp.mp hm').1
  rw [podFits_changed, changed_allocatable] at hfits
  rw [changed_name] at hname
  have hsel : p ∈ s.wentOff.selected := selected_of_relevant hp
  apply h
  refine ⟨m, hm, ?_, p, hsel, hfits⟩
  rw [hname]
  exact hoff

/-- A pool still at `maxOnline` powers nothing on again. -/
theorem not_undone_of_full (hd : s.DistinctMembers)
    (hfew : (plan s).powerOff.length ≤ s.overMax) : s.NotUndone := by
  intro n hoff hon
  have hpos : 0 < (plan s).powerOff.length := by
    rw [← List.length_map (·.1)]
    exact List.length_pos_of_mem hoff
  have hfewer : s.wentOff.onlineNow + (plan s).powerOff.length = s.onlineNow :=
    onlineNow_wentOff hd
  have hfull : s.wentOff.maxOnline ≤ s.wentOff.onlineNow := by
    show s.maxOnline ≤ s.wentOff.onlineNow
    unfold overMax at hfew
    omega
  have hnil : (plan s.wentOff).powerOn = [] := powerOn_nil_of_full hfull
  rw [hnil] at hon
  cases hon

/-- **A machine wanted back comes on again** where there is room for it below
`maxOnline`, with no relevant pod pending and no member booting before. -/
theorem undone_of_wanted (hd : s.DistinctMembers) (hen : s.spec.scaleUp.enabled = true)
    (hrel : s.relevant = []) (hboot : s.booting = false) (hwant : s.WantedBack)
    (hmany : s.overMax < (plan s).powerOff.length) : ¬ s.NotUndone := by
  intro hundo
  obtain ⟨m, hm, hoff, p, hp, hfits⟩ := hwant
  -- the pod becomes relevant
  have hrel' : p ∈ s.wentOff.relevant := by
    rw [mem_relevant]
    refine ⟨hp, changed (s.powerOff.map (·.1)) .offline m,
      List.mem_map.mpr ⟨m, hm, rfl⟩, ?_, Or.inr ?_⟩
    · rw [podFits_changed, changed_allocatable]
      exact hfits
    · rw [changed_auto]
      exact ⟨(online_of_powerOff hd hm hoff).1, congrArg Member.state (changed_of_mem hoff)⟩
  have hroom : s.wentOff.onlineNow < s.wentOff.maxOnline := by
    have hfewer : s.wentOff.onlineNow + (plan s).powerOff.length = s.onlineNow :=
      onlineNow_wentOff hd
    show s.wentOff.onlineNow < s.maxOnline
    unfold overMax at hmany
    omega
  obtain ⟨o', ho', hon, q, hq, hqfits⟩ :=
    powerOn_of_relevant (s := s.wentOff) hen (wentOff_not_booting hboot) hroom
      (List.ne_nil_of_mem hrel')
  obtain ⟨hmem', hauto, hoffline⟩ := mem_rankedUp.mp ho'
  obtain ⟨o, ho, rfl⟩ := mem_withState hmem'
  by_cases hin : o.name ∈ s.powerOff.map (·.1)
  · rw [changed_name] at hon
    exact hundo o.name hin hon
  -- a machine that was off before fits none of the selected pods
  · rw [changed_of_not_mem hin] at hauto hoffline hqfits
    have hsel : q ∈ s.wentOff.selected := selected_of_relevant hq
    have hqrel : q ∈ s.relevant :=
      mem_relevant.mpr ⟨hsel, o, ho, hqfits, Or.inr ⟨hauto, hoffline⟩⟩
    rw [hrel] at hqrel
    cases hqrel

/-- What is powered off is not wanted back, or there is no room to power it on
again: no more machines go than the pool has too many. -/
def StaysOff (s : PoolSnapshot) : Prop :=
  ¬ s.WantedBack ∨ (plan s).powerOff.length ≤ s.overMax

/-- **When a plan does not undo itself**: when no selected pod fits, empty, a
machine that is powered off, or no more machines go than are too many.  That
is exact, except above `maxOnline` with relevant pods pending or members
booting, where machines that were off before may take the pod. -/
theorem not_undone_iff (s : PoolSnapshot) (hd : s.DistinctMembers)
    (hen : s.spec.scaleUp.enabled = true) :
    (s.StaysOff → s.NotUndone) ∧
    (s.onlineNow ≤ s.maxOnline ∨ s.relevant = [] ∧ s.booting = false →
      s.NotUndone → s.StaysOff) := by
  constructor
  · intro h
    rcases h with hno | hfew
    · exact not_undone_of_not_wanted hd hno
    · exact not_undone_of_full hd hfew
  · intro hquiet hundo
    by_cases hfew : (plan s).powerOff.length ≤ s.overMax
    · exact Or.inr hfew
    · refine Or.inl ?_
      intro hwant
      have hne : s.powerOff ≠ [] := by
        intro he
        have hnil : (plan s).powerOff = [] := he
        rw [hnil] at hfew
        exact hfew (Nat.zero_le _)
      have hfree : s.relevant = [] ∧ s.booting = false := by
        rcases hquiet with hmax | hfree
        · apply quiet_of_powerOff _ hne
          unfold overMax
          omega
        · exact hfree
      exact undone_of_wanted hd hen hfree.1 hfree.2 hwant (by omega) hundo

/-- Two machines that are on; `b`, whose pod fits `a`, has been unneeded for
an hour.  A pod asking for `cpu` has been pending as long. -/
def bigPodPending (cpu : Int64) : PoolSnapshot where
  spec := {}
  members :=
    [{ name := "a", state := .online, auto := true
       allocatable := { cpuMillis := 2000, pods := 10 }
       requested := { cpuMillis := 1000, pods := 1 }
       counted := { cpuMillis := 1000, pods := 1 } },
     { name := "b", state := .online, auto := true
       allocatable := { cpuMillis := 4000, pods := 10 }
       requested := { cpuMillis := 1000, pods := 1 }
       counted := { cpuMillis := 1000, pods := 1 }
       movablePods := [{ name := "small", requests := { cpuMillis := 1000, pods := 1 } }] }]
  pending := [{ name := "big", requests := { cpuMillis := cpu, pods := 1 }, created := some 0 }]
  now := seconds 3600
  unneededSince := (∅ : TreeMap String Int).insert "b" 0

/-- The machines have distinct names. -/
theorem bigPodPending_distinct (cpu : Int64) : (bigPodPending cpu).DistinctMembers := by
  show ["a", "b"].Nodup
  decide

/-- A pod too big for either machine leaves `b` off. -/
theorem too_big_not_undone :
    (plan (bigPodPending 8000)).powerOff.map (·.1) = ["b"] ∧ (bigPodPending 8000).NotUndone := by
  refine ⟨by decide +kernel, ?_⟩
  have hunwanted : ¬ (bigPodPending 8000).WantedBack := by
    unfold WantedBack
    decide +kernel
  exact (not_undone_iff (bigPodPending 8000) (bigPodPending_distinct 8000) rfl).1
    (Or.inl hunwanted)

/-- **`b` is powered off and powered on again** for a pod that was pending all
along: it fits `b` once `b` is empty. -/
theorem big_pod_undone :
    (bigPodPending 4000).spec.scaleUp.enabled = true ∧
    (plan (bigPodPending 4000)).powerOff.map (·.1) = ["b"] ∧
    (plan (bigPodPending 4000).wentOff).powerOn.map (·.1) = ["b"] :=
  ⟨rfl, by decide +kernel, by decide +kernel⟩

end PoolSnapshot

end HardwareAutoscaler
