/-
  HardwareAutoscaler.Scaling.Bounds
  ─────────────────────────────────
  THE BOUNDS OF A PLAN.

  The bounds on a plan are kept by four places of `plan`: the guard of the
  packing loop, the loop for `minOnline`, the reasons that hold scale-down,
  and the budget of the removal loop.  Each is an invariant of its loop:

    • `placePod_cases` / `Opening` — a machine opened was off, and leaves the
      pool within `maxOnline`,
    • `Gone` — the machines removed are eligible ones, each once,
    • `planChecked` — `plan` with the subtractions and lookups of the source
      checked; `Roomy` keeps every lookup of the removal loop defined,
    • `plan_within_bounds` — the bounds, for every setting of the pool.
-/
import HardwareAutoscaler.Scaling.Removal

namespace HardwareAutoscaler

open Std (TreeMap TreeSet)
open Lib (mem_insertAll_of_entry mem_insertAll_of_mem)

namespace PoolSnapshot

variable {s : PoolSnapshot}

/-! ## §1. The machines opened. -/

/-- A list split at the first element that satisfies `p`. -/
theorem splitFirst_some {α : Type} {p : α → Bool} {x : α} {after : List α} :
    ∀ {l before : List α}, splitFirst p l = some (before, x, after) →
      l = before ++ x :: after ∧ p x = true ∧ ∀ y ∈ before, p y = false := by
  -- on the list: the head is the one found, or it goes before it
  intro l
  induction l with
  | nil =>
    intro before h
    cases h
  | cons y l ih =>
    intro before h
    unfold splitFirst at h
    by_cases hy : p y = true
    · rw [if_pos hy] at h
      cases h
      exact ⟨rfl, hy, by simp⟩
    · rw [if_neg hy, Option.map_eq_some_iff] at h
      obtain ⟨⟨b, z, a⟩, hsplit, he⟩ := h
      cases he
      obtain ⟨hl, hx, hb⟩ := ih hsplit
      refine ⟨by rw [hl]; rfl, hx, ?_⟩
      intro w hw
      rcases List.mem_cons.mp hw with hw | hw
      · rw [hw]
        simpa using hy
      · exact hb w hw

/-- A list that is not split has none. -/
theorem splitFirst_none {α : Type} {p : α → Bool} :
    ∀ {l : List α}, splitFirst p l = none → ∀ y ∈ l, p y = false := by
  intro l
  induction l with
  | nil =>
    intro _ y hy
    cases hy
  | cons x l ih =>
    intro h y hy
    unfold splitFirst at h
    by_cases hx : p x = true
    · rw [if_pos hx] at h
      cases h
    · rw [if_neg hx, Option.map_eq_none_iff] at h
      rcases List.mem_cons.mp hy with hy | hy
      · rw [hy]
        simpa using hx
      · exact ih h y hy

/-- **When a machine may be opened.** -/
theorem canOpen_none {opened : Nat} :
    s.canOpen opened = none ↔
      s.onlineNow + opened < s.maxOnline ∧ opened < max s.spec.scaleUp.maxNodesPerStep 1 := by
  unfold canOpen
  by_cases hmax : s.onlineNow + opened ≥ s.maxOnline
  · rw [if_pos hmax]
    simp only [reduceCtorEq, false_iff]
    omega
  · rw [if_neg hmax]
    by_cases hstep : opened ≥ max s.spec.scaleUp.maxNodesPerStep 1
    · rw [if_pos hstep]
      simp only [reduceCtorEq, false_iff]
      omega
    · rw [if_neg hstep]
      simp only [true_iff]
      omega

/-- The iteration leaves the pod waiting. -/
structure Waits (s : PoolSnapshot) (st : UpState) (pod : PodView) (st' : UpState) : Prop where
  why : s.spec.scaleUp.enabled = false ∨ (takeBin pod st.bins = none ∧
    (s.canOpen st.opened.length ≠ none ∨ ∀ m ∈ st.offline, podFits pod m m.allocatable = false))
  bins : st'.bins = st.bins
  offline : st'.offline = st.offline
  opened : st'.opened = st.opened
  unplaced : ∃ why, st'.unplaced = st.unplaced ++ [why]

/-- The iteration puts the pod into a bin. -/
structure Joins (s : PoolSnapshot) (st : UpState) (pod : PodView) (st' : UpState) : Prop where
  enabled : s.spec.scaleUp.enabled = true
  bins : takeBin pod st.bins = some st'.bins
  offline : st'.offline = st.offline
  opened : st'.opened = st.opened
  unplaced : st'.unplaced = st.unplaced

/-- The iteration opens the machine `m` for the pod. -/
structure Opens (s : PoolSnapshot) (st : UpState) (pod : PodView) (m : Member)
    (before after : List Member) (st' : UpState) : Prop where
  enabled : s.spec.scaleUp.enabled = true
  noBin : takeBin pod st.bins = none
  canOpen : s.canOpen st.opened.length = none
  split : st.offline = before ++ m :: after
  fits : podFits pod m m.allocatable = true
  first : ∀ o ∈ before, podFits pod o o.allocatable = false
  bins : st'.bins = st.bins ++ [(m, m.allocatable.minus pod.requests)]
  offline : st'.offline = before ++ after
  opened : ∃ reason, st'.opened = st.opened ++ [(m.name, reason)]
  unplaced : st'.unplaced = st.unplaced

/-- **All that one iteration over a pending pod can do.** -/
theorem placePod_cases (st : UpState) (pod : PodView) :
    s.Waits st pod (s.placePod st pod) ∨ s.Joins st pod (s.placePod st pod) ∨
      ∃ m before after, s.Opens st pod m before after (s.placePod st pod) := by
  unfold placePod
  by_cases hen : s.spec.scaleUp.enabled = true
  · rw [if_neg (by simp [hen])]
    split
    · rename_i bins hbins
      exact Or.inr (Or.inl ⟨hen, hbins, rfl, rfl, rfl⟩)
    · rename_i hbins
      split
      · rename_i why hwhy
        exact Or.inl ⟨Or.inr ⟨hbins, Or.inl (by simp [hwhy])⟩, rfl, rfl, rfl, _, rfl⟩
      · rename_i hopen
        split
        · rename_i before m after hsplit
          obtain ⟨hl, hfits, hfirst⟩ := splitFirst_some hsplit
          exact Or.inr (Or.inr ⟨m, before, after, hen, hbins, hopen, hl, hfits, hfirst, rfl, rfl,
            ⟨_, rfl⟩, rfl⟩)
        · rename_i hsplit
          exact Or.inl ⟨Or.inr ⟨hbins, Or.inr (splitFirst_none hsplit)⟩, rfl, rfl, rfl, _, rfl⟩
  · rw [if_pos (by simpa using hen)]
    exact Or.inl ⟨Or.inl (by simpa using hen), rfl, rfl, rfl, _, rfl⟩

/-- **The invariant of the scale-up loops**: every machine that was off is
either opened or still off, and the machines opened fit under `maxOnline`. -/
structure Opening (s : PoolSnapshot) (opened : List (String × String)) (offline : List Member) :
    Prop where
  perm : (opened.map (·.1) ++ offline.map (·.name)).Perm (s.rankedUp.map (·.name))
  room : opened ≠ [] → s.onlineNow + opened.length ≤ s.maxOnline

/-- Opening one more machine, from anywhere in the list. -/
theorem Opening.open {opened : List (String × String)} {before after : List Member} {m : Member}
    (h : s.Opening opened (before ++ m :: after)) (reason : String)
    (hroom : s.onlineNow + opened.length < s.maxOnline) :
    s.Opening (opened ++ [(m.name, reason)]) (before ++ after) where
  perm := by
    refine List.Perm.trans ?_ h.perm
    simp only [List.map_append, List.map_cons, List.map_nil, List.append_assoc]
    apply List.Perm.append_left
    rw [List.singleton_append]
    exact List.perm_middle.symm
  room := by
    intro _
    rw [List.length_append, List.length_singleton]
    omega

/-- A pod opens a machine that is off, if any. -/
theorem opening_placePod {st : UpState} (pod : PodView) (h : s.Opening st.opened st.offline) :
    s.Opening (s.placePod st pod).opened (s.placePod st pod).offline := by
  rcases placePod_cases (s := s) st pod with hw | hj | ⟨m, before, after, ho⟩
  · rw [hw.opened, hw.offline]
    exact h
  · rw [hj.opened, hj.offline]
    exact h
  · obtain ⟨reason, hopened⟩ := ho.opened
    rw [hopened, ho.offline]
    rw [ho.split] at h
    exact h.open reason (canOpen_none.mp ho.canOpen).1

/-- The first loop opens machines that are off. -/
theorem opening_placePods (pods : List PodView) :
    ∀ {st : UpState}, s.Opening st.opened st.offline →
      s.Opening (pods.foldl s.placePod st).opened (pods.foldl s.placePod st).offline := by
  induction pods with
  | nil => intro st h; exact h
  | cons p pods ih =>
    intro st h
    exact ih (opening_placePod p h)

/-- The second loop opens machines that are off. -/
theorem opening_fillMinOnline {l : List Member} :
    ∀ {st : UpState}, s.Opening st.opened l →
      s.Opening (s.fillMinOnline st l).opened (s.fillMinOnline st l).offline := by
  -- on the machines still off, in power-on order
  induction l with
  | nil => intro st h; exact h
  | cons m rest ih =>
    intro st h
    unfold fillMinOnline
    split
    · rename_i hbelow
      exact ih (@Opening.open s _ [] rest m h _ hbelow.2)
    · exact h

/-- The packing loop opens machines that are off. -/
theorem opening_packPending (s : PoolSnapshot) :
    s.Opening s.packPending.opened s.packPending.offline := by
  apply opening_placePods
  exact ⟨List.Perm.refl _, fun hne => absurd rfl hne⟩

/-- **The invariant holds of the plan.** -/
theorem opening_scaledUp (s : PoolSnapshot) : s.Opening s.powerOn s.scaledUp.offline :=
  opening_fillMinOnline (opening_packPending s)

/-- The machines that may be opened are off, and `Auto`. -/
theorem mem_rankedUp {m : Member} :
    m ∈ s.rankedUp ↔ m ∈ s.members ∧ m.auto = true ∧ m.state = .offline := by
  simp [rankedUp]

/-- **A machine powered on is an `Auto` member that is off.** -/
theorem mem_powerOn {n : String} (h : n ∈ s.powerOn.map (·.1)) :
    ∃ m ∈ s.members, m.name = n ∧ m.auto = true ∧ m.state = .offline := by
  have hn : n ∈ s.rankedUp.map (·.name) :=
    (opening_scaledUp s).perm.mem_iff.mp (List.mem_append_left _ h)
  obtain ⟨m, hm, rfl⟩ := List.mem_map.mp hn
  obtain ⟨hmem, hauto, hoff⟩ := mem_rankedUp.mp hm
  exact ⟨m, hmem, rfl, hauto, hoff⟩

/-- Their names are distinct. -/
theorem DistinctMembers.rankedUp_nodup (h : s.DistinctMembers) :
    (s.rankedUp.map (·.name)).Nodup := by
  unfold rankedUp
  rw [((sortBy_perm _ _).map _).nodup_iff]
  exact (List.filter_sublist.map _).nodup h

/-- No machine is powered on twice. -/
theorem powerOn_nodup (h : s.DistinctMembers) : (s.powerOn.map (·.1)).Nodup := by
  have hall := (opening_scaledUp s).perm.nodup_iff.mpr h.rankedUp_nodup
  exact hall.sublist (List.sublist_append_left _ _)

/-! ## §2. The machines removed. -/

/-- The machines removed so far: some of the eligible ones handled, in order. -/
def Gone (st : DownState) (done : List Member) : Prop :=
  ∃ gone : List Member, gone.Sublist done ∧ st.powerOff.map (·.1) = gone.map (·.name)

/-- What the removal loop has removed. -/
theorem gone_scaledDown (hmay : s.mayScaleDown = true) : Gone s.scaledDown s.eligible :=
  scaledDown_induction (P := fun st done _ => Gone st done) hmay
    ⟨[], .slnil, rfl⟩
    (by
      intro st st' done m rest _ hk h
      obtain ⟨gone, hsub, hnames⟩ := h
      exact ⟨gone, hsub.trans (List.sublist_append_left _ _), by rw [hk.powerOff, hnames]⟩)
    (by
      intro st st' done m rest _ hr h
      obtain ⟨gone, hsub, hnames⟩ := h
      obtain ⟨reason, hoff⟩ := hr.powerOff
      refine ⟨gone ++ [m], hsub.append (List.Sublist.refl _), ?_⟩
      rw [hoff, List.map_append, hnames, List.map_append]
      rfl)

/-- No machine is powered off twice. -/
theorem powerOff_nodup (h : s.DistinctMembers) : (s.powerOff.map (·.1)).Nodup := by
  rcases scaledDown_cases (s := s) with ⟨hmay, _⟩ | ⟨_, hnil⟩
  · obtain ⟨gone, hsub, hnames⟩ := gone_scaledDown hmay
    show (s.scaledDown.powerOff.map (·.1)).Nodup
    rw [hnames]
    exact h.candidates_nodup.sublist ((hsub.trans List.filter_sublist).map _)
  · rw [hnil]
    exact List.nodup_nil

/-- Machines powered off have distinct names. -/
theorem powerOff_length (h : s.DistinctMembers) : s.powerOff.length = s.powerOffNames.card := by
  unfold powerOffNames
  rw [List.toFinset_card_of_nodup (powerOff_nodup h), List.length_map]

/-- A plan that powers machines off powers none on. -/
theorem powerOn_nil_of_powerOff (h : s.powerOff ≠ []) : s.powerOn = [] := by
  rcases scaledDown_cases (s := s) with ⟨hmay, _⟩ | ⟨_, hnil⟩
  · unfold mayScaleDown blockedReason at hmay
    by_cases hon : s.powerOn.isEmpty = true
    · simpa using hon
    · rw [if_pos (by simpa using hon)] at hmay
      cases hmay
  · exact absurd hnil h

/-! ## §3. What could fail. -/

/-- A subtraction of two `usize`, which fails below zero. -/
def usizeSub (a b : Nat) : Option Nat := if b ≤ a then some (a - b) else none

/-- `findSlot`, with the lookup `trial[key]` checked. -/
def findSlotChecked (trial : FreeMap) (p : PodView) :
    List EvictionTarget → Option (Option EvictionTarget)
  | [] => some none
  | t :: targets => do
    let free ← trial[t.key]?
    if free.fits p.requests && podMatchesNode p t.labels t.taints then some (some t)
    else findSlotChecked trial p targets

/-- `moveAll`, with the lookups `trial[key]` and `trial.get_mut(&key)` checked. -/
def moveAllChecked (targets : List EvictionTarget) :
    FreeMap → List PodView → Option (Option FreeMap)
  | trial, [] => some (some trial)
  | trial, p :: pods => do
    match ← findSlotChecked trial p targets with
    | some t =>
      let free ← trial[t.key]?
      moveAllChecked targets (trial.insert t.key (free.minus p.requests)) pods
    | none => some none

/-- The simulated eviction, `none` where a lookup would panic. -/
def tryEvictChecked (s : PoolSnapshot) (st : DownState) (m : Member) : Option (Option FreeMap) :=
  moveAllChecked (s.targets m st.removed) (st.free.erase m.name) (sortBy largestFirst m.movablePods)

/-- `removeStep`, with its subtraction and its lookups checked. -/
def removeStepChecked (s : PoolSnapshot) (budget : Nat) (st : DownState) (m : Member)
    (rest : List Member) : Option DownState :=
  if !(s.holders m).isEmpty || st.removed.size ≥ budget then some (s.removeStep st m rest)
  else do
    let left ← usizeSub s.onlineNow st.removed.size
    if left ≤ s.spec.minOnline then some (s.removeStep st m rest)
    else do
      let _ ← s.tryEvictChecked st m
      some (s.removeStep st m rest)

/-- The removal loop, `none` where it would panic. -/
def removeLoopChecked (s : PoolSnapshot) (budget : Nat) :
    DownState → List Member → Option DownState
  | st, [] => some st
  | st, m :: rest => do
    let st ← s.removeStepChecked budget st m rest
    s.removeLoopChecked budget st rest

/-- `budget`, with the subtraction that does not saturate checked. -/
def budgetChecked (s : PoolSnapshot) : Option Nat :=
  if s.overMax > 0 then some (max s.overMax (s.step - s.leaving)) else usizeSub s.step s.leaving

/-- The scale-down section, `none` where it would panic. -/
def scaledDownChecked (s : PoolSnapshot) : Option DownState :=
  if s.mayScaleDown then do
    let budget ← s.budgetChecked
    s.removeLoopChecked budget { free := s.freeAtStart } s.eligible
  else some s.scaledDown

/-- **`plan`, failing where the source would panic**: `online_now - removed.len()`,
`step - leaving`, `n - 1` of "(and n-1 more)", and the lookups in `trial` and
`down_notes`. -/
def planChecked (s : PoolSnapshot) : Option Plan := do
  let _ ← s.scaledDownChecked
  -- read for what overlapping pools are told and for the lines of the candidates
  let _ ← s.candidates.mapM (fun m => s.downNotes[m.name]?)
  -- read for the reason of doing nothing
  let _ ← s.unneeded.mapM (fun n => s.downNotes[n]?)
  let _ ← if s.scaledUp.unplaced.length ≤ 1 then some 0 else usizeSub s.scaledUp.unplaced.length 1
  some (plan s)

/-- A subtraction that does not go below 0. -/
theorem usizeSub_of_le {a b : Nat} (h : b ≤ a) : usizeSub a b = some (a - b) := if_pos h

/-- With every target in the map, no lookup fails. -/
theorem findSlotChecked_eq {trial : FreeMap} {p : PodView} :
    ∀ {targets : List EvictionTarget}, (∀ t ∈ targets, t.key ∈ trial) →
      findSlotChecked trial p targets = some (findSlot trial targets p) := by
  intro targets
  induction targets with
  | nil => intro _; rfl
  | cons t targets ih =>
    intro h
    have hkey : t.key ∈ trial := h t List.mem_cons_self
    have hrest := ih (fun t' ht' => h t' (List.mem_cons_of_mem _ ht'))
    obtain ⟨free, hfree⟩ := Option.isSome_iff_exists.mp (TreeMap.isSome_getElem?_iff_mem.mpr hkey)
    unfold findSlotChecked
    unfold findSlot at hrest ⊢
    rw [hfree, List.find?_cons, hfree]
    by_cases hfits : (free.fits p.requests && podMatchesNode p t.labels t.taints) = true
    · have hany : ((some free).any (·.fits p.requests) && podMatchesNode p t.labels t.taints)
          = true := hfits
      rw [hany]
      exact if_pos hfits
    · have hany : ((some free).any (·.fits p.requests) && podMatchesNode p t.labels t.taints)
          = false := by simpa using hfits
      rw [hany]
      exact (if_neg hfits).trans hrest

/-- No lookup fails while pods are moved: a key that was there stays. -/
theorem moveAllChecked_eq {targets : List EvictionTarget} (pods : List PodView) :
    ∀ {trial : FreeMap}, (∀ t ∈ targets, t.key ∈ trial) →
      moveAllChecked targets trial pods = some (moveAll targets trial pods) := by
  induction pods with
  | nil => intro trial _; rfl
  | cons p pods ih =>
    intro trial h
    unfold moveAllChecked moveAll
    rw [findSlotChecked_eq h]
    cases hslot : findSlot trial targets p with
    | none => rfl
    | some t =>
      have hkey : t.key ∈ trial := h t (List.mem_of_find?_eq_some hslot)
      obtain ⟨free, hfree⟩ :=
        Option.isSome_iff_exists.mp (TreeMap.isSome_getElem?_iff_mem.mpr hkey)
      simp only [hfree, Option.bind_eq_bind, Option.bind_some, Option.getD_some]
      apply ih
      intro t' ht'
      rw [TreeMap.mem_insert]
      exact Or.inr (h t' ht')

/-- No candidate is named like the key of an external node (a Node name has
no slash). -/
def CandidatesApart (s : PoolSnapshot) : Prop :=
  ∀ m ∈ s.candidates, ∀ e ∈ s.external, m.name ≠ externalKey e.name

/-- **The invariant of the lookups**: the map holds the room of every target
that has not been removed, and no more machines are removed than are on. -/
structure Roomy (s : PoolSnapshot) (st : DownState) : Prop where
  members : ∀ o ∈ s.members, isTarget o = true → o.name ∉ st.removed → o.name ∈ st.free
  external : ∀ e ∈ s.external, externalKey e.name ∈ st.free
  counted : s.Counted st

/-- The loop starts with every target in the map. -/
theorem roomy_start (s : PoolSnapshot) : s.Roomy { free := s.freeAtStart } where
  members := by
    intro o ho ht _
    unfold freeAtStart
    apply mem_insertAll_of_mem
    exact mem_insertAll_of_entry (List.mem_filter.mpr ⟨ho, ht⟩) rfl
  external := by
    intro e he
    unfold freeAtStart
    exact mem_insertAll_of_entry he rfl
  counted := counted_start s

/-- A machine kept stays in the map. -/
theorem Roomy.keep {st st' : DownState} (h : s.Roomy st) (hk : Keeps st st') : s.Roomy st' where
  members := by
    rw [hk.free, hk.removed]
    exact h.members
  external := by
    rw [hk.free]
    exact h.external
  counted := h.counted.keep hk

/-- Moves keep the keys of the map. -/
theorem mem_of_moveAll {targets : List EvictionTarget} {k : String} (pods : List PodView) :
    ∀ {trial trial' : FreeMap}, moveAll targets trial pods = some trial' → k ∈ trial →
      k ∈ trial' := by
  induction pods with
  | nil =>
    intro trial trial' h hk
    cases h
    exact hk
  | cons p pods ih =>
    intro trial trial' h hk
    unfold moveAll at h
    split at h
    · apply ih h
      rw [TreeMap.mem_insert]
      exact Or.inr hk
    · cases h

/-- Erasing a key keeps the others. -/
theorem mem_erase_of_ne {free : FreeMap} {k n : String} (h : k ∈ free) (hne : k ≠ n) :
    k ∈ free.erase n := by
  rw [TreeMap.mem_erase]
  exact ⟨fun he => hne (Std.LawfulEqOrd.eq_of_compare he).symm, h⟩

/-- A machine removed is no target any more. -/
theorem Roomy.remove (ha : s.CandidatesApart) {st st' : DownState} {m : Member}
    (h : s.Roomy st) (hm : m ∈ s.candidates) (hr : s.Removes st m st') : s.Roomy st' where
  members := by
    intro o ho ht hnot
    rw [hr.removed, TreeSet.mem_insert, not_or] at hnot
    obtain ⟨hne, hold⟩ := hnot
    have hname : o.name ≠ m.name := by
      intro he
      rw [he] at hne
      exact hne Std.ReflOrd.compare_self
    exact mem_of_moveAll _ hr.tryEvict (mem_erase_of_ne (h.members o ho ht hold) hname)
  external := by
    intro e he
    exact mem_of_moveAll _ hr.tryEvict
      (mem_erase_of_ne (h.external e he) (fun hc => ha m hm e he hc.symm))
  counted := h.counted.remove hr

/-- The room of every target tried for a candidate is in the map. -/
theorem Roomy.target_mem (ha : s.CandidatesApart) {st : DownState} {m : Member}
    (h : s.Roomy st) (hm : m ∈ s.candidates) {t : EvictionTarget}
    (ht : t ∈ s.targets m st.removed) : t.key ∈ st.free.erase m.name := by
  unfold targets at ht
  simp only [List.mem_append, List.mem_map, List.mem_filter, Bool.and_eq_true, bne_iff_ne,
    Bool.not_eq_true'] at ht
  rcases ht with ⟨o, ⟨ho, ⟨hto, hne⟩, hnr⟩, rfl⟩ | ⟨e, he, rfl⟩
  · apply mem_erase_of_ne _ hne
    apply h.members o ho hto
    rw [TreeSet.mem_iff_contains, hnr]
    simp
  · exact mem_erase_of_ne (h.external e he) (fun hc => ha m hm e he hc.symm)

/-- No more are removed than are on. -/
theorem removed_le_onlineNow {st : DownState} (h : s.Counted st) :
    st.removed.size ≤ s.onlineNow := h.le_room.trans (Nat.sub_le _ _)

/-- One turn does not panic. -/
theorem removeStepChecked_eq (ha : s.CandidatesApart) {st : DownState} {m : Member}
    (h : s.Roomy st) (hm : m ∈ s.candidates) (rest : List Member) :
    s.removeStepChecked s.budget st m rest = some (s.removeStep st m rest) := by
  unfold removeStepChecked
  by_cases hfirst : (!(s.holders m).isEmpty || st.removed.size ≥ s.budget) = true
  · rw [if_pos hfirst]
  · rw [if_neg hfirst, usizeSub_of_le (removed_le_onlineNow h.counted)]
    simp only [Option.bind_eq_bind, Option.bind_some]
    by_cases hmin : s.onlineNow - st.removed.size ≤ s.spec.minOnline
    · rw [if_pos hmin]
    · rw [if_neg hmin]
      unfold tryEvictChecked
      rw [moveAllChecked_eq _ (fun t ht => h.target_mem ha hm ht)]
      rfl

/-- The loop does not panic. -/
theorem removeLoopChecked_eq (ha : s.CandidatesApart) {l : List Member} :
    ∀ {st : DownState}, (∀ m ∈ l, m ∈ s.candidates) → s.Roomy st →
      s.removeLoopChecked s.budget st l = some (s.removeLoop st l) := by
  induction l with
  | nil => intro st _ _; rfl
  | cons m rest ih =>
    intro st hsub h
    have hm : m ∈ s.candidates := hsub m List.mem_cons_self
    unfold removeLoopChecked removeLoop
    rw [removeStepChecked_eq ha h hm rest]
    apply ih (fun m' hm' => hsub m' (List.mem_cons_of_mem _ hm'))
    rcases removeStep_cases st m rest with hk | hr
    · exact h.keep hk
    · exact h.remove ha hm hr

/-- **The scale-down section does not panic.** -/
theorem scaledDownChecked_eq (ha : s.CandidatesApart) :
    s.scaledDownChecked = some s.scaledDown := by
  unfold scaledDownChecked
  by_cases hmay : s.mayScaleDown = true
  · rw [if_pos hmay]
    have hbudget : s.budgetChecked = some s.budget := by
      unfold budgetChecked budget
      by_cases hover : s.overMax > 0
      · rw [if_pos hover, if_pos hover]
      -- not above `maxOnline` the loop runs with fewer than a step leaving
      · rw [if_neg hover, if_neg hover]
        apply usizeSub_of_le
        unfold mayScaleDown at hmay
        simp only [Bool.and_eq_true, Bool.or_eq_true, decide_eq_true_eq] at hmay
        omega
    rw [hbudget]
    show s.removeLoopChecked s.budget { free := s.freeAtStart } s.eligible = _
    rw [removeLoopChecked_eq ha (fun m hm => (mem_eligible.mp hm).1) (roomy_start s)]
    unfold scaledDown
    rw [if_pos hmay]
  · rw [if_neg hmay]

/-- Every candidate has a note. -/
theorem downNotes_mem {m : Member} (hm : m ∈ s.candidates) : m.name ∈ s.downNotes := by
  unfold downNotes
  exact mem_insertAll_of_entry hm rfl

/-- A list is read element by element exactly if each element is read. -/
theorem isSome_mapM_iff {α β : Type} {f : α → Option β} {l : List α} :
    (l.mapM f).isSome = true ↔ ∀ x ∈ l, (f x).isSome = true := by
  induction l with
  | nil => exact iff_of_true rfl (fun x hx => by cases hx)
  | cons x l ih =>
    rw [List.mapM_cons, List.forall_mem_cons, ← ih]
    cases f x with
    | none => simp
    | some y => cases l.mapM f <;> simp

/-- **Nothing fails**: the checked plan is the plan. -/
theorem planChecked_eq (ha : s.CandidatesApart) : s.planChecked = some (plan s) := by
  have hcandidates : ∀ m ∈ s.candidates, (s.downNotes[m.name]?).isSome = true :=
    fun m hm => TreeMap.isSome_getElem?_iff_mem.mpr (downNotes_mem hm)
  obtain ⟨notes, hnotes⟩ := Option.isSome_iff_exists.mp (isSome_mapM_iff.mpr hcandidates)
  have hneeded : ∀ n ∈ s.unneeded, (s.downNotes[n]?).isSome = true := by
    intro n hn
    obtain ⟨m, hm, rfl⟩ := List.mem_map.mp hn
    exact hcandidates m (List.mem_filter.mp hm).1
  obtain ⟨unneeded, hunneeded⟩ := Option.isSome_iff_exists.mp (isSome_mapM_iff.mpr hneeded)
  unfold planChecked
  rw [scaledDownChecked_eq ha, hnotes, hunneeded]
  by_cases hmore : s.scaledUp.unplaced.length ≤ 1
  · rw [if_pos hmore]
    rfl
  · rw [if_neg hmore, usizeSub_of_le (by omega)]
    rfl

/-! ## §4. The bounds. -/

/-- **The bounds of a plan**, for every setting of the pool: it never powers
machines on and off at once and names none twice; what it powers on is off and
`Auto` and fits under `maxOnline`; what it powers off leaves `minOnline`
machines and, below `maxOnline`, keeps to the step.  With no candidate named
like an external node's key nothing in it fails. -/
theorem plan_within_bounds (s : PoolSnapshot) (hd : s.DistinctMembers) :
    ((plan s).powerOn = [] ∨ (plan s).powerOff = []) ∧
    (((plan s).powerOn ++ (plan s).powerOff).map (·.1)).Nodup ∧
    (∀ n ∈ (plan s).powerOn.map (·.1),
      ∃ m ∈ s.members, m.name = n ∧ m.auto = true ∧ m.state = .offline) ∧
    ((plan s).powerOn ≠ [] → s.onlineNow + (plan s).powerOn.length ≤ s.maxOnline) ∧
    ((plan s).powerOff ≠ [] →
      s.spec.minOnline + (plan s).powerOff.length ≤ s.onlineNow) ∧
    (s.onlineNow ≤ s.maxOnline → (plan s).powerOff ≠ [] →
      (plan s).powerOff.length + s.leaving ≤ max 1 s.spec.scaleDown.maxNodesPerStep) ∧
    (s.CandidatesApart → s.planChecked = some (plan s)) := by
  -- a machine that is powered on bars every power-off of the same plan
  have honce : s.powerOn = [] ∨ s.powerOff = [] := by
    by_cases hoff : s.powerOff = []
    · exact Or.inr hoff
    · exact Or.inl (powerOn_nil_of_powerOff hoff)
  obtain ⟨hbudget, hroom⟩ := powerOff_card_le (s := s)
  rw [← powerOff_length hd] at hbudget hroom
  refine ⟨honce, ?_, fun n hn => mem_powerOn hn, (opening_scaledUp s).room, ?_, ?_,
    planChecked_eq⟩
  · show ((s.powerOn ++ s.powerOff).map (·.1)).Nodup
    rcases honce with hnil | hnil
    · rw [hnil, List.nil_append]
      exact powerOff_nodup hd
    · rw [hnil, List.append_nil]
      exact powerOn_nodup hd
  · intro hne
    have hpos : 0 < s.powerOff.length := List.length_pos_iff.mpr hne
    show s.spec.minOnline + s.powerOff.length ≤ s.onlineNow
    omega
  · intro hmax hne
    -- at or below maxOnline the budget is the step, less those on their way out
    have hover : ¬ s.overMax > 0 := by
      unfold overMax
      omega
    have hmay : s.mayScaleDown = true := by
      rcases scaledDown_cases (s := s) with ⟨hmay, _⟩ | ⟨_, hnil⟩
      · exact hmay
      · exact absurd hnil hne
    unfold mayScaleDown at hmay
    simp only [Bool.and_eq_true, Bool.or_eq_true, decide_eq_true_eq] at hmay
    unfold budget at hbudget
    rw [if_neg hover] at hbudget
    have hstep : s.step = max 1 s.spec.scaleDown.maxNodesPerStep := Nat.max_comm _ _
    show s.powerOff.length + s.leaving ≤ _
    omega

/-- Two machines that are on, `full` and an idle one called `name`; the idle
one's pod fits the node `node` outside the pool. -/
def twoOnline (name node : String) : PoolSnapshot where
  spec := { minOnline := 1, maxOnline := some 2, scaleDown := { maxNodesPerStep := 0 } }
  members :=
    [{ name := "full", state := .online, auto := true
       allocatable := { cpuMillis := 4000, pods := 10 }
       requested := { cpuMillis := 4000, pods := 1 }
       counted := { cpuMillis := 4000, pods := 1 } },
     { name := name, state := .online, auto := true
       allocatable := { cpuMillis := 4000, pods := 10 }
       movablePods := [{ name := "p", requests := { cpuMillis := 1000, pods := 1 } }] }]
  external := [{ name := node, free := { cpuMillis := 4000, pods := 10 } }]
  now := seconds 3600
  unneededSince := (∅ : TreeMap String Int).insert name 0

/-- A step of 0 lets one machine go, and one stays on. -/
theorem one_powered_off :
    (plan (twoOnline "idle" "base")).powerOff ≠ [] ∧
    1 + (plan (twoOnline "idle" "base")).powerOff.length ≤ (twoOnline "idle" "base").onlineNow ∧
    (twoOnline "idle" "base").planChecked = some (plan (twoOnline "idle" "base")) := by
  have hd : (twoOnline "idle" "base").DistinctMembers := by
    show ["full", "idle"].Nodup
    decide
  have hoff : (plan (twoOnline "idle" "base")).powerOff ≠ [] := by decide +kernel
  obtain ⟨_, _, _, _, hmin, _, hchecked⟩ := plan_within_bounds (twoOnline "idle" "base") hd
  exact ⟨hoff, hmin hoff, hchecked (by unfold CandidatesApart; decide +kernel)⟩

/-- **A lookup fails** when a member to power off is named like an external
node's key: taking its room out of the map takes the node's. -/
theorem slashed_name_fails :
    (twoOnline "external/base" "base").DistinctMembers ∧
      (twoOnline "external/base" "base").planChecked = none := by
  constructor
  · show ["full", "external/base"].Nodup
    decide
  · have hnone : (twoOnline "external/base" "base").scaledDownChecked.isNone = true := by
      decide +kernel
    unfold planChecked
    rw [Option.isNone_iff_eq_none.mp hnone]
    rfl

end PoolSnapshot

end HardwareAutoscaler
