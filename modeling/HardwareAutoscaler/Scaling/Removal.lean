/-
  HardwareAutoscaler.Scaling.Removal
  ──────────────────────────────────
  THE RULES OF THE REMOVAL LOOP.

  Every result about `powerOff` is an invariant of `removeLoop`.  What one
  iteration can do is said once, and every invariant is derived from it:

    • `removeStep_cases` — an iteration keeps its machine (`Keeps`) or
      removes it (`Removes`),
    • `removeLoop_induction` — the loop rule, with what is still to come,
    • `scaledDown_induction` — the same for the state `powerOff` is read from,
    • `mem_powerOff` — a machine powered off is an eligible candidate no
      other pool holds,
    • `powerOff_card_le` — how many machines are powered off at most,
    • `takes` / `staysWithin` — the tests a machine has to pass on its turn,
      and the loop with a limit on the machines of one kind,
    • `powerOff_flagged_le_iff` — when the plan keeps such a limit.
-/
import HardwareAutoscaler.Scaling.Plan
import Mathlib.Data.Finset.Card

namespace HardwareAutoscaler

open Std (TreeMap TreeSet)

namespace PoolSnapshot

variable {s : PoolSnapshot}

/-! ## §1. Candidates. -/

/-- The candidates are online and `Auto`. -/
theorem mem_candidates {m : Member} :
    m ∈ s.candidates ↔ m ∈ s.members ∧ m.auto = true ∧ m.state = .online := by
  simp [candidates]

/-- The eligible machines are candidates. -/
theorem mem_eligible {m : Member} :
    m ∈ s.eligible ↔ m ∈ s.candidates ∧ s.isEligible m = true := by
  simp [eligible]

/-- Member names are object names: no two members share one. -/
def DistinctMembers (s : PoolSnapshot) : Prop := (s.members.map (·.name)).Nodup

/-- With distinct names a member is determined by its name. -/
theorem DistinctMembers.eq_of_name (h : s.DistinctMembers) {m m' : Member}
    (hm : m ∈ s.members) (hm' : m' ∈ s.members) (hn : m.name = m'.name) : m = m' :=
  List.inj_on_of_nodup_map h hm hm' hn

theorem DistinctMembers.candidates_nodup (h : s.DistinctMembers) :
    (s.candidates.map (·.name)).Nodup := by
  unfold candidates
  rw [((sortBy_perm _ _).map _).nodup_iff]
  exact (List.filter_sublist.map _).nodup h

/-- A timer comes from a candidate that is unneeded now. -/
theorem newUnneededSince_some {n : String} {t : Int} (h : s.newUnneededSince[n]? = some t) :
    ∃ m ∈ s.candidates, m.name = n ∧ s.downStatus m = .unneeded t := by
  unfold newUnneededSince at h
  rcases Lib.insertAll_some h with ⟨m, hm, hentry⟩ | h
  · refine ⟨m, hm, ?_⟩
    split at hentry
    · rename_i since hst
      cases hentry
      exact ⟨rfl, hst⟩
    · cases hentry
  · rw [TreeMap.getElem?_emptyc] at h
    cases h

/-- An unneeded candidate has no blocking pods. -/
theorem blockingPods_of_unneeded {m : Member} {t : Int} (h : s.downStatus m = .unneeded t) :
    m.blockingPods = [] := by
  unfold downStatus at h
  split at h
  · cases h
  · split at h
    · cases h
    · rename_i hb
      simpa using hb

/-- **Whatever makes a machine eligible, no pod blocks its drain.** -/
theorem blockingPods_of_isEligible (hd : s.DistinctMembers) {m : Member}
    (hm : m ∈ s.candidates) (h : s.isEligible m = true) : m.blockingPods = [] := by
  unfold isEligible at h
  simp only [Bool.or_eq_true, Bool.and_eq_true] at h
  rcases h with (⟨_, hb⟩ | hexp) | hrel
  · simpa using hb
  -- its timer is new: this plan has found the machine unneeded
  · unfold expired at hexp
    rw [Option.any_eq_true] at hexp
    obtain ⟨t, ht, _⟩ := hexp
    obtain ⟨m', hm', hname, hst⟩ := newUnneededSince_some ht
    have : m' = m :=
      hd.eq_of_name (mem_candidates.mp hm').1 (mem_candidates.mp hm).1 hname
    rw [← this]
    exact blockingPods_of_unneeded hst
  · unfold released at hrel
    simp only [Bool.and_eq_true] at hrel
    simpa using hrel.2

/-! ## §2. One iteration. -/

/-- The iteration keeps its machine on. -/
structure Keeps (st st' : DownState) : Prop where
  free : st'.free = st.free
  removed : st'.removed = st.removed
  powerOff : st'.powerOff = st.powerOff

/-- The iteration removes the machine `m`. -/
structure Removes (s : PoolSnapshot) (st : DownState) (m : Member) (st' : DownState) : Prop where
  unheld : s.holders m = []
  size_lt : st.removed.size < s.budget
  minOnline_lt : s.spec.minOnline < s.onlineNow - st.removed.size
  tryEvict : s.tryEvict st m = some st'.free
  removed : st'.removed = st.removed.insert m.name
  powerOff : ∃ reason, st'.powerOff = st.powerOff ++ [(m.name, reason)]

/-- **All that one iteration can do.** -/
theorem removeStep_cases (st : DownState) (m : Member) (rest : List Member) :
    Keeps st (s.removeStep st m rest) ∨ s.Removes st m (s.removeStep st m rest) := by
  unfold removeStep
  split
  · exact Or.inl ⟨rfl, rfl, rfl⟩
  · rename_i hheld
    split
    · exact Or.inl ⟨rfl, rfl, rfl⟩
    · rename_i hbudget
      split
      · exact Or.inl ⟨rfl, rfl, rfl⟩
      · rename_i hmin
        split
        · rename_i trial htrial
          refine Or.inr ⟨by simpa using hheld, by omega, by omega, htrial, rfl, _, rfl⟩
        · exact Or.inl ⟨rfl, rfl, rfl⟩

/-- The tests of one turn: no other pool holds the machine, neither the budget
nor `minOnline` is reached, and its pods fit elsewhere. -/
def takes (s : PoolSnapshot) (st : DownState) (m : Member) : Bool :=
  (s.holders m).isEmpty && st.removed.size < s.budget
    && s.spec.minOnline < s.onlineNow - st.removed.size && (s.tryEvict st m).isSome

/-- A machine that is not taken is kept. -/
theorem keeps_of_not_takes {st : DownState} {m : Member} (rest : List Member)
    (h : s.takes st m = false) : Keeps st (s.removeStep st m rest) := by
  rcases removeStep_cases st m rest with hk | hr
  · exact hk
  · have htakes : s.takes st m = true := by
      unfold takes
      simp [hr.unheld, hr.size_lt, hr.minOnline_lt, hr.tryEvict]
    rw [htakes] at h
    cases h

/-- A machine that is taken is removed. -/
theorem removes_of_takes {st : DownState} {m : Member} (rest : List Member)
    (h : s.takes st m = true) : s.Removes st m (s.removeStep st m rest) := by
  unfold takes at h
  simp only [Bool.and_eq_true, decide_eq_true_eq, Option.isSome_iff_exists] at h
  obtain ⟨⟨⟨hheld, hbudget⟩, hmin⟩, trial, htrial⟩ := h
  unfold removeStep
  rw [if_neg (by simp [hheld]), if_neg (by omega), if_neg (by omega), htrial]
  exact ⟨List.isEmpty_iff.mp hheld, hbudget, hmin, htrial, rfl, _, rfl⟩

/-! ## §3. The loop rule. -/

/-- **Loop rule**: an invariant over the state and the machines still to
come, kept by both kinds of iteration, holds when the loop ends. -/
theorem removeLoop_induction {P : DownState → List Member → Prop}
    (hkeep : ∀ st st' m rest, Keeps st st' → P st (m :: rest) → P st' rest)
    (hremove : ∀ st st' m rest, s.Removes st m st' → P st (m :: rest) → P st' rest) :
    ∀ (l : List Member) (st : DownState), P st l → P (s.removeLoop st l) [] := by
  intro l
  induction l with
  | nil => intro st h; exact h
  | cons m rest ih =>
    intro st h
    unfold removeLoop
    apply ih
    rcases removeStep_cases st m rest with hk | hr
    · exact hkeep st _ m rest hk h
    · exact hremove st _ m rest hr h

/-- The state `powerOff` is read from: the loop's, or one in which no machine
was removed. -/
theorem scaledDown_cases :
    (s.mayScaleDown = true ∧ s.scaledDown = s.removeLoop { free := s.freeAtStart } s.eligible) ∨
    (s.mayScaleDown = false ∧ s.powerOff = []) := by
  unfold powerOff scaledDown
  by_cases h : s.mayScaleDown = true
  · exact Or.inl ⟨h, by simp [h]⟩
  · refine Or.inr ⟨by simpa using h, ?_⟩
    rw [if_neg h]
    split <;> rfl

/-- **Loop rule for `powerOff`**: with the machines already handled as the
prefix of the eligible ones. -/
theorem scaledDown_induction {P : DownState → List Member → List Member → Prop}
    (hmay : s.mayScaleDown = true)
    (hinit : P { free := s.freeAtStart } [] s.eligible)
    (hkeep : ∀ st st' done m rest, done ++ m :: rest = s.eligible → Keeps st st' →
      P st done (m :: rest) → P st' (done ++ [m]) rest)
    (hremove : ∀ st st' done m rest, done ++ m :: rest = s.eligible → s.Removes st m st' →
      P st done (m :: rest) → P st' (done ++ [m]) rest) :
    P s.scaledDown s.eligible [] := by
  have hloop := removeLoop_induction (s := s)
    (P := fun st rest => ∃ done, done ++ rest = s.eligible ∧ P st done rest)
    (by
      rintro st st' m rest hk ⟨done, hsplit, h⟩
      exact ⟨done ++ [m], by simpa using hsplit, hkeep st st' done m rest hsplit hk h⟩)
    (by
      rintro st st' m rest hr ⟨done, hsplit, h⟩
      exact ⟨done ++ [m], by simpa using hsplit, hremove st st' done m rest hsplit hr h⟩)
    s.eligible { free := s.freeAtStart } ⟨[], rfl, hinit⟩
  -- nothing is left, so the handled prefix is the whole list
  obtain ⟨done, hsplit, h⟩ := hloop
  rw [List.append_nil] at hsplit
  rcases scaledDown_cases (s := s) with ⟨_, he⟩ | ⟨hno, _⟩
  · rw [he, ← hsplit]
    rw [← hsplit] at h
    exact h
  · rw [hmay] at hno
    cases hno

/-! ## §4. What every plan keeps. -/

/-- The names of the machines a state has removed. -/
def DownState.names (st : DownState) : Finset String := (st.powerOff.map (·.1)).toFinset

theorem names_of_removes {st st' : DownState} {m : Member} (h : s.Removes st m st') :
    st'.names = insert m.name st.names := by
  obtain ⟨reason, hp⟩ := h.powerOff
  unfold DownState.names
  rw [hp]
  ext n
  simp

/-- The bookkeeping of the loop: `removed` is the set of names in `powerOff`,
its size is within the budget and leaves `minOnline` machines. -/
structure Counted (s : PoolSnapshot) (st : DownState) : Prop where
  removed_iff : ∀ n, n ∈ st.removed ↔ n ∈ st.names
  size_eq : st.removed.size = st.names.card
  le_budget : st.removed.size ≤ s.budget
  le_room : st.removed.size ≤ s.onlineNow - s.spec.minOnline

/-- The loop starts with nothing removed. -/
theorem counted_start (s : PoolSnapshot) : s.Counted { free := s.freeAtStart } where
  removed_iff := by simp [DownState.names]
  size_eq := by simp [DownState.names]
  le_budget := by simp
  le_room := by simp

/-- A machine kept is not counted. -/
theorem Counted.keep {st st' : DownState} (h : s.Counted st) (hk : Keeps st st') :
    s.Counted st' := by
  have hn : st'.names = st.names := by
    unfold DownState.names
    rw [hk.powerOff]
  constructor
  · rw [hk.removed, hn]; exact h.removed_iff
  · rw [hk.removed, hn]; exact h.size_eq
  · rw [hk.removed]; exact h.le_budget
  · rw [hk.removed]; exact h.le_room

/-- A machine removed is counted. -/
theorem Counted.remove {st st' : DownState} {m : Member} (h : s.Counted st)
    (hr : s.Removes st m st') : s.Counted st' := by
  have hsize : st'.removed.size = if m.name ∈ st.removed then st.removed.size
      else st.removed.size + 1 := by
    rw [hr.removed, TreeSet.size_insert]
    rfl
  have hlt := hr.size_lt
  have hmin := hr.minOnline_lt
  constructor
  · intro n
    rw [hr.removed, names_of_removes hr, TreeSet.mem_insert, Finset.mem_insert, h.removed_iff]
    constructor
    · rintro (he | hn)
      · exact Or.inl (Std.LawfulEqOrd.eq_of_compare he).symm
      · exact Or.inr hn
    · rintro (rfl | hn)
      · exact Or.inl Std.ReflOrd.compare_self
      · exact Or.inr hn
  -- a machine removed twice would not count twice on either side
  · rw [names_of_removes hr, hsize]
    by_cases hin : m.name ∈ st.removed
    · rw [if_pos hin, Finset.insert_eq_of_mem ((h.removed_iff _).mp hin), h.size_eq]
    · rw [if_neg hin, Finset.card_insert_of_notMem (fun hc => hin ((h.removed_iff _).mpr hc)),
        h.size_eq]
  · split at hsize <;> omega
  · split at hsize <;> omega

/-- What is known of every name in `powerOff`. -/
def FromEligible (s : PoolSnapshot) (st : DownState) : Prop :=
  ∀ n ∈ st.names, ∃ m ∈ s.eligible, m.name = n ∧ s.holders m = []

/-- The names of the machines to power off. -/
def powerOffNames (s : PoolSnapshot) : Finset String := (s.powerOff.map (·.1)).toFinset

/-- **A machine powered off is an eligible candidate no other pool holds**,
and the plan was allowed to scale down. -/
theorem mem_powerOff {n : String} (h : n ∈ s.powerOffNames) :
    s.mayScaleDown = true ∧ ∃ m ∈ s.eligible, m.name = n ∧ s.holders m = [] := by
  rcases scaledDown_cases (s := s) with ⟨hmay, _⟩ | ⟨_, hnil⟩
  · refine ⟨hmay, ?_⟩
    have hall : s.FromEligible s.scaledDown :=
      scaledDown_induction (P := fun st _ _ => s.FromEligible st) hmay
        (by intro n hn; simp [DownState.names] at hn)
        (by
          intro st st' done m rest _ hk ih n hn
          apply ih n
          unfold DownState.names at hn ⊢
          rwa [hk.powerOff] at hn)
        (by
          intro st st' done m rest hsplit hr ih n hn
          rw [names_of_removes hr, Finset.mem_insert] at hn
          rcases hn with rfl | hn
          · refine ⟨m, ?_, rfl, hr.unheld⟩
            rw [← hsplit]
            simp
          · exact ih n hn)
    exact hall n h
  · rw [powerOffNames, hnil] at h
    simp at h

/-- **How many machines are powered off at most.** -/
theorem powerOff_card_le :
    s.powerOffNames.card ≤ s.budget ∧
    s.powerOffNames.card ≤ s.onlineNow - s.spec.minOnline := by
  rcases scaledDown_cases (s := s) with ⟨hmay, _⟩ | ⟨_, hnil⟩
  · have h : s.Counted s.scaledDown :=
      scaledDown_induction (P := fun st _ _ => s.Counted st) hmay (counted_start s)
        (fun st st' done m rest _ hk ih => ih.keep hk)
        (fun st st' done m rest _ hr ih => ih.remove hr)
    have hcard : s.powerOffNames.card = s.scaledDown.removed.size := h.size_eq.symm
    rw [hcard]
    exact ⟨h.le_budget, h.le_room⟩
  · rw [powerOffNames, hnil]
    simp

/-- A name in `powerOff` stays there. -/
theorem mem_names_removeStep {st : DownState} {m : Member} {rest : List Member} {n : String}
    (h : n ∈ st.names) : n ∈ (s.removeStep st m rest).names := by
  rcases removeStep_cases st m rest with hk | hr
  · unfold DownState.names
    rw [hk.powerOff]
    exact h
  · rw [names_of_removes hr]
    exact Finset.mem_insert_of_mem h

/-- A machine removed stays so. -/
theorem mem_names_removeLoop {n : String} (l : List Member) :
    ∀ {st : DownState}, n ∈ st.names → n ∈ (s.removeLoop st l).names := by
  induction l with
  | nil => intro st h; exact h
  | cons m rest ih =>
    intro st h
    exact ih (mem_names_removeStep h)

/-! ## §5. Some of the machines removed. -/

/-- Goes through the machines as the removal loop does and allows it `k` of
those with the flag, each counted once; `false` as soon as one more of them
would be taken. -/
def staysWithin (s : PoolSnapshot) (flag : String → Bool) : Nat → DownState → List Member → Bool
  | _, _, [] => true
  | k, st, m :: rest =>
    if flag m.name && s.takes st m && !st.removed.contains m.name then
      match k with
      | 0 => false
      | k + 1 => s.staysWithin flag k (s.removeStep st m rest) rest
    else s.staysWithin flag k (s.removeStep st m rest) rest

/-- The machines removed that have the flag. -/
def DownState.flagged (st : DownState) (flag : String → Bool) : Finset String :=
  st.names.filter (fun n => flag n)

theorem Counted.step {st : DownState} (h : s.Counted st) (m : Member) (rest : List Member) :
    s.Counted (s.removeStep st m rest) := by
  rcases removeStep_cases st m rest with hk | hr
  · exact h.keep hk
  · exact h.remove hr

theorem flagged_mono (flag : String → Bool) {st : DownState} (l : List Member) :
    st.flagged flag ⊆ (s.removeLoop st l).flagged flag := by
  intro n hn
  obtain ⟨hmem, hflag⟩ := Finset.mem_filter.mp hn
  exact Finset.mem_filter.mpr ⟨mem_names_removeLoop l hmem, hflag⟩

/-- One turn: one more machine with the flag, if such a one is taken. -/
theorem flagged_step (flag : String → Bool) {st : DownState} (h : s.Counted st) (m : Member)
    (rest : List Member) :
    ((s.removeStep st m rest).flagged flag).card = (st.flagged flag).card +
      if flag m.name && s.takes st m && !st.removed.contains m.name then 1 else 0 := by
  unfold DownState.flagged
  by_cases ht : s.takes st m = true
  · rw [names_of_removes (removes_of_takes rest ht), Finset.filter_insert]
    by_cases hflag : flag m.name = true
    · by_cases hin : m.name ∈ st.names
      · have hcontains : st.removed.contains m.name = true :=
          TreeSet.contains_iff_mem.mpr ((h.removed_iff _).mpr hin)
        rw [if_pos hflag, Finset.insert_eq_of_mem (Finset.mem_filter.mpr ⟨hin, hflag⟩)]
        simp [hcontains]
      · have hcontains : st.removed.contains m.name = false := by
          rw [Bool.eq_false_iff]
          intro hc
          exact hin ((h.removed_iff _).mp (TreeSet.contains_iff_mem.mp hc))
        rw [if_pos hflag, Finset.card_insert_of_notMem
          (fun hc => hin (Finset.mem_filter.mp hc).1)]
        simp [hflag, ht, hcontains]
    · rw [if_neg hflag]
      simp [hflag]
  · have hk := keeps_of_not_takes rest (by simpa using ht)
    have hnames : (s.removeStep st m rest).names = st.names := by
      unfold DownState.names
      rw [hk.powerOff]
    rw [hnames]
    simp [ht]

/-- **The loop removes at most `k` machines with the flag exactly when** it
would not take one more after `k`. -/
theorem staysWithin_iff (flag : String → Bool) (l : List Member) :
    ∀ {k : Nat} {st : DownState}, s.Counted st →
      (((s.removeLoop st l).flagged flag).card ≤ (st.flagged flag).card + k ↔
        s.staysWithin flag k st l = true) := by
  induction l with
  | nil =>
    intro k st _
    exact iff_of_true (Nat.le_add_right _ _) rfl
  | cons m rest ih =>
    intro k st h
    have hstep := flagged_step flag h m rest
    have hnext := h.step m rest
    unfold removeLoop staysWithin
    split
    · rename_i htaken
      rw [if_pos htaken] at hstep
      cases k with
      | zero =>
        -- one with the flag goes, and stays among those removed
        have hmore : ((s.removeStep st m rest).flagged flag).card
            ≤ ((s.removeLoop (s.removeStep st m rest) rest).flagged flag).card :=
          Finset.card_le_card (flagged_mono flag rest)
        refine iff_of_false ?_ (by simp)
        omega
      | succ k =>
        rw [← ih hnext, hstep]
        omega
    · rename_i htaken
      rw [if_neg htaken] at hstep
      rw [← ih hnext, hstep]
      omega

/-- **How many machines with the flag a plan powers off.** -/
theorem powerOff_flagged_le_iff (flag : String → Bool) (k : Nat) :
    (s.powerOffNames.filter (fun n => flag n)).card ≤ k ↔
      (s.mayScaleDown = true → s.staysWithin flag k { free := s.freeAtStart } s.eligible = true) := by
  rcases scaledDown_cases (s := s) with ⟨hmay, hloop⟩ | ⟨hno, hnil⟩
  · have hiff := staysWithin_iff flag s.eligible (k := k) (counted_start s)
    have hstart : ((({ free := s.freeAtStart } : DownState)).flagged flag).card = 0 := by
      simp [DownState.flagged, DownState.names]
    rw [hstart, Nat.zero_add, ← hloop] at hiff
    exact hiff.trans ⟨fun h _ => h, fun h => h hmay⟩
  · refine iff_of_true ?_ (fun hmay => ?_)
    · rw [powerOffNames, hnil]
      simp
    · rw [hno] at hmay
      cases hmay

end PoolSnapshot

end HardwareAutoscaler
