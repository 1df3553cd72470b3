/-
  HardwareAutoscaler.Scaling.Published
  ────────────────────────────────────
  WHAT A POOL TELLS THE OTHERS.

  `plan` publishes two lists for the pools that overlap: the members it would
  let go now (`releasable`) and why it keeps the others (`needed`).  They are
  computed apart from the removal loop, with its conditions repeated in
  another order:

    • `held_eq_none` — what lets a candidate go, as one conjunction,
    • `mem_releasable`, `mem_needed` — the two lists, member by member,
    • `mem_releasable_of_powerOff` — the removal loop takes no machine that is
      not listed, while the pool is not above `maxOnline`,
    • `published_consistent` — the two lists together.
-/
import HardwareAutoscaler.Scaling.Bounds

namespace HardwareAutoscaler

open Std (TreeMap)
open Lib (insertAll insertAll_some mem_insertAll_of_entry mem_insertAll_of_mem)

namespace PoolSnapshot

variable {s : PoolSnapshot}

/-! ## §1. When a candidate is let go. -/

/-- **A candidate is let go** when it is unneeded for long enough or past its
release time, nothing holds the pool and the pool is above `minOnline`. -/
theorem held_eq_none {m : Member} :
    s.held m = none ↔
      (s.expired m = true ∨ s.released m = true) ∧ s.blockedReason = none ∧
        s.spec.minOnline < s.onlineNow := by
  unfold held
  by_cases hfree : (!s.expired m && !s.released m) = true
  · rw [if_pos hfree]
    simp only [Bool.and_eq_true, Bool.not_eq_true'] at hfree
    simp [hfree.1, hfree.2]
  · rw [if_neg hfree]
    have hold : s.expired m = true ∨ s.released m = true := by
      simp only [Bool.and_eq_true, Bool.not_eq_true', not_and_or, Bool.not_eq_false] at hfree
      exact hfree
    cases hblocked : s.blockedReason with
    | some r => simp
    | none =>
      by_cases hmin : s.onlineNow ≤ s.spec.minOnline
      · have hnot : ¬ s.spec.minOnline < s.onlineNow := by omega
        simp [hmin, hnot]
      · have hlt : s.spec.minOnline < s.onlineNow := by omega
        simp [hmin, hlt, hold]

/-- No pod blocks a candidate that is let go. -/
theorem blockingPods_of_not_held (hd : s.DistinctMembers) {m : Member} (hm : m ∈ s.candidates)
    (h : s.held m = none) : m.blockingPods = [] := by
  apply blockingPods_of_isEligible hd hm
  unfold isEligible
  rcases (held_eq_none.mp h).1 with hexp | hrel
  · simp [hexp]
  · simp [hrel]

/-! ## §2. The two lists. -/

theorem mem_releasable {n : String} :
    n ∈ s.releasable ↔ ∃ m ∈ s.candidates, m.name = n ∧ s.held m = none := by
  unfold releasable
  rw [mem_sortBy, List.mem_map]
  constructor
  · rintro ⟨m, hm, hname⟩
    obtain ⟨hcand, hheld⟩ := List.mem_filter.mp hm
    exact ⟨m, hcand, hname, by simpa using hheld⟩
  · rintro ⟨m, hcand, hname, hheld⟩
    exact ⟨m, List.mem_filter.mpr ⟨hcand, by simp [hheld]⟩, hname⟩

theorem mem_needed {n : String} :
    n ∈ s.needed ↔ (∃ m ∈ s.candidates, m.name = n ∧ s.held m ≠ none) ∨
      ∃ m ∈ s.members, m.name = n ∧ m.state = .booting := by
  unfold needed
  constructor
  · intro h
    obtain ⟨why, hwhy⟩ := Option.isSome_iff_exists.mp (TreeMap.isSome_getElem?_iff_mem.mpr h)
    -- the outer loop is over the booting members, the inner one over the candidates
    rcases insertAll_some hwhy with ⟨m, hm, he⟩ | hwhy
    · obtain ⟨hmem, hboot⟩ := List.mem_filter.mp hm
      cases he
      exact Or.inr ⟨m, hmem, rfl, by simpa using hboot⟩
    · rcases insertAll_some hwhy with ⟨m, hm, he⟩ | hwhy
      · obtain ⟨w, hw, he⟩ := Option.map_eq_some_iff.mp he
        cases he
        exact Or.inl ⟨m, hm, rfl, by simp [hw]⟩
      · rw [TreeMap.getElem?_emptyc] at hwhy
        cases hwhy
  · rintro (⟨m, hm, rfl, hheld⟩ | ⟨m, hm, rfl, hboot⟩)
    · obtain ⟨w, hw⟩ := Option.ne_none_iff_exists'.mp hheld
      apply mem_insertAll_of_mem
      exact mem_insertAll_of_entry (v := w) hm (by rw [hw]; rfl)
    · exact mem_insertAll_of_entry (List.mem_filter.mpr ⟨hm, by simp [hboot]⟩) rfl

/-- No machine is listed as releasable twice. -/
theorem releasable_nodup (h : s.DistinctMembers) : s.releasable.Nodup := by
  unfold releasable
  rw [(sortBy_perm _ _).nodup_iff]
  exact (List.filter_sublist.map _).nodup h.candidates_nodup

/-- A member listed as releasable is a candidate that is let go. -/
theorem held_of_mem_releasable (hd : s.DistinctMembers) {m : Member} (hm : m ∈ s.members)
    (h : m.name ∈ s.releasable) : m ∈ s.candidates ∧ s.held m = none := by
  obtain ⟨m', hcand, hname, hheld⟩ := mem_releasable.mp h
  have hsame : m' = m := hd.eq_of_name (mem_candidates.mp hcand).1 hm hname
  rw [← hsame]
  exact ⟨hcand, hheld⟩

/-- **The two lists are apart.** -/
theorem not_mem_needed_of_releasable (hd : s.DistinctMembers) {n : String}
    (h : n ∈ s.releasable) : n ∉ s.needed := by
  obtain ⟨m, hcand, rfl, hheld⟩ := mem_releasable.mp h
  obtain ⟨hmem, _, honline⟩ := mem_candidates.mp hcand
  intro hneeded
  rcases mem_needed.mp hneeded with ⟨m', hcand', hname, hheld'⟩ | ⟨m', hmem', hname, hboot⟩
  · have hsame : m' = m := hd.eq_of_name (mem_candidates.mp hcand').1 hmem hname
    rw [hsame] at hheld'
    exact hheld' hheld
  · have hsame : m' = m := hd.eq_of_name hmem' hmem hname
    rw [hsame, honline] at hboot
    cases hboot

/-- Every candidate is on one side. -/
theorem releasable_or_needed {m : Member} (hm : m ∈ s.candidates) :
    m.name ∈ s.releasable ∨ m.name ∈ s.needed := by
  by_cases hheld : s.held m = none
  · exact Or.inl (mem_releasable.mpr ⟨m, hm, rfl, hheld⟩)
  · exact Or.inr (mem_needed.mpr (Or.inl ⟨m, hm, rfl, hheld⟩))

/-! ## §3. Agreement with the pool's own plan. -/

/-- A plan that powers a machine on lets none go. -/
theorem releasable_nil_of_powerOn (h : s.powerOn ≠ []) : s.releasable = [] := by
  have hblocked : s.blockedReason ≠ none := by
    unfold blockedReason
    rw [if_pos (by simpa using h)]
    simp
  apply List.eq_nil_iff_forall_not_mem.mpr
  intro n hn
  obtain ⟨m, _, _, hheld⟩ := mem_releasable.mp hn
  exact hblocked (held_eq_none.mp hheld).2.1

/-- **Not above `maxOnline`, a machine powered off is listed as releasable.** -/
theorem mem_releasable_of_powerOff (hmax : s.onlineNow ≤ s.maxOnline) {n : String}
    (h : n ∈ s.powerOff.map (·.1)) : n ∈ s.releasable := by
  have hoff : n ∈ s.powerOffNames := List.mem_toFinset.mpr h
  obtain ⟨hmay, m, helig, hname, _⟩ := mem_powerOff hoff
  obtain ⟨hcand, hwhy⟩ := mem_eligible.mp helig
  -- without an excess only the timer or the release time makes a machine eligible
  have hover : s.overMax = 0 := by
    unfold overMax
    omega
  have hold : s.expired m = true ∨ s.released m = true := by
    unfold isEligible at hwhy
    rw [hover] at hwhy
    simpa using hwhy
  -- the loop ran, and one machine fewer still leaves `minOnline`
  have hblocked : s.blockedReason = none := by
    unfold mayScaleDown at hmay
    simp only [Bool.and_eq_true, Option.isNone_iff_eq_none] at hmay
    exact hmay.1
  have hcard : 0 < s.powerOffNames.card := Finset.card_pos.mpr ⟨n, hoff⟩
  have hroom := (powerOff_card_le (s := s)).2
  exact mem_releasable.mpr ⟨m, hcand, hname, held_eq_none.mpr ⟨hold, hblocked, by omega⟩⟩

/-- **What a pool tells the others is complete and consistent**: every `Auto`
member online is on exactly one of the two lists, every booting one is needed,
nothing else is on either; no machine with blocking pods and none of a plan
that powers one on is let go; and not above `maxOnline` the pool powers off
only what it lists as releasable, nothing it lists as needed. -/
theorem published_consistent (s : PoolSnapshot) (hd : s.DistinctMembers) :
    (∀ m ∈ s.members, m.auto = true → m.state = .online →
      Xor (m.name ∈ (plan s).releasable) (m.name ∈ (plan s).needed)) ∧
    (∀ m ∈ s.members, m.state = .booting → m.name ∈ (plan s).needed) ∧
    (plan s).releasable.Nodup ∧
    (∀ n ∈ (plan s).releasable, ∃ m ∈ s.members, m.name = n ∧
      m.auto = true ∧ m.state = .online) ∧
    (∀ n ∈ (plan s).needed, ∃ m ∈ s.members, m.name = n ∧
      ((m.auto = true ∧ m.state = .online) ∨ m.state = .booting)) ∧
    (∀ m ∈ s.members, m.blockingPods ≠ [] → m.name ∉ (plan s).releasable) ∧
    ((plan s).powerOn ≠ [] → (plan s).releasable = []) ∧
    (s.onlineNow ≤ s.maxOnline → ∀ n ∈ (plan s).powerOff.map (·.1),
      n ∈ (plan s).releasable ∧ n ∉ (plan s).needed) := by
  -- each part is a fact about `releasable` or `needed` alone, or about the two together
  refine ⟨?_, ?_, releasable_nodup hd, ?_, ?_, ?_, releasable_nil_of_powerOn, ?_⟩
  · intro m hm hauto honline
    rcases releasable_or_needed (mem_candidates.mpr ⟨hm, hauto, honline⟩) with hrel | hneed
    · exact Or.inl ⟨hrel, not_mem_needed_of_releasable hd hrel⟩
    · exact Or.inr ⟨hneed, fun hrel => not_mem_needed_of_releasable hd hrel hneed⟩
  · intro m hm hboot
    exact mem_needed.mpr (Or.inr ⟨m, hm, rfl, hboot⟩)
  · intro n hn
    obtain ⟨m, hcand, hname, _⟩ := mem_releasable.mp hn
    obtain ⟨hmem, hauto, honline⟩ := mem_candidates.mp hcand
    exact ⟨m, hmem, hname, hauto, honline⟩
  · intro n hn
    rcases mem_needed.mp hn with ⟨m, hcand, hname, _⟩ | ⟨m, hmem, hname, hboot⟩
    · obtain ⟨hmem, hauto, honline⟩ := mem_candidates.mp hcand
      exact ⟨m, hmem, hname, Or.inl ⟨hauto, honline⟩⟩
    · exact ⟨m, hmem, hname, Or.inr hboot⟩
  · intro m hm hblock hrel
    obtain ⟨hcand, hheld⟩ := held_of_mem_releasable hd hm hrel
    exact hblock (blockingPods_of_not_held hd hcand hheld)
  · intro hmax n hn
    have hrel := mem_releasable_of_powerOff hmax hn
    exact ⟨hrel, not_mem_needed_of_releasable hd hrel⟩

/-- Of the two machines of `twoOnline`, the idle one is let go and powered
off, the full one needed. -/
theorem published_two :
    (twoOnline "idle" "base").DistinctMembers ∧
    (plan (twoOnline "idle" "base")).releasable = ["idle"] ∧
    (plan (twoOnline "idle" "base")).powerOff.map (·.1) = ["idle"] ∧
    "idle" ∉ (plan (twoOnline "idle" "base")).needed := by
  have hd : (twoOnline "idle" "base").DistinctMembers := by
    show ["full", "idle"].Nodup
    decide
  have hoff : (plan (twoOnline "idle" "base")).powerOff.map (·.1) = ["idle"] := by decide +kernel
  obtain ⟨_, _, _, _, _, _, _, hown⟩ := published_consistent (twoOnline "idle" "base") hd
  have hidle := hown (by decide +kernel) "idle" (by rw [hoff]; exact List.mem_singleton_self _)
  exact ⟨hd, by decide +kernel, hoff, hidle.2⟩

end PoolSnapshot

end HardwareAutoscaler
