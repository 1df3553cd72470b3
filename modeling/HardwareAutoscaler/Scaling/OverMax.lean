/-
  HardwareAutoscaler.Scaling.OverMax
  ──────────────────────────────────
  A POOL ABOVE `maxOnline`.

  Above `maxOnline` every candidate without blocking pods is eligible and the
  rules that hold scale-down are skipped, so that the excess can go.  The
  budget is then the larger of the excess and what is left of
  `maxNodesPerStep`: when the step is the larger one, machines beyond the
  excess go by the same relaxed rules.

    • `ordinary_of_not_over` — a pool not above `maxOnline` powers off by the
      ordinary rules only,
    • `relaxed_card_le_of_bounds` — bounds that keep what goes outside them
      within the excess,
    • `relaxed_card_le_iff` — when it is, by the turns of the loop.
-/
import HardwareAutoscaler.Scaling.Removal

namespace HardwareAutoscaler

namespace PoolSnapshot

variable {s : PoolSnapshot}

/-! ## §1. The ordinary rules. -/

/-- Nothing holds the pool's scale-down: it is enabled, no relevant pod is
pending, no member is booting and no hold after a power-on is in force. -/
def notHeld (s : PoolSnapshot) : Bool :=
  s.spec.scaleDown.enabled && s.relevant.isEmpty && !s.booting && s.holdUntil.isNone

/-- The machine `n` satisfies the ordinary scale-down rules: it has been
unneeded for `unneededSeconds` or is past its manual release time, and nothing
holds the pool's scale-down. -/
def ordinary (s : PoolSnapshot) (n : String) : Bool :=
  s.notHeld && s.candidates.any (fun m => m.name == n && (s.expired m || s.released m))

/-- The machines powered off outside the ordinary rules. -/
def relaxed (s : PoolSnapshot) : Finset String := s.powerOffNames.filter (fun n => !s.ordinary n)

/-- The machines this plan may remove outside the ordinary rules. -/
def relaxedRemovable (s : PoolSnapshot) : Finset String :=
  (((s.eligible.filter (fun m => (s.holders m).isEmpty)).map (·.name)).toFinset).filter
    (fun n => !s.ordinary n)

theorem notHeld_of_mayScaleDown (hover : s.overMax = 0) (hmay : s.mayScaleDown = true) :
    s.notHeld = true := by
  unfold mayScaleDown at hmay
  simp only [Bool.and_eq_true, Option.isNone_iff_eq_none] at hmay
  have hblocked := hmay.1
  unfold blockedReason at hblocked
  rw [hover] at hblocked
  split at hblocked
  · cases hblocked
  · split at hblocked
    · omega
    · split at hblocked
      · cases hblocked
      · rename_i henabled
        split at hblocked
        · cases hblocked
        · rename_i hpending
          split at hblocked
          · cases hblocked
          · rename_i hbooting
            -- every hold is off: nothing pending, nothing booting, no time to wait for
            have hnone : s.relevant = [] := List.length_eq_zero_iff.mp (by omega)
            have hhold : s.holdUntil = none := by simpa using hblocked
            have hon : s.spec.scaleDown.enabled = true := by simpa using henabled
            simp [notHeld, hnone, hhold, hbooting, hon]

/-- Not above `maxOnline`, nothing holds a plan that powers machines off. -/
theorem notHeld_of_powerOff (hover : s.overMax = 0) (hoff : s.powerOff ≠ []) :
    s.notHeld = true := by
  rcases scaledDown_cases (s := s) with ⟨hmay, _⟩ | ⟨_, hnil⟩
  · exact notHeld_of_mayScaleDown hover hmay
  · exact absurd hnil hoff

/-- **Not above `maxOnline`, the ordinary rules hold for every machine that
goes.** -/
theorem ordinary_of_not_over (hover : s.overMax = 0) {n : String} (hn : n ∈ s.powerOffNames) :
    s.ordinary n = true := by
  obtain ⟨hmay, m, hm, hname, _⟩ := mem_powerOff hn
  obtain ⟨hcand, helig⟩ := mem_eligible.mp hm
  unfold isEligible at helig
  rw [hover] at helig
  unfold ordinary
  rw [notHeld_of_mayScaleDown hover hmay, Bool.true_and, List.any_eq_true]
  exact ⟨m, hcand, by simpa [hname] using helig⟩

/-! ## §2. How many machines go outside them. -/

theorem relaxed_subset : s.relaxed ⊆ s.relaxedRemovable := by
  intro n hn
  unfold relaxed at hn
  obtain ⟨hoff, hord⟩ := Finset.mem_filter.mp hn
  obtain ⟨_, m, hm, hname, hheld⟩ := mem_powerOff hoff
  unfold relaxedRemovable
  refine Finset.mem_filter.mpr ⟨?_, hord⟩
  simp only [List.mem_toFinset, List.mem_map, List.mem_filter]
  exact ⟨m, ⟨hm, by simp [hheld]⟩, hname⟩

theorem budget_of_over (hover : 0 < s.overMax) :
    s.budget = max s.overMax (s.step - s.leaving) := by
  unfold budget
  rw [if_pos hover]

/-- Nothing goes outside the ordinary rules when no removal is possible or the
pool is not above `maxOnline`. -/
theorem relaxed_eq_empty (h : s.mayScaleDown = false ∨ s.overMax = 0) : s.relaxed = ∅ := by
  rw [Finset.eq_empty_iff_forall_notMem]
  intro n hn
  obtain ⟨hoff, hord⟩ := Finset.mem_filter.mp hn
  rcases h with hno | hover
  · rw [(mem_powerOff hoff).1] at hno
    cases hno
  · rw [ordinary_of_not_over hover hoff] at hord
    cases hord

/-- Bounds that do: what is left of the step, what is above `minOnline`, or the
machines that could go so, are no more than the excess. -/
theorem relaxed_card_le_of_bounds
    (h : s.mayScaleDown = false ∨ s.overMax = 0 ∨ s.step - s.leaving ≤ s.overMax ∨
      s.onlineNow - s.spec.minOnline ≤ s.overMax ∨ s.relaxedRemovable.card ≤ s.overMax) :
    s.relaxed.card ≤ s.overMax := by
  obtain ⟨hbudget, hroom⟩ := powerOff_card_le (s := s)
  have hsub : s.relaxed.card ≤ s.powerOffNames.card := Finset.card_filter_le _ _
  rcases h with hno | hover | hstep | hmin | hfew
  · rw [relaxed_eq_empty (Or.inl hno)]
    exact Nat.zero_le _
  · rw [relaxed_eq_empty (Or.inr hover)]
    exact Nat.zero_le _
  · rcases Nat.eq_zero_or_pos s.overMax with hzero | hpos
    · rw [relaxed_eq_empty (Or.inr hzero)]
      exact Nat.zero_le _
    -- above `maxOnline` the budget is the larger of the excess and what is left of the step
    · rw [budget_of_over hpos] at hbudget
      omega
  · omega
  · exact (Finset.card_le_card relaxed_subset).trans hfew

/-- **The excess bounds what goes outside the ordinary rules exactly when** the
plan may not scale down, or the loop, going through the eligible machines in
their order, would take no more of those outside the rules once it has taken as
many as the excess.  In particular when what is left of the step, what is above
`minOnline` or the machines that could go so are no more than the excess. -/
theorem relaxed_card_le_iff (s : PoolSnapshot) :
    (s.relaxed.card ≤ s.overMax ↔ (s.mayScaleDown = true →
      s.staysWithin (fun n => !s.ordinary n) s.overMax { free := s.freeAtStart } s.eligible
        = true)) ∧
    (s.mayScaleDown = false ∨ s.overMax = 0 ∨ s.step - s.leaving ≤ s.overMax ∨
      s.onlineNow - s.spec.minOnline ≤ s.overMax ∨ s.relaxedRemovable.card ≤ s.overMax →
      s.relaxed.card ≤ s.overMax) :=
  ⟨powerOff_flagged_le_iff _ _, relaxed_card_le_of_bounds⟩

/-! ## §3. A step larger than the excess. -/

/-- Three busy machines without pods to move, one more than `maxOnline`, in a
pool whose scale-down is switched off. -/
def oneOver (step : Nat) : PoolSnapshot where
  spec := { maxOnline := some 2, scaleDown := { enabled := false, maxNodesPerStep := step } }
  members := ["a", "b", "c"].map (fun n =>
    { name := n, state := .online, auto := true
      allocatable := { cpuMillis := 10000, pods := 10 }
      requested := { cpuMillis := 8000, pods := 1 }
      counted := { cpuMillis := 8000, pods := 1 } })
  now := 0

/-- **With three machines a step all three go**, two more than the excess. -/
theorem relaxed_card_exceeds :
    (oneOver 3).overMax = 1 ∧ (oneOver 3).powerOff.map (·.1) = ["c", "b", "a"] ∧
      ¬ (oneOver 3).relaxed.card ≤ (oneOver 3).overMax := by
  decide +kernel

/-- Two busy machines and two idle for an hour, one more than `maxOnline`: a
step of two takes the idle ones, and none outside the ordinary rules. -/
def idleFirst : PoolSnapshot where
  spec := { maxOnline := some 3, scaleDown := { maxNodesPerStep := 2 } }
  members := [("a", 8000), ("b", 8000), ("c", 0), ("d", 0)].map (fun m =>
    { name := m.1, state := .online, auto := true
      allocatable := { cpuMillis := 10000, pods := 10 }
      requested := { cpuMillis := m.2, pods := 1 }
      counted := { cpuMillis := m.2, pods := 1 } })
  unneededSince := ((∅ : Std.TreeMap String Int).insert "c" 0).insert "d" 0
  now := seconds 3600

/-- The machines the loop comes to are what counts: with three a step the excess
is passed, with one it is not, nor with two where the idle ones come first. -/
example :
    (oneOver 3).staysWithin (fun n => !(oneOver 3).ordinary n) 1
        { free := (oneOver 3).freeAtStart } (oneOver 3).eligible = false ∧
      (oneOver 1).staysWithin (fun n => !(oneOver 1).ordinary n) 1
        { free := (oneOver 1).freeAtStart } (oneOver 1).eligible = true ∧
      idleFirst.powerOff.map (·.1) = ["d", "c"] ∧
      idleFirst.staysWithin (fun n => !idleFirst.ordinary n) 1
        { free := idleFirst.freeAtStart } idleFirst.eligible = true := by
  decide +kernel

end PoolSnapshot

end HardwareAutoscaler
