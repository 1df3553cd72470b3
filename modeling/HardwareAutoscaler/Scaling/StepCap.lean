/-
  HardwareAutoscaler.Scaling.StepCap
  ──────────────────────────────────
  HOW MANY MACHINES ONE PLAN POWERS ON.

  `scaleUp.maxNodesPerStep` is checked before a machine is opened for a
  pending pod.  The loop for `minOnline`, which goes on with the same list of
  opened machines, does not check it.

    • `packPending_opened_le` — the packing loop keeps to the step,
    • `fillMinOnline_length` — the second loop opens up to what is missing,
      as far as there are machines that are off,
    • `powerOn_length` — both loops together, as an equation,
    • `powerOn_within_step_iff` — when the sum keeps to the step.
-/
import HardwareAutoscaler.Scaling.Bounds

namespace HardwareAutoscaler

namespace PoolSnapshot

variable {s : PoolSnapshot}

/-! ## §1. The two loops. -/

/-- `scaleUp.maxNodesPerStep`, at least one. -/
def upStep (s : PoolSnapshot) : Nat := max 1 s.spec.scaleUp.maxNodesPerStep

/-- How many machines are missing for `minOnline`, as far as `maxOnline`
allows them. -/
def short (s : PoolSnapshot) : Nat := min s.spec.minOnline s.maxOnline - s.onlineNow

theorem placePod_opened_le {st : UpState} (pod : PodView) (h : st.opened.length ≤ s.upStep) :
    (s.placePod st pod).opened.length ≤ s.upStep := by
  rcases placePod_cases (s := s) st pod with hw | hj | ⟨m, before, after, ho⟩
  · rw [hw.opened]
    exact h
  · rw [hj.opened]
    exact h
  -- a machine is opened only below the step
  · obtain ⟨reason, hopened⟩ := ho.opened
    have hlt := (canOpen_none.mp ho.canOpen).2
    rw [hopened, List.length_append, List.length_singleton]
    unfold upStep
    omega

theorem placePods_opened_le (pods : List PodView) :
    ∀ {st : UpState}, st.opened.length ≤ s.upStep →
      (pods.foldl s.placePod st).opened.length ≤ s.upStep := by
  induction pods with
  | nil => intro st h; exact h
  | cons p pods ih =>
    intro st h
    exact ih (placePod_opened_le p h)

/-- **The packing loop keeps to the step.** -/
theorem packPending_opened_le (s : PoolSnapshot) : s.packPending.opened.length ≤ s.upStep := by
  apply placePods_opened_le
  show 0 ≤ s.upStep
  omega

/-- **The loop for `minOnline`** opens machines until none is missing or none
is left. -/
theorem fillMinOnline_length {l : List Member} :
    ∀ {st : UpState}, (s.fillMinOnline st l).opened.length =
      max st.opened.length (min s.short (st.opened.length + l.length)) := by
  -- on the machines still off: each is opened, or the loop ends at it
  induction l with
  | nil =>
    intro st
    show st.opened.length = _
    rw [List.length_nil]
    omega
  | cons m rest ih =>
    intro st
    unfold fillMinOnline
    split
    · rename_i hbelow
      have hshort : st.opened.length < s.short := by
        unfold short
        omega
      rw [ih]
      simp only [List.length_append, List.length_cons, List.length_nil]
      omega
    · rename_i hreached
      have hshort : s.short ≤ st.opened.length := by
        unfold short
        omega
      show st.opened.length = _
      omega

/-- The machines opened for pods and those still off are all that were off. -/
theorem packPending_length (s : PoolSnapshot) :
    s.packPending.opened.length + s.packPending.offline.length = s.rankedUp.length := by
  have hperm := (opening_packPending s).perm.length_eq
  rw [List.length_append, List.length_map, List.length_map, List.length_map] at hperm
  exact hperm

/-- **How many machines a plan powers on**: those opened for pods or, if that
is more, those missing for `minOnline` as far as there are any. -/
theorem powerOn_length (s : PoolSnapshot) :
    s.powerOn.length = max s.packPending.opened.length (min s.short s.rankedUp.length) := by
  show (s.fillMinOnline s.packPending s.packPending.offline).opened.length = _
  rw [fillMinOnline_length, packPending_length]

/-! ## §2. Their sum and the step. -/

/-- **A plan keeps to the step exactly when** no more machines than the step
are both missing for `minOnline` and there to be opened. -/
theorem powerOn_within_step_iff (s : PoolSnapshot) :
    (plan s).powerOn.length ≤ max 1 s.spec.scaleUp.maxNodesPerStep ↔
      min (min s.spec.minOnline s.maxOnline - s.onlineNow)
          (s.members.filter (fun m => m.auto && m.state == .offline)).length
        ≤ max 1 s.spec.scaleUp.maxNodesPerStep := by
  have hpods : s.packPending.opened.length ≤ max 1 s.spec.scaleUp.maxNodesPerStep :=
    packPending_opened_le s
  have hranked : s.rankedUp.length
      = (s.members.filter (fun m => m.auto && m.state == .offline)).length :=
    (sortBy_perm _ _).length_eq
  have hlen : (plan s).powerOn.length = _ := powerOn_length s
  rw [hlen, hranked]
  unfold short
  omega

/-- Three machines that are off, in a pool that keeps two on and powers on one
a step. -/
def threeOff : PoolSnapshot where
  spec := { minOnline := 2, scaleUp := { maxNodesPerStep := 1 } }
  members := ["a", "b", "c"].map (fun n => { name := n, state := .offline, auto := true })
  now := 0

/-- **Two machines in one step of one.** -/
theorem powerOn_exceeds_step :
    (plan threeOff).powerOn.map (·.1) = ["a", "b"] ∧
      ¬ (plan threeOff).powerOn.length ≤ max 1 threeOff.spec.scaleUp.maxNodesPerStep := by
  decide +kernel

end PoolSnapshot

end HardwareAutoscaler
