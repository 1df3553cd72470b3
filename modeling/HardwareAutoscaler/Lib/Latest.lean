/-
  HardwareAutoscaler.Lib.Latest
  ─────────────────────────────
  WHAT WAS WRITTEN LAST — program independent.

  Steps that write, or leave what is there: after a run the place holds what
  was written last.

    • `latest` — the last write of a run,
    • `latest_eq_some` — which step it was,
    • `stateAt_latest` — the rule: a place that each step overwrites or leaves
      alone holds what was written there last.
-/
import HardwareAutoscaler.Lib.Run

namespace HardwareAutoscaler.Lib

variable {β σ ι : Type*}

/-- The last of the first `n` writes. -/
def latest (w : Nat → Option β) : Nat → Option β
  | 0 => none
  | n + 1 => (w n).or (latest w n)

variable {w : Nat → Option β} {b : β} {n : Nat}

/-- **Which write was the last**: there was none since. -/
theorem latest_eq_some :
    latest w n = some b ↔ ∃ j < n, w j = some b ∧ ∀ i, j < i → i < n → w i = none := by
  -- on the length; the last index is the latest written, or it writes nothing
  induction n with
  | zero =>
    constructor
    · intro h
      cases h
    · rintro ⟨j, hj, -⟩
      exact absurd hj (Nat.not_lt_zero j)
  | succ n ih =>
    rw [latest]
    cases hn : w n with
    | some b' =>
      rw [Option.some_or, Option.some.injEq]
      constructor
      · rintro rfl
        exact ⟨n, Nat.lt_succ_self n, hn, fun i hi hi' => absurd hi' (by omega)⟩
      · rintro ⟨j, hj, hw, hlast⟩
        rcases Nat.lt_succ_iff_lt_or_eq.mp hj with hlt | rfl
        · have hnone := hlast n hlt (Nat.lt_succ_self n)
          rw [hn] at hnone
          cases hnone
        · rw [hn] at hw
          exact Option.some.inj hw
    | none =>
      rw [Option.none_or, ih]
      constructor
      · rintro ⟨j, hj, hw, hlast⟩
        refine ⟨j, Nat.lt_succ_of_lt hj, hw, fun i hi hi' => ?_⟩
        rcases Nat.lt_succ_iff_lt_or_eq.mp hi' with hlt | rfl
        · exact hlast i hi hlt
        · exact hn
      · rintro ⟨j, hj, hw, hlast⟩
        rcases Nat.lt_succ_iff_lt_or_eq.mp hj with hlt | rfl
        · exact ⟨j, hlt, hw, fun i hi hi' => hlast i hi (Nat.lt_succ_of_lt hi')⟩
        · rw [hn] at hw
          cases hw

/-- **What was written last is there**, at a place `l` that each step overwrites
or leaves alone. -/
theorem stateAt_latest {step : σ → ι → σ} {s₀ : σ} {inp : Nat → ι} {l : σ → β} {f : ι → Option β}
    (h : ∀ s i, l (step s i) = (f i).getD (l s)) (n : Nat) :
    l (stateAt step s₀ inp n) = (latest (fun i => f (inp i)) n).getD (l s₀) := by
  induction n with
  | zero => rfl
  | succ n ih =>
    rw [stateAt_succ, h, ih, latest]
    cases f (inp n) with
    | none => rfl
    | some b => rfl

end HardwareAutoscaler.Lib
