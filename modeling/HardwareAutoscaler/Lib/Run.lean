/-
  HardwareAutoscaler.Lib.Run
  ──────────────────────────
  RUNS OF A STEP FUNCTION — program independent.

  A controller is a function `step : σ → ι → σ` from its stored state and
  what one reconcile reads to the next stored state.  A run is an infinite
  sequence of inputs `inp : Nat → ι`; every finite run is a prefix of one.

    • `stateAt` — the state before step `n`,
    • `stateAt_invariant` — the invariant rule (one step at a time), for
      any prefix of a run,
    • `exists_last_entry` — if a predicate of the step number fails at `0`
      and holds at `n`, it was entered at some step and held ever since.
-/
import Mathlib.Data.Nat.Find

namespace HardwareAutoscaler.Lib

variable {σ ι : Type*}

/-! ## §1. Runs. -/

/-- The state before step `n` of the run of `step` from `s₀` under `inp`. -/
def stateAt (step : σ → ι → σ) (s₀ : σ) (inp : Nat → ι) : Nat → σ
  | 0 => s₀
  | n + 1 => step (stateAt step s₀ inp n) (inp n)

variable {step : σ → ι → σ} {s₀ : σ} {inp : Nat → ι}

@[simp] theorem stateAt_zero : stateAt step s₀ inp 0 = s₀ := rfl

theorem stateAt_succ (n : Nat) :
    stateAt step s₀ inp (n + 1) = step (stateAt step s₀ inp n) (inp n) := rfl

/-! ## §2. The invariant rule. -/

/-- **Invariant rule**: what holds before the first step, and is preserved by
each of the first `N` steps, holds before each of them and after the last.  An
invariant may speak of the number of steps taken. -/
theorem stateAt_invariant (Inv : Nat → σ → Prop) {N : Nat} (h₀ : Inv 0 s₀)
    (hstep : ∀ n < N, Inv n (stateAt step s₀ inp n) →
      Inv (n + 1) (step (stateAt step s₀ inp n) (inp n))) :
    ∀ n ≤ N, Inv n (stateAt step s₀ inp n) := by
  intro n
  induction n with
  | zero => intro _; exact h₀
  | succ n ih =>
    intro hn
    exact hstep n (by omega) (ih (by omega))

/-! ## §3. Looking back along a run. -/

/-- **The last entry**: a predicate of the step number that fails at `0` and
holds at `n` was false at some `k < n` and has held at every step since. -/
theorem exists_last_entry (Q : Nat → Prop) (h₀ : ¬ Q 0) :
    ∀ n, Q n → ∃ k, k < n ∧ ¬ Q k ∧ ∀ j, k < j → j ≤ n → Q j := by
  intro n
  induction n with
  | zero => intro h; exact absurd h h₀
  | succ n ih =>
    intro hn
    -- entered before `n`, or at `n` itself
    by_cases hq : Q n
    · obtain ⟨k, hkn, hk, hsince⟩ := ih hq
      refine ⟨k, by omega, hk, ?_⟩
      intro j hkj hj
      rcases Nat.lt_or_ge n j with h | h
      · rwa [show j = n + 1 from by omega]
      · exact hsince j hkj h
    · refine ⟨n, by omega, hq, ?_⟩
      intro j hnj hj
      rwa [show j = n + 1 from by omega]

end HardwareAutoscaler.Lib
