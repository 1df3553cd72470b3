/-
  HardwareAutoscaler.Lib.OnesComplement
  ─────────────────────────────────────
  SUMS WITH END-AROUND CARRY — program independent.

  Numbers are folded into `b` values by adding what does not fit back at the
  low end.  A step keeps the residue modulo `b - 1`, and keeps zero apart from
  the other numbers with residue 0, which all end up as `b - 1`.

    • `carry`, `folded` — one step, and all of them,
    • `carry_carry_lt` — two steps are enough for a product of two digits,
    • `folded_modEq`, `folded_pos` — what folding keeps,
    • `folded_add_complement` — a number and the complement of what it folds
      to fold to `b - 1`.
-/
import Mathlib.Data.Nat.ModEq

namespace HardwareAutoscaler.Lib

/-- One step: what does not fit is added at the low end. -/
def carry (b n : Nat) : Nat := n % b + n / b

variable {b n : Nat}

theorem carry_lt (hb : 2 ≤ b) (h : b ≤ n) : carry b n < n := by
  have hdiv : 0 < n / b := Nat.div_pos h (by omega)
  have hmul : 2 * (n / b) ≤ b * (n / b) := Nat.mul_le_mul_right _ hb
  have hsplit := Nat.mod_add_div n b
  unfold carry
  omega

/-- All the steps. -/
def folded (b n : Nat) : Nat :=
  if _h : 2 ≤ b ∧ b ≤ n then folded b (carry b n) else n
termination_by n
decreasing_by exact carry_lt _h.1 _h.2

theorem folded_of_lt (h : n < b) : folded b n = n := by
  rw [folded, dif_neg (by omega)]

theorem folded_of_ge (hb : 2 ≤ b) (h : b ≤ n) : folded b n = folded b (carry b n) := by
  rw [folded, dif_pos ⟨hb, h⟩]

/-! ## §1. What a step keeps. -/

theorem carry_modEq (hb : 2 ≤ b) : carry b n ≡ n [MOD (b - 1)] := by
  have hone : b ≡ 1 [MOD (b - 1)] := by
    rw [Nat.ModEq.comm, Nat.modEq_iff_dvd' (by omega)]
  calc carry b n = n % b + 1 * (n / b) := by rw [Nat.one_mul]; rfl
    _ ≡ n % b + b * (n / b) [MOD (b - 1)] := (hone.symm.mul_right _).add_left _
    _ = n := Nat.mod_add_div n b

theorem carry_pos (h : 0 < n) : 0 < carry b n := by
  by_contra hzero
  obtain ⟨hmod, hdiv⟩ := Nat.add_eq_zero_iff.mp (Nat.eq_zero_of_not_pos hzero)
  have hsplit := Nat.mod_add_div n b
  rw [hmod, hdiv, Nat.mul_zero] at hsplit
  omega

/-- Two steps are enough for a number of two digits. -/
theorem carry_carry_lt (hb : 2 ≤ b) (h : n < b * b) : carry b (carry b n) < b := by
  have hdiv : n / b < b := Nat.div_lt_of_lt_mul h
  have hmod : n % b < b := Nat.mod_lt n (by omega)
  have hfirst : carry b n ≤ 2 * b - 2 := by
    unfold carry
    omega
  rcases Nat.lt_or_ge (carry b n) b with hlt | hge
  · -- nothing left to carry
    unfold carry at hlt ⊢
    rw [Nat.div_eq_of_lt hlt, Nat.mod_eq_of_lt hlt]
    exact hlt
  · -- one is carried, and the rest is at most `b - 2`
    have hone : carry b n / b = 1 := Nat.div_eq_of_lt_le (by omega) (by omega)
    have hrest : carry b n % b = carry b n - b := by
      rw [Nat.mod_eq_sub_mod hge, Nat.mod_eq_of_lt (by omega)]
    have hsecond : carry b (carry b n) = carry b n - b + 1 := by
      rw [carry, hone, hrest]
    omega

/-! ## §2. What folding keeps. -/

theorem folded_lt (hb : 2 ≤ b) : folded b n < b := by
  induction n using Nat.strongRecOn with
  | ind n ih =>
    rcases Nat.lt_or_ge n b with h | h
    · rw [folded_of_lt h]
      exact h
    · rw [folded_of_ge hb h]
      exact ih _ (carry_lt hb h)

theorem folded_modEq (hb : 2 ≤ b) : folded b n ≡ n [MOD (b - 1)] := by
  induction n using Nat.strongRecOn with
  | ind n ih =>
    rcases Nat.lt_or_ge n b with h | h
    · rw [folded_of_lt h]
    · rw [folded_of_ge hb h]
      exact (ih _ (carry_lt hb h)).trans (carry_modEq hb)

theorem folded_pos (hb : 2 ≤ b) (hn : 0 < n) : 0 < folded b n := by
  induction n using Nat.strongRecOn with
  | ind n ih =>
    rcases Nat.lt_or_ge n b with h | h
    · rw [folded_of_lt h]
      exact hn
    · rw [folded_of_ge hb h]
      exact ih _ (carry_lt hb h) (carry_pos hn)

/-- **A number and the complement of what it folds to** fold to the other zero,
also when the number is zero. -/
theorem folded_add_complement (hb : 2 ≤ b) (n : Nat) :
    folded b (n + (b - 1 - folded b n)) = b - 1 := by
  have hlt := folded_lt (n := n) hb
  have hmod : folded b (n + (b - 1 - folded b n)) ≡ 0 [MOD (b - 1)] := by
    calc folded b (n + (b - 1 - folded b n))
        ≡ n + (b - 1 - folded b n) [MOD (b - 1)] := folded_modEq hb
      _ ≡ folded b n + (b - 1 - folded b n) [MOD (b - 1)] := (folded_modEq hb).symm.add_right _
      _ = b - 1 := by omega
      _ ≡ 0 [MOD (b - 1)] := (Nat.modEq_zero_iff_dvd.mpr (dvd_refl _))
  have hpos : 0 < folded b (n + (b - 1 - folded b n)) := by
    apply folded_pos hb
    by_contra hzero
    -- zero folds to itself, whose complement is positive
    have hn : n = 0 := by omega
    rw [hn, folded_of_lt (by omega)] at hzero
    omega
  have hdvd := Nat.modEq_zero_iff_dvd.mp hmod
  have hle := Nat.le_of_dvd hpos hdvd
  have hlt' := folded_lt (n := n + (b - 1 - folded b n)) hb
  omega

end HardwareAutoscaler.Lib
