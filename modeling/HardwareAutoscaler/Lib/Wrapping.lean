/-
  HardwareAutoscaler.Lib.Wrapping
  ───────────────────────────────
  SUMS OF MACHINE INTEGERS — program independent.

  Sums of `i64`s beside the exact ones: added so that they wrap, or so that an
  overflow ends the program.  A sum that errs should at least not be less than
  what is in it.

    • `Wrapped` — what is left of an integer without whole turns of `2 ^ 64`,
    • `toInt_foldl_add`, `toInt_foldl_max` — folds that wrap,
    • `checkedAdd_iff`, `foldlM_checked_iff` — sums that do not overflow,
    • `Right` — a sum that is exact, or at least as large as its parts,
    • `right_iff` — which of the sums that wrapped are right.
-/
import Mathlib.Algebra.Order.BigOperators.Group.List
import Mathlib.Algebra.Order.Ring.Int

namespace HardwareAutoscaler.Lib

/-! ## §1. Sums that wrap. -/

/-- `v` is left of `n` when whole turns are taken off it. -/
def Wrapped (n v : Int) : Prop := -2 ^ 63 ≤ v ∧ v < 2 ^ 63 ∧ ∃ turns : Int, n = v + turns * 2 ^ 64

theorem wrapped_iff {n v : Int} : Wrapped n v ↔ v = n.bmod (2 ^ 64) := by
  constructor
  · rintro ⟨hlo, hhi, turns, rfl⟩
    have hself : v.bmod (2 ^ 64) = v := Int.bmod_eq_of_le (by omega) (by omega)
    have hturn : (2 : Int) ^ 64 = ((2 ^ 64 : Nat) : Int) := by decide
    rw [hturn, Int.add_mul_bmod_self_right, hself]
  · rintro rfl
    have hlo := Int.le_bmod (x := n) (m := 2 ^ 64) (by omega)
    have hhi := Int.bmod_lt (x := n) (m := 2 ^ 64) (by omega)
    refine ⟨by omega, by omega, Int.bdiv n (2 ^ 64), ?_⟩
    have hdiv := Int.bmod_add_bdiv n (2 ^ 64)
    omega

theorem Wrapped.self {n : Int} (hlo : -2 ^ 63 ≤ n) (hhi : n < 2 ^ 63) : Wrapped n n :=
  ⟨hlo, hhi, 0, by omega⟩

theorem Wrapped.eq {n v : Int} (h : Wrapped n v) (hlo : -2 ^ 63 ≤ n) (hhi : n < 2 ^ 63) : v = n := by
  obtain ⟨_, _, turns, rfl⟩ := h
  omega

theorem Wrapped.unique {n v w : Int} (hv : Wrapped n v) (hw : Wrapped n w) : v = w :=
  (wrapped_iff.mp hv).trans (wrapped_iff.mp hw).symm

theorem wrapped_add (a b : Int64) : Wrapped (a.toInt + b.toInt) (a + b).toInt :=
  wrapped_iff.mpr (Int64.toInt_add a b)

theorem wrapped_foldl_add (l : List Int64) : ∀ a : Int64,
    Wrapped (a.toInt + (l.map Int64.toInt).sum) (l.foldl (· + ·) a).toInt := by
  induction l with
  | nil =>
    intro a
    rw [List.map_nil, List.sum_nil, Int.add_zero]
    exact Wrapped.self a.le_toInt a.toInt_lt
  | cons b l ih =>
    intro a
    rw [List.map_cons, List.sum_cons, List.foldl_cons, wrapped_iff, wrapped_iff.mp (ih (a + b)),
      wrapped_iff.mp (wrapped_add a b), Int.bmod_add_bmod, Int.add_assoc]

theorem toInt_max (a b : Int64) : (max a b).toInt = max a.toInt b.toInt := by
  show (if a ≤ b then b else a).toInt = _
  split
  · rename_i h
    rw [Int.max_eq_right (Int64.le_iff_toInt_le.mp h)]
  · rename_i h
    rw [Int64.le_iff_toInt_le] at h
    rw [Int.max_eq_left (by omega)]

theorem toInt_foldl_max (l : List Int64) : ∀ a : Int64,
    (l.foldl max a).toInt = (l.map Int64.toInt).foldl max a.toInt := by
  induction l with
  | nil => intro a; rfl
  | cons b l ih =>
    intro a
    rw [List.foldl_cons, ih, List.map_cons, List.foldl_cons, toInt_max]

theorem foldl_max_le {l : List Int} {b : Int} : ∀ {a : Int},
    l.foldl max a ≤ b ↔ a ≤ b ∧ ∀ x ∈ l, x ≤ b := by
  induction l with
  | nil => intro a; exact (and_iff_left (fun x hx => by cases hx)).symm
  | cons c l ih =>
    intro a
    rw [List.foldl_cons, ih, Int.max_le, List.forall_mem_cons, and_assoc]

/-! ## §2. Sums that end the program. -/

/-- `a + b` where an overflow ends the program. -/
def checkedAdd (a b : Int64) : Option Int64 :=
  if -2 ^ 63 ≤ a.toInt + b.toInt ∧ a.toInt + b.toInt < 2 ^ 63 then some (a + b) else none

theorem checkedAdd_iff {a b c : Int64} (ha : 0 ≤ a.toInt) (hb : 0 ≤ b.toInt) :
    checkedAdd a b = some c ↔ a.toInt + b.toInt < 2 ^ 63 ∧ c = a + b := by
  unfold checkedAdd
  constructor
  · intro h
    split at h
    · rename_i hfit
      cases h
      exact ⟨hfit.2, rfl⟩
    · cases h
  · rintro ⟨hlt, rfl⟩
    rw [if_pos ⟨by omega, hlt⟩]

/-- A sum that does not overflow is exact. -/
theorem toInt_add {a b : Int64} (ha : 0 ≤ a.toInt) (hb : 0 ≤ b.toInt)
    (h : a.toInt + b.toInt < 2 ^ 63) : (a + b).toInt = a.toInt + b.toInt :=
  (wrapped_add a b).eq (by omega) h

section Folds

variable {ι σ β : Type*} {w : ι → β → Int} {step : σ → β → Option σ}
  {plus : σ → β → σ} {bound : Int} {l : List β} {v : σ}

/-- **A fold of checked additions**, of several sums at a time: it goes through
exactly if all the exact sums stay below the bound. -/
theorem foldlM_checked_iff (val : ι → σ → Int) (hw : ∀ i, ∀ b ∈ l, 0 ≤ w i b)
    (hstep : ∀ b ∈ l, ∀ s v, (∀ i, 0 ≤ val i s) →
      (step s b = some v ↔ (∀ i, val i s + w i b < bound) ∧ v = plus s b))
    (hplus : ∀ b ∈ l, ∀ s, (∀ i, 0 ≤ val i s) → ∀ i, val i s + w i b < bound →
      val i (plus s b) = val i s + w i b) :
    ∀ s, (∀ i, 0 ≤ val i s ∧ val i s < bound) →
      (l.foldlM step s = some v ↔
        (∀ i, val i s + (l.map (w i)).sum < bound) ∧ v = l.foldl plus s) := by
  induction l with
  | nil =>
    intro s hs
    have hfit : ∀ i, val i s + (([] : List β).map (w i)).sum < bound := by
      intro i
      rw [List.map_nil, List.sum_nil, Int.add_zero]
      exact (hs i).2
    rw [List.foldlM_nil, List.foldl_nil, and_iff_right hfit]
    exact Option.some_inj.trans eq_comm
  | cons b l ih =>
    intro s hs
    obtain ⟨hstepb, hstep⟩ := List.forall_mem_cons.mp hstep
    obtain ⟨hplusb, hplus⟩ := List.forall_mem_cons.mp hplus
    have hwb : ∀ i, 0 ≤ w i b := fun i => hw i b List.mem_cons_self
    have hw : ∀ i, ∀ b ∈ l, 0 ≤ w i b := fun i b hb => hw i b (List.mem_cons_of_mem _ hb)
    have hrest : ∀ i, 0 ≤ (l.map (w i)).sum :=
      fun i => List.sum_nonneg (List.forall_mem_map.mpr (hw i))
    have hpos : ∀ i, 0 ≤ val i s := fun i => (hs i).1
    -- after one step that goes through, the rest starts from the exact sums
    have hnext : (∀ i, val i s + w i b < bound) →
        (l.foldlM step (plus s b) = some v ↔
          (∀ i, val i s + w i b + (l.map (w i)).sum < bound) ∧ v = l.foldl plus (plus s b)) := by
      intro hlt
      have hval : ∀ i, val i (plus s b) = val i s + w i b :=
        fun i => hplusb s hpos i (hlt i)
      have htail := ih hw hstep hplus (plus s b) (fun i => by
        rw [hval i]
        exact ⟨Int.add_nonneg (hpos i) (hwb i), hlt i⟩)
      simpa only [hval] using htail
    have hsplit : ∀ i, val i s + ((b :: l).map (w i)).sum
        = val i s + w i b + (l.map (w i)).sum := by
      intro i
      rw [List.map_cons, List.sum_cons, Int.add_assoc]
    simp only [hsplit]
    rw [List.foldlM_cons, Option.bind_eq_bind, Option.bind_eq_some_iff, List.foldl_cons]
    constructor
    · rintro ⟨s', hs', htail⟩
      obtain ⟨hlt, rfl⟩ := (hstepb s s' hpos).mp hs'
      exact (hnext hlt).mp htail
    · rintro ⟨hfit, hv⟩
      have hlt : ∀ i, val i s + w i b < bound := by
        intro i
        have hfit := hfit i
        have hrest := hrest i
        omega
      exact ⟨_, (hstepb s _ hpos).mpr ⟨hlt, rfl⟩, (hnext hlt).mpr ⟨hfit, hv⟩⟩

end Folds

/-! ## §3. Sums that are right. -/

/-- None of the parts is larger than `v`. -/
def Above (parts : List Int) (v : Int) : Prop := 0 ≤ v ∧ ∀ x ∈ parts, x ≤ v

/-- **A right sum**: the exact one if that is representable, or else at least as
large as each of its parts; it is never negative. -/
structure Right (sum : Int) (parts : List Int) (v : Int) : Prop where
  nonneg : 0 ≤ v
  exact : sum < 2 ^ 63 → v = sum
  above : 2 ^ 63 ≤ sum → ∀ x ∈ parts, x ≤ v

/-- **What wraps is right** if it errs upwards: `n` is the exact sum as far as
that is representable. -/
theorem right_iff {sum n v : Int} {parts : List Int} (hpos : Above parts sum)
    (hn : sum < 2 ^ 63 → n = sum) (hv : Wrapped n v) : Right sum parts v ↔ Above parts v := by
  have hexact : sum < 2 ^ 63 → v = sum := fun hlt => by
    have hn := hn hlt
    have hpos := hpos.1
    rw [hv.eq (by omega) (by omega), hn]
  constructor
  · intro h
    refine ⟨h.nonneg, fun x hx => ?_⟩
    rcases Int.lt_or_le sum (2 ^ 63) with hlt | hge
    · rw [h.exact hlt]
      exact hpos.2 x hx
    · exact h.above hge x hx
  · intro h
    exact ⟨h.1, hexact, fun _ => h.2⟩

/-- Where only what is left above the parts counts, nothing is taken off. -/
theorem above_wrapped_iff {n v : Int} {parts : List Int} (hlo : -2 ^ 63 ≤ n) (hhi : n < 2 ^ 64)
    (hv : Wrapped n v) : Above parts v ↔ n < 2 ^ 63 ∧ Above parts n := by
  rcases Int.lt_or_le n (2 ^ 63) with hlt | hge
  · rw [hv.eq hlo hlt]
    exact (and_iff_right hlt).symm
  · constructor
    · intro h
      obtain ⟨_, _, turns, hn⟩ := hv
      have hpos := h.1
      omega
    · rintro ⟨hlt, _⟩
      omega

end HardwareAutoscaler.Lib
