/-
  HardwareAutoscaler.Lib.Packing
  ──────────────────────────────
  PACKING ITEMS INTO BINS — program independent.

  Items of a size in an ordered group go to bins of a capacity.  A greedy
  packer keeps the free room of each bin and puts one item after the other
  where it fits; whatever order it uses, the result is a packing.

    • `load` — what an assignment puts on a bin,
    • `IsPacking` — every item has a bin that accepts it, and no used bin
      holds more than its capacity,
    • `Room`, `Left` — the bookkeeping a greedy packer keeps,
    • `IsPacking.put` / `Room.put` / `Left.put` — putting one more item that
      fits,
    • `IsPacking.cap_congr` — the capacities of unused bins do not matter.
-/
import Mathlib.Algebra.BigOperators.Group.List.Basic
import Mathlib.Algebra.Order.BigOperators.Group.List
import Mathlib.Algebra.Order.Group.Defs
import Mathlib.Tactic.Abel

namespace HardwareAutoscaler.Lib

variable {ι κ G : Type*} [DecidableEq κ] [AddCommGroup G]

/-! ## §1. Load. -/

/-- What the assignment `a` puts on bin `k`. -/
def load (size : ι → G) (a : List (ι × κ)) (k : κ) : G :=
  ((a.filter (fun x => x.2 = k)).map (fun x => size x.1)).sum

variable {size : ι → G}

@[simp] theorem load_nil (k : κ) : load size ([] : List (ι × κ)) k = 0 := rfl

@[simp] theorem load_cons_self (i : ι) (k : κ) (a : List (ι × κ)) :
    load size ((i, k) :: a) k = size i + load size a k := by
  simp [load]

theorem load_cons_of_ne {i : ι} {k k' : κ} {a : List (ι × κ)} (h : k ≠ k') :
    load size ((i, k) :: a) k' = load size a k' := by
  simp [load, h]

/-- Nothing lies on a bin that is not used. -/
theorem load_of_not_used {k : κ} {a : List (ι × κ)} (h : ∀ x ∈ a, x.2 ≠ k) :
    load size a k = 0 := by
  have hnone : a.filter (fun x => x.2 = k) = [] :=
    List.filter_eq_nil_iff.mpr (fun x hx => by simpa using h x hx)
  unfold load
  rw [hnone]
  rfl

/-! ## §2. Packings. -/

variable [PartialOrder G]

/-- `a` puts every one of `items` on a bin that accepts it, and no bin it
uses holds more than its capacity. -/
structure IsPacking (size : ι → G) (cap : κ → G) (accepts : ι → κ → Prop)
    (items : List ι) (a : List (ι × κ)) : Prop where
  perm : (a.map Prod.fst).Perm items
  accepts : ∀ x ∈ a, accepts x.1 x.2
  load_le : ∀ x ∈ a, load size a x.2 ≤ cap x.2

/-- `free` is at most what `a` leaves of the capacities. -/
def Room (size : ι → G) (cap : κ → G) (a : List (ι × κ)) (free : κ → Option G) : Prop :=
  ∀ k f, free k = some f → f ≤ cap k - load size a k

/-- `free` is exactly what `a` leaves of the capacities. -/
def Left (size : ι → G) (cap : κ → G) (a : List (ι × κ)) (free : κ → Option G) : Prop :=
  ∀ k f, free k = some f → f = cap k - load size a k

variable {cap : κ → G} {accepts : ι → κ → Prop} {items : List ι} {a : List (ι × κ)}
  {free free' : κ → Option G}

theorem IsPacking.nil : IsPacking size cap accepts [] ([] : List (ι × κ)) where
  perm := .nil
  accepts := by simp
  load_le := by simp

theorem IsPacking.of_perm {items' : List ι} (h : IsPacking size cap accepts items a)
    (hp : items.Perm items') : IsPacking size cap accepts items' a :=
  ⟨h.perm.trans hp, h.accepts, h.load_le⟩

/-- Bins may accept more, or fewer as long as the assignment is accepted. -/
theorem IsPacking.accepts_mono {accepts' : ι → κ → Prop} (h : IsPacking size cap accepts items a)
    (hacc : ∀ x ∈ a, accepts x.1 x.2 → accepts' x.1 x.2) : IsPacking size cap accepts' items a :=
  ⟨h.perm, fun x hx => hacc x hx (h.accepts x hx), h.load_le⟩

/-- Only the capacities of the bins that are used matter. -/
theorem IsPacking.cap_congr {cap' : κ → G} (h : IsPacking size cap accepts items a)
    (hcap : ∀ x ∈ a, cap x.2 = cap' x.2) : IsPacking size cap' accepts items a :=
  ⟨h.perm, h.accepts, fun x hx => (h.load_le x hx).trans (le_of_eq (hcap x hx))⟩

/-- Forgetting bins keeps the bookkeeping. -/
theorem Room.mono (h : Room size cap a free) (hsub : ∀ k f, free' k = some f → free k = some f) :
    Room size cap a free' :=
  fun k f hf => h k f (hsub k f hf)

section Ordered

variable [IsOrderedAddMonoid G]

/-- **One more item**: where it fits the remaining room, a packing stays one. -/
theorem IsPacking.put (h : IsPacking size cap accepts items a) (hroom : Room size cap a free)
    {i : ι} {k : κ} {f : G} (hk : free k = some f) (hfits : size i ≤ f) (hacc : accepts i k) :
    IsPacking size cap accepts (i :: items) ((i, k) :: a) where
  perm := h.perm.cons i
  accepts := by
    intro x hx
    rcases List.mem_cons.mp hx with rfl | hx
    · exact hacc
    · exact h.accepts x hx
  load_le := by
    have hkk : load size ((i, k) :: a) k ≤ cap k := by
      rw [load_cons_self]
      exact le_sub_iff_add_le.mp (hfits.trans (hroom k f hk))
    intro x hx
    by_cases hx2 : k = x.2
    · rw [← hx2]
      exact hkk
    · rcases List.mem_cons.mp hx with rfl | hx
      · exact absurd rfl hx2
      · rw [load_cons_of_ne hx2]
        exact h.load_le x hx

/-- **The bookkeeping after one more item**: the room of its bin shrinks by at
least its size, the room of the others does not grow. -/
theorem Room.put (hroom : Room size cap a free) {i : ι} {k : κ} {f : G} (hk : free k = some f)
    (hself : ∀ f', free' k = some f' → f' ≤ f - size i)
    (hother : ∀ k', k ≠ k' → free' k' = free k') :
    Room size cap ((i, k) :: a) free' := by
  intro k' f' hf'
  by_cases hkk : k = k'
  · subst hkk
    rw [load_cons_self]
    calc f' ≤ f - size i := hself f' hf'
      _ ≤ cap k - load size a k - size i := sub_le_sub_right (hroom k f hk) (size i)
      _ = cap k - (size i + load size a k) := by abel
  · rw [load_cons_of_ne hkk]
    exact hroom k' f' (by rw [← hother k' hkk]; exact hf')

end Ordered

omit [PartialOrder G] in
/-- The same where the room of the bin shrinks by exactly the item's size. -/
theorem Left.put (hleft : Left size cap a free) {i : ι} {k : κ} {f : G} (hk : free k = some f)
    (hself : ∀ f', free' k = some f' → f' = f - size i)
    (hother : ∀ k', k ≠ k' → free' k' = free k') :
    Left size cap ((i, k) :: a) free' := by
  intro k' f' hf'
  by_cases hkk : k = k'
  · subst hkk
    rw [load_cons_self]
    calc f' = f - size i := hself f' hf'
      _ = cap k - load size a k - size i := by rw [hleft k f hk]
      _ = cap k - (size i + load size a k) := by abel
  · rw [load_cons_of_ne hkk]
    exact hleft k' f' (by rw [← hother k' hkk]; exact hf')

end HardwareAutoscaler.Lib
