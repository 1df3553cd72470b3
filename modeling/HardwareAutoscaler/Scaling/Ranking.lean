/-
  HardwareAutoscaler.Scaling.Ranking
  ──────────────────────────────────
  THE RANKING OF A POOL'S MACHINES IS A TOTAL ORDER.

  `powerOnOrder` compares weight, S3 capability, size and name in turn.  As
  the names are distinct it never leaves two machines tied, so a sorted list
  does not depend on the order in which the machines were listed.

    • `powerOnOrder_transCmp`, `name_eq_of_powerOnOrder` — the comparison,
    • `sortBy_pairwise`, `sortBy_eq_of_perm` — what sorting by a comparison
      yields; `mem_take_iff` — its first elements,
    • `rankedUp_pairwise` — the machines that are off, in their order,
    • `rankedUp_eq_of_perm`, `candidates_eq_of_perm` — the two rankings of
      two listings of the same members.
-/
import HardwareAutoscaler.Scaling.Removal

namespace HardwareAutoscaler

open Std (TransCmp OrientedCmp LawfulEqCmp LawfulEqOrd)

/-! ## §1. Sorting by a comparison. -/

section Sorting

variable {α : Type} {cmp : α → α → Ordering}

theorem isLE_total [OrientedCmp cmp] (a b : α) :
    (cmp a b).isLE = true ∨ (cmp b a).isLE = true := by
  rw [@OrientedCmp.eq_swap _ cmp _ b a]
  cases cmp a b with
  | lt => exact Or.inl rfl
  | eq => exact Or.inl rfl
  | gt => exact Or.inr rfl

/-- Two that are both within the other are tied. -/
theorem eq_of_isLE_isLE [OrientedCmp cmp] {a b : α} (hab : (cmp a b).isLE = true)
    (hba : (cmp b a).isLE = true) : cmp a b = .eq := by
  rw [@OrientedCmp.eq_swap _ cmp _ b a] at hba
  cases hc : cmp a b with
  | lt => rw [hc] at hba; cases hba
  | eq => rfl
  | gt => rw [hc] at hab; cases hab

theorem sortBy_pairwise [TransCmp cmp] (l : List α) :
    (sortBy cmp l).Pairwise (fun a b => (cmp a b).isLE = true) := by
  let le : α → α → Prop := fun a b => (cmp a b).isLE = true
  have : Std.Total le := ⟨fun a b => isLE_total a b⟩
  have : IsTrans α le := ⟨fun a b c hab hbc => TransCmp.isLE_trans hab hbc⟩
  exact List.pairwise_insertionSort le l

/-- **Two listings sort alike** when the comparison ties no two of their
elements. -/
theorem sortBy_eq_of_perm [TransCmp cmp] {l l' : List α} (h : l.Perm l')
    (huniq : ∀ a ∈ l, ∀ b ∈ l, cmp a b = .eq → a = b) : sortBy cmp l = sortBy cmp l' := by
  have hanti : ∀ a b, a ∈ sortBy cmp l → b ∈ sortBy cmp l' → (cmp a b).isLE = true →
      (cmp b a).isLE = true → a = b := by
    intro a b ha hb hab hba
    rw [mem_sortBy] at ha hb
    exact huniq a ha b (h.mem_iff.mpr hb) (eq_of_isLE_isLE hab hba)
  exact List.Perm.eq_of_pairwise hanti (sortBy_pairwise l) (sortBy_pairwise l')
    (((sortBy_perm cmp l).trans h).trans (sortBy_perm cmp l').symm)

/-- **The first `k`** of a listing in order are those with fewer than `k` before them. -/
theorem mem_take_iff [TransCmp cmp] [LawfulEqCmp cmp] {x : α} : ∀ {l : List α} {k : Nat},
    l.Pairwise (fun a b => (cmp a b).isLE = true) →
      (x ∈ l.take k ↔ x ∈ l ∧ l.countP (fun y => cmp y x == .lt) < k) := by
  intro l
  induction l with
  | nil =>
    intro k _
    rw [List.take_nil]
    exact ⟨fun h => absurd h List.not_mem_nil, fun h => absurd h.1 List.not_mem_nil⟩
  | cons a l ih =>
    intro k h
    obtain ⟨ha, hl⟩ := List.pairwise_cons.mp h
    cases k with
    | zero =>
      rw [List.take_zero]
      exact ⟨fun h => absurd h List.not_mem_nil, fun h => absurd h.2 (Nat.not_lt_zero _)⟩
    | succ k =>
      rw [List.take_succ_cons, List.mem_cons, List.mem_cons, ih hl]
      -- does the first come before `x`? then it takes one of the `k` places from those after it
      by_cases hlt : cmp a x = .lt
      · have hne : x ≠ a := by
          rintro rfl
          have heq : cmp x x = .eq := Std.ReflCmp.compare_self
          rw [heq] at hlt
          cases hlt
        rw [List.countP_cons_of_pos (p := fun y => cmp y x == .lt) (beq_iff_eq.mpr hlt),
          Nat.add_lt_add_iff_right]
        exact ⟨fun h => ⟨Or.inr (h.resolve_left hne).1, (h.resolve_left hne).2⟩,
          fun h => Or.inr ⟨h.1.resolve_left hne, h.2⟩⟩
      · -- nothing comes before `x` when the first does not
        have hnone : ∀ y ∈ l, ¬ (cmp y x == .lt) = true := by
          intro y hy hyx
          exact hlt (TransCmp.lt_of_isLE_of_lt (ha y hy) (eq_of_beq hyx))
        rw [List.countP_cons_of_neg (p := fun y => cmp y x == .lt) (fun h => hlt (eq_of_beq h)),
          List.countP_eq_zero.mpr hnone]
        constructor
        · rintro (rfl | ⟨hx, _⟩)
          · exact ⟨Or.inl rfl, Nat.succ_pos k⟩
          · exact ⟨Or.inr hx, Nat.succ_pos k⟩
        · rintro ⟨rfl | hx, _⟩
          · exact Or.inl rfl
          · refine Or.inl ?_
            have hle := ha x hx
            cases hc : cmp a x with
            | lt => exact absurd hc hlt
            | eq => exact (LawfulEqCmp.eq_of_compare hc).symm
            | gt => rw [hc] at hle; cases hle

end Sorting

/-! ## §2. The order of the machines. -/

section Order

variable {spec : NodeScalingPoolSpec} {a b : Member}

/-- **The order is a transitive comparison**: each of its five parts is. -/
instance powerOnOrder_transCmp (spec : NodeScalingPoolSpec) : TransCmp (powerOnOrder spec) := by
  have hweight : TransCmp (fun a b : Member =>
      compare (spec.scaleUp.nodeWeight b.name) (spec.scaleUp.nodeWeight a.name)) :=
    @TransCmp.opposite _ (compareOn (fun m : Member => spec.scaleUp.nodeWeight m.name)) _
  have hs3 : TransCmp (fun a b : Member => compare (spec.scaleUp.preferS3Capable && !a.s3Capable)
      (spec.scaleUp.preferS3Capable && !b.s3Capable)) :=
    inferInstanceAs (TransCmp (compareOn (fun m : Member =>
      spec.scaleUp.preferS3Capable && !m.s3Capable)))
  have hcpu : TransCmp (fun a b : Member =>
      compare b.allocatable.cpuMillis.toInt a.allocatable.cpuMillis.toInt) :=
    @TransCmp.opposite _ (compareOn (fun m : Member => m.allocatable.cpuMillis.toInt)) _
  have hmemory : TransCmp (fun a b : Member =>
      compare b.allocatable.memoryBytes.toInt a.allocatable.memoryBytes.toInt) :=
    @TransCmp.opposite _ (compareOn (fun m : Member => m.allocatable.memoryBytes.toInt)) _
  have hname : TransCmp (fun a b : Member => compare a.name b.name) :=
    inferInstanceAs (TransCmp (compareOn Member.name))
  exact inferInstanceAs (TransCmp (compareLex _ (compareLex _ (compareLex _ (compareLex _ _)))))

/-- Machines the order ties have one name. -/
theorem name_eq_of_powerOnOrder (h : powerOnOrder spec a b = .eq) : a.name = b.name := by
  unfold powerOnOrder at h
  simp only [Ordering.then_eq_eq] at h
  exact LawfulEqOrd.eq_of_compare h.2.2.2.2

end Order

namespace PoolSnapshot

variable {s : PoolSnapshot}

/-- **The machines that are off stand in the power-on order.** -/
theorem rankedUp_pairwise (s : PoolSnapshot) :
    s.rankedUp.Pairwise (fun a b => (powerOnOrder s.spec a b).isLE = true) :=
  sortBy_pairwise _

variable {members : List Member}

theorem rankedUp_eq_of_perm (hd : s.DistinctMembers) (h : s.members.Perm members) :
    s.rankedUp = ({ s with members := members } : PoolSnapshot).rankedUp := by
  unfold rankedUp
  apply sortBy_eq_of_perm (h.filter _)
  intro a ha b hb he
  exact hd.eq_of_name (List.mem_filter.mp ha).1 (List.mem_filter.mp hb).1
    (name_eq_of_powerOnOrder he)

theorem candidates_eq_of_perm (hd : s.DistinctMembers) (h : s.members.Perm members) :
    s.candidates = ({ s with members := members } : PoolSnapshot).candidates := by
  have : TransCmp (fun a b => powerOnOrder s.spec b a) := TransCmp.opposite
  unfold candidates
  apply sortBy_eq_of_perm (h.filter _)
  intro a ha b hb he
  exact hd.eq_of_name (List.mem_filter.mp ha).1 (List.mem_filter.mp hb).1
    (name_eq_of_powerOnOrder he).symm

end PoolSnapshot

end HardwareAutoscaler
