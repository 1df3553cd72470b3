/-
  HardwareAutoscaler.Lib.TwoOrders
  ────────────────────────────────
  FIRST FIT OVER BINS THAT ARE LISTED IN TWO ORDERS.

  Each item goes to the first bin that it sees and fits in.  Listed otherwise,
  the bins are tried in another order, and an item may go to another bin.  As
  long as the two bins are alike for the items that follow, the runs stay
  matched: a permutation takes the bins of one run to those of the other, and a
  bin that a later item may still fit in to one with the same room.

    • `Takes` — one item and its bin,
    • `may`, `AlikeFor` — the bins an item may still fit in, and when two bins
      are alike,
    • `Matched` — the relation of the two runs,
    • `Matched.first` — one item: both runs place it or neither does,
    • `Matched.drop` — bins that the permutation leaves in place are taken away.
-/
import Mathlib.Data.List.Perm.Basic
import Mathlib.Logic.Equiv.Basic

namespace HardwareAutoscaler.Lib

variable {ι κ ρ : Type}

/-! ## §1. One item. -/

/-- The first bin that an item sees and fits in. -/
def firstFit (sees : ι → κ → Bool) (fits : ι → ρ → Bool) (bins : List κ) (room : κ → ρ) (p : ι) :
    Option κ :=
  bins.find? (fun k => fits p (room k) && sees p k)

/-- The bin `k` takes the item `p`, and its room shrinks by that. -/
structure Takes (take : ι → ρ → ρ) (bins : List κ) (room : κ → ρ) (p : ι) (k : κ) (after : κ → ρ) :
    Prop where
  self : after k = take p (room k)
  others : ∀ j ∈ bins, j ≠ k → after j = room j

/-- The item may still fit in the bin: it sees it, and could do with its room. -/
def may (sees : ι → κ → Bool) (could : ι → ρ → Bool) (room : κ → ρ) (q : ι) (k : κ) : Bool :=
  sees q k && could q (room k)

/-- The two bins are alike for these items: an item that may still fit in one may
in the other, and there they have the same room. -/
def AlikeFor (sees : ι → κ → Bool) (could : ι → ρ → Bool) (items : List ι) (room : κ → ρ)
    (a b : κ) : Prop :=
  ∀ q ∈ items, may sees could room q a = may sees could room q b ∧
    (may sees could room q a = true → room a = room b)

instance [DecidableEq ρ] (sees : ι → κ → Bool) (could : ι → ρ → Bool) (items : List ι)
    (room : κ → ρ) (a b : κ) : Decidable (AlikeFor sees could items room a b) :=
  inferInstanceAs (Decidable (∀ q ∈ items, may sees could room q a = may sees could room q b ∧
    (may sees could room q a = true → room a = room b)))

/-- An item that fits could do with the room, and one that could do with what the
item `p` leaves could do with the room before. -/
structure Shrinks (fits could : ι → ρ → Bool) (take : ι → ρ → ρ) (p : ι) : Prop where
  could_of_fits : ∀ q r, fits q r = true → could q r = true
  could_before : ∀ q r, fits p r = true → could q (take p r) = true → could q r = true

variable {sees : ι → κ → Bool} {fits could : ι → ρ → Bool} {take : ι → ρ → ρ} {items : List ι}
  {pinned : κ → Prop} {bins bins' : List κ} {room room' : κ → ρ} {p : ι}

theorem firstFit_some {k : κ} (h : firstFit sees fits bins room p = some k) :
    k ∈ bins ∧ fits p (room k) = true ∧ sees p k = true := by
  have hfits := List.find?_some h
  simp only [Bool.and_eq_true] at hfits
  exact ⟨List.mem_of_find?_eq_some h, hfits⟩

theorem firstFit_none : firstFit sees fits bins room p = none ↔
    ∀ k ∈ bins, fits p (room k) = true → sees p k = false := by
  unfold firstFit
  simp only [List.find?_eq_none, Bool.and_eq_true, not_and, Bool.not_eq_true]

/-- A bin that fits is found, or one before it. -/
theorem exists_firstFit {k : κ} (hk : k ∈ bins) (hfits : fits p (room k) = true)
    (hsees : sees p k = true) : ∃ j, firstFit sees fits bins room p = some j := by
  cases hj : firstFit sees fits bins room p with
  | some j => exact ⟨j, rfl⟩
  | none =>
    rw [firstFit_none.mp hj k hk hfits] at hsees
    cases hsees

/-! ## §2. The two runs. -/

/-- The permutation `σ` matches the bins of two runs: it leaves the pinned bins
in place, and takes a bin that a later item may still fit in to one with the same
room, in which it may fit too. -/
structure Pairing (sees : ι → κ → Bool) (could : ι → ρ → Bool) (items : List ι)
    (pinned : κ → Prop) (bins : List κ) (room room' : κ → ρ) (σ : Equiv.Perm κ) : Prop where
  mem : ∀ k, σ k ∈ bins ↔ k ∈ bins
  stays : ∀ k ∈ bins, pinned k → σ k = k
  alike : ∀ q ∈ items, ∀ k ∈ bins, may sees could room' q (σ k) = may sees could room q k
  rooms : ∀ q ∈ items, ∀ k ∈ bins, may sees could room q k = true → room' (σ k) = room k

/-- **The relation of the two runs**: some permutation matches their bins. -/
def Matched (sees : ι → κ → Bool) (could : ι → ρ → Bool) (items : List ι) (pinned : κ → Prop)
    (bins : List κ) (room room' : κ → ρ) : Prop :=
  ∃ σ : Equiv.Perm κ, Pairing sees could items pinned bins room room' σ

/-- **The runs start matched**, with the same rooms. -/
theorem matched_start (h : ∀ k ∈ bins, room' k = room k) :
    Matched sees could items pinned bins room room' := by
  refine ⟨Equiv.refl κ, fun _ => Iff.rfl, fun _ _ _ => rfl, ?_, fun _ _ k hk _ => h k hk⟩
  intro q _ k hk
  show may sees could room' q k = may sees could room q k
  unfold may
  rw [h k hk]

/-- Where no item follows, there is nothing to match. -/
theorem matched_nil : Matched sees could [] pinned bins room room' := by
  refine ⟨Equiv.refl κ, fun _ => Iff.rfl, fun _ _ _ => rfl, ?_, ?_⟩
  · intro q hq
    cases hq
  · intro q hq
    cases hq

/-- Fewer items, and fewer pinned bins. -/
theorem Matched.mono (h : Matched sees could items pinned bins room room') {fewer : List ι}
    {loose : κ → Prop} (hitems : ∀ q ∈ fewer, q ∈ items) (hpinned : ∀ k, loose k → pinned k) :
    Matched sees could fewer loose bins room room' := by
  obtain ⟨σ, hσ⟩ := h
  exact ⟨σ, hσ.mem, fun k hk hl => hσ.stays k hk (hpinned k hl),
    fun q hq => hσ.alike q (hitems q hq), fun q hq => hσ.rooms q (hitems q hq)⟩

/-- The rooms of the bins listed are all that is looked at. -/
theorem Matched.congr (h : Matched sees could items pinned bins room room') {after after' : κ → ρ}
    (hroom : ∀ k ∈ bins, after k = room k) (hroom' : ∀ k ∈ bins, after' k = room' k) :
    Matched sees could items pinned bins after after' := by
  obtain ⟨σ, hσ⟩ := h
  have hmay : ∀ q, ∀ k ∈ bins, may sees could after q k = may sees could room q k := by
    intro q k hk
    unfold may
    rw [hroom k hk]
  have hmay' : ∀ q, ∀ k ∈ bins, may sees could after' q (σ k) = may sees could room' q (σ k) := by
    intro q k hk
    unfold may
    rw [hroom' (σ k) ((hσ.mem k).mpr hk)]
  refine ⟨σ, hσ.mem, hσ.stays, ?_, ?_⟩
  · intro q hq k hk
    rw [hmay q k hk, hmay' q k hk]
    exact hσ.alike q hq k hk
  · intro q hq k hk hq'
    rw [hmay q k hk] at hq'
    rw [hroom k hk, hroom' (σ k) ((hσ.mem k).mpr hk)]
    exact hσ.rooms q hq k hk hq'

/-- **Pinned bins are taken away** from both runs. -/
theorem Matched.drop (h : Matched sees could items pinned bins room room') {keep : κ → Bool}
    (hpinned : ∀ k ∈ bins, keep k = false → pinned k) :
    Matched sees could items pinned (bins.filter keep) room room' := by
  obtain ⟨σ, hσ⟩ := h
  have hsub : ∀ k ∈ bins.filter keep, k ∈ bins := fun k hk => (List.mem_filter.mp hk).1
  have hstay : ∀ k ∈ bins, keep k = false → σ k = k := by
    intro k hk hno
    exact hσ.stays k hk (hpinned k hk hno)
  refine ⟨σ, ?_, fun k hk => hσ.stays k (hsub k hk), fun q hq k hk => hσ.alike q hq k (hsub k hk),
    fun q hq k hk => hσ.rooms q hq k (hsub k hk)⟩
  intro k
  rw [List.mem_filter, List.mem_filter, hσ.mem k]
  constructor
  · intro ⟨hk, hkeep⟩
    refine ⟨hk, ?_⟩
    by_contra hno
    rw [hstay k hk (by simpa using hno)] at hkeep
    exact hno hkeep
  · intro ⟨hk, hkeep⟩
    refine ⟨hk, ?_⟩
    by_contra hno
    -- a bin that is dropped is taken to by itself alone
    have hself := hstay (σ k) ((hσ.mem k).mpr hk) (by simpa using hno)
    rw [σ.injective hself] at hno
    exact hno hkeep

/-- One run puts the item `p` into `k`, and the other into the bin that `j` is
taken to: `k` and `j` change places. -/
theorem Pairing.swap [DecidableEq κ] {σ : Equiv.Perm κ}
    (h : Pairing sees could items pinned bins room room' σ) (hshrinks : Shrinks fits could take p)
    {k j : κ} (hk : k ∈ bins) (hj : j ∈ bins) (hfits : fits p (room k) = true)
    (hfits' : fits p (room' (σ j)) = true)
    (hsame : k = j ∨ (AlikeFor sees could items room k j ∧ ¬ pinned k ∧ ¬ pinned j))
    {after after' : κ → ρ} (hput : Takes take bins room p k after)
    (hself' : after' (σ j) = take p (room' (σ j)))
    (hothers' : ∀ i ∈ bins, i ≠ j → after' (σ i) = room' (σ i)) :
    Pairing sees could items pinned bins after after' ((Equiv.swap k j).trans σ) := by
  have hat : ∀ i, i ≠ k → i ≠ j → (Equiv.swap k j).trans σ i = σ i := by
    intro i hik hij
    show σ (Equiv.swap k j i) = σ i
    rw [Equiv.swap_apply_of_ne_of_ne hik hij]
  have hatk : (Equiv.swap k j).trans σ k = σ j := by
    show σ (Equiv.swap k j k) = σ j
    rw [Equiv.swap_apply_left]
  have hatj : (Equiv.swap k j).trans σ j = σ k := by
    show σ (Equiv.swap k j j) = σ k
    rw [Equiv.swap_apply_right]
  have halike : AlikeFor sees could items room k j := by
    rcases hsame with he | ⟨ha, _⟩
    · rw [he]
      exact fun q _ => ⟨rfl, fun _ => rfl⟩
    · exact ha
  have hmay : ∀ {f : κ → ρ} {q : ι} {i : κ} {x : ρ}, f i = x →
      may sees could f q i = (sees q i && could q x) := by
    intro f q i x hx
    unfold may
    rw [hx]
  -- what is seen of the two bins once both have taken the item
  have htaken : ∀ q ∈ items,
      may sees could after' q (σ j) = may sees could after q k ∧
      (may sees could after q k = true → after' (σ j) = after k) := by
    intro q hq
    have hwas := h.alike q hq j hj
    by_cases hmk : may sees could room q k = true
    · have hmj : may sees could room q j = true := (halike q hq).1.symm.trans hmk
      have hroom : room' (σ j) = room k := (h.rooms q hq j hj hmj).trans ((halike q hq).2 hmk).symm
      have hafter : after' (σ j) = after k := by rw [hself', hroom, hput.self]
      rw [hmj] at hwas
      unfold may at hmk hwas
      simp only [Bool.and_eq_true] at hmk hwas
      refine ⟨?_, fun _ => hafter⟩
      rw [hmay hafter, hmay rfl, hmk.1, hwas.1]
    -- an item that could not do with the room cannot do with less
    · have hmj : may sees could room q j = false := by
        rw [← (halike q hq).1]
        simpa using hmk
      have hno : may sees could after q k = false := by
        by_contra hyes
        have hyes' : sees q k = true ∧ could q (take p (room k)) = true := by
          rw [hmay hput.self] at hyes
          simpa using hyes
        refine hmk (Bool.and_eq_true_iff.mpr ⟨hyes'.1, ?_⟩)
        exact hshrinks.could_before q _ hfits hyes'.2
      have hno' : may sees could after' q (σ j) = false := by
        by_contra hyes
        have hyes' : sees q (σ j) = true ∧ could q (take p (room' (σ j))) = true := by
          rw [hmay hself'] at hyes
          simpa using hyes
        rw [hmj] at hwas
        have hbefore := hshrinks.could_before q _ hfits' hyes'.2
        unfold may at hwas
        rw [hyes'.1, hbefore] at hwas
        cases hwas
      rw [hno, hno']
      exact ⟨rfl, fun hf => by cases hf⟩
  -- the other bins are as they were
  have hleft : ∀ q ∈ items, ∀ i ∈ bins, i ≠ k → ∀ l ∈ bins, l ≠ j →
      may sees could room q i = may sees could room q l →
      (may sees could room q i = true → room i = room l) →
      may sees could after' q (σ l) = may sees could after q i ∧
      (may sees could after q i = true → after' (σ l) = after i) := by
    intro q hq i hi hik l hl hlj hsees hroom
    rw [hmay (hput.others i hi hik), hmay (hothers' l hl hlj), hput.others i hi hik,
      hothers' l hl hlj]
    have hl' := h.alike q hq l hl
    refine ⟨hl'.trans hsees.symm, ?_⟩
    intro hyes
    rw [h.rooms q hq l hl (hsees.symm.trans hyes), hroom hyes]
  have hall : ∀ q ∈ items, ∀ i ∈ bins,
      may sees could after' q ((Equiv.swap k j).trans σ i) = may sees could after q i ∧
      (may sees could after q i = true → after' ((Equiv.swap k j).trans σ i) = after i) := by
    intro q hq i hi
    by_cases hik : i = k
    · rw [hik, hatk]
      exact htaken q hq
    by_cases hij : i = j
    · rw [hij, hatj]
      rw [hij] at hik
      exact hleft q hq j hj hik k hk (Ne.symm hik) (halike q hq).1.symm
        (fun hyes => ((halike q hq).2 ((halike q hq).1.trans hyes)).symm)
    rw [hat i hik hij]
    exact hleft q hq i hi hik i hi hij rfl (fun _ => rfl)
  refine ⟨?_, ?_, fun q hq i hi => (hall q hq i hi).1, fun q hq i hi => (hall q hq i hi).2⟩
  · intro i
    by_cases hik : i = k
    · rw [hik, hatk, h.mem j]
      exact iff_of_true hj hk
    by_cases hij : i = j
    · rw [hij, hatj, h.mem k]
      exact iff_of_true hk hj
    rw [hat i hik hij]
    exact h.mem i
  · intro i hi hpin
    rcases hsame with he | ⟨_, hnk, hnj⟩
    · rw [he, Equiv.swap_self]
      exact h.stays i hi hpin
    · rw [hat i (fun hik => hnk (hik ▸ hpin)) (fun hij => hnj (hij ▸ hpin))]
      exact h.stays i hi hpin

/-- **One item**: if the bins that it fits in are alike for the items after it,
and none of them is pinned, both runs place it or neither does, and they stay
matched. -/
theorem Matched.first (h : Matched sees could (p :: items) pinned bins room room')
    (hshrinks : Shrinks fits could take p) (hperm : bins.Perm bins')
    (halike : ∀ a ∈ bins, ∀ b ∈ bins, fits p (room a) = true → sees p a = true →
      fits p (room b) = true → sees p b = true →
      a = b ∨ (AlikeFor sees could items room a b ∧ ¬ pinned a ∧ ¬ pinned b)) :
    (firstFit sees fits bins room p = none ∧ firstFit sees fits bins' room' p = none) ∨
    ∃ k k', firstFit sees fits bins room p = some k ∧ firstFit sees fits bins' room' p = some k' ∧
      ∀ after after', Takes take bins room p k after → Takes take bins' room' p k' after' →
        Matched sees could items pinned bins after after' := by
  classical
  obtain ⟨σ, hσ⟩ := h
  have hp : p ∈ p :: items := List.mem_cons_self
  have hmay : ∀ {f : κ → ρ} {i : κ}, fits p (f i) = true → sees p i = true →
      may sees could f p i = true :=
    fun hf hs => Bool.and_eq_true_iff.mpr ⟨hs, hshrinks.could_of_fits p _ hf⟩
  have hsees : ∀ {f : κ → ρ} {i : κ}, may sees could f p i = true → sees p i = true :=
    fun hm => (Bool.and_eq_true_iff.mp hm).1
  -- a bin that fits in the second run is one that fits in the first
  have hback : ∀ j ∈ bins, fits p (room' (σ j)) = true → sees p (σ j) = true →
      fits p (room j) = true ∧ sees p j = true := by
    intro j hj hf hs
    have hmj : may sees could room p j = true := (hσ.alike p hp j hj).symm.trans (hmay hf hs)
    rw [hσ.rooms p hp j hj hmj] at hf
    exact ⟨hf, hsees hmj⟩
  cases hk : firstFit sees fits bins room p with
  | none =>
    refine Or.inl ⟨rfl, firstFit_none.mpr ?_⟩
    intro k' hk' hfits
    obtain ⟨j, rfl⟩ := σ.surjective k'
    have hj : j ∈ bins := (hσ.mem j).mp (hperm.mem_iff.mpr hk')
    by_contra hs
    obtain ⟨hfj, hsj⟩ := hback j hj hfits (by simpa using hs)
    rw [firstFit_none.mp hk j hj hfj] at hsj
    cases hsj
  | some k =>
    obtain ⟨hkb, hfits, hs⟩ := firstFit_some hk
    have hmk := hmay hfits hs
    obtain ⟨k', hk'⟩ : ∃ k', firstFit sees fits bins' room' p = some k' :=
      exists_firstFit (hperm.mem_iff.mp ((hσ.mem k).mpr hkb))
        (by rw [hσ.rooms p hp k hkb hmk]; exact hfits)
        (hsees ((hσ.alike p hp k hkb).trans hmk))
    obtain ⟨hkb', hfits', hs'⟩ := firstFit_some hk'
    refine Or.inr ⟨k, k', rfl, hk', ?_⟩
    intro after after' hput hput'
    obtain ⟨j, rfl⟩ := σ.surjective k'
    have hj : j ∈ bins := (hσ.mem j).mp (hperm.mem_iff.mpr hkb')
    obtain ⟨hfj, hsj⟩ := hback j hj hfits' hs'
    have hless : Pairing sees could items pinned bins room room' σ :=
      ⟨hσ.mem, hσ.stays, fun q hq => hσ.alike q (List.mem_cons_of_mem p hq),
        fun q hq => hσ.rooms q (List.mem_cons_of_mem p hq)⟩
    refine ⟨_, hless.swap hshrinks hkb hj hfits hfits' (halike k hkb j hj hfits hs hfj hsj) hput
      hput'.self ?_⟩
    intro i hi hij
    exact hput'.others (σ i) (hperm.mem_iff.mp ((hσ.mem i).mpr hi))
      (fun he => hij (σ.injective he))

end HardwareAutoscaler.Lib
