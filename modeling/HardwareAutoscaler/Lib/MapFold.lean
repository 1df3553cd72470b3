/-
  HardwareAutoscaler.Lib.MapFold
  ──────────────────────────────
  MAPS BUILT BY A LOOP OF INSERTIONS — program independent.

  `insertAll entry m l` is the loop that inserts into the ordered map `m` the
  key and value of every element of `l` that has an entry.

    • `insertAll_some` — what a lookup finds comes from an element or from `m`,
    • `insertAll_of_entry` — an element's entry is found, if no other element
      has a different one for its key,
    • `insertAll_of_not_entry` — a key no element has keeps what `m` had,
    • `insertAll_congr_entry`, `insertAll_map_congr` — entries that agree build
      maps that agree,
    • `mem_insertAll_of_entry` — the key of an element's entry is in the map.
-/
import Mathlib.Data.List.Sort
import Mathlib.Tactic.Linarith

namespace HardwareAutoscaler.Lib

open Std (TreeMap TransCmp LawfulEqCmp)

/-- Inserts, for every element with an entry, that entry. -/
def insertAll {α κ β : Type} [Ord κ] (entry : α → Option (κ × β)) :
    TreeMap κ β → List α → TreeMap κ β
  | m, [] => m
  | m, x :: l =>
    match entry x with
    | some (k, v) => insertAll entry (m.insert k v) l
    | none => insertAll entry m l

variable {α κ β : Type} [Ord κ] [TransCmp (α := κ) compare] [LawfulEqCmp (α := κ) compare]
  {entry : α → Option (κ × β)} {k : κ} {v : β}

theorem getElem?_insert_of_ne {m : TreeMap κ β} {k' : κ} (h : k' ≠ k) :
    (m.insert k' v)[k]? = m[k]? := by
  have hcmp : compare k' k ≠ .eq := fun he => h (LawfulEqCmp.eq_of_compare he)
  simp only [TreeMap.getElem?_insert, hcmp, if_false]

theorem getElem?_erase_of_ne {m : TreeMap κ β} {k' : κ} (h : k' ≠ k) : (m.erase k')[k]? = m[k]? := by
  have hcmp : compare k' k ≠ .eq := fun he => h (LawfulEqCmp.eq_of_compare he)
  simp only [TreeMap.getElem?_erase, hcmp, if_false]

theorem insertAll_of_not_entry {l : List α} :
    ∀ {m : TreeMap κ β}, (∀ x ∈ l, ∀ v, entry x ≠ some (k, v)) →
      (insertAll entry m l)[k]? = m[k]? := by
  induction l with
  | nil => intro m _; rfl
  | cons x l ih =>
    intro m h
    have hl : ∀ y ∈ l, ∀ v, entry y ≠ some (k, v) := fun y hy => h y (List.mem_cons_of_mem _ hy)
    rw [insertAll]
    split
    · rename_i k' v hx
      have hne : k' ≠ k := fun he => h x List.mem_cons_self v (he ▸ hx)
      rw [ih hl, getElem?_insert_of_ne hne]
    · exact ih hl

/-- What a map gains does not depend on what it had. -/
theorem insertAll_congr {l : List α} :
    ∀ {m m' : TreeMap κ β}, m[k]? = m'[k]? →
      (insertAll entry m l)[k]? = (insertAll entry m' l)[k]? := by
  induction l with
  | nil => intro m m' h; exact h
  | cons x l ih =>
    intro m m' h
    rw [insertAll, insertAll]
    split
    · rename_i k' v' _
      apply ih
      by_cases hne : k' = k
      · rw [hne, TreeMap.getElem?_insert_self, TreeMap.getElem?_insert_self]
      · rw [getElem?_insert_of_ne hne, getElem?_insert_of_ne hne, h]
    · exact ih h

theorem insertAll_some {l : List α} :
    ∀ {m : TreeMap κ β}, (insertAll entry m l)[k]? = some v →
      (∃ x ∈ l, entry x = some (k, v)) ∨ m[k]? = some v := by
  induction l with
  | nil => intro m h; exact Or.inr h
  | cons x l ih =>
    intro m h
    rw [insertAll] at h
    split at h
    · rename_i k' v' hx
      rcases ih h with ⟨y, hy, hyv⟩ | h
      · exact Or.inl ⟨y, List.mem_cons_of_mem _ hy, hyv⟩
      · by_cases hne : k' = k
        · subst hne
          rw [TreeMap.getElem?_insert_self] at h
          exact Or.inl ⟨x, List.mem_cons_self, by rw [hx, Option.some.inj h]⟩
        · rw [getElem?_insert_of_ne hne] at h
          exact Or.inr h
    · rcases ih h with ⟨y, hy, hyv⟩ | h
      · exact Or.inl ⟨y, List.mem_cons_of_mem _ hy, hyv⟩
      · exact Or.inr h

theorem insertAll_of_entry {l : List α} :
    ∀ {m : TreeMap κ β}, (∃ x ∈ l, entry x = some (k, v)) →
      (∀ x ∈ l, ∀ v', entry x = some (k, v') → v' = v) →
      (insertAll entry m l)[k]? = some v := by
  induction l with
  | nil => rintro m ⟨x, hx, _⟩; cases hx
  | cons x l ih =>
    intro m hex huniq
    have hl : ∀ y ∈ l, ∀ v', entry y = some (k, v') → v' = v :=
      fun y hy => huniq y (List.mem_cons_of_mem _ hy)
    rw [insertAll]
    by_cases hmem : ∃ y ∈ l, entry y = some (k, v)
    · split <;> exact ih hmem hl
    · -- the entry is the head's, and no later one replaces it
      have hx : entry x = some (k, v) := by
        obtain ⟨y, hy, hyv⟩ := hex
        rcases List.mem_cons.mp hy with rfl | hy
        · exact hyv
        · exact absurd ⟨y, hy, hyv⟩ hmem
      have hnot : ∀ y ∈ l, ∀ v', entry y ≠ some (k, v') := by
        intro y hy v' hyv
        exact hmem ⟨y, hy, by rw [hyv, hl y hy v' hyv]⟩
      simp only [hx]
      rw [insertAll_of_not_entry hnot, TreeMap.getElem?_insert_self]

omit [TransCmp (α := κ) compare] [LawfulEqCmp (α := κ) compare] in
/-- Entries that agree on the list build one map. -/
theorem insertAll_congr_entry {entry' : α → Option (κ × β)} {l : List α} :
    ∀ {m : TreeMap κ β}, (∀ x ∈ l, entry x = entry' x) → insertAll entry m l = insertAll entry' m l := by
  induction l with
  | nil => intro m _; rfl
  | cons x l ih =>
    intro m h
    have hl : ∀ y ∈ l, entry y = entry' y := fun y hy => h y (List.mem_cons_of_mem _ hy)
    rw [insertAll, insertAll, h x List.mem_cons_self]
    split
    · exact ih hl
    · exact ih hl

/-- Values that agree up to `g` at the start and in every entry agree at the end. -/
theorem insertAll_map_congr {γ : Type} {g : β → γ} {key : α → κ} {val val' : α → β} {l : List α} :
    ∀ {m m' : TreeMap κ β}, m[k]?.map g = m'[k]?.map g → (∀ x ∈ l, g (val x) = g (val' x)) →
      (insertAll (fun x => some (key x, val x)) m l)[k]?.map g =
        (insertAll (fun x => some (key x, val' x)) m' l)[k]?.map g := by
  induction l with
  | nil => intro m m' h _; exact h
  | cons x l ih =>
    intro m m' h hval
    rw [insertAll, insertAll]
    apply ih
    · by_cases hne : key x = k
      · rw [hne, TreeMap.getElem?_insert_self, TreeMap.getElem?_insert_self]
        exact congrArg some (hval x List.mem_cons_self)
      · rw [getElem?_insert_of_ne hne, getElem?_insert_of_ne hne, h]
    · exact fun y hy => hval y (List.mem_cons_of_mem _ hy)

omit [LawfulEqCmp (α := κ) compare] in
theorem mem_insertAll_of_mem {l : List α} :
    ∀ {m : TreeMap κ β}, k ∈ m → k ∈ insertAll entry m l := by
  induction l with
  | nil => intro m h; exact h
  | cons x l ih =>
    intro m h
    rw [insertAll]
    split
    · exact ih (TreeMap.mem_insert.mpr (Or.inr h))
    · exact ih h

omit [LawfulEqCmp (α := κ) compare] in
theorem mem_insertAll_of_entry {l : List α} {x : α} :
    ∀ {m : TreeMap κ β}, x ∈ l → entry x = some (k, v) → k ∈ insertAll entry m l := by
  induction l with
  | nil => intro m hx _; cases hx
  | cons y l ih =>
    intro m hx hv
    rcases List.mem_cons.mp hx with hx | hx
    · rw [insertAll, ← hx, hv]
      exact mem_insertAll_of_mem (TreeMap.mem_insert_self)
    · rw [insertAll]
      split <;> exact ih hx hv

end HardwareAutoscaler.Lib
