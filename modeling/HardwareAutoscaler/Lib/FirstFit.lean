/-
  HardwareAutoscaler.Lib.FirstFit
  ───────────────────────────────
  FIRST FIT — program independent.

  `takeFirst fits put` puts an item into the first bin of a list it fits.
  Where bins have distinct keys, what happens is told by the key of that bin
  alone, and only the bins that admit the item matter, in their order:

    • `takeFirst_eq`, `takeFirst_eq_modify` — the first bin that fits is the
      one that is changed, by key and by position,
    • `find?_of_agree` — two lists whose admitting bins are the same, in the
      same order, have the same first bin that fits,
    • `find?_map_of_shrunk` — and so have the bins with less room, if it
      still fits,
    • `Agree.putAt` — and they still agree after the item is put there.
-/
import Mathlib.Data.List.Basic
import Mathlib.Data.List.Nodup

namespace HardwareAutoscaler.Lib

/-- Puts an item into the first bin it fits. -/
def takeFirst {β : Type} (fits : β → Bool) (put : β → β) : List β → Option (List β)
  | [] => none
  | b :: bins => if fits b then some (put b :: bins) else (takeFirst fits put bins).map (b :: ·)

/-- Puts an item into the bin with the key `k`. -/
def putAt {β κ : Type} [DecidableEq κ] (key : β → κ) (put : β → β) (k : κ) (bins : List β) :
    List β :=
  bins.map (fun b => if key b = k then put b else b)

/-- Two lists of bins have the same admitting bins, in the same order. -/
def Agree {β : Type} (admits : β → Bool) (bins bins' : List β) : Prop :=
  bins.filter admits = bins'.filter admits

/-- By position, with or without keys: first fit changes the first bin that
fits. -/
theorem takeFirst_eq_modify {β : Type} {fits : β → Bool} {put : β → β} (bins : List β) :
    takeFirst fits put bins = (bins.findIdx? fits).map (fun i => bins.modify i put) := by
  induction bins with
  | nil => rfl
  | cons b bins ih =>
    unfold takeFirst
    rw [List.findIdx?_cons]
    by_cases hb : fits b = true
    · rw [if_pos hb, if_pos hb]
      rfl
    · rw [if_neg hb, if_neg hb, ih, Option.map_map, Option.map_map]
      rfl

/-- What putting leaves as it is, it leaves at every position. -/
theorem map_modify {β γ : Type} {g : β → γ} {put : β → β} (hput : ∀ b, g (put b) = g b)
    (bins : List β) : ∀ i, (bins.modify i put).map g = bins.map g := by
  induction bins with
  | nil => intro i; rw [List.modify_nil]
  | cons b bins ih =>
    intro i
    cases i with
    | zero =>
      show g (put b) :: bins.map g = _
      rw [hput]
      rfl
    | succ i =>
      show g b :: (bins.modify i put).map g = _
      rw [ih]
      rfl

/-- The last bin is the one at the length of those before it. -/
theorem modify_snoc {β : Type} (put : β → β) (b : β) (bins : List β) :
    (bins ++ [b]).modify bins.length put = bins ++ [put b] := by
  induction bins with
  | nil => rfl
  | cons c bins ih =>
    show c :: (bins ++ [b]).modify bins.length put = _
    rw [ih]
    rfl

variable {β κ : Type} [DecidableEq κ] {key : β → κ} {fits admits : β → Bool} {put : β → β}

theorem putAt_of_not_mem {k : κ} {bins : List β} (h : k ∉ bins.map key) :
    putAt key put k bins = bins := by
  unfold putAt
  conv_rhs => rw [← List.map_id bins]
  apply List.map_congr_left
  intro b hb
  rw [if_neg (fun he => h (List.mem_map.mpr ⟨b, hb, he⟩))]
  rfl

theorem putAt_append {k : κ} {bins bins' : List β} :
    putAt key put k (bins ++ bins') = putAt key put k bins ++ putAt key put k bins' :=
  List.map_append

theorem putAt_cons_self {b : β} {bins : List β} (h : key b ∉ bins.map key) :
    putAt key put (key b) (b :: bins) = put b :: bins := by
  show (if key b = key b then put b else b) :: putAt key put (key b) bins = _
  rw [if_pos rfl, putAt_of_not_mem h]

theorem map_key_putAt {k : κ} {bins : List β} (hput : ∀ b, key (put b) = key b) :
    (putAt key put k bins).map key = bins.map key := by
  unfold putAt
  rw [List.map_map]
  apply List.map_congr_left
  intro b _
  show key (if key b = k then put b else b) = key b
  split
  · exact hput b
  · rfl

/-- **First fit changes the first bin that fits**, and no other. -/
theorem takeFirst_eq {bins : List β} (hnodup : (bins.map key).Nodup) :
    takeFirst fits put bins
      = (bins.find? fits).map (fun b => putAt key put (key b) bins) := by
  induction bins with
  | nil => rfl
  | cons b bins ih =>
    rw [List.map_cons, List.nodup_cons] at hnodup
    obtain ⟨hnot, hrest⟩ := hnodup
    unfold takeFirst
    by_cases hb : fits b = true
    · rw [if_pos hb, List.find?_cons_of_pos hb, Option.map_some, putAt_cons_self hnot]
    · rw [if_neg hb, List.find?_cons_of_neg hb, ih hrest, Option.map_map]
      cases hfind : bins.find? fits with
      | none => rfl
      | some c =>
        -- the bin found is not the head, as keys are distinct
        have hne : key b ≠ key c := by
          intro he
          apply hnot
          rw [he]
          exact List.mem_map.mpr ⟨c, List.mem_of_find?_eq_some hfind, rfl⟩
        show some (b :: putAt key put (key c) bins) = some (putAt key put (key c) (b :: bins))
        unfold putAt
        rw [List.map_cons, if_neg hne]

/-- The first bin that fits is looked for among the admitting ones. -/
theorem find?_of_agree {bins bins' : List β} (hfits : ∀ b, fits b = true → admits b = true)
    (h : Agree admits bins bins') : bins.find? fits = bins'.find? fits := by
  have hfilter : ∀ l : List β, (l.filter admits).find? fits = l.find? fits := by
    intro l
    rw [List.find?_filter]
    congr 1
    funext b
    by_cases hb : fits b = true
    · simp [hb, hfits b hb]
    · simp [hb]
  rw [← hfilter bins, ← hfilter bins', h]

/-- Bins that have less room: the first that fits stays the first, if it still
does. -/
theorem find?_map_of_shrunk {shrink : β → β} {bins : List β} {b : β}
    (hfind : bins.find? fits = some b) (hb : fits (shrink b) = true)
    (hless : ∀ c ∈ bins, fits (shrink c) = true → fits c = true) :
    (bins.map shrink).find? fits = some (shrink b) := by
  induction bins with
  | nil => cases hfind
  | cons c bins ih =>
    rw [List.map_cons]
    by_cases hc : fits c = true
    · rw [List.find?_cons_of_pos hc] at hfind
      rw [Option.some.inj hfind, List.find?_cons_of_pos hb]
    · have hc' : ¬ fits (shrink c) = true := fun h => hc (hless c List.mem_cons_self h)
      rw [List.find?_cons_of_neg hc] at hfind
      rw [List.find?_cons_of_neg hc']
      exact ih hfind (fun d hd => hless d (List.mem_cons_of_mem _ hd))

theorem Agree.putAt {bins bins' : List β} {k : κ} (hput : ∀ b, admits (put b) = admits b)
    (h : Agree admits bins bins') :
    Agree admits (putAt key put k bins) (putAt key put k bins') := by
  have hcomm : ∀ l : List β, (Lib.putAt key put k l).filter admits
      = Lib.putAt key put k (l.filter admits) := by
    intro l
    unfold Lib.putAt
    rw [List.filter_map]
    congr 1
    apply List.filter_congr
    intro b _
    show admits (if key b = k then put b else b) = admits b
    split
    · exact hput b
    · rfl
  unfold Agree at h ⊢
  rw [hcomm, hcomm, h]

end HardwareAutoscaler.Lib
