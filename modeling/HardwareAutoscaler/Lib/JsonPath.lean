/-
  HardwareAutoscaler.Lib.JsonPath
  ───────────────────────────────
  JSON VALUES ALONG PATHS, AND WHAT A MERGE PATCH MAKES OF THEM — program
  independent.

  The keys of an object have no order.  Two values are the same when every
  path of keys leads to the same leaf in both.

    • `valueAt`, `Alike` — a value at a path, and equality without order,
    • `Clean` — no null below an object and no key twice,
    • `KeepsKeys` — no object loses a key on the way from one value to
      another,
    • `alike_merged` — merging a value over an old one yields the value
      exactly when no object loses a key,
    • `alike_mergeDiff` — the same for the diff of two objects.
-/
import HardwareAutoscaler.Lib.Json
import Mathlib.Data.List.Forall2

namespace HardwareAutoscaler.Lib.Json

/-! ## §1. Paths. -/

/-- The value at a path of keys. -/
def valueAt : List String → Json → Option Json
  | [], j => some j
  | k :: path, j => (get? j k).bind (valueAt path)

/-- A value without what is below it. -/
def leaf : Json → Json
  | .obj _ => .obj []
  | j => j

/-- Equality that ignores the order of keys: every path leads to the same. -/
def AlikeAt (a b : Option Json) : Prop :=
  ∀ path, (a.bind (valueAt path)).map leaf = (b.bind (valueAt path)).map leaf

/-- The same value, up to the order of keys. -/
def Alike (a b : Json) : Prop := AlikeAt (some a) (some b)

/-- Not an object. -/
def IsLeaf (j : Json) : Prop := ∀ fs, j ≠ .obj fs

theorem AlikeAt.refl (a : Option Json) : AlikeAt a a := fun _ => rfl

/-- Nothing is like nothing. -/
theorem alikeAt_none {a : Option Json} : AlikeAt a none ↔ a = none := by
  constructor
  · intro h
    cases a with
    | none => rfl
    | some j =>
      have hroot := h []
      cases hroot
  · intro h
    rw [h]
    exact AlikeAt.refl none

/-- Objects are alike key by key. -/
theorem alike_obj {fs gs : Fields} :
    Alike (.obj fs) (.obj gs) ↔ ∀ k, AlikeAt (lookup k fs) (lookup k gs) := by
  constructor
  · intro h k path
    exact h (k :: path)
  · intro h path
    cases path with
    | nil => rfl
    | cons k path => exact h k path

/-- A value that is no object has no fields. -/
theorem get?_of_isLeaf {j : Json} (h : IsLeaf j) (k : String) : get? j k = none := by
  cases j with
  | obj fs => exact absurd rfl (h fs)
  | _ => rfl

/-- No path leads through it to an object. -/
theorem valueAt_of_isLeaf {j : Json} (h : IsLeaf j) {path : List String} {fs : Fields} :
    valueAt path j ≠ some (.obj fs) := by
  cases path with
  | nil =>
    intro he
    exact h fs (Option.some.inj he)
  | cons k path =>
    show (get? j k).bind (valueAt path) ≠ some (.obj fs)
    rw [get?_of_isLeaf h]
    simp

/-! ## §2. Clean values. -/

/-- Below the value no object has a key twice or a null field. -/
def Clean (j : Json) : Prop :=
  ∀ path fs, valueAt path j = some (.obj fs) → DistinctKeys fs ∧ ∀ k, lookup k fs ≠ some .null

theorem clean_of_isLeaf {j : Json} (h : IsLeaf j) : Clean j := by
  intro path fs he
  exact absurd he (valueAt_of_isLeaf h)

/-- An object is clean if its keys are distinct and its values clean and not `null`. -/
theorem clean_obj {fs : Fields} :
    Clean (.obj fs) ↔ DistinctKeys fs ∧ ∀ k v, lookup k fs = some v → v ≠ .null ∧ Clean v := by
  constructor
  · intro h
    obtain ⟨hd, hnull⟩ := h [] fs rfl
    refine ⟨hd, ?_⟩
    intro k v hv
    refine ⟨fun hn => hnull k (by rw [hv, hn]), ?_⟩
    intro path gs hg
    refine h (k :: path) gs ?_
    show (lookup k fs).bind (valueAt path) = some (.obj gs)
    rw [hv]
    exact hg
  · intro ⟨hd, hbelow⟩ path gs hg
    cases path with
    | nil =>
      cases hg
      refine ⟨hd, ?_⟩
      intro k hk
      exact (hbelow k .null hk).1 rfl
    | cons k path =>
      have hg : (lookup k fs).bind (valueAt path) = some (.obj gs) := hg
      obtain ⟨v, hv, hat⟩ := Option.bind_eq_some_iff.mp hg
      exact (hbelow k v hv).2 path gs hat

/-! ## §3. Keys that are kept. -/

/-- Wherever both values have an object, the second has all the keys of the
first. -/
def KeepsKeys (old new : Json) : Prop :=
  ∀ path fs gs, valueAt path old = some (.obj fs) → valueAt path new = some (.obj gs) →
    ∀ k, lookup k gs = none → lookup k fs = none

/-- A value that is no object has no keys to lose. -/
theorem keepsKeys_of_isLeaf_left {a b : Json} (h : IsLeaf a) : KeepsKeys a b := by
  intro path fs gs hf
  exact absurd hf (valueAt_of_isLeaf h)

theorem keepsKeys_of_isLeaf_right {a b : Json} (h : IsLeaf b) : KeepsKeys a b := by
  intro path fs gs _ hg
  exact absurd hg (valueAt_of_isLeaf h)

theorem KeepsKeys.refl (a : Json) : KeepsKeys a a := by
  intro path fs gs hf hg k hk
  rw [hf] at hg
  cases hg
  exact hk

/-- Key by key. -/
theorem keepsKeys_obj {fs gs : Fields} :
    KeepsKeys (.obj fs) (.obj gs) ↔ (∀ k, lookup k gs = none → lookup k fs = none) ∧
      ∀ k a b, lookup k fs = some a → lookup k gs = some b → KeepsKeys a b := by
  constructor
  · intro h
    refine ⟨h [] fs gs rfl rfl, ?_⟩
    intro k a b ha hb path fs' gs' hf hg
    refine h (k :: path) fs' gs' ?_ ?_
    · show (lookup k fs).bind (valueAt path) = _
      rw [ha]
      exact hf
    · show (lookup k gs).bind (valueAt path) = _
      rw [hb]
      exact hg
  · intro ⟨htop, hbelow⟩ path fs' gs' hf hg
    cases path with
    | nil =>
      cases hf
      cases hg
      exact htop
    | cons k path =>
      have hf : (lookup k fs).bind (valueAt path) = some (.obj fs') := hf
      have hg : (lookup k gs).bind (valueAt path) = some (.obj gs') := hg
      obtain ⟨a, ha, hat⟩ := Option.bind_eq_some_iff.mp hf
      obtain ⟨b, hb, hbt⟩ := Option.bind_eq_some_iff.mp hg
      exact hbelow k a b ha hb path fs' gs' hat hbt

/-! ## §4. Merging. -/

/-- Induction over values: on the fields of an object. -/
theorem fieldsInduction {P : Json → Prop} (hleaf : ∀ j, IsLeaf j → P j)
    (hobj : ∀ fs, (∀ x ∈ fs, P x.2) → P (.obj fs)) (j : Json) : P j := by
  induction hn : sizeOf j using Nat.strong_induction_on generalizing j with
  | _ n ih =>
    by_cases hl : IsLeaf j
    · exact hleaf j hl
    · obtain ⟨fs, hfs⟩ := not_forall_not.mp hl
      subst hfs
      apply hobj
      intro x hx
      refine ih (sizeOf x.2) ?_ x.2 rfl
      have hlt := List.sizeOf_lt_of_mem hx
      obtain ⟨k, v⟩ := x
      simp at hlt hn ⊢
      omega

section Merging

variable {fs gs : Fields}

/-- Merging fields key by key, when merging the value of each key keeps its
keys. -/
theorem alike_mergeFields (hd : DistinctKeys gs)
    (hbelow : ∀ k b, lookup k gs = some b → ∀ old : Option Json,
      (AlikeAt (merged old b) (some b) ↔ ∀ a, old = some a → KeepsKeys a b)) :
    Alike (.obj (mergeFields fs gs)) (.obj gs) ↔
      (∀ k, lookup k gs = none → lookup k fs = none) ∧
        ∀ k a b, lookup k fs = some a → lookup k gs = some b → KeepsKeys a b := by
  -- a key that the patch lacks keeps its value, the others are merged
  have hkept : ∀ k, lookup k gs = none → lookup k (mergeFields fs gs) = lookup k fs := by
    intro k hk
    rw [lookup_mergeFields k fs hd, hk]
  have hset : ∀ k b, lookup k gs = some b →
      lookup k (mergeFields fs gs) = merged (lookup k fs) b := by
    intro k b hb
    rw [lookup_mergeFields k fs hd, hb]
  rw [alike_obj]
  constructor
  · intro h
    refine ⟨?_, ?_⟩
    · intro k hk
      have hat := h k
      rw [hkept k hk, hk] at hat
      exact alikeAt_none.mp hat
    · intro k a b ha hb
      have hat := h k
      rw [hset k b hb, hb] at hat
      exact (hbelow k b hb (lookup k fs)).mp hat a ha
  · intro h k
    obtain ⟨htop, hnested⟩ := h
    cases hb : lookup k gs with
    | none =>
      rw [hkept k hb]
      exact alikeAt_none.mpr (htop k hb)
    | some b =>
      rw [hset k b hb]
      exact (hbelow k b hb (lookup k fs)).mpr (fun a ha => hnested k a b ha hb)

/-- The keys of the fields a merge starts from: none, unless there is an old
object. -/
theorem keepsKeys_fields (old : Option Json) (hfs : (old.getD .null).fields = fs) :
    ((∀ k, lookup k gs = none → lookup k fs = none) ∧
        ∀ k a b, lookup k fs = some a → lookup k gs = some b → KeepsKeys a b) ↔
      ∀ a, old = some a → KeepsKeys a (.obj gs) := by
  subst hfs
  by_cases hobj : ∃ fs', old = some (.obj fs')
  · obtain ⟨fs', hold⟩ := hobj
    subst hold
    have hold : ((some (Json.obj fs')).getD .null).fields = fs' := rfl
    rw [hold, ← keepsKeys_obj]
    constructor
    · intro h a ha
      cases ha
      exact h
    · intro h
      exact h _ rfl
  · -- what is not an object has no keys to lose
    have hnone : (old.getD .null).fields = [] := by
      cases hold : old with
      | none => rfl
      | some a =>
        cases a with
        | obj fs' => exact absurd ⟨fs', hold⟩ hobj
        | _ => rfl
    rw [hnone]
    constructor
    · intro _ a ha
      apply keepsKeys_of_isLeaf_left
      intro fs' he
      exact hobj ⟨fs', by rw [ha, he]⟩
    · intro _
      refine ⟨fun _ _ => rfl, ?_⟩
      intro k a b ha
      cases ha

end Merging

/-- **Merging a value over an old one** yields the value exactly when no
object loses a key. -/
theorem alike_merged (v : Json) : Clean v → v ≠ .null → ∀ old : Option Json,
    (AlikeAt (merged old v) (some v) ↔ ∀ a, old = some a → KeepsKeys a v) := by
  -- on the fields of the value, as each is merged in turn
  induction v using fieldsInduction with
  | hleaf v hleaf =>
    intro _ hnull old
    have hset : merged old v = some v := by
      cases v with
      | null => exact absurd rfl hnull
      | obj fs => exact absurd rfl (hleaf fs)
      | _ => simp [merged, mergePatch]
    rw [hset]
    constructor
    · intro _ a _
      exact keepsKeys_of_isLeaf_right hleaf
    · intro _
      exact AlikeAt.refl _
  | hobj gs ih =>
    intro hclean _ old
    obtain ⟨hd, hbelow⟩ := clean_obj.mp hclean
    have hmerged : merged old (.obj gs)
        = some (.obj (mergeFields (old.getD .null).fields gs)) := by
      simp [merged, mergePatch]
    rw [hmerged, ← keepsKeys_fields old rfl]
    apply alike_mergeFields hd
    intro k b hb
    obtain ⟨hnull, hc⟩ := hbelow k b hb
    exact ih (k, b) (mem_of_lookup hb) hc hnull

/-! ## §5. The diff of two objects. -/

section Diff

variable {old new : Fields}

/-- **The diff of two objects**, applied to the first, yields the second
exactly when no object below a key of both loses a key. -/
theorem alike_mergeDiff (hold : DistinctKeys old) (hnew : Clean (.obj new)) :
    Alike (mergePatch (.obj old) (.obj (mergeDiff old new))) (.obj new) ↔
      ∀ k a b, lookup k old = some a → lookup k new = some b → KeepsKeys a b := by
  obtain ⟨hd, hbelow⟩ := clean_obj.mp hnew
  have hkey := fun k => @lookup_mergeFields_mergeDiff old old new k hold hd
  have hpatched : mergePatch (.obj old) (.obj (mergeDiff old new))
      = .obj (mergeFields old (mergeDiff old new)) := by
    rw [mergePatch]
    rfl
  rw [hpatched, alike_obj]
  -- a key of the diff is merged, any other is as in both
  have hone : ∀ k, AlikeAt (lookup k (mergeFields old (mergeDiff old new))) (lookup k new) ↔
      ∀ a b, lookup k old = some a → lookup k new = some b → KeepsKeys a b := by
    intro k
    rw [hkey k]
    cases hn : lookup k new with
    | none =>
      constructor
      · intro _ a b _ hb
        cases hb
      · intro _
        cases ho : lookup k old with
        | none => exact AlikeAt.refl none
        | some a => exact AlikeAt.refl none
    | some v =>
      simp only
      split
      · rename_i hsame
        obtain ⟨a, ha, has⟩ := (Option.any_eq_true _ _).mp hsame
        rw [ha, eq_of_same has]
        constructor
        · intro _ a b he hb
          cases he
          cases hb
          exact KeepsKeys.refl v
        · intro _
          exact AlikeAt.refl _
      · obtain ⟨hnull, hc⟩ := hbelow k v hn
        rw [alike_merged v hc hnull]
        constructor
        · intro h a b ha hb
          cases hb
          exact h a ha
        · intro h a ha
          exact h a v ha rfl
  constructor
  · intro h k a b ha hb
    exact (hone k).mp (h k) a b ha hb
  · intro h k
    exact (hone k).mpr (h k)

/-- **A key the two objects agree on** is left as it is stored, whatever is. -/
theorem get?_mergeDiff_of_agree (hold : DistinctKeys old) (hnew : DistinctKeys new)
    (stored : Json) {k : String} (h : lookup k old = lookup k new) :
    get? (mergePatch stored (.obj (mergeDiff old new))) k = get? stored k := by
  rw [mergePatch]
  show lookup k (mergeFields stored.fields (mergeDiff old new)) = lookup k stored.fields
  rw [lookup_mergeFields_mergeDiff k hold hnew, h]
  cases hn : lookup k new with
  | none => rfl
  | some v =>
    simp only [Option.any_some, same_self]
    rfl

end Diff

/-! ## §6. Records and maps. -/

/-- A field that is not among the entries is not set. -/
theorem present_keys {k : String} {entries : List (String × Option Json)}
    (h : k ∉ entries.map Prod.fst) : k ∉ (present entries).map Prod.fst := by
  intro hmem
  obtain ⟨x, hx, hxk⟩ := List.mem_map.mp hmem
  obtain ⟨y, hy, hyx⟩ := List.mem_filterMap.mp hx
  obtain ⟨w, _, hw⟩ := Option.map_eq_some_iff.mp hyx
  refine h (List.mem_map.mpr ⟨y, hy, ?_⟩)
  rw [← hxk, ← hw]

/-- The fields a record writes are those of its first entry and of the rest. -/
theorem lookup_present_cons {k₀ : String} {v : Option Json} {entries : List (String × Option Json)}
    (h : k₀ ∉ entries.map Prod.fst) (k : String) :
    lookup k (present ((k₀, v) :: entries)) = if k₀ = k then v else lookup k (present entries) := by
  have hrest : lookup k₀ (present entries) = none := lookup_eq_none (present_keys h)
  cases v with
  | none =>
    show lookup k (present entries) = _
    split
    · rename_i hk
      rw [← hk, hrest]
    · rfl
  | some w =>
    show lookup k ((k₀, w) :: present entries) = _
    rw [lookup]

/-- **Two records of one type, field by field**: a relation that holds where
neither writes a field holds everywhere when it holds of each pair of entries. -/
theorem forall_lookup_present {Q : Option Json → Option Json → Prop} (hnone : Q none none) :
    ∀ {old new : List (String × Option Json)}, old.map Prod.fst = new.map Prod.fst →
      (old.map Prod.fst).Nodup →
      ((∀ k, Q (lookup k (present old)) (lookup k (present new))) ↔
        List.Forall₂ (fun x y => Q x.2 y.2) old new) := by
  intro old
  -- entry by entry, in the order in which they are written
  induction old with
  | nil =>
    intro new hkeys _
    rw [List.map_eq_nil_iff.mp hkeys.symm]
    exact ⟨fun _ => List.Forall₂.nil, fun _ _ => hnone⟩
  | cons x old ih =>
    obtain ⟨k₀, v⟩ := x
    intro new hkeys hnodup
    cases new with
    | nil => cases hkeys
    | cons y new =>
      obtain ⟨k₁, w⟩ := y
      rw [List.map_cons, List.map_cons, List.cons.injEq] at hkeys
      obtain ⟨hk, hkeys⟩ := hkeys
      have hk : k₀ = k₁ := hk
      subst hk
      rw [List.map_cons, List.nodup_cons] at hnodup
      have hold := hnodup.1
      have hnew : k₀ ∉ new.map Prod.fst := by
        rw [← hkeys]
        exact hold
      rw [List.forall₂_cons, ← ih hkeys hnodup.2]
      constructor
      · intro h
        refine ⟨?_, ?_⟩
        · have hfirst := h k₀
          rw [lookup_present_cons hold, lookup_present_cons hnew, if_pos rfl, if_pos rfl] at hfirst
          exact hfirst
        · intro k
          by_cases hk : k₀ = k
          · rw [← hk, lookup_eq_none (present_keys hold), lookup_eq_none (present_keys hnew)]
            exact hnone
          · have hrest := h k
            rw [lookup_present_cons hold, lookup_present_cons hnew, if_neg hk, if_neg hk] at hrest
            exact hrest
      · intro ⟨hfirst, hrest⟩ k
        rw [lookup_present_cons hold, lookup_present_cons hnew]
        by_cases hk : k₀ = k
        · rw [if_pos hk, if_pos hk]
          exact hfirst
        · rw [if_neg hk, if_neg hk]
          exact hrest k

/-- Where both write the field, no object below it loses a key. -/
def FieldKept (a b : Option Json) : Prop := ∀ x y, a = some x → b = some y → KeepsKeys x y

theorem fieldKept_none_left {b : Option Json} : FieldKept none b := by
  intro x y hx
  cases hx

theorem fieldKept_none_right {a : Option Json} : FieldKept a none := by
  intro x y _ hy
  cases hy

theorem fieldKept_some {a b : Json} : FieldKept (some a) (some b) ↔ KeepsKeys a b := by
  constructor
  · intro h
    exact h a b rfl rfl
  · intro h x y hx hy
    cases hx
    cases hy
    exact h

/-- A field that is never an object loses no key. -/
theorem fieldKept_of_isLeaf {a b : Option Json} (h : ∀ y, b = some y → IsLeaf y) :
    FieldKept a b := by
  intro x y _ hy
  exact keepsKeys_of_isLeaf_right (h y hy)

/-- A record loses a key when it loses one of its own or one below. -/
theorem keepsKeys_present {old new : List (String × Option Json)}
    (hkeys : old.map Prod.fst = new.map Prod.fst) (hnodup : (old.map Prod.fst).Nodup) :
    KeepsKeys (.obj (present old)) (.obj (present new)) ↔
      List.Forall₂ (fun x y => (y.2 = none → x.2 = none) ∧ FieldKept x.2 y.2) old new := by
  rw [keepsKeys_obj, ← forall_lookup_present
    (Q := fun a b => (b = none → a = none) ∧ FieldKept a b) ⟨fun h => h, fieldKept_none_left⟩
    hkeys hnodup]
  constructor
  · intro ⟨htop, hbelow⟩ k
    exact ⟨htop k, hbelow k⟩
  · intro h
    exact ⟨fun k => (h k).1, fun k => (h k).2⟩

/-- Fields that are set are clean if their values are. -/
theorem clean_present {entries : List (String × Option Json)} (h : (entries.map Prod.fst).Nodup)
    (hfields : ∀ x ∈ entries, ∀ v, x.2 = some v → v ≠ .null ∧ Clean v) :
    Clean (.obj (present entries)) := by
  refine clean_obj.mpr ⟨present_distinct h, ?_⟩
  intro k v hv
  obtain ⟨x, hx, hxv⟩ := List.mem_filterMap.mp (mem_of_lookup hv)
  obtain ⟨w, hw, he⟩ := Option.map_eq_some_iff.mp hxv
  have hwv : w = v := congrArg Prod.snd he
  rw [← hwv]
  exact hfields x hx w hw

section Maps

open Std (TreeMap)

variable {β : Type} {enc : β → Json}

/-- A map of leaves loses a key when the map does. -/
theorem keepsKeys_ofMap (hleaf : ∀ v, IsLeaf (enc v)) {old new : TreeMap String β} :
    KeepsKeys (.obj (ofMap enc old)) (.obj (ofMap enc new)) ↔
      ∀ k, k ∈ old → k ∈ new := by
  have hkey : ∀ (m : TreeMap String β) k, lookup k (ofMap enc m) = none ↔ k ∉ m := by
    intro m k
    rw [lookup_ofMap, Option.map_eq_none_iff, TreeMap.mem_iff_isSome_getElem?, Bool.not_eq_true,
      Option.isSome_eq_false_iff, Option.isNone_iff_eq_none]
  rw [keepsKeys_obj]
  constructor
  · intro ⟨htop, _⟩ k hk
    by_contra hnot
    exact (hkey old k).mp (htop k ((hkey new k).mpr hnot)) hk
  · intro h
    refine ⟨?_, ?_⟩
    · intro k hk
      exact (hkey old k).mpr (fun hmem => (hkey new k).mp hk (h k hmem))
    · intro k a b _ hb
      rw [lookup_ofMap] at hb
      obtain ⟨v, _, hv⟩ := Option.map_eq_some_iff.mp hb
      rw [← hv]
      exact keepsKeys_of_isLeaf_right (hleaf v)

/-- A map of clean values is clean. -/
theorem clean_ofMap (hleaf : ∀ v, IsLeaf (enc v)) (hnull : ∀ v, enc v ≠ .null)
    (m : TreeMap String β) : Clean (.obj (ofMap enc m)) := by
  refine clean_obj.mpr ⟨ofMap_distinct enc m, ?_⟩
  intro k v hv
  rw [lookup_ofMap] at hv
  obtain ⟨w, _, hw⟩ := Option.map_eq_some_iff.mp hv
  rw [← hw]
  exact ⟨hnull w, clean_of_isLeaf (hleaf w)⟩

end Maps

end HardwareAutoscaler.Lib.Json
