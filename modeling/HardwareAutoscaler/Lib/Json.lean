/-
  HardwareAutoscaler.Lib.Json
  ───────────────────────────
  JSON VALUES AND MERGE PATCHES — program independent.

  Numbers are integers, and an instant is a value of its own: it is written
  as an RFC 3339 text with all its digits, which is read back unchanged.

    • `get?` — the value of a key of an object,
    • `mergePatch` — RFC 7386: nested objects merge, `null` removes a key,
    • `mergeDiff` — the patch of an object's changed and removed keys,
    • `lookup_mergeFields` — a key after a patch,
    • `lookup_mergeFields_mergeDiff` — a key after the diff of two objects is
      applied to a stored one,
    • `present`, `ofMap`, `toMap` — records with skipped fields, and maps.
-/
import HardwareAutoscaler.Lib.MapFold
import Mathlib.Data.List.Nodup

namespace HardwareAutoscaler.Lib

open Std (TreeMap)

/-! ## §1. Values. -/

/-- JSON values; numbers are integers, and times are told apart from texts. -/
inductive Json where
  | null
  | bool (b : Bool)
  | num (n : Int)
  | str (s : String)
  | time (t : Int)
  | arr (items : List Json)
  | obj (fields : List (String × Json))
  deriving Inhabited

/-- An object's fields: keys and values. -/
abbrev Fields := List (String × Json)

namespace Json

mutual

/-- Equality of values, field by field. -/
def same : Json → Json → Bool
  | .null, .null => true
  | .bool a, .bool b => a == b
  | .num a, .num b => a == b
  | .str a, .str b => a == b
  | .time a, .time b => a == b
  | .arr a, .arr b => sameItems a b
  | .obj a, .obj b => sameFields a b
  | _, _ => false

/-- Items that are the same one by one. -/
def sameItems : List Json → List Json → Bool
  | [], [] => true
  | a :: as, b :: bs => same a b && sameItems as bs
  | _, _ => false

/-- Fields that are the same one by one. -/
def sameFields : Fields → Fields → Bool
  | [], [] => true
  | (k, a) :: as, (k', b) :: bs => k == k' && same a b && sameFields as bs
  | _, _ => false

end

mutual

/-- `same` is equality. -/
theorem eq_of_same : ∀ {a b : Json}, same a b = true → a = b
  | .null, b, h => by cases b <;> simp_all [same]
  | .bool _, b, h => by cases b <;> simp_all [same]
  | .num _, b, h => by cases b <;> simp_all [same]
  | .str _, b, h => by cases b <;> simp_all [same]
  | .time _, b, h => by cases b <;> simp_all [same]
  | .arr as, b, h => by
    cases b with
    | arr bs => rw [same] at h; rw [eq_of_sameItems h]
    | _ => simp [same] at h
  | .obj as, b, h => by
    cases b with
    | obj bs => rw [same] at h; rw [eq_of_sameFields h]
    | _ => simp [same] at h

theorem eq_of_sameItems : ∀ {as bs : List Json}, sameItems as bs = true → as = bs
  | [], bs, h => by cases bs <;> simp_all [sameItems]
  | a :: as, bs, h => by
    cases bs with
    | nil => simp [sameItems] at h
    | cons b bs =>
      rw [sameItems, Bool.and_eq_true] at h
      rw [eq_of_same h.1, eq_of_sameItems h.2]

theorem eq_of_sameFields : ∀ {as bs : Fields}, sameFields as bs = true → as = bs
  | [], bs, h => by cases bs <;> simp_all [sameFields]
  | (k, a) :: as, bs, h => by
    cases bs with
    | nil => simp [sameFields] at h
    | cons b bs =>
      obtain ⟨k', b⟩ := b
      rw [sameFields, Bool.and_eq_true, Bool.and_eq_true, beq_iff_eq] at h
      rw [h.1.1, eq_of_same h.1.2, eq_of_sameFields h.2]

end

mutual

theorem same_self : ∀ a : Json, same a a = true
  | .null | .bool _ | .num _ | .str _ | .time _ => by simp [same]
  | .arr as => by rw [same]; exact sameItems_self as
  | .obj as => by rw [same]; exact sameFields_self as

theorem sameItems_self : ∀ as : List Json, sameItems as as = true
  | [] => by simp [sameItems]
  | a :: as => by rw [sameItems, same_self a, sameItems_self as]; rfl

theorem sameFields_self : ∀ as : Fields, sameFields as as = true
  | [] => by simp [sameFields]
  | (k, a) :: as => by rw [sameFields, same_self a, sameFields_self as, beq_self_eq_true]; rfl

end

/-! ## §2. Fields. -/

/-- The value of a key (`Map::get`). -/
def lookup (k : String) : Fields → Option Json
  | [] => none
  | (k', v) :: fields => if k' = k then some v else lookup k fields

/-- The fields of an object; a value of another kind has none. -/
def fields : Json → Fields
  | .obj fs => fs
  | _ => []

/-- The value of a key. -/
def get? (j : Json) (k : String) : Option Json := lookup k j.fields

/-- The fields with another value for a key. -/
def setField (k : String) (v : Json) : Fields → Fields
  | [] => [(k, v)]
  | (k', v') :: fields =>
    if k' = k then (k, v) :: fields else (k', v') :: setField k v fields

/-- The fields without a key. -/
def eraseField (k : String) (fs : Fields) : Fields := fs.filter (fun x => x.1 ≠ k)

@[simp] theorem lookup_nil (k : String) : lookup k [] = none := rfl

@[simp] theorem lookup_setField_self (k : String) (v : Json) (fs : Fields) :
    lookup k (setField k v fs) = some v := by
  induction fs with
  | nil => simp [setField, lookup]
  | cons x fs ih =>
    obtain ⟨k', v'⟩ := x
    by_cases h : k' = k
    · simp [setField, lookup, h]
    · simp [setField, lookup, h, ih]

/-- Another key keeps its value. -/
theorem lookup_setField_of_ne {k k' : String} (h : k ≠ k') (v : Json) (fs : Fields) :
    lookup k' (setField k v fs) = lookup k' fs := by
  induction fs with
  | nil => simp [setField, lookup, h]
  | cons x fs ih =>
    obtain ⟨k'', v''⟩ := x
    by_cases hk : k'' = k
    · subst hk
      simp [setField, lookup, h]
    · simp [setField, lookup, hk, ih]

@[simp] theorem lookup_eraseField_self (k : String) (fs : Fields) :
    lookup k (eraseField k fs) = none := by
  induction fs with
  | nil => rfl
  | cons x fs ih =>
    obtain ⟨k', v'⟩ := x
    by_cases h : k' = k
    · simpa [eraseField, h] using ih
    · simpa [eraseField, lookup, h] using ih

/-- Another key keeps its value. -/
theorem lookup_eraseField_of_ne {k k' : String} (h : k ≠ k') (fs : Fields) :
    lookup k' (eraseField k fs) = lookup k' fs := by
  induction fs with
  | nil => rfl
  | cons x fs ih =>
    obtain ⟨k'', v''⟩ := x
    by_cases hk : k'' = k
    · subst hk
      simpa [eraseField, lookup, h] using ih
    · have hcons : eraseField k ((k'', v'') :: fs) = (k'', v'') :: eraseField k fs := by
        simp [eraseField, hk]
      rw [hcons, lookup, lookup, ih]

/-- The first list goes first. -/
theorem lookup_append (k : String) (fs gs : Fields) :
    lookup k (fs ++ gs) = (lookup k fs).or (lookup k gs) := by
  induction fs with
  | nil => rfl
  | cons x fs ih =>
    obtain ⟨k', v'⟩ := x
    by_cases h : k' = k
    · simp [lookup, h]
    · simpa [lookup, h] using ih

/-- A key that is not there has no value. -/
theorem lookup_eq_none {k : String} {fs : Fields} (h : k ∉ fs.map Prod.fst) :
    lookup k fs = none := by
  induction fs with
  | nil => rfl
  | cons x fs ih =>
    obtain ⟨k', v'⟩ := x
    rw [List.map_cons, List.mem_cons, not_or] at h
    rw [lookup, if_neg (Ne.symm h.1), ih h.2]

/-! ## §3. Merge patches (RFC 7386). -/

mutual

/-- `MergePatch(target, patch)`. -/
def mergePatch (target : Json) : Json → Json
  | .obj patch => .obj (mergeFields target.fields patch)
  | .null => .null
  | .bool b => .bool b
  | .num n => .num n
  | .str s => .str s
  | .time t => .time t
  | .arr items => .arr items

/-- The fields of the target after those of the patch. -/
def mergeFields (target : Fields) : Fields → Fields
  | [] => target
  | (k, v) :: patch => mergeFields (mergeField target k v) patch

/-- The fields of the target after one field of the patch. -/
def mergeField (target : Fields) (k : String) : Json → Fields
  | .null => eraseField k target
  | .obj patch => setField k (.obj (mergeFields (((lookup k target).getD .null).fields) patch)) target
  | .bool b => setField k (.bool b) target
  | .num n => setField k (.num n) target
  | .str s => setField k (.str s) target
  | .time t => setField k (.time t) target
  | .arr items => setField k (.arr items) target

end

/-- What a key holds after a patch field `v` for it, if anything. -/
def merged (old : Option Json) (v : Json) : Option Json :=
  match v with
  | .null => none
  | v => some (mergePatch (old.getD .null) v)

/-- A merged key has the merged value. -/
theorem lookup_mergeField_self (target : Fields) (k : String) (v : Json) :
    lookup k (mergeField target k v) = merged (lookup k target) v := by
  cases v <;> simp [mergeField, merged, mergePatch]

/-- The other keys keep theirs. -/
theorem lookup_mergeField_of_ne {k k' : String} (h : k ≠ k') (target : Fields) (v : Json) :
    lookup k' (mergeField target k v) = lookup k' target := by
  cases v <;>
    simp [mergeField, lookup_setField_of_ne h, lookup_eraseField_of_ne h]

/-- **A key after a patch** whose keys are distinct. -/
theorem lookup_mergeFields {patch : Fields} (k : String) :
    ∀ (target : Fields), (patch.map Prod.fst).Nodup →
      lookup k (mergeFields target patch)
        = match lookup k patch with
          | none => lookup k target
          | some v => merged (lookup k target) v := by
  induction patch with
  | nil => intro target _; simp [mergeFields]
  | cons x patch ih =>
    obtain ⟨k', v'⟩ := x
    intro target hnodup
    rw [List.map_cons, List.nodup_cons] at hnodup
    rw [mergeFields, ih _ hnodup.2]
    by_cases h : k' = k
    · subst h
      rw [lookup_eq_none hnodup.1, lookup, if_pos rfl]
      exact lookup_mergeField_self target k' v'
    · rw [lookup, if_neg h, lookup_mergeField_of_ne h]

/-! ## §4. The diff of two objects. -/

/-- The top-level patch turning `old` into `new`: changed keys are set,
removed keys are nulled, untouched keys are omitted. -/
def mergeDiff (old new : Fields) : Fields :=
  new.filter (fun x => !((lookup x.1 old).any (same · x.2)))
    ++ (old.filter (fun x => (lookup x.1 new).isNone)).map (fun x => (x.1, .null))

/-- With distinct keys, a filter decides key by key. -/
theorem lookup_filter {fs : Fields} (k : String) (keep : String × Json → Bool) :
    (fs.map Prod.fst).Nodup →
      lookup k (fs.filter keep) = (lookup k fs).filter (fun v => keep (k, v)) := by
  induction fs with
  | nil => intro _; rfl
  | cons x fs ih =>
    obtain ⟨k', v'⟩ := x
    intro hnodup
    rw [List.map_cons, List.nodup_cons] at hnodup
    have ih := ih hnodup.2
    by_cases h : k' = k
    · subst h
      have hnone := lookup_eq_none hnodup.1
      rw [hnone] at ih
      by_cases hkeep : keep (k', v') = true
      · simp [lookup, hkeep, Option.filter_some]
      · simpa [lookup, hkeep, Option.filter_some] using ih
    · by_cases hkeep : keep (k', v') = true
      · simpa [lookup, hkeep, h] using ih
      · simpa [lookup, hkeep, h] using ih

theorem lookup_map_null (k : String) (fs : Fields) :
    lookup k (fs.map (fun x => (x.1, Json.null))) = (lookup k fs).map (fun _ => .null) := by
  induction fs with
  | nil => rfl
  | cons x fs ih =>
    obtain ⟨k', v'⟩ := x
    by_cases h : k' = k
    · simp [lookup, h]
    · simpa [lookup, h] using ih

/-- A value found is there. -/
theorem mem_of_lookup {k : String} {v : Json} {fs : Fields} (h : lookup k fs = some v) :
    (k, v) ∈ fs := by
  induction fs with
  | nil => cases h
  | cons x fs ih =>
    obtain ⟨k', v'⟩ := x
    rw [lookup] at h
    split at h
    · rename_i hk
      cases h
      rw [hk]
      exact List.mem_cons_self
    · exact List.mem_cons_of_mem _ (ih h)

/-- A key that is there has a value. -/
theorem lookup_ne_none {x : String × Json} {fs : Fields} (h : x ∈ fs) : lookup x.1 fs ≠ none := by
  induction fs with
  | nil => cases h
  | cons y fs ih =>
    rw [lookup]
    split
    · simp
    · rename_i hne
      rcases List.mem_cons.mp h with rfl | h
      · exact absurd rfl hne
      · exact ih h

/-- A diff has distinct keys. -/
theorem mergeDiff_nodup {old new : Fields} (hold : (old.map Prod.fst).Nodup)
    (hnew : (new.map Prod.fst).Nodup) : ((mergeDiff old new).map Prod.fst).Nodup := by
  unfold mergeDiff
  rw [List.map_append, List.map_map, List.nodup_append]
  refine ⟨hnew.sublist (List.filter_sublist.map _), ?_, ?_⟩
  · exact hold.sublist (List.filter_sublist.map _)
  · intro a ha b hb hab
    subst hab
    obtain ⟨x, hx, hxa⟩ := List.mem_map.mp ha
    obtain ⟨y, hy, hya⟩ := List.mem_map.mp hb
    have hnone : lookup y.1 new = none := by simpa using (List.mem_filter.mp hy).2
    have hkey : y.1 = x.1 := hya.trans hxa.symm
    rw [hkey] at hnone
    exact lookup_ne_none (List.mem_filter.mp hx).1 hnone

/-- **What a diff says of a key**: nothing where the value is the same. -/
theorem lookup_mergeDiff {old new : Fields} (hold : (old.map Prod.fst).Nodup)
    (hnew : (new.map Prod.fst).Nodup) (k : String) :
    lookup k (mergeDiff old new)
      = match lookup k new with
        | some v => if (lookup k old).any (same · v) then none else some v
        | none => (lookup k old).map (fun _ => .null) := by
  unfold mergeDiff
  rw [lookup_append, lookup_filter k _ hnew, lookup_map_null, lookup_filter k _ hold]
  cases hn : lookup k new with
  | none => cases lookup k old <;> simp [Option.filter_some, hn]
  | some v =>
    cases ho : lookup k old with
    | none => simp [Option.filter_some, ho]
    | some w =>
      by_cases hs : same w v = true
      · simp [Option.filter_some, ho, hn, hs]
      · simp [Option.filter_some, ho, hs]

/-- **A key after the diff is applied** to a stored object: an unchanged value
is left as it is stored, a changed one is merged into what is stored. -/
theorem lookup_mergeFields_mergeDiff {target old new : Fields} (k : String)
    (hold : (old.map Prod.fst).Nodup) (hnew : (new.map Prod.fst).Nodup) :
    lookup k (mergeFields target (mergeDiff old new))
      = match lookup k new with
        | none => if (lookup k old).isSome then none else lookup k target
        | some v =>
          if (lookup k old).any (same · v) then lookup k target
          else merged (lookup k target) v := by
  rw [lookup_mergeFields k target (mergeDiff_nodup hold hnew), lookup_mergeDiff hold hnew]
  cases lookup k new with
  | none => cases lookup k old <;> rfl
  | some v =>
    by_cases hs : (lookup k old).any (same · v) = true
    · simp only [if_pos hs]
    · simp only [if_neg hs]

/-! ## §5. Distinct keys. -/

/-- No key of the fields occurs twice. -/
def DistinctKeys (fs : Fields) : Prop := (fs.map Prod.fst).Nodup

/-- With distinct keys, what is found is what is there. -/
theorem lookup_eq_some_iff {fs : Fields} (h : DistinctKeys fs) {k : String} {v : Json} :
    lookup k fs = some v ↔ (k, v) ∈ fs := by
  constructor
  · exact mem_of_lookup
  · intro hmem
    cases hl : lookup k fs with
    | none => exact absurd hl (lookup_ne_none hmem)
    | some w =>
      have hw := mem_of_lookup hl
      rw [(Prod.mk.inj (List.inj_on_of_nodup_map h hw hmem rfl)).2]

theorem DistinctKeys.setField {fs : Fields} (h : DistinctKeys fs) (k : String) (v : Json) :
    DistinctKeys (setField k v fs) := by
  unfold DistinctKeys at h ⊢
  induction fs with
  | nil => simp [Json.setField]
  | cons x fs ih =>
    obtain ⟨k', v'⟩ := x
    rw [List.map_cons, List.nodup_cons] at h
    rw [Json.setField]
    by_cases hk : k' = k
    · rw [if_pos hk, List.map_cons, List.nodup_cons, ← hk]
      exact h
    · rw [if_neg hk, List.map_cons, List.nodup_cons]
      refine ⟨?_, ih h.2⟩
      intro hmem
      obtain ⟨y, hy, hyk⟩ := List.mem_map.mp hmem
      have hne := lookup_ne_none hy
      rw [hyk, lookup_setField_of_ne (Ne.symm hk), lookup_eq_none h.1] at hne
      exact hne rfl

theorem DistinctKeys.eraseField {fs : Fields} (h : DistinctKeys fs) (k : String) :
    DistinctKeys (eraseField k fs) :=
  List.Nodup.sublist (List.filter_sublist.map _) h

/-- A patch keeps the keys of its target distinct. -/
theorem DistinctKeys.mergeFields {patch : Fields} :
    ∀ {target : Fields}, DistinctKeys target → DistinctKeys (mergeFields target patch) := by
  induction patch with
  | nil => intro target h; rw [Json.mergeFields]; exact h
  | cons x patch ih =>
    obtain ⟨k, v⟩ := x
    intro target h
    rw [Json.mergeFields]
    apply ih
    cases v with
    | null => exact h.eraseField k
    | _ => exact h.setField k _

/-! ## §6. Serialized records and maps. -/

/-- The fields of a record that are not skipped. -/
def present (entries : List (String × Option Json)) : Fields :=
  entries.filterMap (fun x => x.2.map (fun v => (x.1, v)))

/-- The fields that are set have distinct keys. -/
theorem present_distinct {entries : List (String × Option Json)}
    (h : (entries.map Prod.fst).Nodup) : DistinctKeys (present entries) := by
  refine List.Nodup.sublist ?_ h
  unfold present
  induction entries with
  | nil => exact .slnil
  | cons x entries ih =>
    obtain ⟨k, v⟩ := x
    rw [List.map_cons, List.nodup_cons] at h
    cases v with
    | none => exact (ih h.2).cons _
    | some v => exact (ih h.2).cons_cons _

/-- A field is found if it is set. -/
theorem lookup_present {entries : List (String × Option Json)}
    (h : (entries.map Prod.fst).Nodup) {k : String} {v : Option Json} (hmem : (k, v) ∈ entries) :
    lookup k (present entries) = v := by
  have hd := present_distinct h
  cases v with
  | some w =>
    rw [lookup_eq_some_iff hd]
    exact List.mem_filterMap.mpr ⟨(k, some w), hmem, rfl⟩
  | none =>
    cases hl : lookup k (present entries) with
    | none => rfl
    | some w =>
      obtain ⟨x, hx, hxw⟩ := List.mem_filterMap.mp (mem_of_lookup hl)
      rw [Option.map_eq_some_iff] at hxw
      obtain ⟨w', hw', heq⟩ := hxw
      have hkey : x.1 = k := congrArg Prod.fst heq
      have hsame := List.inj_on_of_nodup_map h hx hmem hkey
      rw [hsame] at hw'
      cases hw'

section Maps

variable {β : Type}

/-- The fields of a map. -/
def ofMap (enc : β → Json) (m : TreeMap String β) : Fields :=
  m.toList.map (fun x => (x.1, enc x.2))

/-- The map some fields are read as; values of another kind are left out. -/
def toMap (dec : Json → Option β) (fs : Fields) : TreeMap String β :=
  insertAll (fun x => (dec x.2).map (fun v => (x.1, v))) ∅ fs

/-- A map is written with distinct keys. -/
theorem ofMap_distinct (enc : β → Json) (m : TreeMap String β) : DistinctKeys (ofMap enc m) := by
  have hkeys : (ofMap enc m).map Prod.fst = m.keys := by
    rw [← TreeMap.map_fst_toList_eq_keys]
    unfold ofMap
    rw [List.map_map]
    rfl
  unfold DistinctKeys
  rw [hkeys]
  exact TreeMap.nodup_keys

/-- A key of a map is found with its value. -/
theorem lookup_ofMap (enc : β → Json) (m : TreeMap String β) (k : String) :
    lookup k (ofMap enc m) = m[k]?.map enc := by
  cases hm : m[k]? with
  | some v =>
    rw [Option.map_some, lookup_eq_some_iff (ofMap_distinct enc m)]
    exact List.mem_map.mpr ⟨(k, v), TreeMap.mem_toList_iff_getElem?_eq_some.mpr hm, rfl⟩
  | none =>
    cases hl : lookup k (ofMap enc m) with
    | none => rfl
    | some w =>
      obtain ⟨x, hx, hxw⟩ := List.mem_map.mp (mem_of_lookup hl)
      have hkey : x.1 = k := congrArg Prod.fst hxw
      rw [TreeMap.mem_toList_iff_getElem?_eq_some, hkey, hm] at hx
      cases hx

/-- A map is read back key by key. -/
theorem getElem?_toMap {dec : Json → Option β} {fs : Fields} (h : DistinctKeys fs) (k : String) :
    (toMap dec fs)[k]? = (lookup k fs).bind dec := by
  unfold toMap
  cases hb : (lookup k fs).bind dec with
  | some b =>
    obtain ⟨v, hv, hvb⟩ := Option.bind_eq_some_iff.mp hb
    apply insertAll_of_entry
    · exact ⟨(k, v), mem_of_lookup hv, by rw [hvb]; rfl⟩
    · intro x hx v' hxv
      rw [Option.map_eq_some_iff] at hxv
      obtain ⟨b', hb', heq⟩ := hxv
      have hkey : x.1 = k := congrArg Prod.fst heq
      have hx' : (k, x.2) ∈ fs := by rw [← hkey]; exact hx
      rw [(lookup_eq_some_iff h).mpr hx'] at hv
      cases hv
      rw [hb'] at hvb
      cases hvb
      exact (congrArg Prod.snd heq).symm
  | none =>
    rw [insertAll_of_not_entry]
    · exact TreeMap.getElem?_emptyc
    · intro x hx v hxv
      rw [Option.map_eq_some_iff] at hxv
      obtain ⟨b', hb', heq⟩ := hxv
      have hkey : x.1 = k := congrArg Prod.fst heq
      have hx' : (k, x.2) ∈ fs := by rw [← hkey]; exact hx
      rw [(lookup_eq_some_iff h).mpr hx', Option.bind_some, hb'] at hb
      cases hb

end Maps

/-! ## §7. Values of any shape. -/

/-- As a 64-bit integer. -/
def asInt64 : Json → Option Int
  | .num n => if -2 ^ 63 ≤ n ∧ n < 2 ^ 63 then some n else none
  | _ => none

/-- A text, if it is one. -/
def asStr : Json → Option String
  | .str s => some s
  | _ => none

/-- A truth value, if it is one. -/
def asBool : Json → Option Bool
  | .bool b => some b
  | _ => none

/-- The value of a key: `null` where there is none. -/
def index (value : Json) (key : String) : Json := (get? value key).getD .null

end Json

end HardwareAutoscaler.Lib
