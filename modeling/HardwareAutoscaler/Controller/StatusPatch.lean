/-
  HardwareAutoscaler.Controller.StatusPatch
  ─────────────────────────────────────────
  WHAT A STATUS PATCH MAKES OF THE STORED STATUS.

  `merge_diff` compares two statuses on their top level, and the API server
  merges the patch recursively.  A nested object that changes is sent whole,
  so a key it has lost is not in the patch, and stays.

    • `patchStatus` — the merge patch of one object,
    • `PatchesExactly` — the stored status becomes the new one, and what the
      two statuses agree on is left alone,
    • `leavesAgreed` — the second half, for every pair,
    • `patches_exactly_iff` — the pairs of statuses for which both hold,
    • `lost_keys_stay` — a pool and a machine for which they do not.
-/
import HardwareAutoscaler.Lib.JsonPath
import HardwareAutoscaler.Controller.Machine.Status

namespace HardwareAutoscaler

open Std (TreeMap)
open Lib (Json Fields)
open Lib.Json (lookup get? mergeDiff mergePatch mergeFields present ofMap DistinctKeys valueAt
  Alike Clean IsLeaf KeepsKeys FieldKept)

/-! ## §1. One patch. -/

/-- The merge patch `{"status": merge_diff(old, new)}`, applied. -/
def patchStatus (object : Json) (old new : Fields) : Json :=
  mergePatch object (.obj [("status", .obj (mergeDiff old new))])

/-- A stored object: its status, and what else it has. -/
def withStatus (stored : Json) (others : Fields) : Json := .obj (("status", stored) :: others)

/-- The status of an object, `null` if it has none. -/
def statusOf (object : Json) : Json := (get? object "status").getD .null

/-- A status patch is merged into the status alone. -/
theorem statusOf_patchStatus (stored : Json) (others old new : Fields) :
    statusOf (patchStatus (withStatus stored others) old new)
      = mergePatch stored (.obj (mergeDiff old new)) := by
  unfold patchStatus withStatus statusOf
  have hget : get? (mergePatch (.obj (("status", stored) :: others))
      (.obj [("status", .obj (mergeDiff old new))])) "status"
        = some (mergePatch stored (.obj (mergeDiff old new))) := by
    rw [mergePatch]
    show lookup "status" (mergeFields (("status", stored) :: others) _) = _
    rw [Lib.Json.lookup_mergeFields "status" _ (by simp)]
    rfl
  rw [hget]
  rfl

/-- **What is expected of the diff** of `old` and `new`: it makes the stored
`old` the new status, and leaves alone, of any other stored status, the fields
that `old` and `new` agree on. -/
structure PatchesExactly (old new : Fields) : Prop where
  yields : ∀ others,
    Alike (statusOf (patchStatus (withStatus (.obj old) others) old new)) (.obj new)
  agreed : ∀ stored others k, lookup k old = lookup k new →
    get? (statusOf (patchStatus (withStatus stored others) old new)) k = get? stored k

/-- **What two statuses agree on is left alone**, whatever is stored. -/
theorem leavesAgreed {old new : Fields} (hold : DistinctKeys old) (hnew : DistinctKeys new)
    (stored : Json) (others : Fields) {k : String} (h : lookup k old = lookup k new) :
    get? (statusOf (patchStatus (withStatus stored others) old new)) k = get? stored k := by
  rw [statusOf_patchStatus]
  exact Lib.Json.get?_mergeDiff_of_agree hold hnew stored h

/-- Two records of one type are patched exactly when no field of both loses a
key below it. -/
theorem patchesExactly_present {old new : List (String × Option Json)}
    (hkeys : old.map Prod.fst = new.map Prod.fst) (hnodup : (old.map Prod.fst).Nodup)
    (hclean : Clean (.obj (present new))) :
    PatchesExactly (present old) (present new) ↔
      List.Forall₂ (fun x y => FieldKept x.2 y.2) old new := by
  have hdold := Lib.Json.present_distinct hnodup
  have hdnew : DistinctKeys (present new) := by
    rw [hkeys] at hnodup
    exact Lib.Json.present_distinct hnodup
  have hyields : (∀ others, Alike (statusOf (patchStatus (withStatus (.obj (present old)) others)
      (present old) (present new))) (.obj (present new))) ↔
      ∀ k, FieldKept (lookup k (present old)) (lookup k (present new)) := by
    simp only [statusOf_patchStatus, Lib.Json.alike_mergeDiff hdold hclean]
    exact ⟨fun h => h [], fun h _ => h⟩
  rw [← Lib.Json.forall_lookup_present (Q := FieldKept) Lib.Json.fieldKept_none_left hkeys hnodup,
    ← hyields]
  constructor
  · intro h
    exact h.yields
  · intro h
    exact ⟨h, fun stored others k hk => leavesAgreed hdold hdnew stored others hk⟩

/-! ## §2. Fields. -/

section Kinds

variable {α β : Type}

theorem isLeaf_str (s : String) : IsLeaf (.str s) := by intro fs; simp
theorem isLeaf_time (t : Int) : IsLeaf (.time t) := by intro fs; simp
theorem isLeaf_num (n : Int) : IsLeaf (.num n) := by intro fs; simp
theorem isLeaf_bool (b : Bool) : IsLeaf (.bool b) := by intro fs; simp
theorem isLeaf_strJson (s : String) : IsLeaf (strJson s) := isLeaf_str s
theorem isLeaf_timeJson (t : Int) : IsLeaf (timeJson t) := isLeaf_time t
theorem isLeaf_int64Json (n : Int64) : IsLeaf (int64Json n) := isLeaf_num n.toInt
theorem isLeaf_arr (items : List Json) : IsLeaf (.arr items) := by intro fs; simp

/-- A leaf that may be skipped. -/
theorem fieldKept_map {enc : α → Json} (hleaf : ∀ v, IsLeaf (enc v)) {a : Option Json}
    {v : Option α} : FieldKept a (v.map enc) := by
  apply Lib.Json.fieldKept_of_isLeaf
  intro y hy
  obtain ⟨w, _, hw⟩ := Option.map_eq_some_iff.mp hy
  rw [← hw]
  exact hleaf w

theorem fieldKept_times {a : Option Json} {t : Option Int} : FieldKept a (t.map timeJson) :=
  fieldKept_map isLeaf_timeJson

theorem fieldKept_texts {a : Option Json} {s : Option String} : FieldKept a (s.map strJson) :=
  fieldKept_map isLeaf_strJson

/-- A value that is no object is replaced as a whole. -/
theorem fieldKept_some_leaf {a : Option Json} {b : Json} (hleaf : IsLeaf b) :
    FieldKept a (some b) := by
  apply Lib.Json.fieldKept_of_isLeaf
  intro y hy
  cases hy
  exact hleaf

/-- A list is replaced as a whole. -/
theorem fieldKept_listField {enc : α → Json} {a : Option Json} {l : List α} :
    FieldKept a (listField enc l) := by
  apply Lib.Json.fieldKept_of_isLeaf
  intro y hy
  unfold listField at hy
  split at hy
  · cases hy
  · cases hy
    exact isLeaf_arr _

/-- The map loses no key, unless it is removed as a whole. -/
def MapKept (old new : TreeMap String β) : Prop := new.isEmpty = true ∨ ∀ k, k ∈ old → k ∈ new

/-- A map is patched exactly if it loses no key. -/
theorem fieldKept_mapField {enc : β → Json} (hleaf : ∀ v, IsLeaf (enc v))
    {old new : TreeMap String β} :
    FieldKept (mapField enc old) (mapField enc new) ↔ MapKept old new := by
  unfold MapKept
  -- an empty map is left out of the status altogether
  by_cases hnew : new.isEmpty = true
  · have hnone : mapField enc new = none := by
      unfold mapField
      rw [if_pos hnew]
    rw [hnone]
    exact ⟨fun _ => Or.inl hnew, fun _ => Lib.Json.fieldKept_none_right⟩
  · have hsome : mapField enc new = some (.obj (ofMap enc new)) := by
      unfold mapField
      rw [if_neg hnew]
    rw [hsome]
    by_cases hold : old.isEmpty = true
    · have hnone : mapField enc old = none := by
        unfold mapField
        rw [if_pos hold]
      rw [hnone]
      refine ⟨fun _ => Or.inr ?_, fun _ => Lib.Json.fieldKept_none_left⟩
      intro k hk
      rw [TreeMap.mem_iff_isSome_getElem?, TreeMap.getElem?_of_isEmpty hold] at hk
      cases hk
    · have hsome : mapField enc old = some (.obj (ofMap enc old)) := by
        unfold mapField
        rw [if_neg hold]
      rw [hsome, Lib.Json.fieldKept_some, Lib.Json.keepsKeys_ofMap hleaf]
      constructor
      · intro h
        exact Or.inr h
      · intro h
        exact h.resolve_left hnew

/-- A record loses a key when it loses one of its fields. -/
theorem fieldKept_recordField {entries : α → List (String × Option Json)} {keys : List String}
    (hkeys : ∀ r, (entries r).map Prod.fst = keys) (hnodup : keys.Nodup) {old new : Option α} :
    FieldKept (recordField entries old) (recordField entries new) ↔
      ∀ a b, old = some a → new = some b →
        List.Forall₂ (fun x y => (y.2 = none → x.2 = none) ∧ FieldKept x.2 y.2)
          (entries a) (entries b) := by
  cases old with
  | none =>
    refine ⟨fun _ a b ha => ?_, fun _ => Lib.Json.fieldKept_none_left⟩
    cases ha
  | some a =>
    cases new with
    | none =>
      refine ⟨fun _ a b _ hb => ?_, fun _ => Lib.Json.fieldKept_none_right⟩
      cases hb
    | some b =>
      have hsame : (entries a).map Prod.fst = (entries b).map Prod.fst := by rw [hkeys, hkeys]
      have hd : ((entries a).map Prod.fst).Nodup := by
        rw [hkeys]
        exact hnodup
      show FieldKept (some _) (some _) ↔ _
      rw [Lib.Json.fieldKept_some, Lib.Json.keepsKeys_present hsame hd]
      constructor
      · intro h a' b' ha hb
        cases ha
        cases hb
        exact h
      · intro h
        exact h a b rfl rfl

/-- A field that is always written, and is a leaf. -/
theorem written {a : Option Json} {b : Json} (hleaf : IsLeaf b) :
    ((some b = none → a = none) ∧ FieldKept a (some b)) := by
  refine ⟨?_, fieldKept_some_leaf hleaf⟩
  intro h
  cases h

/-- A leaf that is skipped when there is none. -/
theorem optional_iff {enc : α → Json} (hleaf : ∀ v, IsLeaf (enc v)) {v w : Option α} :
    ((w.map enc = none → v.map enc = none) ∧ FieldKept (v.map enc) (w.map enc)) ↔
      (w = none → v = none) := by
  rw [Option.map_eq_none_iff, Option.map_eq_none_iff]
  exact ⟨fun h => h.1, fun h => ⟨h, fieldKept_map hleaf⟩⟩

/-! ## §3. Clean fields. -/

/-- What is written for the field is clean. -/
def CleanField (a : Option Json) : Prop := ∀ v, a = some v → v ≠ .null ∧ Clean v

/-- A value that is neither an object nor `null` is written as it is. -/
theorem cleanField_some {v : Json} (hleaf : IsLeaf v) (hnull : v ≠ .null) :
    CleanField (some v) := by
  intro w hw
  cases hw
  exact ⟨hnull, Lib.Json.clean_of_isLeaf hleaf⟩

/-- A value that may be unset is written or left out. -/
theorem cleanField_map {enc : α → Json} (hleaf : ∀ v, IsLeaf (enc v)) (hnull : ∀ v, enc v ≠ .null)
    {v : Option α} : CleanField (v.map enc) := by
  intro w hw
  obtain ⟨x, _, hx⟩ := Option.map_eq_some_iff.mp hw
  rw [← hx]
  exact ⟨hnull x, Lib.Json.clean_of_isLeaf (hleaf x)⟩

/-- A list is written or left out. -/
theorem cleanField_listField {enc : α → Json} {l : List α} : CleanField (listField enc l) := by
  intro w hw
  unfold listField at hw
  split at hw
  · cases hw
  · cases hw
    exact ⟨by simp, Lib.Json.clean_of_isLeaf (isLeaf_arr _)⟩

/-- A map of such values is written key by key. -/
theorem cleanField_mapField {enc : β → Json} (hleaf : ∀ v, IsLeaf (enc v))
    (hnull : ∀ v, enc v ≠ .null) {m : TreeMap String β} : CleanField (mapField enc m) := by
  intro w hw
  unfold mapField at hw
  split at hw
  · cases hw
  · cases hw
    exact ⟨by simp, Lib.Json.clean_ofMap hleaf hnull m⟩

/-- A record is written with its keys. -/
theorem cleanField_recordField {entries : α → List (String × Option Json)} {keys : List String}
    (hkeys : ∀ r, (entries r).map Prod.fst = keys) (hnodup : keys.Nodup)
    (hfields : ∀ r, ∀ x ∈ entries r, CleanField x.2) {r : Option α} :
    CleanField (recordField entries r) := by
  intro w hw
  obtain ⟨x, _, hx⟩ := Option.map_eq_some_iff.mp hw
  rw [← hx]
  refine ⟨by simp, Lib.Json.clean_present ?_ (hfields x)⟩
  rw [hkeys]
  exact hnodup

end Kinds

theorem cleanField_str (s : String) : CleanField (some (.str s)) :=
  cleanField_some (isLeaf_str s) nofun

theorem cleanField_bool (b : Bool) : CleanField (some (.bool b)) :=
  cleanField_some (isLeaf_bool b) nofun

theorem cleanField_time (t : Int) : CleanField (some (.time t)) :=
  cleanField_some (isLeaf_time t) nofun

theorem cleanField_int64 (n : Int64) : CleanField (some (int64Json n)) :=
  cleanField_some (isLeaf_int64Json n) nofun

theorem cleanField_times (t : Option Int) : CleanField (t.map timeJson) :=
  cleanField_map isLeaf_timeJson (fun _ => nofun)

theorem cleanField_texts (s : Option String) : CleanField (s.map strJson) :=
  cleanField_map isLeaf_strJson (fun _ => nofun)

/-! ## §4. The pool's status. -/

/-- No map of the pool's status loses a key and keeps another. -/
structure NodeScalingPoolStatus.KeysKept (old new : NodeScalingPoolStatus) : Prop where
  needed : MapKept old.needed new.needed
  unneededSince : MapKept old.unneededSince new.unneededSince

/-- A pool's status is written with distinct keys and without `null`. -/
theorem NodeScalingPoolStatus.clean (st : NodeScalingPoolStatus) : Clean (.obj st.toFields) := by
  refine Lib.Json.clean_present st.entries_distinct ?_
  unfold NodeScalingPoolStatus.entries
  simp only [List.forall_mem_cons]
  have hnat : ∀ n, CleanField (some (natJson n)) := fun n => cleanField_some (isLeaf_num n) nofun
  exact ⟨cleanField_listField, cleanField_listField, cleanField_listField,
    cleanField_mapField isLeaf_strJson (fun _ => nofun), hnat _, hnat _, hnat _,
    cleanField_times _, cleanField_times _, cleanField_mapField isLeaf_timeJson (fun _ => nofun),
    cleanField_texts _, cleanField_listField, cleanField_listField, by simp⟩

/-- **When a pool's status is patched exactly**: its maps lose no key. -/
theorem NodeScalingPoolStatus.patchesExactly_iff (old new : NodeScalingPoolStatus) :
    PatchesExactly old.toFields new.toFields ↔ old.KeysKept new := by
  have hnat : ∀ (a : Option Json) n, FieldKept a (some (natJson n)) :=
    fun a n => fieldKept_some_leaf (isLeaf_num n)
  refine (@patchesExactly_present old.entries new.entries rfl old.entries_distinct
    new.clean).trans ?_
  unfold NodeScalingPoolStatus.entries
  simp only [List.forall₂_cons, List.forall₂_nil_left_iff, fieldKept_listField, hnat,
    fieldKept_times, fieldKept_texts, fieldKept_mapField isLeaf_strJson,
    fieldKept_mapField isLeaf_timeJson, true_and, and_true]
  constructor
  · intro ⟨hneeded, hsince⟩
    exact ⟨hneeded, hsince⟩
  · intro h
    exact ⟨h.needed, h.unneededSince⟩

/-! ## §5. The machine's status. -/

/-- No map of the machine's status, and no record in it, loses a key and
stays. -/
structure NodePowerManagementConfigStatus.KeysKept (old new : NodePowerManagementConfigStatus) :
    Prop where
  via : ∀ a b, old.lastPowerAction = some a → new.lastPowerAction = some b →
    b.via = none → a.via = none
  policyOn : ∀ a b, old.manualPowerOn = some a → new.manualPowerOn = some b →
    b.policy = none → a.policy = none
  policyOff : ∀ a b, old.manualPowerOff = some a → new.manualPowerOff = some b →
    b.policy = none → a.policy = none
  nodeLabels : ∀ a b, old.nodeLabels = some a → new.nodeLabels = some b → ∀ k, k ∈ a → k ∈ b
  extendedResources : MapKept old.extendedResources new.extendedResources

section Records

variable {α : Type}

/-- A decision has no field that may be unset, so it is patched exactly. -/
theorem scalingDecision_kept {old new : Option ScalingDecision} :
    FieldKept (recordField ScalingDecision.entries old)
      (recordField ScalingDecision.entries new) := by
  refine (@fieldKept_recordField _ _ ["pool", "target", "reason", "time"] (fun _ => rfl)
    (by decide) old new).mpr ?_
  intro a b _ _
  exact .cons (written (isLeaf_str _)) (.cons (written (isLeaf_str _))
    (.cons (written (isLeaf_str _)) (.cons (written (isLeaf_time _)) .nil)))

theorem sleepSupport_kept {old new : Option SleepSupport} :
    FieldKept (recordField SleepSupport.entries old) (recordField SleepSupport.entries new) := by
  refine (@fieldKept_recordField _ _ ["bootId", "s3", "detail"] (fun _ => rfl)
    (by decide) old new).mpr ?_
  intro a b _ _
  exact .cons (written (isLeaf_str _)) (.cons (written (isLeaf_bool _))
    (.cons (written (isLeaf_str _)) .nil))

theorem bootFailure_kept {old new : Option BootFailure} :
    FieldKept (recordField BootFailure.entries old) (recordField BootFailure.entries new) := by
  refine (@fieldKept_recordField _ _ ["time", "leftOn"] (fun _ => rfl)
    (by decide) old new).mpr ?_
  intro a b _ _
  exact .cons (written (isLeaf_time _)) (.cons (written (isLeaf_bool _)) .nil)

theorem allocatable_kept {old new : Option ResourceAmounts} :
    FieldKept (recordField ResourceAmounts.entries old)
      (recordField ResourceAmounts.entries new) := by
  refine (@fieldKept_recordField _ _ ["cpuMillis", "memoryBytes", "pods"] (fun _ => rfl)
    (by decide) old new).mpr ?_
  intro a b _ _
  exact .cons (written (isLeaf_num _)) (.cons (written (isLeaf_num _))
    (.cons (written (isLeaf_num _)) .nil))

/-- An action is, unless its interface is unset. -/
theorem lastPowerAction_kept {old new : Option PowerActionRecord} :
    FieldKept (recordField PowerActionRecord.entries old)
        (recordField PowerActionRecord.entries new) ↔
      ∀ a b, old = some a → new = some b → b.via = none → a.via = none := by
  refine (@fieldKept_recordField _ _ ["action", "time", "succeeded", "via"] (fun _ => rfl)
    (by decide) old new).trans ?_
  unfold PowerActionRecord.entries
  simp only [List.forall₂_cons, List.forall₂_nil_left_iff, written (isLeaf_str _),
    written (isLeaf_time _), written (isLeaf_bool _), optional_iff isLeaf_strJson, and_true,
    reduceCtorEq, false_imp_iff, true_and]

/-- A manual change is, unless its policy is unset. -/
theorem manualPowerChange_kept {old new : Option ManualPowerChange} :
    FieldKept (recordField ManualPowerChange.entries old)
        (recordField ManualPowerChange.entries new) ↔
      ∀ a b, old = some a → new = some b → b.policy = none → a.policy = none := by
  refine (@fieldKept_recordField _ _ ["time", "policy"] (fun _ => rfl)
    (by decide) old new).trans ?_
  have hpolicy : ∀ p : ManualPowerOnPolicy, IsLeaf (.str p.name) := fun p => isLeaf_str p.name
  unfold ManualPowerChange.entries
  simp only [List.forall₂_cons, List.forall₂_nil_left_iff, written (isLeaf_time _),
    optional_iff hpolicy, and_true, reduceCtorEq, false_imp_iff, true_and]

/-- Labels are, if none is lost. -/
theorem nodeLabels_kept {old new : Option (TreeMap String String)} :
    FieldKept (old.map (fun l => .obj (ofMap strJson l)))
        (new.map (fun l => .obj (ofMap strJson l))) ↔
      ∀ a b, old = some a → new = some b → ∀ k, k ∈ a → k ∈ b := by
  cases old with
  | none =>
    refine ⟨fun _ a b ha => ?_, fun _ => Lib.Json.fieldKept_none_left⟩
    cases ha
  | some a =>
    cases new with
    | none =>
      refine ⟨fun _ a b _ hb => ?_, fun _ => Lib.Json.fieldKept_none_right⟩
      cases hb
    | some b =>
      show FieldKept (some (.obj (ofMap strJson a))) (some (.obj (ofMap strJson b))) ↔ _
      rw [Lib.Json.fieldKept_some, Lib.Json.keepsKeys_ofMap isLeaf_strJson]
      constructor
      · intro h a' b' ha hb
        cases ha
        cases hb
        exact h
      · intro h
        exact h a b rfl rfl

end Records

theorem cleanField_scalingDecision (d : Option ScalingDecision) :
    CleanField (recordField ScalingDecision.entries d) := by
  refine @cleanField_recordField _ _ ["pool", "target", "reason", "time"] (fun _ => rfl)
    (by decide) ?_ d
  intro d
  unfold ScalingDecision.entries
  simp only [List.forall_mem_cons]
  exact ⟨cleanField_str _, cleanField_str _, cleanField_str _, cleanField_time _, by simp⟩

theorem cleanField_lastPowerAction (a : Option PowerActionRecord) :
    CleanField (recordField PowerActionRecord.entries a) := by
  refine @cleanField_recordField _ _ ["action", "time", "succeeded", "via"] (fun _ => rfl)
    (by decide) ?_ a
  intro a
  unfold PowerActionRecord.entries
  simp only [List.forall_mem_cons]
  exact ⟨cleanField_str _, cleanField_time _, cleanField_bool _, cleanField_texts _, by simp⟩

theorem cleanField_sleepSupport (s : Option SleepSupport) :
    CleanField (recordField SleepSupport.entries s) := by
  refine @cleanField_recordField _ _ ["bootId", "s3", "detail"] (fun _ => rfl) (by decide) ?_ s
  intro s
  unfold SleepSupport.entries
  simp only [List.forall_mem_cons]
  exact ⟨cleanField_str _, cleanField_bool _, cleanField_str _, by simp⟩

theorem cleanField_manualPowerChange (c : Option ManualPowerChange) :
    CleanField (recordField ManualPowerChange.entries c) := by
  refine @cleanField_recordField _ _ ["time", "policy"] (fun _ => rfl) (by decide) ?_ c
  intro c
  unfold ManualPowerChange.entries
  simp only [List.forall_mem_cons]
  exact ⟨cleanField_time _, cleanField_map (fun _ => isLeaf_str _) (fun _ => nofun), by simp⟩

theorem cleanField_bootFailure (f : Option BootFailure) :
    CleanField (recordField BootFailure.entries f) := by
  refine @cleanField_recordField _ _ ["time", "leftOn"] (fun _ => rfl) (by decide) ?_ f
  intro f
  unfold BootFailure.entries
  simp only [List.forall_mem_cons]
  exact ⟨cleanField_time _, cleanField_bool _, by simp⟩

theorem cleanField_allocatable (a : Option ResourceAmounts) :
    CleanField (recordField ResourceAmounts.entries a) := by
  refine @cleanField_recordField _ _ ["cpuMillis", "memoryBytes", "pods"] (fun _ => rfl)
    (by decide) ?_ a
  intro a
  unfold ResourceAmounts.entries
  simp only [List.forall_mem_cons]
  exact ⟨cleanField_int64 _, cleanField_int64 _, cleanField_int64 _, by simp⟩

theorem cleanField_nodeLabels (l : Option (TreeMap String String)) :
    CleanField (l.map (fun l => .obj (ofMap strJson l))) := by
  intro v hv
  obtain ⟨l, _, hl⟩ := Option.map_eq_some_iff.mp hv
  rw [← hl]
  exact ⟨nofun, Lib.Json.clean_ofMap isLeaf_strJson (fun _ => nofun) l⟩

/-- So is a machine's status. -/
theorem NodePowerManagementConfigStatus.clean (st : NodePowerManagementConfigStatus) :
    Clean (.obj st.toFields) := by
  refine Lib.Json.clean_present st.entries_distinct ?_
  unfold NodePowerManagementConfigStatus.entries
  simp only [List.forall_mem_cons]
  exact ⟨cleanField_str _, cleanField_times _, cleanField_str _, cleanField_bool _,
    cleanField_texts _, cleanField_listField, cleanField_scalingDecision _, cleanField_listField,
    cleanField_listField, cleanField_lastPowerAction _, cleanField_times _, cleanField_times _,
    cleanField_sleepSupport _, cleanField_manualPowerChange _, cleanField_manualPowerChange _,
    cleanField_times _, cleanField_bootFailure _, cleanField_times _, cleanField_times _,
    cleanField_allocatable _, cleanField_nodeLabels _,
    cleanField_mapField isLeaf_int64Json (fun _ => nofun), cleanField_texts _, by simp⟩

/-- **When a machine's status is patched exactly**: no nested field is unset and no
label is lost. -/
theorem NodePowerManagementConfigStatus.patchesExactly_iff
    (old new : NodePowerManagementConfigStatus) :
    PatchesExactly old.toFields new.toFields ↔ old.KeysKept new := by
  have hstr : ∀ (a : Option Json) s, FieldKept a (some (.str s)) :=
    fun a s => fieldKept_some_leaf (isLeaf_str s)
  have hbool : ∀ (a : Option Json) b, FieldKept a (some (.bool b)) :=
    fun a b => fieldKept_some_leaf (isLeaf_bool b)
  refine (@patchesExactly_present old.entries new.entries rfl old.entries_distinct
    new.clean).trans ?_
  unfold NodePowerManagementConfigStatus.entries
  simp only [List.forall₂_cons, List.forall₂_nil_left_iff, fieldKept_listField, hstr, hbool,
    fieldKept_times, fieldKept_texts, scalingDecision_kept, sleepSupport_kept, bootFailure_kept, allocatable_kept,
    lastPowerAction_kept, manualPowerChange_kept, nodeLabels_kept,
    fieldKept_mapField isLeaf_int64Json, true_and, and_true]
  constructor
  · intro ⟨hvia, hon, hoff, hlabels, hresources⟩
    exact ⟨hvia, hon, hoff, hlabels, hresources⟩
  · intro h
    exact ⟨h.via, h.policyOn, h.policyOff, h.nodeLabels, h.extendedResources⟩

/-! ## §6. Every pair of statuses. -/

/-- **A status patch is exact** for those pairs of statuses in which no nested
map or record that stays loses a key, and for no others. -/
theorem patches_exactly_iff (oldPool newPool : NodeScalingPoolStatus)
    (oldMachine newMachine : NodePowerManagementConfigStatus) :
    (PatchesExactly oldPool.toFields newPool.toFields ↔ oldPool.KeysKept newPool) ∧
    (PatchesExactly oldMachine.toFields newMachine.toFields ↔ oldMachine.KeysKept newMachine) :=
  ⟨oldPool.patchesExactly_iff newPool, oldMachine.patchesExactly_iff newMachine⟩

/-- The timers of two members, before and after one of them is needed again. -/
def twoTimers : NodeScalingPoolStatus :=
  { unneededSince := ((∅ : TreeMap String Int).insert "a" 0).insert "b" 0 }

/-- A status with one timer. -/
def oneTimer : NodeScalingPoolStatus := { unneededSince := (∅ : TreeMap String Int).insert "a" 0 }

/-- A power-on by hand, before and after it is recorded without a policy. -/
def policyOn (policy : Option ManualPowerOnPolicy) : NodePowerManagementConfigStatus :=
  { manualPowerOn := some { time := 0, policy := policy } }

/-- **What is lost stays**: the timer of `b`, and the policy of the power-on. -/
theorem lost_keys_stay :
    ¬ PatchesExactly twoTimers.toFields oneTimer.toFields ∧
    ¬ PatchesExactly (policyOn (some .adopt)).toFields (policyOn none).toFields := by
  refine ⟨?_, ?_⟩
  · intro h
    have hpath := congrArg Option.isSome (h.yields [] ["unneededSince", "b"])
    revert hpath
    decide +kernel
  · intro h
    have hpath := congrArg Option.isSome (h.yields [] ["manualPowerOn", "policy"])
    revert hpath
    decide +kernel

end HardwareAutoscaler
