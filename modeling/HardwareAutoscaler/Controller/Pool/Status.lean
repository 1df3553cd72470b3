/-
  HardwareAutoscaler.Controller.Pool.Status
  ─────────────────────────────────────────
  A POOL'S STATUS AS IT IS STORED: its JSON fields with the skip rules of
  `src/crd.rs`, how it is read back, and `patch_status_diff`, whose merge
  patch the API server applies to what is stored.

    • `toFields`, `ofJson` — writing and reading a status,
    • `patchStatusDiff` — one status patch,
    • `timer_patchedStatus` — the stored `unneededSince` after a cycle: a nested
      object is merged, so a timer left out stays while others do.
-/
import HardwareAutoscaler.Crd
import HardwareAutoscaler.Lib.Json

namespace HardwareAutoscaler

open Std (TreeMap)
open Lib (Json Fields)
open Lib.Json (lookup get? mergeDiff mergePatch mergeFields present ofMap toMap DistinctKeys)

/-! ## §1. Writing. -/

/-- A text, as serde writes it. -/
def strJson (s : String) : Json := .str s
/-- A number, as serde writes it. -/
def natJson (n : Nat) : Json := .num n
/-- A time, as serde writes it. -/
def timeJson (t : Int) : Json := .time t

/-- A list that is skipped when it is empty. -/
def listField {α : Type} (enc : α → Json) (l : List α) : Option Json :=
  if l.isEmpty then none else some (.arr (l.map enc))

/-- A map that is skipped when it is empty. -/
def mapField {β : Type} (enc : β → Json) (m : TreeMap String β) : Option Json :=
  if m.isEmpty then none else some (.obj (ofMap enc m))

/-- The name an action is stored under. -/
def DecisionAction.name : DecisionAction → String
  | .powerOn => "PowerOn"
  | .powerOff => "PowerOff"
  | .noAction => "NoAction"

/-- A condition, as it is stored. -/
def Condition.toJson (c : Condition) : Json :=
  .obj (present
    [("type", some (.str c.type_)), ("status", some (.str c.status)),
     ("reason", some (.str c.reason)),
     ("message", if c.message.isEmpty then none else some (.str c.message)),
     ("lastTransitionTime", some (.time c.lastTransitionTime))])

/-- An entry of the history, as it is stored. -/
def DecisionRecord.toJson (r : DecisionRecord) : Json :=
  .obj (present
    [("time", some (.time r.time)), ("action", some (.str r.action.name)),
     ("node", r.node.map strJson), ("reason", some (.str r.reason)),
     ("candidates", if r.candidates.isEmpty then none else some (.str r.candidates))])

/-- The fields of a pool's status, `none` for a skipped one. -/
def NodeScalingPoolStatus.entries (st : NodeScalingPoolStatus) : List (String × Option Json) :=
  [("members", listField strJson st.members),
   ("conflicts", listField strJson st.conflicts),
   ("releasable", listField strJson st.releasable),
   ("needed", mapField strJson st.needed),
   ("totalNodes", some (natJson st.totalNodes)),
   ("onlineNodes", some (natJson st.onlineNodes)),
   ("pendingPods", some (natJson st.pendingPods)),
   ("lastScaleUpTime", st.lastScaleUpTime.map timeJson),
   ("lastScaleDownTime", st.lastScaleDownTime.map timeJson),
   ("unneededSince", mapField timeJson st.unneededSince),
   ("message", st.message.map strJson),
   ("conditions", listField Condition.toJson st.conditions),
   ("recentDecisions", listField DecisionRecord.toJson st.recentDecisions)]

/-- The status, as it is stored: fields that are unset are left out. -/
def NodeScalingPoolStatus.toFields (st : NodeScalingPoolStatus) : Fields := present st.entries

/-- The fields of a status have distinct names. -/
theorem NodeScalingPoolStatus.entries_distinct (st : NodeScalingPoolStatus) :
    (st.entries.map Prod.fst).Nodup := by
  show ["members", "conflicts", "releasable", "needed", "totalNodes", "onlineNodes", "pendingPods",
    "lastScaleUpTime", "lastScaleDownTime", "unneededSince", "message", "conditions",
    "recentDecisions"].Nodup
  decide

theorem NodeScalingPoolStatus.toFields_distinct (st : NodeScalingPoolStatus) :
    DistinctKeys st.toFields :=
  Lib.Json.present_distinct st.entries_distinct

/-! ## §2. Reading. -/

/-- A text, read back. -/
def asStr : Json → Option String
  | .str s => some s
  | _ => none

/-- A number, read back. -/
def asNat : Json → Option Nat
  | .num n => some n.toNat
  | _ => none

/-- A time, read back. -/
def asTime : Json → Option Int
  | .time t => some t
  | _ => none

/-- The items of a list, read back. -/
def asItems : Json → List Json
  | .arr items => items
  | _ => []

/-- The action of a name. -/
def DecisionAction.ofName : String → Option DecisionAction
  | "PowerOn" => some .powerOn
  | "PowerOff" => some .powerOff
  | "NoAction" => some .noAction
  | _ => none

/-- A condition, read back. -/
def Condition.ofJson (j : Json) : Option Condition := do
  let type_ ← (get? j "type").bind asStr
  let status ← (get? j "status").bind asStr
  let reason ← (get? j "reason").bind asStr
  let time ← (get? j "lastTransitionTime").bind asTime
  some ⟨type_, status, reason, ((get? j "message").bind asStr).getD "", time⟩

/-- An entry of the history, read back. -/
def DecisionRecord.ofJson (j : Json) : Option DecisionRecord := do
  let time ← (get? j "time").bind asTime
  let action ← ((get? j "action").bind asStr).bind DecisionAction.ofName
  let reason ← (get? j "reason").bind asStr
  some ⟨time, action, (get? j "node").bind asStr, reason,
    ((get? j "candidates").bind asStr).getD ""⟩

/-- A list field; absent is empty. -/
def readList {α : Type} (dec : Json → Option α) (j : Json) (k : String) : List α :=
  (((get? j k).map asItems).getD []).filterMap dec

/-- A map field; absent is empty. -/
def readMap {β : Type} (dec : Json → Option β) (j : Json) (k : String) : TreeMap String β :=
  toMap dec (((get? j k).map Json.fields).getD [])

/-- The status read from the stored value; absent fields take their default. -/
def NodeScalingPoolStatus.ofJson (j : Json) : NodeScalingPoolStatus where
  members := readList asStr j "members"
  conflicts := readList asStr j "conflicts"
  releasable := readList asStr j "releasable"
  needed := readMap asStr j "needed"
  totalNodes := ((get? j "totalNodes").bind asNat).getD 0
  onlineNodes := ((get? j "onlineNodes").bind asNat).getD 0
  pendingPods := ((get? j "pendingPods").bind asNat).getD 0
  lastScaleUpTime := (get? j "lastScaleUpTime").bind asTime
  lastScaleDownTime := (get? j "lastScaleDownTime").bind asTime
  unneededSince := readMap asTime j "unneededSince"
  message := (get? j "message").bind asStr
  conditions := readList Condition.ofJson j "conditions"
  recentDecisions := readList DecisionRecord.ofJson j "recentDecisions"

/-- `status` of the stored object: `null` stands for an absent one. -/
def readStatus : Json → Option NodeScalingPoolStatus
  | .null => none
  | j => some (.ofJson j)

/-! ## §3. Patching. -/

/-- `patch_status_diff`: the stored status after the merge patch of the
difference between `old` and `new`; nothing is sent without a difference. -/
def patchStatusDiff (stored : Json) (old new : Fields) : Json :=
  let diff := mergeDiff old new
  if diff.isEmpty then stored else mergePatch stored (.obj diff)

/-- Reading a key of the patched status. -/
theorem get?_patchStatusDiff (stored : Json) (old new : Fields) (k : String) :
    get? (patchStatusDiff stored old new) k
      = lookup k (mergeFields stored.fields (mergeDiff old new)) := by
  unfold patchStatusDiff
  simp only
  split
  · rename_i h
    rw [List.isEmpty_iff.mp h, Lib.Json.mergeFields]
    rfl
  · rfl

/-! ## §4. The stored timers. -/

/-- The fields of the stored `unneededSince`; absent is empty. -/
def timerFields (stored : Json) : Fields :=
  ((get? stored "unneededSince").map Json.fields).getD []

/-- The stored timer of a member. -/
def timer (stored : Json) (x : String) : Option Int := (lookup x (timerFields stored)).bind asTime

/-- What the status read back holds is the stored timer. -/
theorem unneededSince_ofJson {stored : Json} (h : DistinctKeys (timerFields stored)) (x : String) :
    (NodeScalingPoolStatus.ofJson stored).unneededSince[x]? = timer stored x :=
  Lib.Json.getElem?_toMap h x

/-- Where the timers are stored. -/
theorem lookup_unneededSince (st : NodeScalingPoolStatus) :
    lookup "unneededSince" st.toFields = mapField timeJson st.unneededSince := by
  refine Lib.Json.lookup_present st.entries_distinct ?_
  simp [NodeScalingPoolStatus.entries]

/-- The stored status after one cycle has patched `new` over what it read. -/
def patchedStatus (stored : Json) (new : NodeScalingPoolStatus) : Json :=
  patchStatusDiff stored (NodeScalingPoolStatus.ofJson stored).toFields new.toFields

/-- The three things a patch can do to the stored timers: leave them, as none
changed; remove them, as none is left; merge the new ones into them. -/
theorem timerFields_cases (stored : Json) (new : NodeScalingPoolStatus) :
    (timerFields (patchedStatus stored new) = timerFields stored ∧
      mapField timeJson (NodeScalingPoolStatus.ofJson stored).unneededSince
        = mapField timeJson new.unneededSince) ∨
    (timerFields (patchedStatus stored new) = [] ∧ new.unneededSince.isEmpty = true) ∨
    (timerFields (patchedStatus stored new)
        = mergeFields (timerFields stored) (ofMap timeJson new.unneededSince) ∧
      new.unneededSince.isEmpty = false) := by
  -- the patch of one key, before looking at what the two statuses write under it
  have hkey := get?_patchStatusDiff stored (NodeScalingPoolStatus.ofJson stored).toFields
    new.toFields "unneededSince"
  rw [Lib.Json.lookup_mergeFields_mergeDiff _ (NodeScalingPoolStatus.toFields_distinct _)
    (NodeScalingPoolStatus.toFields_distinct _), lookup_unneededSince, lookup_unneededSince] at hkey
  unfold timerFields patchedStatus
  rw [hkey]
  by_cases hempty : new.unneededSince.isEmpty = true
  -- an empty map is not written: the diff removes the key, or leaves it absent
  · have hnone : mapField timeJson new.unneededSince = none := by
      unfold mapField
      rw [if_pos hempty]
    rw [hnone]
    simp only
    split
    · exact Or.inr (Or.inl ⟨rfl, hempty⟩)
    · rename_i hwas
      exact Or.inl ⟨rfl, by simpa using hwas⟩
  · have hsome : mapField timeJson new.unneededSince
        = some (.obj (ofMap timeJson new.unneededSince)) := by
      unfold mapField
      rw [if_neg hempty]
    rw [hsome]
    simp only
    split
    -- written alike before and after: not part of the patch
    · rename_i hsame
      rw [Option.any_eq_true] at hsame
      obtain ⟨v, hv, hvs⟩ := hsame
      exact Or.inl ⟨rfl, by rw [hv, Lib.Json.eq_of_same hvs]⟩
    · refine Or.inr (Or.inr ⟨?_, by simpa using hempty⟩)
      show (Option.map Json.fields (Lib.Json.merged (get? stored "unneededSince") _)).getD [] = _
      cases get? stored "unneededSince" <;> rfl

/-- A patch keeps the keys of the stored timers distinct. -/
theorem timerFields_distinct {stored : Json} (h : DistinctKeys (timerFields stored))
    (new : NodeScalingPoolStatus) : DistinctKeys (timerFields (patchedStatus stored new)) := by
  rcases timerFields_cases stored new with ⟨he, _⟩ | ⟨he, _⟩ | ⟨he, _⟩
  · rw [he]
    exact h
  · rw [he]
    exact List.nodup_nil
  · rw [he]
    exact h.mergeFields

/-- Maps written alike hold the same. -/
theorem getElem?_of_mapField_eq {m m' : TreeMap String Int}
    (h : mapField timeJson m = mapField timeJson m') (x : String) : m[x]? = m'[x]? := by
  unfold mapField at h
  split at h <;> split at h
  · rename_i he he'
    rw [TreeMap.getElem?_of_isEmpty he, TreeMap.getElem?_of_isEmpty he']
  · cases h
  · cases h
  · rw [Option.some.injEq, Json.obj.injEq] at h
    have hx : lookup x (ofMap timeJson m) = lookup x (ofMap timeJson m') := by rw [h]
    rw [Lib.Json.lookup_ofMap, Lib.Json.lookup_ofMap] at hx
    cases hm : m[x]? with
    | none =>
      rw [hm] at hx
      cases hm' : m'[x]? with
      | none => rfl
      | some t => rw [hm'] at hx; cases hx
    | some t =>
      rw [hm] at hx
      cases hm' : m'[x]? with
      | none => rw [hm'] at hx; cases hx
      | some t' =>
        rw [hm', Option.map_some, Option.map_some, Option.some.injEq] at hx
        rw [Json.time.inj hx]

/-- **The stored timers after a patch.** With no new timer the object is
removed; otherwise the new timers are merged into the stored ones, and a timer
the new status leaves out keeps its stored value. -/
theorem timer_patchedStatus {stored : Json} (hd : DistinctKeys (timerFields stored))
    (new : NodeScalingPoolStatus) (x : String) :
    timer (patchedStatus stored new) x
      = if new.unneededSince.isEmpty then none
        else (new.unneededSince[x]?).or (timer stored x) := by
  have hread := unneededSince_ofJson hd x
  rcases timerFields_cases stored new with ⟨he, hsame⟩ | ⟨he, hempty⟩ | ⟨he, hempty⟩
  -- nothing patched: old and new timers are the same
  · have hx := getElem?_of_mapField_eq hsame x
    have hkeep : timer (patchedStatus stored new) x = timer stored x := by
      unfold timer
      rw [he]
    rw [hkeep, ← hx, hread, Option.or_self]
    split
    · rename_i hempty
      rw [← hread, hx]
      exact TreeMap.getElem?_of_isEmpty hempty
    · rfl
  · rw [if_pos hempty]
    unfold timer
    rw [he]
    rfl
  · rw [hempty]
    unfold timer
    rw [he, Lib.Json.lookup_mergeFields x _ (Lib.Json.ofMap_distinct _ _), Lib.Json.lookup_ofMap]
    cases new.unneededSince[x]? with
    | none => rfl
    | some t => rfl

end HardwareAutoscaler
