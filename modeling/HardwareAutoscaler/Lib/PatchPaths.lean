/-
  HardwareAutoscaler.Lib.PatchPaths
  ─────────────────────────────────
  WHAT A MERGE PATCH WRITES, PATH BY PATH — program independent.

  A merge patch overwrites some paths and leaves the others alone.  What is at
  a path after it depends on the patch and on what was at that path, and on
  nothing else of the target.

    • `Patch` — a patch none of whose objects has a key twice,
    • `writtenAt` — what a patch writes at a path, if it touches it,
    • `leafAt_mergePatch` — a path after a patch,
    • `under`, `Apart` — the patch of one path, and paths it does not touch.
-/
import HardwareAutoscaler.Lib.JsonPath

namespace HardwareAutoscaler.Lib.Json

/-! ## §1. Patches. -/

/-- No object below the value has a key twice. -/
def Keyed (j : Json) : Prop := ∀ path fs, valueAt path j = some (.obj fs) → DistinctKeys fs

theorem keyed_of_isLeaf {j : Json} (h : IsLeaf j) : Keyed j := by
  intro path fs hf
  exact absurd hf (valueAt_of_isLeaf h)

theorem keyed_obj {fs : Fields} :
    Keyed (.obj fs) ↔ DistinctKeys fs ∧ ∀ k v, lookup k fs = some v → Keyed v := by
  constructor
  · intro h
    refine ⟨h [] fs rfl, ?_⟩
    intro k v hv path gs hg
    refine h (k :: path) gs ?_
    show (lookup k fs).bind (valueAt path) = some (.obj gs)
    rw [hv]
    exact hg
  · intro ⟨hd, hbelow⟩ path gs hg
    cases path with
    | nil =>
      cases hg
      exact hd
    | cons k path =>
      have hg : (lookup k fs).bind (valueAt path) = some (.obj gs) := hg
      obtain ⟨v, hv, hat⟩ := Option.bind_eq_some_iff.mp hg
      exact hbelow k v hv path gs hat

/-- A merge patch. -/
structure Patch where
  value : Json
  keyed : Keyed value

/-- The patch that changes nothing of an object. -/
def Patch.empty : Patch := ⟨.obj [], keyed_obj.mpr ⟨List.nodup_nil, fun _ _ h => by cases h⟩⟩

/-! ## §2. What a patch writes. -/

/-- What is at a path: a leaf, an object (as the empty one), or nothing. -/
def leafAt (path : List String) (j : Json) : Option Json := (valueAt path j).map leaf

/-- What a patch writes at a path, if it touches it: a value, or nothing where
it removes the path. -/
def writtenAt : List String → Json → Option (Option Json)
  | [], patch => some (some (leaf patch))
  | k :: path, .obj patch =>
    match lookup k patch with
    | none => none
    | some .null => some none
    | some v => writtenAt path v
  | _ :: _, _ => some none

theorem writtenAt_cons_none {k : String} {patch : Fields} (h : lookup k patch = none)
    (path : List String) : writtenAt (k :: path) (.obj patch) = none := by
  rw [writtenAt, h]

theorem writtenAt_cons_some {k : String} {patch : Fields} {v : Json} (h : lookup k patch = some v)
    (hv : v ≠ .null) (path : List String) :
    writtenAt (k :: path) (.obj patch) = writtenAt path v := by
  rw [writtenAt, h]
  cases v with
  | null => exact absurd rfl hv
  | _ => rfl

/-- Below a new value of a patch there is what the patch writes. -/
theorem leafAt_merged (path : List String) (old : Option Json) {v : Json} (hv : v ≠ .null)
    (ih : ∀ target, leafAt path (mergePatch target v)
      = (writtenAt path v).getD (leafAt path target)) :
    ((merged old v).bind (valueAt path)).map leaf
      = (writtenAt path v).getD ((old.bind (valueAt path)).map leaf) := by
  have hmerged : merged old v = some (mergePatch (old.getD .null) v) := by
    cases v with
    | null => exact absurd rfl hv
    | _ => rfl
  rw [hmerged]
  refine (ih _).trans ?_
  cases old with
  | some j => rfl
  | none =>
    cases path with
    | nil => rfl
    | cons k path => rfl

/-- **A path after a patch**: what the patch writes there, or what was there. -/
theorem leafAt_mergePatch (path : List String) (patch : Patch) (target : Json) :
    leafAt path (mergePatch target patch.value)
      = (writtenAt path patch.value).getD (leafAt path target) := by
  obtain ⟨patch, hkeyed⟩ := patch
  show leafAt path (mergePatch target patch) = (writtenAt path patch).getD (leafAt path target)
  induction path generalizing patch target with
  | nil => cases patch <;> rfl
  | cons k path ih =>
    cases patch with
    | obj fs =>
      obtain ⟨hd, hbelow⟩ := keyed_obj.mp hkeyed
      have hlook := lookup_mergeFields k target.fields hd
      show ((lookup k (mergeFields target.fields fs)).bind (valueAt path)).map leaf = _
      rw [hlook]
      cases hv : lookup k fs with
      | none =>
        rw [writtenAt_cons_none hv]
        rfl
      | some v =>
        by_cases hnull : v = .null
        · subst hnull
          rw [writtenAt, hv]
          rfl
        · rw [writtenAt_cons_some hv hnull]
          exact leafAt_merged path _ hnull (fun target => ih target v (hbelow k v hv))
    | _ => rfl

/-! ## §3. The patch of one path. -/

/-- `value` below `path`. -/
def under (path : List String) (value : Json) : Json :=
  path.foldr (fun k below => .obj [(k, below)]) value

@[simp] theorem lookup_cons_self (k : String) (v : Json) (fs : Fields) :
    lookup k ((k, v) :: fs) = some v :=
  if_pos rfl

theorem lookup_cons_of_ne {k k' : String} (h : k ≠ k') (v : Json) (fs : Fields) :
    lookup k' ((k, v) :: fs) = lookup k' fs :=
  if_neg h

theorem keyed_under {value : Json} (h : Keyed value) (path : List String) :
    Keyed (under path value) := by
  induction path with
  | nil => exact h
  | cons k path ih =>
    refine keyed_obj.mpr ⟨List.nodup_singleton k, ?_⟩
    intro k' v hv
    by_cases hk : k = k'
    · subst hk
      rw [lookup_cons_self] at hv
      cases hv
      exact ih
    · rw [lookup_cons_of_ne hk] at hv
      cases hv

/-- Neither path leads to the other. -/
def Apart (p q : List String) : Prop := ¬ p <+: q ∧ ¬ q <+: p

instance (p q : List String) : Decidable (Apart p q) := inferInstanceAs (Decidable (_ ∧ _))

theorem Apart.tail {k : String} {p q : List String} (h : Apart (k :: p) (k :: q)) : Apart p q :=
  ⟨fun hp => h.1 (List.cons_prefix_cons.mpr ⟨rfl, hp⟩),
    fun hq => h.2 (List.cons_prefix_cons.mpr ⟨rfl, hq⟩)⟩

/-- The patch of a path does not touch the paths apart from it. -/
theorem writtenAt_under_of_apart {p q : List String} (h : Apart p q) (value : Json) :
    writtenAt p (under q value) = none := by
  induction p generalizing q with
  | nil => exact absurd List.nil_prefix h.1
  | cons k p ih =>
    cases q with
    | nil => exact absurd List.nil_prefix h.2
    | cons k' q =>
      show writtenAt (k :: p) (.obj [(k', under q value)]) = none
      by_cases hk : k' = k
      · subst hk
        cases q with
        | nil => exact absurd List.nil_prefix h.tail.2
        | cons k'' q =>
          rw [writtenAt_cons_some (lookup_cons_self _ _ _) (by intro hf; cases hf)]
          exact ih h.tail
      · exact writtenAt_cons_none (lookup_cons_of_ne hk _ _) p

/-- What a field of a patch leaves: `null` removes. -/
def cell : Json → Option Json
  | .null => none
  | v => some (leaf v)

/-- What is written at the path itself. -/
theorem writtenAt_under_self (k : String) (q : List String) (value : Json) :
    writtenAt (k :: q) (under (k :: q) value) = some (cell value) := by
  induction q generalizing k with
  | nil =>
    show writtenAt [k] (.obj [(k, value)]) = _
    by_cases hnull : value = .null
    · subst hnull
      rw [writtenAt, lookup_cons_self]
      rfl
    · rw [writtenAt_cons_some (lookup_cons_self _ _ _) hnull]
      cases value with
      | null => exact absurd rfl hnull
      | _ => rfl
  | cons k' q ih =>
    show writtenAt (k :: k' :: q) (.obj [(k, under (k' :: q) value)]) = _
    rw [writtenAt_cons_some (lookup_cons_self _ _ _) (by intro hf; cases hf)]
    exact ih k'

end HardwareAutoscaler.Lib.Json
