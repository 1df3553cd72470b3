/-
  HardwareAutoscaler.Controller.NodePatch
  ───────────────────────────────────────
  WHAT THE OPERATOR WRITES TO A NODE (`src/controller/mod.rs`), while others
  write to it too.

  A Node is written by the kubelet, by users and by fencing tools, and the
  operator reads it from a cache that may be behind.  Its writes are merge
  patches, made from the Node it read.

    • `cordonPatch`, `uncordonPatch`, `markPatch`, `clearPatch` — the patches,
    • `NodeStep`, `nodeAt` — a stored Node, patched by anyone in any order,
    • `others_keep_what_they_wrote` — what the operator never touches,
    • `uncordons_only_its_own`, `foreign_cordon_stays` — whose cordon it is,
    • `other_taints_stay` — which taints the operator removes.
-/
import HardwareAutoscaler.Lib.Latest
import HardwareAutoscaler.Lib.PatchPaths
import HardwareAutoscaler.Controller.Machine.Effects

namespace HardwareAutoscaler

open Lib (Json stateAt stateAt_succ latest latest_eq_some stateAt_latest)
open Lib.Json

/-! ## §1. The patches. -/

/-- A taint, as it is stored. -/
structure StoredTaint extends Taint where
  timeAdded : Option Int := none

/-- A taint, as it is stored. -/
def StoredTaint.toJson (t : StoredTaint) : Json :=
  .obj (present [("effect", some (.str t.effect)), ("key", some (.str t.key)),
    ("timeAdded", t.timeAdded.map .time), ("value", t.value.map .str)])

/-- A Node as the operator read it. -/
structure NodeRead where
  node : Node
  /-- Its taints, with the time each was added. -/
  taints : List StoredTaint
  taints_eq : node.taints = taints.map (·.toTaint)

/-- The patch of one annotation and, if any, one field of the spec. -/
def nodePatch (marker : String) (value : Json) (spec : Option (String × Json)) : Json :=
  .obj (("metadata", under ["annotations", marker] value)
    :: (spec.map (fun field => ("spec", under [field.1] field.2))).toList)

/-- `cordon`. -/
def cordonPatch (read : NodeRead) : Option Json :=
  if isCordoned read.node then none
  else some (nodePatch cordonedByAnnotation (.str "true") (some ("unschedulable", .bool true)))

/-- `mark_powered_off`, at the time `now`. -/
def markPatch (now : String) : Json := nodePatch poweredOffAnnotation (.str now) none

/-- `clear_powered_off`. -/
def clearPatch (read : NodeRead) : Option Json :=
  if !read.node.annotations.contains poweredOffAnnotation then none
  else
    let kept := read.taints.filter (·.key != outOfServiceTaint)
    some (nodePatch poweredOffAnnotation .null
      (if read.taints.any (·.key == outOfServiceTaint) then
        some ("taints", .arr (kept.map (·.toJson)))
      else none))

/-- `uncordon_if_ours`. -/
def uncordonPatch (read : NodeRead) : Option Json :=
  if !cordonedByUs read.node then none
  else some (nodePatch cordonedByAnnotation .null (some ("unschedulable", .null)))

/-- What the operator may do to a Node. -/
inductive NodeOp where
  | cordon
  | uncordonIfOurs
  | markPoweredOff (now : String)
  | clearPoweredOff

/-- The patch an operation sends, if it sends one. -/
def NodeOp.patch (op : NodeOp) (read : NodeRead) : Option Json :=
  match op with
  | .cordon => cordonPatch read
  | .uncordonIfOurs => uncordonPatch read
  | .markPoweredOff now => some (markPatch now)
  | .clearPoweredOff => clearPatch read

/-! ## §2. They are the effects of a reconcile. -/

/-- The effect of a cordon is its patch. -/
theorem cordon_effects (api : MachineApi) (read : NodeRead) :
    (cordon api read.node).2
      = if api.cordon then (cordonPatch read).toList.map (fun _ => .cordon) else [] := by
  unfold cordon cordonPatch
  cases isCordoned read.node <;> cases api.cordon <;> rfl

/-- The effect of an uncordon is its patch. -/
theorem uncordonIfOurs_effects (api : MachineApi) (read : NodeRead) :
    (uncordonIfOurs api read.node).2
      = if api.uncordon then (uncordonPatch read).toList.map (fun _ => .uncordon) else [] := by
  unfold uncordonIfOurs uncordonPatch
  cases cordonedByUs read.node <;> cases api.uncordon <;> rfl

/-- The taints of the effect are those of the patch. -/
theorem clearPoweredOff_effects (api : MachineApi) (read : NodeRead) :
    (clearPoweredOff api read.node).2
      = if api.clearPoweredOff then
          (clearPatch read).toList.map (fun _ => .clearPoweredOff
            (if read.taints.any (·.key == outOfServiceTaint) then
              some ((read.taints.filter (·.key != outOfServiceTaint)).map (·.toTaint))
            else none))
        else [] := by
  unfold clearPoweredOff clearPatch
  rw [read.taints_eq, List.any_map, List.filter_map]
  cases read.node.annotations.contains poweredOffAnnotation <;> cases api.clearPoweredOff <;> rfl

/-! ## §3. A Node, patched by anyone. -/

/-- One write to a stored Node. -/
inductive NodeStep where
  /-- The operator's, made from what it read. -/
  | ours (op : NodeOp) (read : NodeRead)
  /-- A user's, a controller's, the kubelet's. -/
  | others (patch : Patch)

/-- The Node after a step. -/
def NodeStep.apply (stored : Json) : NodeStep → Json
  | .ours op read => ((op.patch read).map (mergePatch stored)).getD stored
  | .others patch => mergePatch stored patch.value

/-- The Node after `n` writes. -/
def nodeAt (stored : Json) (run : Nat → NodeStep) (n : Nat) : Json :=
  stateAt NodeStep.apply stored run n

/-- What a write leaves at a path, if it touches it. -/
def NodeStep.written (path : List String) : NodeStep → Option (Option Json)
  | .ours op read => (op.patch read).bind (writtenAt path)
  | .others patch => writtenAt path patch.value

/-- A patch of the operator has distinct keys. -/
theorem keyed_nodePatch {marker : String} {value : Json} (hv : IsLeaf value)
    {spec : Option (String × Json)} (hspec : ∀ field, spec = some field → IsLeaf field.2) :
    Keyed (nodePatch marker value spec) := by
  have hmeta : Keyed (under ["annotations", marker] value) := keyed_under (keyed_of_isLeaf hv) _
  cases spec with
  | none => exact keyed_under (keyed_of_isLeaf hv) ["metadata", "annotations", marker]
  | some field =>
    refine keyed_obj.mpr ⟨?_, fun k v hk => ?_⟩
    · exact List.nodup_cons.mpr ⟨by simp, List.nodup_singleton _⟩
    · rw [Option.map_some, Option.toList_some, lookup] at hk
      split at hk
      · cases hk
        exact hmeta
      · rw [lookup] at hk
        split at hk
        · cases hk
          exact keyed_under (keyed_of_isLeaf (hspec field rfl)) _
        · cases hk

/-- Whether the operator has something to write. -/
def NodeOp.applies (read : NodeRead) : NodeOp → Bool
  | .cordon => !isCordoned read.node
  | .uncordonIfOurs => cordonedByUs read.node
  | .markPoweredOff _ => true
  | .clearPoweredOff => read.node.annotations.contains poweredOffAnnotation

/-- The annotation it writes. -/
def NodeOp.marker : NodeOp → String
  | .cordon | .uncordonIfOurs => cordonedByAnnotation
  | .markPoweredOff _ | .clearPoweredOff => poweredOffAnnotation

/-- What it writes there. -/
def NodeOp.value : NodeOp → Json
  | .cordon => .str "true"
  | .markPoweredOff now => .str now
  | .uncordonIfOurs | .clearPoweredOff => .null

/-- The field of the spec it writes. -/
def NodeOp.spec (read : NodeRead) : NodeOp → Option (String × Json)
  | .cordon => some ("unschedulable", .bool true)
  | .uncordonIfOurs => some ("unschedulable", .null)
  | .markPoweredOff _ => none
  | .clearPoweredOff =>
    if read.taints.any (·.key == outOfServiceTaint) then
      some ("taints", .arr ((read.taints.filter (·.key != outOfServiceTaint)).map (·.toJson)))
    else none

/-- **The patch of an operation**: a marker and at most one field of the spec. -/
theorem NodeOp.patch_eq (op : NodeOp) (read : NodeRead) :
    op.patch read
      = if op.applies read then some (nodePatch op.marker op.value (op.spec read)) else none := by
  cases op with
  | cordon =>
    cases h : isCordoned read.node <;> simp [patch, cordonPatch, applies, h, marker, value, spec]
  | uncordonIfOurs =>
    cases h : cordonedByUs read.node <;>
      simp [patch, uncordonPatch, applies, h, marker, value, spec]
  | markPoweredOff now => rfl
  | clearPoweredOff =>
    cases h : read.node.annotations.contains poweredOffAnnotation <;>
      simp [patch, clearPatch, applies, h, marker, value, spec]

/-- A marker is set to a value that is no object. -/
theorem NodeOp.value_isLeaf (op : NodeOp) : IsLeaf op.value := by
  intro fs
  cases op <;> simp [value]

/-- The field of the spec is `unschedulable` or `taints`. -/
theorem NodeOp.spec_isLeaf {op : NodeOp} {read : NodeRead} {field : String × Json}
    (h : op.spec read = some field) :
    IsLeaf field.2 ∧ (field.1 = "unschedulable" ∨ field.1 = "taints") := by
  cases op with
  | cordon =>
    cases h
    exact ⟨fun _ h => (by cases h), Or.inl rfl⟩
  | uncordonIfOurs =>
    cases h
    exact ⟨fun _ h => (by cases h), Or.inl rfl⟩
  | markPoweredOff now => cases h
  | clearPoweredOff =>
    simp only [spec] at h
    split at h
    · cases h
      exact ⟨fun _ h => (by cases h), Or.inr rfl⟩
    · cases h

/-- What an operation sends has distinct keys. -/
theorem NodeOp.keyed {op : NodeOp} {read : NodeRead} {p : Json} (h : op.patch read = some p) :
    Keyed p := by
  rw [patch_eq] at h
  split at h
  · rw [← Option.some.inj h]
    exact keyed_nodePatch op.value_isLeaf (fun field hf => (spec_isLeaf hf).1)
  · cases h

/-- **A path after a write**: what was written there, or what was there. -/
theorem leafAt_apply (path : List String) (stored : Json) (step : NodeStep) :
    leafAt path (step.apply stored) = (step.written path).getD (leafAt path stored) := by
  cases step with
  | others patch => exact leafAt_mergePatch path patch stored
  | ours op read =>
    simp only [NodeStep.apply, NodeStep.written]
    cases h : op.patch read with
    | none => rfl
    | some p => exact leafAt_mergePatch path ⟨p, op.keyed h⟩ stored

/-- **What is stored at a path** is what was last written there. -/
theorem leafAt_nodeAt (path : List String) (stored : Json) (run : Nat → NodeStep) (n : Nat) :
    leafAt path (nodeAt stored run n)
      = (latest (fun i => (run i).written path) n).getD (leafAt path stored) :=
  stateAt_latest (l := leafAt path) (leafAt_apply path) n

/-! ## §4. What is not the operator's. -/

/-- Where an annotation is stored. -/
def annotationPath (key : String) : List String := ["metadata", "annotations", key]
/-- Where it is stored that a Node is cordoned. -/
def unschedulablePath : List String := ["spec", "unschedulable"]
/-- Where the taints are stored. -/
def taintsPath : List String := ["spec", "taints"]

/-- Every path the operator writes. -/
def ownPaths : List (List String) :=
  [annotationPath cordonedByAnnotation, annotationPath poweredOffAnnotation, unschedulablePath,
    taintsPath]

section Patch

variable {marker : String} {value : Json} {spec : Option (String × Json)}

/-- What a patch writes below the metadata is its marker. -/
theorem writtenAt_metadata (path : List String) :
    writtenAt ("metadata" :: path) (nodePatch marker value spec)
      = writtenAt path (under ["annotations", marker] value) :=
  writtenAt_cons_some (lookup_cons_self _ _ _) (fun h => by cases h) path

/-- What a patch writes below the spec is its field. -/
theorem writtenAt_spec (path : List String) :
    writtenAt ("spec" :: path) (nodePatch marker value spec)
      = spec.bind (fun field => writtenAt path (under [field.1] field.2)) := by
  have hne : "metadata" ≠ "spec" := by simp
  unfold nodePatch
  cases spec with
  | none => exact writtenAt_cons_none (lookup_cons_of_ne hne _ _) path
  | some field =>
    exact writtenAt_cons_some ((lookup_cons_of_ne hne _ _).trans (lookup_cons_self _ _ _))
      (fun h => by cases h) path

/-- A path the patch of an annotation and a field of the spec does not touch. -/
theorem writtenAt_nodePatch_of_apart {path : List String}
    (hmeta : Apart path (annotationPath marker))
    (hspec : ∀ field, spec = some field → Apart path ["spec", field.1]) :
    writtenAt path (nodePatch marker value spec) = none := by
  cases path with
  | nil => exact absurd List.nil_prefix hmeta.1
  | cons k path =>
    by_cases hk : "metadata" = k
    · subst hk
      rw [writtenAt_metadata]
      exact writtenAt_under_of_apart hmeta.tail value
    · by_cases hs : "spec" = k
      · subst hs
        rw [writtenAt_spec, Option.bind_eq_none_iff]
        intro field hf
        exact writtenAt_under_of_apart (hspec field hf).tail field.2
      · refine writtenAt_cons_none ?_ path
        rw [lookup_cons_of_ne hk]
        cases spec with
        | none => rfl
        | some field => exact lookup_cons_of_ne hs _ _

end Patch

/-- What an operation writes at a path, in terms of its annotation and field. -/
theorem NodeOp.written_metadata (op : NodeOp) (read : NodeRead) (path : List String) :
    (NodeStep.ours op read).written ("metadata" :: path)
      = if op.applies read then writtenAt path (under ["annotations", op.marker] op.value)
        else none := by
  simp only [NodeStep.written, patch_eq]
  split
  · exact @writtenAt_metadata _ _ (op.spec read) path
  · rfl

/-- What an operation writes below the spec. -/
theorem NodeOp.written_spec (op : NodeOp) (read : NodeRead) (path : List String) :
    (NodeStep.ours op read).written ("spec" :: path)
      = if op.applies read then
          (op.spec read).bind (fun field => writtenAt path (under [field.1] field.2))
        else none := by
  simp only [NodeStep.written, patch_eq]
  split
  · exact writtenAt_spec path
  · rfl

/-- A path apart from the operator's is not touched by it. -/
theorem NodeOp.written_of_apart {path : List String} (h : ∀ p ∈ ownPaths, Apart path p)
    (op : NodeOp) (read : NodeRead) : (NodeStep.ours op read).written path = none := by
  simp only [ownPaths, List.forall_mem_cons] at h
  obtain ⟨hcordoned, hpowered, hunschedulable, htaints, -⟩ := h
  simp only [NodeStep.written, patch_eq]
  split
  · refine writtenAt_nodePatch_of_apart ?_ (fun field hf => ?_)
    · cases op
      · exact hcordoned
      · exact hcordoned
      · exact hpowered
      · exact hpowered
    · rcases (spec_isLeaf hf).2 with hname | hname
      · rw [hname]
        exact hunschedulable
      · rw [hname]
        exact htaints
  · rfl

/-- The run without the operator. -/
def withoutUs (run : Nat → NodeStep) (n : Nat) : NodeStep :=
  match run n with
  | .ours _ _ => .others Patch.empty
  | .others patch => .others patch

/-- **What others write stays.** In any run of writes to a Node, however old what
the operator read was: what is at a path other than its two annotations, the
taints and `unschedulable` is what would be there without the operator. -/
theorem others_keep_what_they_wrote (stored : Json) (run : Nat → NodeStep) (n : Nat)
    {path : List String} (h : ∀ p ∈ ownPaths, Apart path p) :
    leafAt path (nodeAt stored run n) = leafAt path (nodeAt stored (withoutUs run) n) := by
  rw [leafAt_nodeAt, leafAt_nodeAt]
  have hwritten : ∀ i, (run i).written path = (withoutUs run i).written path := by
    intro i
    unfold withoutUs
    cases run i with
    | others patch => rfl
    | ours op read =>
      refine (NodeOp.written_of_apart h op read).trans ?_
      cases path with
      | nil => exact absurd List.nil_prefix (h _ (List.mem_cons_self ..)).1
      | cons k path => rfl
  rw [funext hwritten]

/-- A schedulable Node with nothing on it. -/
def bareRead : NodeRead := ⟨{ name := "a" }, [], rfl⟩

/-- A label of a Node that is cordoned. -/
theorem zone_label_kept :
    leafAt ["metadata", "labels", "zone"] (nodeAt (.obj []) (fun _ => .ours .cordon bareRead) 1)
      = leafAt ["metadata", "labels", "zone"]
          (nodeAt (.obj []) (withoutUs (fun _ => .ours .cordon bareRead)) 1) :=
  others_keep_what_they_wrote _ _ _ (by
    simp [ownPaths, Apart, annotationPath, unschedulablePath, taintsPath])

/-! ## §5. Whose cordon it is. -/

/-- A Node that was read from a stored version. -/
structure NodeRead.Of (read : NodeRead) (stored : Json) : Prop where
  annotations : ∀ k, read.node.annotations.contains k = (leafAt (annotationPath k) stored).isSome
  unschedulable :
    read.node.unschedulable = true ↔ leafAt unschedulablePath stored = some (.bool true)
  taints : (leafAt taintsPath stored).getD (.arr []) = .arr (read.taints.map (·.toJson))

/-- What an operation makes of the operator's cordon. -/
def NodeOp.cordonTo : NodeOp → Option Bool
  | .cordon => some true
  | .uncordonIfOurs => some false
  | _ => none

/-- Whether a write cordons, or uncordons. -/
def NodeStep.cordons : NodeStep → Option Bool
  | .ours op read => if op.applies read then op.cordonTo else none
  | .others _ => none

/-- What a write of the operator leaves of its annotation. -/
theorem written_cordonedBy (op : NodeOp) (read : NodeRead) :
    (NodeStep.ours op read).written (annotationPath cordonedByAnnotation)
      = (NodeStep.ours op read).cordons.map (fun b => if b then some (.str "true") else none) := by
  have hkeys : cordonedByAnnotation ≠ poweredOffAnnotation := by
    simp [ cordonedByAnnotation, poweredOffAnnotation]
  have hapart : Apart ["annotations", cordonedByAnnotation]
      ["annotations", poweredOffAnnotation] := by
    simp [Apart, hkeys, hkeys.symm]
  unfold annotationPath
  rw [NodeOp.written_metadata]
  simp only [NodeStep.cordons]
  split
  · cases op
    · exact writtenAt_under_self _ _ _
    · exact writtenAt_under_self _ _ _
    · exact writtenAt_under_of_apart hapart _
    · exact writtenAt_under_of_apart hapart _
  · rfl

/-- … and of `unschedulable`: they come and go together. -/
theorem written_unschedulable (op : NodeOp) (read : NodeRead) :
    (NodeStep.ours op read).written unschedulablePath
      = (NodeStep.ours op read).cordons.map (fun b => if b then some (.bool true) else none) := by
  have hapart : Apart ["unschedulable"] ["taints"] := by simp [Apart]
  unfold unschedulablePath
  rw [NodeOp.written_spec]
  simp only [NodeStep.cordons]
  split
  · cases op with
    | cordon => exact writtenAt_under_self "unschedulable" [] (.bool true)
    | uncordonIfOurs => exact writtenAt_under_self "unschedulable" [] .null
    | markPoweredOff now => rfl
    | clearPoweredOff =>
      refine Option.bind_eq_none_iff.mpr (fun field hf => ?_)
      simp only [NodeOp.spec] at hf
      split at hf
      · cases hf
        exact writtenAt_under_of_apart hapart _
      · cases hf
  · rfl

/-- A Node whose annotation is there was cordoned by the operator, which has not
uncordoned it since. -/
theorem cordoned_before {stored : Json} {run : Nat → NodeStep}
    (hnone : leafAt (annotationPath cordonedByAnnotation) stored = none)
    (hothers : ∀ n patch, run n = .others patch →
      writtenAt (annotationPath cordonedByAnnotation) patch.value = none)
    {m : Nat} (h : (leafAt (annotationPath cordonedByAnnotation) (nodeAt stored run m)).isSome) :
    ∃ j < m, (run j).cordons = some true ∧
      ∀ i, j < i → i < m → (run i).cordons = none := by
  -- we write the annotation only to cordon and to uncordon
  have hwritten : ∀ i, (run i).written (annotationPath cordonedByAnnotation)
      = (run i).cordons.map (fun b => if b then some (.str "true") else none) := by
    intro i
    cases hi : run i with
    | others patch => exact hothers i patch hi
    | ours op read => exact written_cordonedBy op read
  rw [leafAt_nodeAt, hnone] at h
  cases hl : latest (fun i => (run i).written (annotationPath cordonedByAnnotation)) m with
  | none =>
    rw [hl] at h
    cases h
  | some w =>
    obtain ⟨j, hj, hw, hlast⟩ := latest_eq_some.mp hl
    rw [hwritten] at hw
    obtain ⟨b, hb, rfl⟩ := Option.map_eq_some_iff.mp hw
    refine ⟨j, hj, ?_, fun i hi hi' => ?_⟩
    · -- an uncordon removes it, so the last to write it cordoned
      cases b with
      | true => exact hb
      | false =>
        rw [hl] at h
        cases h
    · have hi0 := hlast i hi hi'
      rw [hwritten, Option.map_eq_none_iff] at hi0
      exact hi0

/-- A step that cordons is the operator's, which read the Node as schedulable. -/
theorem cordons_true {step : NodeStep} (h : step.cordons = some true) :
    ∃ read, step = .ours .cordon read ∧ read.node.unschedulable = false := by
  cases step with
  | others patch => cases h
  | ours op read =>
    simp only [NodeStep.cordons] at h
    split at h
    · rename_i happlies
      cases op with
      | cordon => exact ⟨read, rfl, by simpa [NodeOp.applies, isCordoned] using happlies⟩
      | _ => cases h
    · cases h

/-- A step that uncordons is the operator's, which read its own marker. -/
theorem cordons_false {step : NodeStep} (h : step.cordons = some false) :
    ∃ read, step = .ours .uncordonIfOurs read ∧ cordonedByUs read.node = true := by
  cases step with
  | others patch => cases h
  | ours op read =>
    simp only [NodeStep.cordons] at h
    split at h
    · rename_i happlies
      cases op with
      | uncordonIfOurs => exact ⟨read, rfl, happlies⟩
      | _ => cases h
    · cases h

/-- **The operator uncordons only what it cordoned.** In any run of writes to a
Node, where the operator reads versions stored so far and nobody else writes
its annotation: when it uncordons, it had cordoned the Node before, having read
it as schedulable, and up to the version it now read it had not uncordoned it. -/
theorem uncordons_only_its_own {stored : Json} {run : Nat → NodeStep}
    (hnone : leafAt (annotationPath cordonedByAnnotation) stored = none)
    (hothers : ∀ n patch, run n = .others patch →
      writtenAt (annotationPath cordonedByAnnotation) patch.value = none)
    (hreads : ∀ n op read, run n = .ours op read → ∃ m ≤ n, read.Of (nodeAt stored run m))
    {n : Nat} (huncordons : (run n).cordons = some false) :
    ∃ read m, run n = .ours .uncordonIfOurs read ∧ m ≤ n ∧ read.Of (nodeAt stored run m) ∧
      ∃ j < m, (∃ read', run j = .ours .cordon read' ∧ read'.node.unschedulable = false) ∧
        ∀ i, j < i → i < m → (run i).cordons = none := by
  obtain ⟨read, hrun, hours⟩ := cordons_false huncordons
  obtain ⟨m, hm, hof⟩ := hreads n .uncordonIfOurs read hrun
  rw [cordonedByUs, hof.annotations] at hours
  obtain ⟨j, hj, hcordons, hlast⟩ := cordoned_before hnone hothers hours
  exact ⟨read, m, hrun, hm, hof, j, hj, cordons_true hcordons, hlast⟩

/-- The Node, as it is read at first. -/
theorem bareRead_of : bareRead.Of (.obj []) where
  annotations k := rfl
  unschedulable := by
    constructor
    · intro h
      cases h
    · intro h
      cases h
  taints := rfl

/-- One annotation, as it is read. -/
def onlyKey (key value : String) : Std.TreeMap String String :=
  (∅ : Std.TreeMap String String).insert key value

theorem contains_onlyKey (key value : String) (others : Lib.Fields) (k : String) :
    (onlyKey key value).contains k = (leafAt (annotationPath k)
      (.obj (("metadata", under ["annotations", key] (.str value)) :: others))).isSome := by
  show _ = (((lookup k [(key, Json.str value)]).bind (valueAt [])).map leaf).isSome
  by_cases hk : key = k
  · subst hk
    rw [lookup_cons_self]
    simp [onlyKey, valueAt]
  · rw [lookup_cons_of_ne hk]
    simp [onlyKey, hk]

/-- A Node the operator cordoned. -/
def cordonedRead : NodeRead where
  node := { name := "a", annotations := onlyKey cordonedByAnnotation "true",
            unschedulable := true }
  taints := []
  taints_eq := rfl

/-- The operator cordons a Node, and uncordons it. -/
def cordonThenUncordon : Nat → NodeStep
  | 0 => .ours .cordon bareRead
  | _ + 1 => .ours .uncordonIfOurs cordonedRead

/-- The Node, as it is read once it is cordoned. -/
theorem cordonedRead_of : cordonedRead.Of (nodeAt (.obj []) cordonThenUncordon 1) where
  annotations := contains_onlyKey cordonedByAnnotation "true"
    [("spec", .obj [("unschedulable", .bool true)])]
  unschedulable := ⟨fun _ => rfl, fun _ => rfl⟩
  taints := rfl

/-- The uncordon of a Node that was cordoned before. -/
theorem uncordons_after_cordon :
    ∃ read m, cordonThenUncordon 1 = .ours .uncordonIfOurs read ∧ m ≤ 1 ∧
      read.Of (nodeAt (.obj []) cordonThenUncordon m) ∧
      ∃ j < m, (∃ read', cordonThenUncordon j = .ours .cordon read' ∧
          read'.node.unschedulable = false) ∧
        ∀ i, j < i → i < m → (cordonThenUncordon i).cordons = none :=
  uncordons_only_its_own rfl
    (fun n patch h => by cases n <;> cases h)
    (fun n op read h => by
      cases n with
      | zero =>
        cases h
        exact ⟨0, Nat.le_refl 0, bareRead_of⟩
      | succ n =>
        cases h
        exact ⟨1, Nat.le_add_left 1 n, cordonedRead_of⟩)
    (by
      show (if cordonedByUs cordonedRead.node then some false else none) = some false
      exact if_pos Std.TreeMap.contains_insert_self)

/-- **Someone else's cordon stays.** Once a Node is cordoned and the operator did
not do it: as long as nobody else uncordons it or writes the annotation, and
the operator reads no version from before, it stays so in any run. -/
theorem foreign_cordon_stays {stored : Json} {run : Nat → NodeStep} {j : Nat}
    (hcordoned : leafAt unschedulablePath (nodeAt stored run j) = some (.bool true))
    (hforeign : leafAt (annotationPath cordonedByAnnotation) (nodeAt stored run j) = none)
    (hothers : ∀ n ≥ j, ∀ patch, run n = .others patch →
      writtenAt (annotationPath cordonedByAnnotation) patch.value = none ∧
        (writtenAt unschedulablePath patch.value).getD (some (.bool true)) = some (.bool true))
    (hreads : ∀ n ≥ j, ∀ op read, run n = .ours op read →
      ∃ m, j ≤ m ∧ m ≤ n ∧ read.Of (nodeAt stored run m)) :
    ∀ n ≥ j, leafAt unschedulablePath (nodeAt stored run n) = some (.bool true) ∧
      leafAt (annotationPath cordonedByAnnotation) (nodeAt stored run n) = none := by
  intro n
  induction n using Nat.strong_induction_on with
  | _ n ih =>
    intro hn
    rcases Nat.eq_or_lt_of_le hn with rfl | hlt
    · exact ⟨hcordoned, hforeign⟩
    obtain ⟨k, rfl⟩ : ∃ k, n = k + 1 := ⟨n - 1, by omega⟩
    have hk : j ≤ k := Nat.lt_succ_iff.mp hlt
    obtain ⟨hbefore, hbefore'⟩ := ih k (Nat.lt_succ_self k) hk
    unfold nodeAt at hbefore hbefore' ⊢
    rw [stateAt_succ, leafAt_apply, leafAt_apply, hbefore, hbefore']
    cases hstep : run k with
    | others patch =>
      obtain ⟨ha, hu⟩ := hothers k hk patch hstep
      exact ⟨hu, by rw [NodeStep.written, ha]; rfl⟩
    | ours op read =>
      -- the version it read was cordoned, and not by the operator
      obtain ⟨m, hjm, hmk, hof⟩ := hreads k hk op read hstep
      obtain ⟨hu, ha⟩ := ih m (by omega) hjm
      have hno : (NodeStep.ours op read).cordons = none := by
        have hcor : isCordoned read.node = true := hof.unschedulable.mpr hu
        have hours : cordonedByUs read.node = false := by
          rw [cordonedByUs, hof.annotations, ha]
          rfl
        cases op <;> simp [NodeStep.cordons, NodeOp.applies, NodeOp.cordonTo, hcor, hours]
      rw [written_unschedulable, written_cordonedBy, hno]
      exact ⟨rfl, rfl⟩

/-- A Node a user cordoned. -/
def usersCordon : Json := under unschedulablePath (.bool true)

/-- A Node that a user has cordoned. -/
def usersCordonRead : NodeRead := ⟨{ name := "a", unschedulable := true }, [], rfl⟩

/-- The cordon of a user, through five reconciles. -/
theorem users_cordon_stays :
    leafAt unschedulablePath
        (nodeAt usersCordon (fun _ => .ours .uncordonIfOurs usersCordonRead) 5)
          = some (.bool true) ∧
      leafAt (annotationPath cordonedByAnnotation)
        (nodeAt usersCordon (fun _ => .ours .uncordonIfOurs usersCordonRead) 5) = none :=
  foreign_cordon_stays (j := 0) rfl rfl (fun n _ patch h => by cases h)
    (fun n _ op read h => by
      cases h
      exact ⟨0, Nat.le_refl 0, Nat.zero_le n, fun k => rfl, ⟨fun _ => rfl, fun _ => rfl⟩, rfl⟩)
    5 (Nat.zero_le 5)

/-! ## §6. Taints. -/

/-- The taints of a stored Node. -/
def taintItems (stored : Json) : List Json :=
  match leafAt taintsPath stored with
  | some (.arr items) => items
  | _ => []

/-- Whether a stored taint is the out-of-service fence. -/
def isFence (item : Json) : Bool :=
  match get? item "key" with
  | some (.str key) => key == outOfServiceTaint
  | _ => false

/-- A taint is a fence by its key. -/
theorem isFence_toJson (t : StoredTaint) : isFence t.toJson = (t.key == outOfServiceTaint) := by
  have hkey : get? t.toJson "key" = some (.str t.key) :=
    lookup_present (by simp) (by simp)
  rw [isFence, hkey]

/-- The operator writes taints only when it clears the marker, and then those it
read, without the fences. -/
theorem written_taints (op : NodeOp) (read : NodeRead) :
    (NodeStep.ours op read).written taintsPath = none ∨
      op = .clearPoweredOff ∧ read.node.annotations.contains poweredOffAnnotation = true ∧
        (NodeStep.ours op read).written taintsPath = some (some (.arr
          ((read.taints.filter (·.key != outOfServiceTaint)).map (·.toJson)))) := by
  have hapart : Apart ["taints"] ["unschedulable"] := by simp [Apart]
  unfold taintsPath
  rw [NodeOp.written_spec]
  split
  · rename_i happlies
    cases op with
    | cordon => exact Or.inl (writtenAt_under_of_apart hapart (.bool true))
    | uncordonIfOurs => exact Or.inl (writtenAt_under_of_apart hapart .null)
    | markPoweredOff now => exact Or.inl rfl
    | clearPoweredOff =>
      simp only [NodeOp.spec]
      split
      · exact Or.inr ⟨trivial, happlies, writtenAt_under_self "taints" [] (.arr _)⟩
      · exact Or.inl rfl
  · exact Or.inl rfl

/-- The taints after a step are those it writes, or those there were. -/
theorem taintItems_apply (stored : Json) (step : NodeStep) :
    taintItems (step.apply stored) = match step.written taintsPath with
      | some (some (.arr items)) => items
      | some _ => []
      | none => taintItems stored := by
  unfold taintItems
  rw [leafAt_apply]
  cases step.written taintsPath with
  | none => rfl
  | some w =>
    cases w with
    | none => rfl
    | some v => cases v <;> rfl

/-- **No other taint is lost.** In any run of writes to a Node, where the operator
clears its marker on the version it read: the taints but for the fences are,
in their order, those that would be there without the operator. -/
theorem other_taints_stay {stored : Json} {run : Nat → NodeStep}
    (hreads : ∀ n read, run n = .ours .clearPoweredOff read → read.Of (nodeAt stored run n))
    (n : Nat) :
    (taintItems (nodeAt stored run n)).filter (!isFence ·)
      = (taintItems (nodeAt stored (withoutUs run) n)).filter (!isFence ·) := by
  unfold nodeAt at hreads ⊢
  induction n with
  | zero => rfl
  | succ n ih =>
    rw [stateAt_succ, stateAt_succ, taintItems_apply, taintItems_apply]
    unfold withoutUs at ih ⊢
    cases hstep : run n with
    -- both runs take the patch of others; the second has nothing in place of ours
    | others patch =>
      dsimp only
      split
      · rfl
      · rfl
      · exact ih
    | ours op read =>
      have hempty : (NodeStep.others Patch.empty).written taintsPath = none := rfl
      simp only [hempty]
      rcases written_taints op read with hno | ⟨rfl, -, hw⟩
      · rw [hno]
        exact ih
      · rw [hw]
        refine Eq.trans ?_ ih
        -- the whole list is written back, from a read that is of the state patched
        have hof := (hreads n read hstep).taints
        have hitems : taintItems (stateAt NodeStep.apply stored run n)
            = read.taints.map (·.toJson) := by
          unfold taintItems
          cases hl : leafAt taintsPath (stateAt NodeStep.apply stored run n) with
          | none =>
            rw [hl] at hof
            exact (Json.arr.inj hof)
          | some v =>
            rw [hl] at hof
            cases (show v = _ from hof)
            rfl
        rw [hitems, List.filter_map, List.filter_map, List.filter_filter]
        congr 1
        refine List.filter_congr (fun t _ => ?_)
        simp only [Function.comp, isFence_toJson, bne, Bool.and_self]

/-- A fence, as a fencing tool adds it, and a taint of a user's. -/
def fence : StoredTaint := { key := outOfServiceTaint, effect := "NoExecute" }
/-- A taint of a user. -/
def usersTaint : StoredTaint := { key := "gpu", effect := "NoSchedule" }

/-- A powered-off Node with both, and what was read of it. -/
def fenced : Json :=
  .obj [("metadata", under ["annotations", poweredOffAnnotation] (.str "now")),
    ("spec", under ["taints"] (.arr [fence.toJson, usersTaint.toJson]))]

/-- A Node that the operator has marked and fenced. -/
def fencedRead : NodeRead where
  node := { name := "a", annotations := onlyKey poweredOffAnnotation "now",
            taints := [fence.toTaint, usersTaint.toTaint] }
  taints := [fence, usersTaint]
  taints_eq := rfl

/-- The operator clears the marker once. -/
def clearOnce : Nat → NodeStep
  | 0 => .ours .clearPoweredOff fencedRead
  | _ + 1 => .others Patch.empty

/-- The taint of a user, through a clearing of the marker. -/
theorem users_taint_stays :
    (taintItems (nodeAt fenced clearOnce 2)).filter (!isFence ·)
      = (taintItems (nodeAt fenced (withoutUs clearOnce) 2)).filter (!isFence ·) :=
  other_taints_stay (fun n read h => by
    cases n with
    | succ n => cases h
    | zero =>
      cases h
      exact ⟨contains_onlyKey poweredOffAnnotation "now" _,
        ⟨fun h => (by cases h), fun h => (by cases h)⟩, rfl⟩) 2

/-- **Genuine fences are left alone.** Once a Node does not carry the powered-off
marker: as long as the operator does not mark it, nobody else does, and the
operator reads no version from before, it does not write the taints. -/
theorem fences_left_alone {stored : Json} {run : Nat → NodeStep} {j : Nat}
    (hunmarked : leafAt (annotationPath poweredOffAnnotation) (nodeAt stored run j) = none)
    (hothers : ∀ n ≥ j, ∀ patch, run n = .others patch →
      writtenAt (annotationPath poweredOffAnnotation) patch.value = none)
    (hours : ∀ n ≥ j, ∀ now read, run n ≠ .ours (.markPoweredOff now) read)
    (hreads : ∀ n ≥ j, ∀ op read, run n = .ours op read →
      ∃ m, j ≤ m ∧ m ≤ n ∧ read.Of (nodeAt stored run m)) :
    ∀ n ≥ j, ∀ op read, run n = .ours op read → (run n).written taintsPath = none := by
  -- no one writes the annotation from `j` on, so it stays absent
  have habsent : ∀ n ≥ j,
      leafAt (annotationPath poweredOffAnnotation) (nodeAt stored run n) = none := by
    intro n hn
    induction n, hn using Nat.le_induction with
    | base => exact hunmarked
    | succ n hn ih =>
      unfold nodeAt at ih ⊢
      rw [stateAt_succ, leafAt_apply, ih]
      cases hstep : run n with
      | others patch => rw [NodeStep.written, hothers n hn patch hstep]; rfl
      | ours op read =>
        have hkeys : Apart ["annotations", poweredOffAnnotation]
            ["annotations", cordonedByAnnotation] := by
          simp [Apart, cordonedByAnnotation, poweredOffAnnotation]
        unfold annotationPath
        rw [NodeOp.written_metadata]
        split
        · cases op with
          | cordon => exact congrArg (·.getD none) (writtenAt_under_of_apart hkeys (.str "true"))
          | uncordonIfOurs => exact congrArg (·.getD none) (writtenAt_under_of_apart hkeys .null)
          | markPoweredOff now => exact absurd hstep (hours n hn now read)
          | clearPoweredOff =>
            exact congrArg (·.getD none) (writtenAt_under_self "annotations" _ .null)
        · rfl
  intro n hn op read hrun
  rw [hrun]
  -- ours writes taints only where its read has the annotation
  rcases written_taints op read with hno | ⟨-, hmarked, -⟩
  · exact hno
  · obtain ⟨m, hjm, -, hof⟩ := hreads n hn op read hrun
    rw [hof.annotations, habsent m hjm] at hmarked
    cases hmarked

/-- A fenced Node the operator did not power off. -/
def brokenRead : NodeRead := ⟨{ name := "a", taints := [fence.toTaint] }, [fence], rfl⟩

/-- The fence of a Node without the marker. -/
theorem broken_node_stays_fenced :
    (NodeStep.ours .clearPoweredOff brokenRead).written taintsPath = none :=
  @fences_left_alone (under taintsPath (.arr [fence.toJson]))
    (fun _ => .ours .clearPoweredOff brokenRead) 0 rfl
    (fun n _ patch h => by cases h) (fun n _ now read h => by cases h)
    (fun n _ op read h => by
      cases h
      exact ⟨0, Nat.le_refl 0, Nat.zero_le n, fun k => rfl,
        ⟨fun h => (by cases h), fun h => (by cases h)⟩, rfl⟩)
    3 (Nat.zero_le 3) .clearPoweredOff brokenRead rfl

end HardwareAutoscaler
