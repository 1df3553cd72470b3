/-
  HardwareAutoscaler.Scaling.Affinity
  ───────────────────────────────────
  WHERE A POD MAY RUN, BY THE RULES OF KUBERNETES, AND WHERE THE PLANNER PUTS IT.

  A required node affinity is an OR of terms, each an AND of requirements on
  the labels (`matchExpressions`) and on the name (`matchFields`) of the node;
  a term without requirements selects no node.  The planner keeps the
  requirements on the labels alone.

    • `Holds`, `Selects`, `AffinitySatisfied` — the rules,
    • `requirementMatches_iff` — one requirement, as the planner evaluates it,
    • `affinity_respected_iff` — when a match respects the affinity,
    • `explicitlySelects_guarantees` — what an explicit selection guarantees.
-/
import HardwareAutoscaler.Scaling.View

namespace HardwareAutoscaler

open Std (TreeMap)

/-! ## §1. The rules. -/

/-- The requirement holds of the value of its key, if there is one. -/
def NodeSelectorRequirement.Holds (req : NodeSelectorRequirement) (value : Option String) : Prop :=
  let values := req.values.getD []
  match req.operator with
  | "In" => ∃ v ∈ values, value = some v
  | "NotIn" => ∀ v ∈ values, value ≠ some v
  | "Exists" => ∃ v, value = some v
  | "DoesNotExist" => value = none
  | "Gt" => ∃ a b, value.bind parseI64 = some a ∧ values.head?.bind parseI64 = some b ∧ a > b
  | "Lt" => ∃ a b, value.bind parseI64 = some a ∧ values.head?.bind parseI64 = some b ∧ a < b
  | _ => False

/-- The only field of a node that a term can name. -/
def nodeField (name key : String) : Option String :=
  if key = "metadata.name" then some name else none

namespace NodeSelectorTerm

variable (t : NodeSelectorTerm) (name : String) (labels : TreeMap String String)

/-- The requirements on labels, none if unset. -/
def expressions : List NodeSelectorRequirement := t.matchExpressions.getD []

/-- The requirements on fields, none if unset. -/
def fields : List NodeSelectorRequirement := t.matchFields.getD []

/-- The requirements on the labels hold. -/
def ExpressionsHold : Prop := ∀ r ∈ t.expressions, r.Holds labels[r.key]?

/-- The requirements on the name hold, and the term has a requirement at all. -/
def RestHolds : Prop :=
  (t.expressions ≠ [] ∨ t.fields ≠ []) ∧ ∀ r ∈ t.fields, r.Holds (nodeField name r.key)

/-- The term selects the node. -/
def Selects : Prop := t.ExpressionsHold labels ∧ t.RestHolds name

end NodeSelectorTerm

/-- The pod's required node affinity, if it has one, is satisfied by the node. -/
def Pod.AffinitySatisfied (pod : Pod) (name : String) (labels : TreeMap String String) : Prop :=
  ∀ terms, pod.requiredNodeAffinity = some terms → ∃ t ∈ terms, t.Selects name labels

/-! ## §2. How the planner evaluates them. -/

/-- **One requirement** is evaluated by the rules. -/
theorem requirementMatches_iff {req : NodeSelectorRequirement} {labels : TreeMap String String} :
    requirementMatches req labels = true ↔ req.Holds labels[req.key]? := by
  unfold requirementMatches NodeSelectorRequirement.Holds
  simp only
  generalize labels[req.key]? = value
  generalize req.values.getD [] = values
  generalize req.operator = operator
  -- by the operator, on both sides at once
  split
  · cases value <;> simp
  · cases value with
    | none => simp
    | some v =>
      simp only [Option.all_some, Bool.not_eq_true', ne_eq, Option.some.injEq]
      rw [← Bool.not_eq_true, List.contains_iff_mem]
      exact ⟨fun h x hx he => h (he ▸ hx), fun h hv => h v hv rfl⟩
  · simp [Option.isSome_iff_exists]
  · simp
  · cases value.bind parseI64 <;> cases values.head?.bind parseI64 <;> simp
  · cases value.bind parseI64 <;> cases values.head?.bind parseI64 <;> simp
  · simp

/-- The parts of a match: the pod without its affinity, and the affinity. -/
theorem podMatchesNode_iff {pod : PodView} {labels : TreeMap String String} {taints : List Taint} :
    podMatchesNode pod labels taints = true ↔
      podMatchesNode { pod with affinityTerms := [] } labels taints = true ∧
        (pod.affinityTerms = [] ∨
          ∃ term ∈ pod.affinityTerms, ∀ r ∈ term, r.Holds labels[r.key]?) := by
  have haffinity : (pod.affinityTerms.isEmpty
      || pod.affinityTerms.any (fun term => term.all (requirementMatches · labels))) = true ↔
        (pod.affinityTerms = [] ∨
          ∃ term ∈ pod.affinityTerms, ∀ r ∈ term, r.Holds labels[r.key]?) := by
    simp only [Bool.or_eq_true, List.isEmpty_iff, List.any_eq_true, List.all_eq_true,
      requirementMatches_iff]
  rw [← haffinity]
  unfold podMatchesNode
  simp only [Bool.and_eq_true, List.isEmpty_nil, Bool.true_or, and_true]
  constructor
  · rintro ⟨⟨hselector, haffinity⟩, htaints⟩
    exact ⟨⟨hselector, htaints⟩, haffinity⟩
  · rintro ⟨⟨hselector, htaints⟩, haffinity⟩
    exact ⟨⟨hselector, haffinity⟩, htaints⟩

/-! ## §3. Matches that respect the affinity. -/

/-- What the planner leaves out of the affinity does not matter: there is a
term, and if the requirements on the labels of some term hold, then also the
rest of such a term. -/
def Pod.AffinityKept (pod : Pod) (name : String) (labels : TreeMap String String) : Prop :=
  ∀ terms, pod.requiredNodeAffinity = some terms → terms ≠ [] ∧
    ((∃ t ∈ terms, t.ExpressionsHold labels) →
      ∃ t ∈ terms, t.ExpressionsHold labels ∧ t.RestHolds name)

section Respected

variable (pod : Pod) (name : String) (labels : TreeMap String String) (taints : List Taint)

theorem fromPod_matches_iff {terms : List NodeSelectorTerm}
    (h : pod.requiredNodeAffinity = some terms) :
    podMatchesNode (.fromPod pod) labels taints = true ↔
      podMatchesNode { PodView.fromPod pod with affinityTerms := [] } labels taints = true ∧
        (terms = [] ∨ ∃ t ∈ terms, t.ExpressionsHold labels) := by
  have hterms : (PodView.fromPod pod).affinityTerms = terms.map (·.expressions) := by
    show (pod.requiredNodeAffinity.getD []).map _ = _
    rw [h]
    rfl
  rw [podMatchesNode_iff, hterms]
  simp only [List.map_eq_nil_iff, List.mem_map, exists_exists_and_eq_and]
  rfl

/-- **A match respects the required affinity** exactly when nodeSelector and
taints exclude the node already, or what the planner leaves out does not
matter. -/
theorem affinity_respected_iff :
    (podMatchesNode (.fromPod pod) labels taints = true → pod.AffinitySatisfied name labels) ↔
      (podMatchesNode { PodView.fromPod pod with affinityTerms := [] } labels taints = true →
        pod.AffinityKept name labels) := by
  constructor
  · intro h hapart terms hterms
    have hmatches := fromPod_matches_iff pod labels taints hterms
    refine ⟨?_, ?_⟩
    · intro hnil
      obtain ⟨t, ht, _⟩ := h (hmatches.mpr ⟨hapart, Or.inl hnil⟩) terms hterms
      rw [hnil] at ht
      cases ht
    · intro hsome
      exact h (hmatches.mpr ⟨hapart, Or.inr hsome⟩) terms hterms
  · intro h hmatch terms hterms
    obtain ⟨hapart, hsome⟩ := (fromPod_matches_iff pod labels taints hterms).mp hmatch
    obtain ⟨hne, hrest⟩ := h hapart terms hterms
    exact hrest (hsome.resolve_left hne)

end Respected

/-- A DaemonSet pod, pinned to its Node. -/
def pinnedPod : Pod where
  name := "agent"
  ownerReferences := [{ kind := "DaemonSet" }]
  requiredNodeAffinity := some
    [{ matchFields := some [{ key := "metadata.name", operator := "In", values := some ["node-1"] }] }]

/-- A pinned pod matches every other machine. -/
theorem pinned_matches_another : podMatchesNode (.fromPod pinnedPod) ∅ [] = true ∧
    ¬ pinnedPod.AffinitySatisfied "node-2" ∅ := by
  refine ⟨by decide, ?_⟩
  intro h
  obtain ⟨t, ht, _, _, hfields⟩ := h _ rfl
  rw [List.mem_singleton] at ht
  subst ht
  obtain ⟨v, hv, he⟩ := hfields _ (List.mem_singleton_self _)
  rw [List.mem_singleton.mp hv] at he
  exact absurd (Option.some.inj he) (by decide)

/-! ## §4. Explicit selection. -/

section Explicit

variable {pod : PodView} {labels : TreeMap String String} {taints : List Taint}

/-- A matching node has the labels of the nodeSelector. -/
theorem label_of_nodeSelector (hmatch : podMatchesNode pod labels taints = true)
    {key value : String} (h : pod.nodeSelector[key]? = some value) : labels[key]? = some value := by
  unfold podMatchesNode at hmatch
  simp only [Bool.and_eq_true] at hmatch
  have hall := List.all_eq_true.mp hmatch.1.1 (key, value)
    (TreeMap.mem_toList_iff_getElem?_eq_some.mpr h)
  simpa using hall

/-- A matching node has a label that every term of the affinity requires. -/
theorem label_of_affinityTerms (hmatch : podMatchesNode pod labels taints = true)
    {key value : String} (hne : pod.affinityTerms ≠ [])
    (h : ∀ term ∈ pod.affinityTerms, ∃ r ∈ term, r.key = key ∧ r.operator = "In" ∧
      ∀ v ∈ r.values.getD [], v = value) : labels[key]? = some value := by
  obtain ⟨term, hterm, hholds⟩ := (podMatchesNode_iff.mp hmatch).2.resolve_left hne
  obtain ⟨r, hr, hkey, hoperator, hvalues⟩ := h term hterm
  have hin := hholds r hr
  unfold NodeSelectorRequirement.Holds at hin
  simp only [hoperator] at hin
  obtain ⟨v, hv, he⟩ := hin
  rw [← hkey, he, hvalues v hv]

/-- **What an explicit selection guarantees**: the pool has `matchLabels`, and
every node the pod matches carries all of them. -/
theorem explicitlySelects_guarantees {pool : NodeSelector}
    (h : pod.explicitlySelects pool = true) :
    pool.matchLabels.isEmpty = false ∧
      ∀ (labels : TreeMap String String) (taints : List Taint),
        podMatchesNode pod labels taints = true →
          ∀ key value : String, pool.matchLabels[key]? = some value → labels[key]? = some value := by
  unfold PodView.explicitlySelects at h
  split at h
  · cases h
  · rename_i hempty
    refine ⟨Bool.eq_false_of_not_eq_true hempty, ?_⟩
    intro labels taints hmatch key value hkey
    have hpair := List.all_eq_true.mp h (key, value)
      (TreeMap.mem_toList_iff_getElem?_eq_some.mpr hkey)
    simp only [Bool.or_eq_true, Bool.and_eq_true, beq_iff_eq, Bool.not_eq_true',
      List.isEmpty_eq_false_iff, List.all_eq_true, List.any_eq_true] at hpair
    -- through the nodeSelector, or through every term of the affinity
    rcases hpair with hselector | ⟨hne, hterms⟩
    · exact label_of_nodeSelector hmatch hselector
    · apply label_of_affinityTerms hmatch hne
      intro term hterm
      obtain ⟨r, hr, ⟨hkey, hoperator⟩, hvalues⟩ := hterms term hterm
      refine ⟨r, hr, hkey, hoperator, ?_⟩
      intro v hv
      obtain ⟨vs, hvs, hall⟩ := (Option.any_eq_true _ _).mp hvalues
      rw [hvs] at hv
      simp only [Bool.and_eq_true, List.all_eq_true, beq_iff_eq] at hall
      exact hall.2 v hv

/-- A pool that demands two labels. -/
def gpuPool : NodeSelector where
  matchLabels := (∅ : TreeMap String String).insert "gpu" "true" |>.insert "zone" "a"

/-- A pod that demands one of them by its nodeSelector, the other by each term
of its affinity. -/
def gpuPod : PodView where
  nodeSelector := (∅ : TreeMap String String).insert "zone" "a"
  affinityTerms :=
    [[{ key := "gpu", operator := "In", values := some ["true"] }],
     [{ key := "disk", operator := "Exists" },
      { key := "gpu", operator := "In", values := some ["true", "true"] }]]

/-- A node that carries both. -/
def gpuLabels : TreeMap String String :=
  (∅ : TreeMap String String).insert "gpu" "true" |>.insert "zone" "a" |>.insert "disk" "ssd"

/-- The pod selects the pool explicitly, and matches this node. -/
theorem explicitlySelects_guarantees_gpu :
    gpuPod.explicitlySelects gpuPool = true ∧ podMatchesNode gpuPod gpuLabels [] = true ∧
      gpuLabels["gpu"]? = some "true" := by
  have hexplicit : gpuPod.explicitlySelects gpuPool = true := by decide
  have hmatch : podMatchesNode gpuPod gpuLabels [] = true := by decide
  exact ⟨hexplicit, hmatch,
    (explicitlySelects_guarantees hexplicit).2 gpuLabels [] hmatch "gpu" "true" (by decide)⟩

end Explicit

end HardwareAutoscaler
