/-
  HardwareAutoscaler.Webhook.Review
  ─────────────────────────────────
  WHICH POOLS THE WEBHOOK ADMITS (`src/webhook.rs`).

  A pool may list Nodes in `scaleUp.preferredNodes`.  A name that no Node has is
  refused when it is new, and only warned about when it was listed before.

    • `reviewPool`, `validate` — the verdict on a request,
    • `validate_allowed_iff` — which requests are allowed,
    • `Event.step` — the API server between the operator and its users,
    • `listed_since_its_node` — a name that is listed has been since there was
      such a Node,
    • `review_agrees` — what the webhook says of a pool, and the pool's own
      `PreferredNodesValid` condition.
-/
import HardwareAutoscaler.Lib.Run
import HardwareAutoscaler.Controller.Pool.Reconcile

namespace HardwareAutoscaler.Webhook

open Lib (stateAt stateAt_succ exists_last_entry)
open Std (TreeMap)

/-! ## §1. The verdict. -/

/-- A character in `{:?}`; `wide` are those outside of ASCII that are escaped. -/
def debugChar (wide : Char → Bool) (c : Char) : String :=
  match c.toNat with
  | 0 => "\\0"
  | 9 => "\\t"
  | 10 => "\\n"
  | 13 => "\\r"
  | 34 => "\\\""
  | 92 => "\\\\"
  | n =>
    if n < 32 || n = 127 || (128 ≤ n && wide c) then
      "\\u\x7b" ++ String.ofList (Nat.toDigits 16 n) ++ "\x7d"
    else c.toString

/-- A string in `{:?}`. -/
def debugText (wide : Char → Bool) (s : String) : String :=
  "\"" ++ String.join (s.toList.map (debugChar wide)) ++ "\""

/-- Names as `{:?}` writes them. -/
def quoted (wide : Char → Bool) (names : List String) : String :=
  ", ".intercalate (names.map (debugText wide))

/-- The names a pool lists. -/
def preferredNames (spec : NodeScalingPoolSpec) : List String :=
  spec.scaleUp.preferredNodes.map (·.name)

/-- Why a pool should be refused, or the warnings to admit it with. -/
def reviewPool (wide : Char → Bool) (new : NodeScalingPoolSpec) (old : Option NodeScalingPoolSpec)
    (labelsOf : String → Option (TreeMap String String)) : Except String (List String) :=
  let (missing, outside) := preferredNodeProblems new labelsOf
  -- a name the stored pool had already is warned about, never refused
  let wasListed := fun n => old.any (fun o => (preferredNames o).contains n)
  let kept := missing.filter wasListed
  let refused := missing.filter (!wasListed ·)
  if !refused.isEmpty then
    .error ("spec.scaleUp.preferredNodes: no Node named " ++ quoted wide refused
      ++ " (entries are Node names, as in `kubectl get nodes`)")
  else
    .ok ((if kept.isEmpty then [] else
        ["spec.scaleUp.preferredNodes: Node " ++ quoted wide kept
          ++ " no longer exists; the entry is ignored"])
      ++ (if outside.isEmpty then [] else
        ["spec.scaleUp.preferredNodes: Node " ++ quoted wide outside
          ++ " is not selected by spec.nodeSelector; the entry has no effect"])
      ++ new.scaleDown.deprecationWarning.toList)

/-- What a request does with a pool. -/
inductive RequestOperation where
  | create
  | update
  | delete
  | connect
  deriving DecidableEq, Repr

/-- A write that is to be reviewed. -/
structure AdmissionRequest where
  operation : RequestOperation
  object : Option NodeScalingPool
  oldObject : Option NodeScalingPool

/-- What a review answers. -/
structure AdmissionResponse where
  allowed : Bool := true
  warnings : Option (List String) := none
  reason : Option String := none
  deriving DecidableEq, Repr

/-- The operator's Nodes: the labels by name. -/
abbrev NodeStore := String → Option (TreeMap String String)

/-- The labels of the Nodes a pool lists, looked up once. -/
def foundLabels (nodes : NodeStore) (spec : NodeScalingPoolSpec) (n : String) :
    Option (TreeMap String String) :=
  let found := (preferredNames spec).filterMap (fun p => (nodes p).map (p, ·))
  (found.find? (·.1 == n)).map (·.2)

/-- `validate`: what a request is answered. -/
def validate (wide : Char → Bool) (nodes : NodeStore) (req : AdmissionRequest) :
    AdmissionResponse :=
  if req.operation ≠ .create ∧ req.operation ≠ .update then {}
  else
    match req.object with
    | none => {}
    | some pool =>
      match reviewPool wide pool.spec (req.oldObject.map (·.spec))
        (foundLabels nodes pool.spec) with
      | .ok warnings => { warnings := if warnings.isEmpty then none else some warnings }
      | .error reason => { allowed := false, reason := some reason }

/-! ## §2. Which requests are allowed. -/

variable {wide : Char → Bool} {nodes : NodeStore} {spec new : NodeScalingPoolSpec}
  {old : Option NodeScalingPoolSpec} {labelsOf : NodeStore}

theorem foundLabels_eq {n : String} (h : n ∈ preferredNames spec) :
    foundLabels nodes spec n = nodes n := by
  unfold foundLabels
  dsimp only
  generalize preferredNames spec = names at h
  induction names with
  | nil => cases h
  | cons p names ih =>
    by_cases hp : p = n
    · subst hp
      cases hn : nodes p with
      | none =>
        rw [List.filterMap_cons_none (by rw [hn]; rfl)]
        -- a Node that is not there is found at none of its entries
        cases hf : (names.filterMap (fun q => (nodes q).map (q, ·))).find? (·.1 == p) with
        | none => rfl
        | some x =>
          obtain ⟨q, -, hq⟩ := List.mem_filterMap.mp (List.mem_of_find?_eq_some hf)
          obtain ⟨labels, hl, rfl⟩ := Option.map_eq_some_iff.mp hq
          have hpq : q = p := by simpa using List.find?_some hf
          rw [hpq, hn] at hl
          cases hl
      | some labels =>
        rw [List.filterMap_cons_some (by rw [hn]; rfl),
          List.find?_cons_of_pos (by exact beq_self_eq_true p)]
        rfl
    · have hrest := ih ((List.mem_cons.mp h).resolve_left (Ne.symm hp))
      cases hq : nodes p with
      | none => rwa [List.filterMap_cons_none (by rw [hq]; rfl)]
      | some labels =>
        rwa [List.filterMap_cons_some (by rw [hq]; rfl),
          List.find?_cons_of_neg (by simpa using hp)]

theorem preferredNodeProblems_congr {f g : NodeStore} (h : ∀ n ∈ preferredNames spec, f n = g n) :
    preferredNodeProblems spec f = preferredNodeProblems spec g := by
  unfold preferredNodeProblems
  refine Prod.ext (List.filter_congr fun n hn => ?_) (List.filter_congr fun n hn => ?_)
  · rw [h n hn]
  · rw [h n hn]

/-- The Nodes that are looked up are those that are there. -/
theorem reviewPool_found : reviewPool wide new old (foundLabels nodes new)
    = reviewPool wide new old nodes := by
  unfold reviewPool
  rw [preferredNodeProblems_congr (fun n hn => foundLabels_eq hn)]

theorem mem_missing {n : String} : n ∈ (preferredNodeProblems new labelsOf).1 ↔
    n ∈ preferredNames new ∧ labelsOf n = none := by
  unfold preferredNodeProblems preferredNames
  rw [List.mem_filter, Option.isNone_iff_eq_none]

/-- A pool is admitted when each name is a Node's, or was listed before. -/
theorem reviewPool_ok_iff : (∃ warnings, reviewPool wide new old labelsOf = .ok warnings) ↔
    ∀ n ∈ preferredNames new, (labelsOf n).isSome = true ∨
      ∃ o, old = some o ∧ n ∈ preferredNames o := by
  have hlisted : ∀ n, old.any (fun o => (preferredNames o).contains n) = true ↔
      ∃ o, old = some o ∧ n ∈ preferredNames o := by
    intro n
    simp only [Option.any_eq_true, List.contains_iff_mem]
  -- a name is refused when it has no Node and the stored pool did not have it already
  have hrefused : (((preferredNodeProblems new labelsOf).1.filter
      (fun n => !old.any (fun o => (preferredNames o).contains n))).isEmpty = true) ↔
      ∀ n ∈ preferredNames new, (labelsOf n).isSome = true ∨
        ∃ o, old = some o ∧ n ∈ preferredNames o := by
    rw [List.isEmpty_iff, List.filter_eq_nil_iff]
    constructor
    · intro h n hn
      cases hl : labelsOf n with
      | some labels => exact Or.inl rfl
      | none =>
        have hno := h n (mem_missing.mpr ⟨hn, hl⟩)
        rw [Bool.not_eq_true', Bool.not_eq_false] at hno
        exact Or.inr ((hlisted n).mp hno)
    · intro h n hn
      obtain ⟨hmem, hl⟩ := mem_missing.mp hn
      rw [Bool.not_eq_true', Bool.not_eq_false]
      rcases h n hmem with hsome | ho
      · rw [hl] at hsome
        cases hsome
      · exact (hlisted n).mpr ho
  rw [← hrefused]
  unfold reviewPool
  dsimp only
  split
  · rename_i h
    rw [Bool.not_eq_true'] at h
    rw [h]
    constructor
    · rintro ⟨_, hw⟩
      cases hw
    · intro hf
      cases hf
  · rename_i h
    rw [Bool.not_eq_true', Bool.not_eq_false] at h
    exact ⟨fun _ => h, fun _ => ⟨_, rfl⟩⟩

/-- **Which requests are allowed.** -/
theorem validate_allowed_iff {pool : NodeScalingPool} {oldObject : Option NodeScalingPool}
    {operation : RequestOperation} (h : operation = .create ∨ operation = .update) :
    (validate wide nodes ⟨operation, some pool, oldObject⟩).allowed = true ↔
      ∀ n ∈ preferredNames pool.spec, (nodes n).isSome = true ∨
        ∃ o, oldObject = some o ∧ n ∈ preferredNames o.spec := by
  have hold : ∀ n, (∃ o, oldObject.map (·.spec) = some o ∧ n ∈ preferredNames o) ↔
      ∃ o, oldObject = some o ∧ n ∈ preferredNames o.spec := by
    intro n
    cases oldObject with
    | none => simp
    | some o => simp
  simp only [← hold]
  rw [← @reviewPool_ok_iff wide]
  unfold validate
  have hop : ¬ (operation ≠ .create ∧ operation ≠ .update) := fun hne => h.elim hne.1 hne.2
  rw [if_neg hop]
  dsimp only
  rw [reviewPool_found]
  cases reviewPool wide pool.spec (oldObject.map (·.spec)) nodes with
  | ok warnings => exact ⟨fun _ => ⟨warnings, rfl⟩, fun _ => rfl⟩
  | error reason =>
    constructor
    · intro hf
      cases hf
    · rintro ⟨_, hw⟩
      cases hw

/-! ## §3. The API server, its users and the operator. -/

/-- The pools that are stored, and the Nodes the operator knows. -/
structure ApiServer where
  nodes : NodeStore := fun _ => none
  pools : String → Option NodeScalingPool := fun _ => none

/-- What happens to Nodes and pools. -/
inductive Event where
  /-- A Node is there, or is no more. -/
  | node (name : String) (labels : Option (TreeMap String String))
  /-- A user creates a pool, or replaces it. -/
  | write (pool : NodeScalingPool)
  | delete (name : String)

/-- What the webhook is asked about a write. -/
def ApiServer.request (st : ApiServer) (pool : NodeScalingPool) : AdmissionRequest where
  operation := if (st.pools pool.name).isSome then .update else .create
  object := some pool
  oldObject := st.pools pool.name

/-- A pool is stored when the webhook allows it; a deletion is not its business. -/
def Event.step (wide : Char → Bool) (st : ApiServer) : Event → ApiServer
  | .node name labels => { st with nodes := Function.update st.nodes name labels }
  | .write pool =>
    if (validate wide st.nodes (st.request pool)).allowed then
      { st with pools := Function.update st.pools pool.name (some pool) }
    else st
  | .delete name => { st with pools := Function.update st.pools name none }

/-- Whether a pool is stored that lists a name. -/
def Listed (st : ApiServer) (pool n : String) : Prop :=
  ∃ p, st.pools pool = some p ∧ n ∈ preferredNames p.spec

/-- A write is refused only for a name that is new and no Node's. -/
theorem request_allowed_iff {st : ApiServer} {pool : NodeScalingPool} :
    (validate wide st.nodes (st.request pool)).allowed = true ↔
      ∀ n ∈ preferredNames pool.spec, (st.nodes n).isSome = true ∨ Listed st pool.name n := by
  refine validate_allowed_iff ?_
  split
  · exact Or.inr rfl
  · exact Or.inl rfl

/-- A name that is listed after a step was listed before it, or the step is a
write that lists it while there is such a Node. -/
theorem listed_step {st : ApiServer} {e : Event} {pool n : String}
    (h : Listed (e.step wide st) pool n) : Listed st pool n ∨
      ∃ p, e = .write p ∧ p.name = pool ∧ n ∈ preferredNames p.spec ∧
        (st.nodes n).isSome = true := by
  obtain ⟨p, hp, hn⟩ := h
  cases e with
  | node name labels => exact Or.inl ⟨p, hp, hn⟩
  | delete name =>
    refine Or.inl ⟨p, ?_, hn⟩
    have hleft : Function.update st.pools name none pool = some p := hp
    by_cases hname : pool = name
    · rw [hname, Function.update_self] at hleft
      cases hleft
    · rwa [Function.update_of_ne hname] at hleft
  | write q =>
    simp only [Event.step] at hp
    split at hp
    · rename_i hallowed
      have hstored : Function.update st.pools q.name (some q) pool = some p := hp
      by_cases hname : pool = q.name
      · subst hname
        rw [Function.update_self, Option.some.injEq] at hstored
        subst hstored
        rcases request_allowed_iff.mp hallowed n hn with hsome | hlisted
        · exact Or.inr ⟨q, rfl, rfl, hn, hsome⟩
        · exact Or.inl hlisted
      · rw [Function.update_of_ne hname] at hstored
        exact Or.inl ⟨p, hstored, hn⟩
    · exact Or.inl ⟨p, hp, hn⟩

/-- The API server before event `n`. -/
def serverAt (wide : Char → Bool) (st : ApiServer) (events : Nat → Event) (n : Nat) : ApiServer :=
  stateAt (Event.step wide) st events n

/-- **A name that is listed** has been listed ever since someone wrote it into
the pool while there was such a Node; and whatever Nodes come and go, a write
is refused only for a name that it adds and no Node has. -/
theorem listed_since_its_node (wide : Char → Bool) (st : ApiServer)
    (hempty : ∀ pool, st.pools pool = none) (events : Nat → Event) (k : Nat) :
    (∀ pool n, Listed (serverAt wide st events k) pool n →
      ∃ j < k, (∃ p, events j = .write p ∧ p.name = pool ∧ n ∈ preferredNames p.spec ∧
          ((serverAt wide st events j).nodes n).isSome = true) ∧
        ∀ i, j < i → i ≤ k → Listed (serverAt wide st events i) pool n) ∧
      ∀ p, (validate wide (serverAt wide st events k).nodes
          ((serverAt wide st events k).request p)).allowed = true ↔
        ∀ n ∈ preferredNames p.spec, ((serverAt wide st events k).nodes n).isSome = true ∨
          Listed (serverAt wide st events k) p.name n := by
  refine ⟨fun pool n hlisted => ?_, fun p => request_allowed_iff⟩
  have hnone : ¬ Listed (serverAt wide st events 0) pool n := by
    rintro ⟨p, hp, -⟩
    rw [show (serverAt wide st events 0).pools pool = none from hempty pool] at hp
    cases hp
  obtain ⟨j, hjk, hnot, hsince⟩ :=
    exists_last_entry (fun i => Listed (serverAt wide st events i) pool n) hnone k hlisted
  refine ⟨j, hjk, ?_, hsince⟩
  have hnext : Listed ((events j).step wide (serverAt wide st events j)) pool n :=
    hsince (j + 1) (Nat.lt_succ_self j) hjk
  exact (listed_step hnext).resolve_left hnot

/-- A Node comes, a pool lists it, and the Node goes again. -/
def nodeComesAndGoes : Nat → Event
  | 0 => .node "gpu-1" (some ∅)
  | 1 => .write { name := "gpu", spec := { scaleUp := { preferredNodes := [⟨"gpu-1", 100⟩] } } }
  | _ => .node "gpu-1" none

theorem gone_node_listed_since :
    (∀ pool n, Listed (serverAt (fun _ => false) {} nodeComesAndGoes 3) pool n →
      ∃ j < 3, (∃ p, nodeComesAndGoes j = .write p ∧ p.name = pool ∧ n ∈ preferredNames p.spec ∧
          ((serverAt (fun _ => false) {} nodeComesAndGoes j).nodes n).isSome = true) ∧
        ∀ i, j < i → i ≤ 3 → Listed (serverAt (fun _ => false) {} nodeComesAndGoes i) pool n) ∧
      ∀ p, (validate (fun _ => false) (serverAt (fun _ => false) {} nodeComesAndGoes 3).nodes
          ((serverAt (fun _ => false) {} nodeComesAndGoes 3).request p)).allowed = true ↔
        ∀ n ∈ preferredNames p.spec,
          ((serverAt (fun _ => false) {} nodeComesAndGoes 3).nodes n).isSome = true ∨
            Listed (serverAt (fun _ => false) {} nodeComesAndGoes 3) p.name n :=
  listed_since_its_node (fun _ => false) {} (fun _ => rfl) nodeComesAndGoes 3

/-! ## §4. What the pool says of itself. -/

/-- A pool's own condition after a reconcile. -/
def preferredCondition (pool : NodeScalingPool) (c : Cluster) (now : Int)
    (conditions : List Condition) : Option Condition :=
  (checkPreferredNodes pool c now conditions).find? (·.type_ == condPreferredNodesValid)

theorem find_setCondition (type_ status reason message : String) (now : Int)
    (conditions : List Condition) :
    ∃ time, (setCondition type_ status reason message now conditions).find? (·.type_ == type_)
      = some ⟨type_, status, reason, message, time⟩ := by
  induction conditions with
  | nil => exact ⟨now, List.find?_cons_of_pos (by exact beq_self_eq_true type_)⟩
  | cons c cs ih =>
    by_cases h : c.type_ = type_
    · subst h
      refine ⟨if c.status ≠ status then now else c.lastTransitionTime, ?_⟩
      rw [setCondition, if_pos rfl, List.find?_cons_of_pos (by exact beq_self_eq_true c.type_)]
    · rw [setCondition, if_neg h, List.find?_cons_of_neg (by simpa using h)]
      exact ih

/-- The labels of the operator's Nodes. -/
def nodeLabels (c : Cluster) : NodeStore := fun n => (c.node n).map (·.labels)

/-- The condition when nothing is wrong with the names that are listed. -/
theorem preferredCondition_good {pool : NodeScalingPool} {c : Cluster}
    (h : preferredNodeProblems pool.spec (nodeLabels c) = ([], [])) (now : Int)
    (conditions : List Condition) :
    ∀ cond, preferredCondition pool c now conditions = some cond → cond.status = "True" := by
  have hproblems : preferredNodeProblems pool.spec (fun n => (c.node n).map (·.labels))
    = ([], []) := h
  intro cond hcond
  unfold preferredCondition checkPreferredNodes at hcond
  rw [hproblems] at hcond
  simp only [List.isEmpty_nil, if_true, List.append_nil] at hcond
  split at hcond
  · have hmem := List.mem_of_find?_eq_some hcond
    have htype := List.find?_some hcond
    rw [List.mem_filter] at hmem
    simp_all
  · obtain ⟨time, heq⟩ := find_setCondition condPreferredNodesValid "True" "AllSelected" "" now
      conditions
    rw [heq, Option.some.injEq] at hcond
    rw [← hcond]

/-- The condition when something is. -/
theorem preferredCondition_bad {pool : NodeScalingPool} {c : Cluster}
    {missing outside : List String}
    (h : preferredNodeProblems pool.spec (nodeLabels c) = (missing, outside))
    (hne : missing ≠ [] ∨ outside ≠ []) (now : Int) (conditions : List Condition) :
    ∃ cond, preferredCondition pool c now conditions = some cond ∧ cond.status = "False" ∧
      cond.reason = if missing.isEmpty then "NotInPool" else "UnknownNodes" := by
  have hproblems : preferredNodeProblems pool.spec (fun n => (c.node n).map (·.labels))
    = (missing, outside) := h
  unfold preferredCondition checkPreferredNodes
  rw [hproblems]
  dsimp only
  rw [if_neg (by cases missing <;> cases outside <;> simp_all)]
  obtain ⟨time, heq⟩ := find_setCondition condPreferredNodesValid "False" _ _ now conditions
  exact ⟨_, heq, rfl, rfl⟩

/-- A warning about some names, if there are any. -/
theorem told_eq_nil (names : List String) (text : String) :
    (if names.isEmpty then [] else [text]) = [] ↔ names = [] := by
  cases names with
  | nil => exact ⟨fun _ => rfl, fun _ => rfl⟩
  | cons n names => exact ⟨fun h => (by cases h), fun h => (by cases h)⟩

/-- The warnings a pool is admitted with. -/
theorem reviewPool_warnings {warnings : List String}
    (h : reviewPool wide new old labelsOf = .ok warnings) :
    warnings = new.scaleDown.deprecationWarning.toList ↔
      preferredNodeProblems new labelsOf = ([], []) := by
  unfold reviewPool at h
  generalize preferredNodeProblems new labelsOf = problems at h ⊢
  obtain ⟨missing, outside⟩ := problems
  dsimp only at h
  split at h
  · cases h
  rename_i hrefused
  rw [Bool.not_eq_true', Bool.not_eq_false, List.isEmpty_iff] at hrefused
  rw [← Except.ok.inj h, List.append_left_eq_self, List.append_eq_nil_iff, Prod.mk.injEq]
  -- what is missing and not refused is kept
  have hkept : missing.filter (fun n => old.any (fun o => (preferredNames o).contains n)) = [] ↔
      missing = [] := by
    refine ⟨fun hk => ?_, fun hm => by rw [hm]; rfl⟩
    rw [List.filter_eq_nil_iff] at hk hrefused
    refine List.eq_nil_iff_forall_not_mem.mpr fun n hn => hrefused n hn ?_
    rw [Bool.not_eq_true', Bool.eq_false_iff]
    exact hk n hn
  rw [← hkept]
  exact and_congr (told_eq_nil _ _) (told_eq_nil _ _)

/-- A new pool is refused for each name that is missing. -/
theorem reviewPool_new : (∃ reason, reviewPool wide new none labelsOf = .error reason) ↔
    (preferredNodeProblems new labelsOf).1 ≠ [] := by
  unfold reviewPool
  have hall : (preferredNodeProblems new labelsOf).1.filter (fun n =>
      !(none : Option NodeScalingPoolSpec).any (fun o => (preferredNames o).contains n))
        = (preferredNodeProblems new labelsOf).1 := List.filter_eq_self.mpr (fun _ _ => rfl)
  dsimp only
  rw [hall]
  split
  · rename_i h
    rw [Bool.not_eq_true', List.isEmpty_eq_false_iff] at h
    exact ⟨fun _ => h, fun _ => ⟨_, rfl⟩⟩
  · rename_i h
    rw [Bool.not_eq_true', Bool.not_eq_false, List.isEmpty_iff] at h
    exact ⟨fun ⟨_, he⟩ => (by cases he), fun hne => absurd h hne⟩

/-- **The webhook and the pool agree.** Over the same Nodes, the pool would be
refused as a new one exactly when its condition tells of unknown Nodes, and it
is admitted without a word about its names, whatever it was before, exactly
when its condition tells of nothing wrong. -/
theorem review_agrees (wide : Char → Bool) (pool : NodeScalingPool) (c : Cluster) (now : Int)
    (conditions : List Condition) :
    ((∃ reason, reviewPool wide pool.spec none (nodeLabels c) = .error reason) ↔
      ∃ cond, preferredCondition pool c now conditions = some cond ∧ cond.status = "False" ∧
        cond.reason = "UnknownNodes") ∧
    ∀ old warnings, reviewPool wide pool.spec old (nodeLabels c) = .ok warnings →
      (warnings = pool.spec.scaleDown.deprecationWarning.toList ↔
        ∀ cond, preferredCondition pool c now conditions = some cond → cond.status = "True") := by
  obtain ⟨missing, outside, hproblems⟩ :
      ∃ missing outside, preferredNodeProblems pool.spec (nodeLabels c) = (missing, outside) :=
    ⟨_, _, rfl⟩
  rw [reviewPool_new, hproblems]
  -- with every name good there is nothing to warn of
  by_cases hgood : missing = [] ∧ outside = []
  · obtain ⟨rfl, rfl⟩ := hgood
    have htrue := preferredCondition_good hproblems now conditions
    refine ⟨⟨fun h => absurd rfl h, fun ⟨cond, hcond, hfalse, _⟩ => ?_⟩, fun old warnings h => ?_⟩
    · rw [htrue cond hcond] at hfalse
      exact absurd hfalse (by decide)
    · exact ⟨fun _ => htrue, fun _ => (reviewPool_warnings h).mpr hproblems⟩
  · have hne : missing ≠ [] ∨ outside ≠ [] := not_and_or.mp hgood
    obtain ⟨cond, hcond, hfalse, hreason⟩ := preferredCondition_bad hproblems hne now conditions
    refine ⟨⟨fun hm => ⟨cond, hcond, hfalse, ?_⟩, ?_⟩, fun old warnings h => ?_⟩
    · rw [hreason, if_neg (fun he => hm (List.isEmpty_iff.mp he))]
    · rintro ⟨cond', hcond', -, hunknown⟩ hm
      rw [hcond, Option.some.injEq] at hcond'
      rw [← hcond', hreason, if_pos (List.isEmpty_iff.mpr hm)] at hunknown
      exact absurd hunknown (by decide)
    · rw [reviewPool_warnings h, hproblems]
      refine ⟨fun heq => absurd (Prod.mk.inj heq) hgood, fun htrue => ?_⟩
      rw [htrue cond hcond] at hfalse
      exact absurd hfalse (by decide)

end HardwareAutoscaler.Webhook
