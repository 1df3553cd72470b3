/-
  HardwareAutoscaler.Drivers.Fallback
  ───────────────────────────────────
  WHICH INTERFACES AN OPERATION CONTACTS, AND WHICH AN IDENTITY CHECK LEAVES.

  An operation walks the interfaces that handle it, in their order, and stops
  at the first that succeeds.  A mismatched interface is disabled by its
  label, which other interfaces may share.

    • `FallsBack`, `chain_falls_back` — what an operation contacts and returns,
    • `buildLinks_inOrder` — the chains that are built keep the order of
      `spec.powerInterfaces`,
    • `disableMismatched_links` — the links that are left,
    • `stays_iff_own_result` — when these are the ones without a mismatch.
-/
import HardwareAutoscaler.Drivers.Chain

namespace HardwareAutoscaler

namespace PowerChain

/-! ## §1. The first success. -/

section Attempt

variable {α : Type}

/-- The operation fails on the link. -/
def Fails (op : Driver → Except String α) (l : Link) : Prop := ∃ e, op l.driver = .error e

/-- What is recorded of a link on which the operation failed. -/
def failureText (op : Driver → Except String α) (l : Link) : Option String :=
  match op l.driver with
  | .ok _ => none
  | .error e => some s!"{l.label}: {e}"

/-- The links stand in the order of `spec.powerInterfaces`, each once. -/
def InOrder (c : PowerChain) : Prop := (c.links.map (·.index)).Pairwise (· < ·)

/-- The interface is enabled for the action: it lists it, or lists none. And its
driver supports it. -/
structure UsedFor (action : InterfaceAction) (l : Link) : Prop where
  enabled : ∀ actions ∈ l.interface.actions, action ∈ actions
  supported : l.driver.supports action = true

theorem usedFor_iff {action : InterfaceAction} {l : Link} :
    UsedFor action l ↔ (l.interface.handles action && l.driver.supports action) = true := by
  unfold PowerInterface.handles
  rw [Bool.and_eq_true, Option.all_eq_true]
  simp only [List.contains_iff_mem]
  exact ⟨fun h => ⟨h.1, h.2⟩, fun h => ⟨h.1, h.2⟩⟩

instance (action : InterfaceAction) : DecidablePred (UsedFor action) :=
  fun _ => decidable_of_iff _ usedFor_iff.symm

/-- The links that are used for the action, in their order. -/
def used (c : PowerChain) (action : InterfaceAction) : List Link :=
  c.links.filter (fun l => decide (UsedFor action l))

theorem handling_eq (c : PowerChain) (action : InterfaceAction) :
    c.handling action = c.used action := by
  unfold handling used
  refine List.filter_congr (fun l _ => ?_)
  rw [Bool.eq_iff_iff, decide_eq_true_iff, usedFor_iff]

/-- **A fallback**: the links that are enabled for the operation and support it are
contacted in their order up to the first that succeeds, whose answer is returned;
without one, all are contacted and the operation fails. -/
structure FallsBack (c : PowerChain) (action : InterfaceAction) (op : Driver → Except String α)
    (answer : Except String (Outcome α) × List Nat) : Prop where
  succeeds : ∀ outcome, answer.1 = .ok outcome →
    ∃ before l after, c.used action = before ++ l :: after ∧ (∀ k ∈ before, Fails op k) ∧
      op l.driver = .ok outcome.value ∧ outcome.via = l.label ∧
      outcome.failures = c.unavailable ++ before.filterMap (failureText op) ∧
      answer.2 = (before ++ [l]).map (·.index)
  fails : ∀ e, answer.1 = .error e → answer.2 = (c.used action).map (·.index)
  fails_iff : (∃ e, answer.1 = .error e) ↔ ∀ l ∈ c.used action, Fails op l
  once : c.InOrder → answer.2.Pairwise (· < ·)

/-- The walk up to the first success. -/
theorem tryLinks_cases (op : Driver → Except String α) (links : List Link) :
    ∀ failures : List String,
    (∃ before l after value, links = before ++ l :: after ∧ (∀ k ∈ before, Fails op k) ∧
      op l.driver = .ok value ∧ tryLinks op links failures =
        (.ok ⟨value, l.label, failures ++ before.filterMap (failureText op)⟩,
          (before ++ [l]).map (·.index))) ∨
    ((∀ k ∈ links, Fails op k) ∧ tryLinks op links failures =
      (.error (failures ++ links.filterMap (failureText op)), links.map (·.index))) := by
  -- on the links, with what failed before them in `failures`
  induction links with
  | nil =>
    intro failures
    right
    refine ⟨by simp, ?_⟩
    simp [tryLinks]
  | cons k links ih =>
    intro failures
    cases hop : op k.driver with
    | ok value =>
      left
      refine ⟨[], k, links, value, rfl, by simp, hop, ?_⟩
      simp [tryLinks, hop]
    | error e =>
      have hfails : Fails op k := ⟨e, hop⟩
      have htext : failureText op k = some s!"{k.label}: {e}" := by
        unfold failureText
        rw [hop]
      rcases ih (failures ++ [s!"{k.label}: {e}"]) with
        ⟨before, l, after, value, hlinks, hbefore, hl, htry⟩ | ⟨hall, htry⟩
      · left
        refine ⟨k :: before, l, after, value, by rw [hlinks]; rfl, ?_, hl, ?_⟩
        · exact List.forall_mem_cons.mpr ⟨hfails, hbefore⟩
        · rw [tryLinks, hop]
          simp only [htry, List.filterMap_cons, htext, List.append_assoc, List.cons_append,
            List.nil_append, List.map_cons]
      · right
        refine ⟨List.forall_mem_cons.mpr ⟨hfails, hall⟩, ?_⟩
        rw [tryLinks, hop]
        simp only [htry, List.filterMap_cons, htext, List.append_assoc, List.cons_append,
          List.nil_append, List.map_cons]

/-- What is contacted up to a link keeps the order of the links. -/
theorem InOrder.upTo {c : PowerChain} (h : c.InOrder) {action : InterfaceAction}
    {before after : List Link} {l : Link} (hlinks : c.used action = before ++ l :: after) :
    ((before ++ [l]).map (·.index)).Pairwise (· < ·) := by
  have hused : ((c.used action).map (·.index)).Pairwise (· < ·) :=
    h.sublist (List.filter_sublist.map _)
  refine hused.sublist ?_
  rw [hlinks]
  apply List.Sublist.map
  show (before ++ [l]).Sublist (before ++ ([l] ++ after))
  rw [← List.append_assoc]
  exact List.sublist_append_left _ _

/-- **Every operation falls back.** -/
theorem attempt_falls_back (c : PowerChain) (action : InterfaceAction)
    (op : Driver → Except String α) : c.FallsBack action op (c.attempt action op) := by
  unfold attempt
  rw [handling_eq]
  rcases tryLinks_cases op (c.used action) c.unavailable with
    ⟨before, l, after, value, hlinks, hbefore, hl, htry⟩ | ⟨hall, htry⟩
  · simp only [htry]
    refine ⟨?_, by simp, ?_, fun h => h.upTo hlinks⟩
    · intro outcome he
      cases he
      exact ⟨before, l, after, hlinks, hbefore, hl, rfl, rfl, rfl⟩
    · constructor
      · rintro ⟨e, he⟩
        cases he
      · intro hall
        obtain ⟨e, he⟩ := hall l (by rw [hlinks]; simp)
        rw [hl] at he
        cases he
  · simp only [htry]
    refine ⟨by simp, by simp, ⟨fun _ => hall, fun _ => ⟨_, rfl⟩⟩, ?_⟩
    intro h
    exact h.sublist (List.filter_sublist.map _)

end Attempt

/-- **The operations of a chain fall back**, and no reading is `Unknown`. -/
theorem chain_falls_back (c : PowerChain) :
    c.FallsBack .status readState c.powerState ∧ c.FallsBack .powerOn (·.powerOn) c.powerOn ∧
      (∀ force, c.FallsBack .powerOff (·.powerOff force) (c.powerOff force)) ∧
      ∀ outcome, c.powerState.1 = .ok outcome → outcome.value ≠ .unknown := by
  refine ⟨c.attempt_falls_back _ _, c.attempt_falls_back _ _,
    fun force => c.attempt_falls_back _ _, ?_⟩
  intro outcome h
  rcases powerState_known h with hon | hoff
  · rw [hon]
    decide
  · rw [hoff]
    decide

/-! ## §2. The links left by an identity check. -/

/-- Whether a result disables the interfaces of a label. -/
def disables (results : List (String × IdentityCheck × Bool)) (label : String) : Bool :=
  results.any (fun r => r.2.1.isMismatch && r.1 == label)

/-- **What is left**: the links without a mismatched label, in their order. -/
theorem disableMismatched_links (results : List (String × IdentityCheck × Bool)) :
    ∀ c : PowerChain, (c.disableMismatched results).links
      = c.links.filter (fun l => !disables results l.label) := by
  induction results with
  | nil =>
    intro c
    simp [disableMismatched, disables]
  | cons r results ih =>
    intro c
    obtain ⟨label, result, cacheable⟩ := r
    have hrest : ∀ c' : PowerChain, (c'.disableMismatched results).links
        = c'.links.filter (fun l => !disables results l.label) := ih
    -- only a mismatch takes links away
    cases result with
    | mismatch reported expected =>
      show ((c.disable label reported expected).disableMismatched results).links = _
      rw [hrest]
      unfold disable
      simp only [List.filter_filter]
      apply List.filter_congr
      intro l _
      unfold disables
      rw [List.any_cons, Bool.not_or, Bool.and_comm]
      simp only [IdentityCheck.isMismatch, Bool.true_and]
      rw [bne_comm]
      rfl
    | «match» =>
      show (c.disableMismatched results).links = _
      rw [hrest]
      rfl
    | unverifiable =>
      show (c.disableMismatched results).links = _
      rw [hrest]
      rfl

theorem buildLinks_inOrder (interfaces : List PowerInterface)
    (built : Nat → Except String Driver) : (buildLinks interfaces built).InOrder := by
  have hpairs : (interfaces.mapIdx (fun i pi => (i, pi))).Pairwise (fun x y => x.1 < y.1) := by
    rw [List.pairwise_iff_getElem]
    intro i j hi hj hij
    simp only [List.getElem_mapIdx]
    exact hij
  unfold InOrder buildLinks
  rw [List.pairwise_map, List.pairwise_filterMap]
  apply hpairs.imp
  intro x y hxy k hk l hl
  obtain ⟨i, pi⟩ := x
  obtain ⟨j, pj⟩ := y
  cases hi : built i with
  | error e =>
    simp only [hi] at hk
    cases hk
  | ok di =>
    cases hj : built j with
    | error e =>
      simp only [hj] at hl
      cases hl
    | ok dj =>
      simp only [hi] at hk
      simp only [hj] at hl
      cases hk
      cases hl
      exact hxy

/-- Disabling keeps the order. -/
theorem InOrder.disableMismatched {c : PowerChain} (h : c.InOrder)
    (results : List (String × IdentityCheck × Bool)) : (c.disableMismatched results).InOrder := by
  unfold InOrder
  rw [disableMismatched_links]
  exact h.sublist (List.filter_sublist.map _)

/-! ## §3. Own results. -/

/-- An identity check of the links, with the outcome of each position. -/
def results (c : PowerChain) (outcome : Nat → IdentityCheck × Bool) :
    List (String × IdentityCheck × Bool) :=
  c.links.zipIdx.map (fun x => (x.1.label, outcome x.2))

/-- The links whose own result is no mismatch. -/
def ownUnmismatched (c : PowerChain) (outcome : Nat → IdentityCheck × Bool) : List Link :=
  (c.links.zipIdx.filter (fun x => !(outcome x.2).1.isMismatch)).map (·.1)

/-- No interface without a mismatch shares its label with a mismatched one. -/
def LabelsTell (c : PowerChain) (outcome : Nat → IdentityCheck × Bool) : Prop :=
  ∀ x ∈ c.links.zipIdx, ∀ y ∈ c.links.zipIdx, x.1.label = y.1.label →
    (outcome y.2).1.isMismatch = true → (outcome x.2).1.isMismatch = true

variable {c : PowerChain} {outcome : Nat → IdentityCheck × Bool}

/-- What `checkIdentity` returns has this form. -/
theorem checkIdentity_eq (c : PowerChain) (nodeUuid : Option String) :
    ∃ outcome, c.checkIdentity nodeUuid = c.results outcome := by
  have hlabel : ∀ l, (checkLink nodeUuid l).1 = l.label := by
    intro l
    unfold checkLink
    split <;> rfl
  refine ⟨fun i => (c.links[i]?.map (fun l => (checkLink nodeUuid l).2)).getD (.unverifiable, true),
    ?_⟩
  unfold checkIdentity results
  apply List.ext_getElem
  · simp
  · intro i hi hi'
    have hlt : i < c.links.length := by simpa using hi
    simp only [List.getElem_map, List.getElem_zipIdx, Nat.zero_add,
      List.getElem?_eq_getElem hlt, Option.map_some, Option.getD_some]
    exact Prod.ext (hlabel _) rfl

theorem disables_results {label : String} : disables (c.results outcome) label = true ↔
    ∃ y ∈ c.links.zipIdx, y.1.label = label ∧ (outcome y.2).1.isMismatch = true := by
  unfold disables results
  simp only [List.any_map, List.any_eq_true, Function.comp, Bool.and_eq_true, beq_iff_eq]
  constructor
  · rintro ⟨y, hy, hmismatch, hlabel⟩
    exact ⟨y, hy, hlabel, hmismatch⟩
  · rintro ⟨y, hy, hlabel, hmismatch⟩
    exact ⟨y, hy, hmismatch, hlabel⟩

/-- The links that are left, with their positions. -/
theorem left_eq (c : PowerChain) (outcome : Nat → IdentityCheck × Bool) :
    (c.disableMismatched (c.results outcome)).links
      = (c.links.zipIdx.filter (fun x => !disables (c.results outcome) x.1.label)).map (·.1) := by
  rw [disableMismatched_links]
  conv => lhs; rw [← List.zipIdx_map_fst 0 c.links, List.filter_map]
  rfl

/-- A mismatched interface never stays. -/
theorem left_sublist (c : PowerChain) (outcome : Nat → IdentityCheck × Bool) :
    (c.disableMismatched (c.results outcome)).links.Sublist (c.ownUnmismatched outcome) := by
  have hsub : (c.links.zipIdx.filter (fun x => !disables (c.results outcome) x.1.label))
      = (c.links.zipIdx.filter (fun x => !(outcome x.2).1.isMismatch)).filter
          (fun x => !disables (c.results outcome) x.1.label) := by
    rw [List.filter_filter]
    apply List.filter_congr
    intro x hx
    -- a mismatch disables its own label
    cases hown : (outcome x.2).1.isMismatch with
    | false => simp
    | true => simp [disables_results.mpr ⟨x, hx, rfl, hown⟩]
  rw [left_eq, hsub]
  exact List.filter_sublist.map _

/-- **An interface stays if and only if its own result is no mismatch**,
exactly when the labels tell the mismatched interfaces from the others. -/
theorem stays_iff_own_result (c : PowerChain) (outcome : Nat → IdentityCheck × Bool) :
    (c.disableMismatched (c.results outcome)).links = c.ownUnmismatched outcome ↔
      c.LabelsTell outcome := by
  constructor
  · intro h x hx y hy hlabel hmismatch
    by_contra hown
    -- the label is disabled, so the link is not left
    have hmem : x.1 ∈ (c.disableMismatched (c.results outcome)).links := by
      rw [h]
      refine List.mem_map.mpr ⟨x, List.mem_filter.mpr ⟨hx, ?_⟩, rfl⟩
      rw [Bool.eq_false_of_not_eq_true hown]
      rfl
    rw [disableMismatched_links, List.mem_filter] at hmem
    rw [disables_results.mpr ⟨y, hy, hlabel.symm, hmismatch⟩] at hmem
    cases hmem.2
  · intro h
    rw [left_eq]
    unfold ownUnmismatched
    congr 1
    apply List.filter_congr
    intro x hx
    congr 1
    rw [Bool.eq_iff_iff, disables_results]
    constructor
    · rintro ⟨y, hy, hlabel, hmismatch⟩
      exact h x hx y hy hlabel.symm hmismatch
    · intro hmismatch
      exact ⟨x, hx, rfl, hmismatch⟩

/-! ## §4. Two interfaces of one driver. -/

/-- Two unnamed interfaces, the first of which controls another machine. -/
def twoUnnamed : PowerChain where
  links := [⟨0, "ipmi", { driver := "ipmi" }, { powerState := .ok .on }⟩,
    ⟨1, "ipmi", { driver := "ipmi" }, { powerState := .ok .on }⟩]

/-- What the identity check finds on them. -/
def firstMismatched (i : Nat) : IdentityCheck × Bool :=
  if i = 0 then
    (.mismatch "4c4c4544-0036-4a10-8058-b4c04f4e4633" "4c4c454400364a108058b4c04f4e4632", true)
  else (.match, true)

/-- One wrong interface disables a correct one. -/
theorem correct_disabled :
    (twoUnnamed.disableMismatched (twoUnnamed.results firstMismatched)).links.length = 0 ∧
      (twoUnnamed.ownUnmismatched firstMismatched).map (·.index) = [1] ∧
      (twoUnnamed.disableMismatched (twoUnnamed.results firstMismatched)).links
        ≠ twoUnnamed.ownUnmismatched firstMismatched := by
  have hleft :
      (twoUnnamed.disableMismatched (twoUnnamed.results firstMismatched)).links.length = 0 := by
    decide
  have hown : (twoUnnamed.ownUnmismatched firstMismatched).map (·.index) = [1] := by decide
  refine ⟨hleft, hown, ?_⟩
  intro he
  have hlength := congrArg List.length hown
  rw [List.length_map, ← he, hleft] at hlength
  cases hlength

end PowerChain

end HardwareAutoscaler
