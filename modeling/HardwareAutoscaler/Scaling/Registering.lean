/-
  HardwareAutoscaler.Scaling.Registering
  ──────────────────────────────────────
  WHICH PENDING PODS KEEP A MACHINE ON FOR ITS DEVICES.

  A machine whose device plugin is still registering is kept for the pods that
  would fit it afterwards.  A pod may ask for several devices; it is counted as
  soon as one of them will suffice.

    • `FitsOnceRegistered`, `AsksTooMuch` — the pod as a whole,
    • `waitsOn_iff`, `waitingForRegistration_isSome` — what the planner counts,
    • `held_rightly_iff` — when these agree.
-/
import HardwareAutoscaler.Scaling.ScaleDown

namespace HardwareAutoscaler

open Std (TreeMap)

/-! ## §1. The pod as a whole. -/

/-- The pod asks for `v` of a resource of which the machine, still registering
it, once had `known`. -/
def AsksFor (m : Member) (p : PodView) (resource : String) (v known : Int64) : Prop :=
  p.extendedRequests[resource]? = some v ∧ m.registering[resource]? = some known

/-- The devices aside, the pod fits what the machine has free. -/
structure FitsApart (m : Member) (p : PodView) : Prop where
  free : (m.allocatable.minus m.requested).fits p.requests = true
  node : podMatchesNode p m.labels m.taints = true

/-- Some registering resource the pod asks for will suffice. -/
def SomeSuffices (m : Member) (p : PodView) : Prop :=
  ∃ resource v known, AsksFor m p resource v known ∧ v ≤ known

/-- The pod asks for more of some registering resource than the machine ever
had. -/
def AsksTooMuch (m : Member) (p : PodView) : Prop :=
  ∃ resource v known, AsksFor m p resource v known ∧ ¬ v ≤ known

/-- **The pod would fit the machine once its devices are back.** -/
structure FitsOnceRegistered (m : Member) (p : PodView) : Prop where
  apart : FitsApart m p
  asks : ∃ resource v known, AsksFor m p resource v known
  enough : ∀ resource v known, AsksFor m p resource v known → v ≤ known

/-! ## §2. What the planner counts. -/

section Counted

variable {m : Member} {p : PodView} {selected : List PodView}

theorem waitsFor_ne_nil_iff : waitsFor m p ≠ [] ↔ SomeSuffices m p := by
  unfold waitsFor SomeSuffices AsksFor
  rw [ne_eq, List.map_eq_nil_iff, List.eq_nil_iff_forall_not_mem, not_forall_not]
  simp only [List.mem_filter, Option.any_eq_true]
  constructor
  · rintro ⟨x, hx, known, hknown, hle⟩
    refine ⟨x.1, x.2, known, ⟨TreeMap.mem_toList_iff_getElem?_eq_some.mp hx, hknown⟩, ?_⟩
    exact of_decide_eq_true hle
  · rintro ⟨resource, v, known, ⟨hv, hknown⟩, hle⟩
    exact ⟨(resource, v), TreeMap.mem_toList_iff_getElem?_eq_some.mpr hv, known, hknown,
      decide_eq_true hle⟩

/-- A pod is counted as soon as one of its resources suffices. -/
theorem waitsOn_iff : waitsOn m p = true ↔ FitsApart m p ∧ SomeSuffices m p := by
  rw [← waitsFor_ne_nil_iff]
  unfold waitsOn
  simp only [Bool.not_or, Bool.not_not, Bool.and_eq_true, Bool.not_eq_true',
    List.isEmpty_eq_false_iff]
  constructor
  · rintro ⟨⟨hsome, hfree⟩, hnode⟩
    exact ⟨⟨hfree, hnode⟩, hsome⟩
  · rintro ⟨⟨hfree, hnode⟩, hsome⟩
    exact ⟨⟨hsome, hfree⟩, hnode⟩

/-- **The machine is kept** for its devices when a pod is counted. -/
theorem waitingForRegistration_isSome :
    (waitingForRegistration m selected).isSome = true ↔ ∃ p ∈ selected, waitsOn m p = true := by
  have hcount : (selected.filter (waitsOn m)).length > 0 ↔ ∃ p ∈ selected, waitsOn m p = true := by
    rw [gt_iff_lt, List.length_pos_iff_exists_mem]
    simp only [List.mem_filter]
  unfold waitingForRegistration
  split
  · rename_i hempty
    constructor
    · intro h
      cases h
    · rintro ⟨p, _, hwaits⟩
      obtain ⟨_, resource, v, known, ⟨_, hknown⟩, _⟩ := waitsOn_iff.mp hwaits
      rw [TreeMap.getElem?_of_isEmpty hempty] at hknown
      cases hknown
  · simp only
    rw [← hcount]
    split
    · rename_i hlength
      exact iff_of_true rfl hlength
    · rename_i hlength
      exact iff_of_false (by simp) hlength

end Counted

/-! ## §3. When a machine is kept rightly. -/

/-- The machine is kept only for pods that would fit it, and never by a pod
that asks for too much. -/
structure HeldRightly (m : Member) (selected : List PodView) : Prop where
  fits : (waitingForRegistration m selected).isSome = true → ∃ p ∈ selected, FitsOnceRegistered m p
  never : ∀ p ∈ selected, AsksTooMuch m p → waitingForRegistration m [p] = none

/-- **A machine is kept rightly** exactly when no selected pod that fits it
otherwise asks for one registering resource within and for another beyond what
the machine had. -/
theorem held_rightly_iff (m : Member) (selected : List PodView) :
    HeldRightly m selected ↔
      ∀ p ∈ selected, FitsApart m p → SomeSuffices m p → ¬ AsksTooMuch m p := by
  constructor
  · -- a pod alone would keep it as well
    intro h p hp hapart hsome hmuch
    have halone : (waitingForRegistration m [p]).isSome = true :=
      waitingForRegistration_isSome.mpr
        ⟨p, List.mem_singleton_self p, waitsOn_iff.mpr ⟨hapart, hsome⟩⟩
    rw [h.never p hp hmuch] at halone
    cases halone
  · intro h
    constructor
    · intro hkept
      obtain ⟨p, hp, hwaits⟩ := waitingForRegistration_isSome.mp hkept
      obtain ⟨hapart, hsome⟩ := waitsOn_iff.mp hwaits
      refine ⟨p, hp, hapart, ?_, ?_⟩
      · obtain ⟨resource, v, known, hasks, _⟩ := hsome
        exact ⟨resource, v, known, hasks⟩
      · intro resource v known hasks
        by_contra hmore
        exact h p hp hapart hsome ⟨resource, v, known, hasks, hmore⟩
    · intro p hp hmuch
      cases hkept : waitingForRegistration m [p] with
      | none => rfl
      | some note =>
        obtain ⟨q, hq, hwaits⟩ := waitingForRegistration_isSome.mp (by rw [hkept]; rfl)
        rw [List.mem_singleton] at hq
        subst hq
        obtain ⟨hapart, hsome⟩ := waitsOn_iff.mp hwaits
        exact absurd hmuch (h q hp hapart hsome)

/-- A machine with two kinds of cards that are still registering. -/
def twoCards : Member where
  name := "gpu-node-2"
  state := .online
  auto := true
  allocatable := { cpuMillis := 4000, memoryBytes := 8589934592, pods := 110 }
  registering := ((∅ : TreeMap String Int64).insert "gpu.intel.com/i915" 1).insert
    "nvidia.com/gpu" 1

/-- A pod that asks for two cards of one kind and one of the other. -/
def greedyPod : PodView where
  name := "greedy"
  extendedRequests := ((∅ : TreeMap String Int64).insert "gpu.intel.com/i915" 2).insert
    "nvidia.com/gpu" 1

/-- The pod that can never fit keeps the machine on. -/
theorem greedy_holds : (waitingForRegistration twoCards [greedyPod]).isSome = true ∧
    ¬ HeldRightly twoCards [greedyPod] := by
  have hkept : (waitingForRegistration twoCards [greedyPod]).isSome = true :=
    waitingForRegistration_isSome.mpr ⟨greedyPod, List.mem_singleton_self _, by decide⟩
  refine ⟨hkept, ?_⟩
  intro h
  have hmuch : AsksTooMuch twoCards greedyPod :=
    ⟨"gpu.intel.com/i915", 2, 1, ⟨by decide, by decide⟩, by decide⟩
  rw [h.never greedyPod (List.mem_singleton_self _) hmuch] at hkept
  cases hkept

end HardwareAutoscaler
