/-
  HardwareAutoscaler.Controller.Pool.Totals
  ─────────────────────────────────────────
  WHAT PODS ASK FOR, BEYOND THE RANGE OF `i64` (`src/resources.rs`,
  `pod_requests` and `ResourceAmounts::add`).

  Each quantity is clamped to an `i64` when it is parsed, the sums of them are
  not.  A release build wraps, a debug build ends there.

    • `total`, `singles` — the exact request of a pod, and what it is made of,
    • `podRequestsIn`, `sumRequestsIn` — the code in either build,
    • `RightRequests` — requests that are exact, or err upwards,
    • `Holds` — when what wraps is right,
    • `requests_right_iff` — both builds, for any pods.
-/
import HardwareAutoscaler.Lib.Wrapping
import HardwareAutoscaler.Controller.Pool.Member

namespace HardwareAutoscaler

open Lib (Wrapped Above Right checkedAdd)

/-! ## §1. What is asked for. -/

/-- The resources that every machine has, counted in 64 bits. -/
inductive Resource where
  | cpu
  | memory
  deriving DecidableEq, Repr

/-- How much of a resource there is. -/
def Resource.of : Resource → ResourceAmounts → Int64
  | .cpu, a => a.cpuMillis
  | .memory, a => a.memoryBytes

/-- Of both resources, one by one. -/
theorem forall_resource {P : Resource → Prop} : (∀ r, P r) ↔ P .cpu ∧ P .memory :=
  ⟨fun h => ⟨h .cpu, h .memory⟩, fun h r => by cases r with
    | cpu => exact h.1
    | memory => exact h.2⟩

/-- The parsed quantity; what is missing or garbage counts as 0. -/
def asked (r : Resource) (q : Quantities) : Int := (r.of (amounts q)).toInt

/-- What the containers of a pod ask for together. -/
def containersSum (r : Resource) (pod : Pod) : Int :=
  (pod.containers.map (fun c => asked r c.requests)).sum

/-- max(`sum`, max(init containers)) + overhead. -/
def withInit (r : Resource) (pod : Pod) (sum : Int) : Int :=
  (pod.initContainers.map (fun c => asked r c.requests)).foldl max sum + asked r pod.overhead

/-- **The exact request**: max(sum(containers), max(init containers)) + overhead. -/
def total (r : Resource) (pod : Pod) : Int := withInit r pod (containersSum r pod)

/-- The requests of its containers and init containers. -/
def singles (r : Resource) (pod : Pod) : List Int :=
  (pod.containers ++ pod.initContainers).map (fun c => asked r c.requests)

/-- All quantities parse to values that are not negative. -/
def NonNegative (pod : Pod) : Prop :=
  ∀ r : Resource, (∀ x ∈ singles r pod, 0 ≤ x) ∧ 0 ≤ asked r pod.overhead

instance (pod : Pod) : Decidable (NonNegative pod) := decidable_of_iff _ forall_resource.symm

/-! ## §2. The code in either build. -/

/-- How the operator is built: overflow wraps in release, and panics in debug. -/
inductive Build where
  | release
  | debug
  deriving DecidableEq, Repr

/-- `+` of `i64`; `none` is a panic. -/
def Build.add : Build → Int64 → Int64 → Option Int64
  | .release, a, b => some (a + b)
  | .debug, a, b => checkedAdd a b

/-- `acc.cpu_millis += o.cpu_millis` and the same for `memory_bytes`. -/
def addUsage (build : Build) (acc o : ResourceAmounts) : Option ResourceAmounts := do
  let cpu ← build.add acc.cpuMillis o.cpuMillis
  let memory ← build.add acc.memoryBytes o.memoryBytes
  pure { acc with cpuMillis := cpu, memoryBytes := memory }

/-- `sum` with the init containers: the larger of each. -/
def raiseInit (pod : Pod) (sum : ResourceAmounts) : ResourceAmounts :=
  pod.initContainers.foldl (fun (acc : ResourceAmounts) c =>
    let r := amounts c.requests
    { acc with
      cpuMillis := max acc.cpuMillis r.cpuMillis
      memoryBytes := max acc.memoryBytes r.memoryBytes }) sum

/-- `pod_requests`. -/
def podRequestsIn (build : Build) (pod : Pod) : Option ResourceAmounts := do
  let sum ← pod.containers.foldlM (fun acc c => addUsage build acc (amounts c.requests)) {}
  let sum ← addUsage build (raiseInit pod sum) (amounts pod.overhead)
  pure { sum with pods := 1 }

/-- `ResourceAmounts::add`. -/
def ResourceAmounts.addIn (build : Build) (a o : ResourceAmounts) : Option ResourceAmounts := do
  let sum ← addUsage build a o
  let pods ← build.add a.pods o.pods
  pure { sum with pods := pods }

/-- The sum of the requests of some pods. -/
def sumRequestsIn (build : Build) (pods : List Pod) : Option ResourceAmounts :=
  pods.foldlM (fun acc pod => do acc.addIn build (← podRequestsIn build pod)) {}

/-- **Right requests**: each pod's and the sum of all are computed, and in CPU
and in memory each is the exact request, or at least as large as every single
container's where that does not fit. -/
def RightRequests (build : Build) (pods : List Pod) : Prop :=
  (∀ pod ∈ pods, ∃ v, podRequestsIn build pod = some v ∧
      ∀ r : Resource, Right (total r pod) (singles r pod) (r.of v).toInt) ∧
    ∃ v, sumRequestsIn build pods = some v ∧ ∀ r : Resource,
      Right (pods.map (total r)).sum (pods.flatMap (singles r)) (r.of v).toInt

/-! ## §3. When what wraps is right. -/

/-- A pod comes to `m` when its containers' sum, but for whole turns, its init
containers and its overhead make `m`, and no single request is larger. -/
def ComesTo (r : Resource) (pod : Pod) (m : Int) : Prop :=
  ∃ left, Wrapped (containersSum r pod) left ∧ m = withInit r pod left ∧ m < 2 ^ 63 ∧
    Above (singles r pod) m

/-- **Every pod comes to something**, and the sum of these, but for whole turns,
is not below any single request. -/
def Holds (r : Resource) (pods : List Pod) : Prop :=
  ∃ ms, List.Forall₂ (ComesTo r) pods ms ∧
    ∃ left, Wrapped ms.sum left ∧ Above (pods.flatMap (singles r)) left

/-! ## §4. Release builds. -/

/-- The sum of two amounts but for their pods, as a release build has it. -/
def plusUsage (acc o : ResourceAmounts) : ResourceAmounts :=
  { acc with
    cpuMillis := acc.cpuMillis + o.cpuMillis
    memoryBytes := acc.memoryBytes + o.memoryBytes }

/-- The sum over the containers, as a release build has it. -/
def containersUsage (pod : Pod) : ResourceAmounts :=
  pod.containers.foldl (fun acc c => plusUsage acc (amounts c.requests)) {}

section Release

variable (r : Resource) (pod : Pod)

/-- In release nothing panics. -/
theorem podRequestsIn_release : podRequestsIn .release pod = some (podRequests pod) := by
  have hsum : pod.containers.foldlM (fun acc c => addUsage .release acc (amounts c.requests)) {}
      = some (containersUsage pod) := List.foldlM_pure
  rw [podRequestsIn, hsum]
  rfl

/-- In release nothing panics. -/
theorem sumRequestsIn_release (pods : List Pod) :
    sumRequestsIn .release pods = some (sumRequests pods) := by
  have hstep : ∀ (acc : ResourceAmounts) (pod : Pod),
      (podRequestsIn .release pod >>= fun v => acc.addIn .release v)
        = some (acc.add (podRequests pod)) := by
    intro acc pod
    rw [podRequestsIn_release]
    rfl
  unfold sumRequestsIn
  simp only [hstep]
  exact List.foldlM_pure

/-! Each resource on its own. -/

@[simp] theorem of_plusUsage (a o : ResourceAmounts) :
    r.of (plusUsage a o) = r.of a + r.of o := by
  cases r <;> rfl

@[simp] theorem of_add (a o : ResourceAmounts) : r.of (a.add o) = r.of a + r.of o := by
  cases r <;> rfl

@[simp] theorem of_zero : r.of {} = 0 := by
  cases r <;> rfl

theorem of_containersUsage : r.of (containersUsage pod)
    = (pod.containers.map (fun c => r.of (amounts c.requests))).foldl (· + ·) 0 := by
  rw [List.foldl_map, ← of_zero r, containersUsage]
  exact (List.foldl_hom r.of (fun acc c => (of_plusUsage r acc (amounts c.requests)).symm)).symm

theorem of_raiseInit (sum : ResourceAmounts) : r.of (raiseInit pod sum)
    = (pod.initContainers.map (fun c => r.of (amounts c.requests))).foldl max (r.of sum) := by
  rw [List.foldl_map, raiseInit]
  exact (List.foldl_hom r.of (fun acc c => by cases r <;> rfl)).symm

/-- What a pod asks for of one resource. -/
theorem of_podRequests : r.of (podRequests pod)
    = r.of (raiseInit pod (containersUsage pod)) + r.of (amounts pod.overhead) := by
  cases r <;> rfl

/-- What pods ask for of one resource. -/
theorem of_sumRequests (pods : List Pod) : r.of (sumRequests pods)
    = (pods.map (fun pod => r.of (podRequests pod))).foldl (· + ·) 0 := by
  rw [List.foldl_map, ← of_zero r, sumRequests]
  exact (List.foldl_hom r.of (fun acc pod => (of_add r acc (podRequests pod)).symm)).symm

end Release

/-! ## §5. A pod's request. -/

section OnePod

variable {r : Resource} {pod : Pod}

/-- An amount that is asked for fits in 64 bits. -/
theorem asked_lt (r : Resource) (q : Quantities) : asked r q < 2 ^ 63 := Int64.toInt_lt _

/-- Raised by the init containers, a sum is at least itself and each of them. -/
theorem le_raised (r : Resource) (pod : Pod) (sum : Int) :
    sum ≤ (pod.initContainers.map (fun c => asked r c.requests)).foldl max sum ∧
      ∀ x ∈ pod.initContainers.map (fun c => asked r c.requests),
        x ≤ (pod.initContainers.map (fun c => asked r c.requests)).foldl max sum :=
  Lib.foldl_max_le.mp (Int.le_refl _)

/-- The largest of the init containers fits in 64 bits. -/
theorem raised_lt (r : Resource) (pod : Pod) {sum : Int} (h : sum < 2 ^ 63) :
    (pod.initContainers.map (fun c => asked r c.requests)).foldl max sum < 2 ^ 63 := by
  refine Int.lt_of_le_sub_one (Lib.foldl_max_le.mpr ⟨Int.le_sub_one_of_lt h, fun x hx => ?_⟩)
  obtain ⟨c, _, rfl⟩ := List.mem_map.mp hx
  exact Int.le_sub_one_of_lt (asked_lt r c.requests)

theorem NonNegative.containers (h : NonNegative pod) (r : Resource) :
    ∀ x ∈ pod.containers.map (fun c => asked r c.requests), 0 ≤ x := by
  intro x hx
  refine (h r).1 x ?_
  rw [singles, List.map_append]
  exact List.mem_append_left _ hx

/-- Containers that ask for no negative amount ask for none together. -/
theorem NonNegative.sum_nonneg (h : NonNegative pod) (r : Resource) :
    0 ≤ containersSum r pod := List.sum_nonneg (h.containers r)

/-- Init containers and overhead take nothing off a sum. -/
theorem NonNegative.le_withInit (h : NonNegative pod) (r : Resource) (sum : Int) :
    sum ≤ withInit r pod sum := by
  have hraised := (le_raised r pod sum).1
  have hoverhead := (h r).2
  unfold withInit
  omega

/-- The exact request is at least the sum over the containers. -/
theorem NonNegative.sum_le (h : NonNegative pod) (r : Resource) :
    containersSum r pod ≤ total r pod := h.le_withInit r _

/-- The exact request is at least every single one. -/
theorem NonNegative.above (h : NonNegative pod) (r : Resource) :
    Above (singles r pod) (total r pod) := by
  have hsum := h.sum_le r
  refine ⟨Int.le_trans (h.sum_nonneg r) hsum, fun x hx => ?_⟩
  rw [singles, List.map_append] at hx
  rcases List.mem_append.mp hx with hx | hx
  · exact Int.le_trans (List.single_le_sum (h.containers r) x hx) hsum
  · have hraised := (le_raised r pod (containersSum r pod)).2 x hx
    have hoverhead := (h r).2
    unfold total withInit
    omega

/-- The sum of the containers is wrapped. -/
theorem wrapped_containersUsage (r : Resource) (pod : Pod) :
    Wrapped (containersSum r pod) (r.of (containersUsage pod)).toInt := by
  have hleft := Lib.wrapped_foldl_add (pod.containers.map (fun c => r.of (amounts c.requests))) 0
  rw [← of_containersUsage, List.map_map] at hleft
  rwa [show (0 : Int64).toInt = 0 from rfl, Int.zero_add] at hleft

/-- The computed request, but for whole turns. -/
theorem wrapped_podRequests (r : Resource) (pod : Pod) :
    Wrapped (withInit r pod (r.of (containersUsage pod)).toInt) (r.of (podRequests pod)).toInt := by
  have hleft := Lib.wrapped_add (r.of (raiseInit pod (containersUsage pod)))
    (r.of (amounts pod.overhead))
  rw [← of_podRequests, of_raiseInit, Lib.toInt_foldl_max, List.map_map] at hleft
  exact hleft

/-- With a total that fits, it is the sum. -/
theorem withInit_containersUsage (h : NonNegative pod) (hfit : total r pod < 2 ^ 63) :
    withInit r pod (r.of (containersUsage pod)).toInt = total r pod := by
  have hsum := h.sum_le r
  have hpos := h.sum_nonneg r
  rw [(wrapped_containersUsage r pod).eq (by omega) (by omega)]
  rfl

/-- **A pod's request is right** exactly if it is what the pod comes to. -/
theorem right_pod_iff (h : NonNegative pod) :
    Right (total r pod) (singles r pod) (r.of (podRequests pod)).toInt
      ↔ ComesTo r pod (r.of (podRequests pod)).toInt := by
  have hleft := wrapped_podRequests r pod
  have hsum := wrapped_containersUsage r pod
  have hlo : -2 ^ 63 ≤ withInit r pod (r.of (containersUsage pod)).toInt :=
    Int.le_trans hsum.1 (h.le_withInit r _)
  have hhi : withInit r pod (r.of (containersUsage pod)).toInt < 2 ^ 64 := by
    have hraised := raised_lt r pod hsum.2.1
    have hoverhead := asked_lt r pod.overhead
    unfold withInit
    omega
  rw [Lib.right_iff (h.above r) (withInit_containersUsage h) hleft,
    Lib.above_wrapped_iff hlo hhi hleft]
  constructor
  · rintro ⟨hlt, habove⟩
    have heq := hleft.eq hlo hlt
    rw [heq]
    exact ⟨_, hsum, rfl, hlt, habove⟩
  · rintro ⟨left, hl, heq, hlt, habove⟩
    have hsame := hl.unique hsum
    rw [← hsame, ← heq]
    exact ⟨hlt, habove⟩

/-- A pod comes to one thing only. -/
theorem ComesTo.eq {m : Int} (h : ComesTo r pod m) (hpos : NonNegative pod) :
    m = (r.of (podRequests pod)).toInt := by
  obtain ⟨left, hl, rfl, hlt, _⟩ := h
  have hleft := wrapped_podRequests r pod
  have hsame := hl.unique (wrapped_containersUsage r pod)
  have hlo : -2 ^ 63 ≤ withInit r pod left := Int.le_trans hl.1 (hpos.le_withInit r left)
  rw [← hsame] at hleft
  exact (hleft.eq hlo hlt).symm

end OnePod

/-! ## §6. The sum over pods. -/

section ManyPods

variable {r : Resource} {pods : List Pod}

/-- No total is negative. -/
theorem total_nonneg (h : ∀ pod ∈ pods, NonNegative pod) :
    ∀ x ∈ pods.map (total r), 0 ≤ x := by
  intro x hx
  obtain ⟨pod, hpod, rfl⟩ := List.mem_map.mp hx
  exact ((h pod hpod).above r).1

/-- A pod asks for no more than all. -/
theorem total_le_sum (h : ∀ pod ∈ pods, NonNegative pod) {pod : Pod} (hpod : pod ∈ pods) :
    total r pod ≤ (pods.map (total r)).sum :=
  List.single_le_sum (total_nonneg h) _ (List.mem_map_of_mem hpod)

/-- The exact sum is at least every single request of every pod. -/
theorem above_sum (h : ∀ pod ∈ pods, NonNegative pod) :
    Above (pods.flatMap (singles r)) (pods.map (total r)).sum := by
  refine ⟨List.sum_nonneg (total_nonneg h), fun x hx => ?_⟩
  obtain ⟨pod, hpod, hx⟩ := List.mem_flatMap.mp hx
  exact Int.le_trans (((h pod hpod).above r).2 x hx) (total_le_sum h hpod)

/-- Requests that are right add up to the exact sum while that fits. -/
theorem sum_of_right (h : ∀ pod ∈ pods, NonNegative pod)
    (hright : ∀ pod ∈ pods, Right (total r pod) (singles r pod) (r.of (podRequests pod)).toInt)
    (hfit : (pods.map (total r)).sum < 2 ^ 63) :
    (pods.map (fun pod => (r.of (podRequests pod)).toInt)).sum = (pods.map (total r)).sum := by
  refine congrArg List.sum (List.map_congr_left (fun pod hpod => ?_))
  exact (hright pod hpod).exact (Int.lt_of_le_of_lt (total_le_sum h hpod) hfit)

/-- The sum of the pods is wrapped. -/
theorem wrapped_sumRequests (r : Resource) (pods : List Pod) :
    Wrapped (pods.map (fun pod => (r.of (podRequests pod)).toInt)).sum
      (r.of (sumRequests pods)).toInt := by
  have hleft := Lib.wrapped_foldl_add (pods.map (fun pod => r.of (podRequests pod))) 0
  rw [← of_sumRequests, List.map_map] at hleft
  rwa [show (0 : Int64).toInt = 0 from rfl, Int.zero_add] at hleft

/-- What the pods come to are their computed requests. -/
theorem comesTo_all (h : ∀ pod ∈ pods, NonNegative pod) {ms : List Int}
    (hms : List.Forall₂ (ComesTo r) pods ms) :
    ms = pods.map (fun pod => (r.of (podRequests pod)).toInt) ∧
      ∀ pod ∈ pods, Right (total r pod) (singles r pod) (r.of (podRequests pod)).toInt := by
  induction hms with
  | nil => exact ⟨rfl, fun pod hpod => by cases hpod⟩
  | cons hm _ ih =>
    obtain ⟨hpos, hrest⟩ := List.forall_mem_cons.mp h
    obtain ⟨hms, hright⟩ := ih hrest
    have heq := hm.eq hpos
    refine ⟨by rw [heq, hms, List.map_cons], List.forall_mem_cons.mpr ⟨?_, hright⟩⟩
    exact (right_pod_iff hpos).mpr (heq ▸ hm)

/-- **One resource, in a release build.** -/
theorem right_iff_holds (h : ∀ pod ∈ pods, NonNegative pod) :
    ((∀ pod ∈ pods, Right (total r pod) (singles r pod) (r.of (podRequests pod)).toInt) ∧
        Right (pods.map (total r)).sum (pods.flatMap (singles r)) (r.of (sumRequests pods)).toInt)
      ↔ Holds r pods := by
  have hleft := wrapped_sumRequests r pods
  constructor
  · rintro ⟨hright, hsum⟩
    refine ⟨pods.map (fun pod => (r.of (podRequests pod)).toInt), ?_, _, hleft, ?_⟩
    · rw [List.forall₂_map_right_iff, List.forall₂_same]
      exact fun pod hpod => (right_pod_iff (h pod hpod)).mp (hright pod hpod)
    · exact (Lib.right_iff (above_sum h) (sum_of_right h hright) hleft).mp hsum
  · rintro ⟨ms, hms, left, hl, habove⟩
    obtain ⟨rfl, hright⟩ := comesTo_all h hms
    rw [hl.unique hleft] at habove
    exact ⟨hright, (Lib.right_iff (above_sum h) (sum_of_right h hright) hleft).mpr habove⟩

/-- Where the exact sum fits, nothing wraps. -/
theorem holds_of_fit (h : ∀ pod ∈ pods, NonNegative pod)
    (hfit : (pods.map (total r)).sum < 2 ^ 63) : Holds r pods := by
  have hcomes : ∀ pod ∈ pods, ComesTo r pod (total r pod) := by
    intro pod hpod
    have hlt : total r pod < 2 ^ 63 := Int.lt_of_le_of_lt (total_le_sum h hpod) hfit
    have hsum := (h pod hpod).sum_le r
    have hpos := (h pod hpod).sum_nonneg r
    exact ⟨_, Wrapped.self (by omega) (by omega), rfl, hlt, (h pod hpod).above r⟩
  have hpos := (above_sum (r := r) h).1
  refine ⟨pods.map (total r), ?_, _, Wrapped.self (by omega) hfit, above_sum h⟩
  rw [List.forall₂_map_right_iff, List.forall₂_same]
  exact hcomes

end ManyPods

/-! ## §7. Debug builds. -/

section Debug

variable {acc o v : ResourceAmounts} {pod : Pod} {pods : List Pod}

/-- One addition goes through if nothing overflows, and then it does not wrap. -/
theorem addUsage_debug (hacc : ∀ r : Resource, 0 ≤ (r.of acc).toInt)
    (ho : ∀ r : Resource, 0 ≤ (r.of o).toInt) :
    addUsage .debug acc o = some v ↔
      (∀ r : Resource, (r.of acc).toInt + (r.of o).toInt < 2 ^ 63) ∧ v = plusUsage acc o := by
  unfold addUsage
  simp only [Option.bind_eq_bind, Option.pure_def, Option.bind_eq_some_iff, Build.add]
  rw [forall_resource]
  constructor
  · rintro ⟨cpu, hcpu, memory, hmemory, heq⟩
    obtain ⟨hc, rfl⟩ := (Lib.checkedAdd_iff (hacc .cpu) (ho .cpu)).mp hcpu
    obtain ⟨hm, rfl⟩ := (Lib.checkedAdd_iff (hacc .memory) (ho .memory)).mp hmemory
    cases heq
    exact ⟨⟨hc, hm⟩, rfl⟩
  · rintro ⟨⟨hc, hm⟩, rfl⟩
    exact ⟨_, (Lib.checkedAdd_iff (hacc .cpu) (ho .cpu)).mpr ⟨hc, rfl⟩, _,
      (Lib.checkedAdd_iff (hacc .memory) (ho .memory)).mpr ⟨hm, rfl⟩, rfl⟩

theorem toInt_plusUsage (hacc : ∀ r : Resource, 0 ≤ (r.of acc).toInt)
    (ho : ∀ r : Resource, 0 ≤ (r.of o).toInt) {r : Resource}
    (hlt : (r.of acc).toInt + (r.of o).toInt < 2 ^ 63) :
    (r.of (plusUsage acc o)).toInt = (r.of acc).toInt + (r.of o).toInt := by
  rw [of_plusUsage]
  exact Lib.toInt_add (hacc r) (ho r) hlt

/-- The containers are added up while the exact sums fit. -/
theorem containers_debug (h : NonNegative pod) :
    pod.containers.foldlM (fun acc c => addUsage .debug acc (amounts c.requests)) {} = some v ↔
      (∀ r, containersSum r pod < 2 ^ 63) ∧ v = containersUsage pod := by
  have hasked : ∀ (r : Resource), ∀ c ∈ pod.containers, 0 ≤ asked r c.requests :=
    fun r => List.forall_mem_map.mp (h.containers r)
  have hfold := Lib.foldlM_checked_iff (v := v) (fun (r : Resource) s => (r.of s).toInt) hasked
    (fun c hc s v hs => addUsage_debug hs (fun r => hasked r c hc))
    (fun c hc s hs r hlt => toInt_plusUsage hs (fun r => hasked r c hc) hlt) {}
    (fun r => by rw [of_zero]; decide)
  simp only [of_zero, show (0 : Int64).toInt = 0 from rfl, Int.zero_add] at hfold
  exact hfold

/-- **A pod's request in a debug build**: computed exactly if it fits. -/
theorem podRequestsIn_debug (h : NonNegative pod) : podRequestsIn .debug pod = some v ↔
    (∀ r, total r pod < 2 ^ 63) ∧ v = podRequests pod := by
  have ho : ∀ r : Resource, 0 ≤ (r.of (amounts pod.overhead)).toInt := fun r => (h r).2
  -- no intermediate sum exceeds the total, the raise by init containers included
  have hraise : ∀ r : Resource, containersSum r pod < 2 ^ 63 →
      0 ≤ (r.of (raiseInit pod (containersUsage pod))).toInt ∧
        (r.of (raiseInit pod (containersUsage pod))).toInt
          + (r.of (amounts pod.overhead)).toInt = total r pod := by
    intro r hlt
    have hpos := h.sum_nonneg r
    have hraised := (le_raised r pod (containersSum r pod)).1
    have hsum := (wrapped_containersUsage r pod).eq (by omega) hlt
    have heq : (r.of (raiseInit pod (containersUsage pod))).toInt
        = (pod.initContainers.map (fun c => asked r c.requests)).foldl max
          (containersSum r pod) := by
      rw [of_raiseInit, Lib.toInt_foldl_max, List.map_map, hsum]
      rfl
    rw [heq]
    exact ⟨by omega, rfl⟩
  unfold podRequestsIn
  simp only [Option.bind_eq_bind, Option.pure_def, Option.bind_eq_some_iff]
  constructor
  · rintro ⟨sum, hsum, last, hlast, heq⟩
    obtain ⟨hfit, rfl⟩ := (containers_debug h).mp hsum
    obtain ⟨hlt, rfl⟩ := (addUsage_debug (fun r => (hraise r (hfit r)).1) ho).mp hlast
    cases heq
    exact ⟨fun r => (hraise r (hfit r)).2 ▸ hlt r, rfl⟩
  · rintro ⟨hfit, rfl⟩
    have hsum : ∀ r, containersSum r pod < 2 ^ 63 :=
      fun r => Int.lt_of_le_of_lt (h.sum_le r) (hfit r)
    refine ⟨_, (containers_debug h).mpr ⟨hsum, rfl⟩,
      plusUsage (raiseInit pod (containersUsage pod)) (amounts pod.overhead), ?_, rfl⟩
    refine (addUsage_debug (fun r => (hraise r (hsum r)).1) ho).mpr ⟨fun r => ?_, rfl⟩
    rw [(hraise r (hsum r)).2]
    exact hfit r

/-- The amounts that are added up for a pod: CPU, memory, and the pods. -/
def countOf : Option Resource → ResourceAmounts → Int
  | some r, a => (r.of a).toInt
  | none, a => a.pods.toInt

theorem forall_count {P : Option Resource → Prop} : (∀ i, P i) ↔ (∀ r, P (some r)) ∧ P none :=
  ⟨fun h => ⟨fun r => h (some r), h none⟩, fun h i => by cases i with
    | some r => exact h.1 r
    | none => exact h.2⟩

/-- **In debug** an addition panics exactly if it overflows. -/
theorem addIn_debug (hacc : ∀ i, 0 ≤ countOf i acc) (ho : ∀ i, 0 ≤ countOf i o) :
    acc.addIn .debug o = some v ↔
      (∀ i, countOf i acc + countOf i o < 2 ^ 63) ∧ v = acc.add o := by
  obtain ⟨hacc, haccpods⟩ := forall_count.mp hacc
  obtain ⟨ho, hopods⟩ := forall_count.mp ho
  unfold ResourceAmounts.addIn
  simp only [Option.bind_eq_bind, Option.pure_def, Option.bind_eq_some_iff, Build.add]
  rw [forall_count]
  constructor
  · rintro ⟨sum, hsum, count, hcount, heq⟩
    obtain ⟨hfit, rfl⟩ := (addUsage_debug hacc ho).mp hsum
    obtain ⟨hpods, rfl⟩ := (Lib.checkedAdd_iff haccpods hopods).mp hcount
    cases heq
    exact ⟨⟨hfit, hpods⟩, rfl⟩
  · rintro ⟨⟨hfit, hpods⟩, rfl⟩
    exact ⟨_, (addUsage_debug hacc ho).mpr ⟨hfit, rfl⟩, _,
      (Lib.checkedAdd_iff haccpods hopods).mpr ⟨hpods, rfl⟩, rfl⟩

/-- An addition that does not overflow is exact. -/
theorem countOf_add {i : Option Resource} (hacc : 0 ≤ countOf i acc) (ho : 0 ≤ countOf i o)
    (hlt : countOf i acc + countOf i o < 2 ^ 63) :
    countOf i (acc.add o) = countOf i acc + countOf i o := by
  cases i with
  | none => exact Lib.toInt_add hacc ho hlt
  | some r =>
    show (r.of (acc.add o)).toInt = _
    rw [of_add]
    exact Lib.toInt_add hacc ho hlt

/-- A request that fits is computed exactly. -/
theorem podRequests_exact (h : NonNegative pod) {r : Resource} (hfit : total r pod < 2 ^ 63) :
    (r.of (podRequests pod)).toInt = total r pod := by
  have hpos := (h.above r).1
  have hleft := wrapped_podRequests r pod
  rw [withInit_containersUsage h hfit] at hleft
  exact hleft.eq (by omega) hfit

/-- What a pod adds to each count. -/
def addend (i : Option Resource) (pod : Pod) : Int := i.elim 1 (fun r => total r pod)

theorem addend_nonneg (h : NonNegative pod) : ∀ i, 0 ≤ addend i pod :=
  forall_count.mpr ⟨fun r => (h.above r).1, Int.one_nonneg⟩

/-- The computed request adds what the pod adds, if that fits. -/
theorem countOf_podRequests (h : NonNegative pod) {i : Option Resource}
    (hfit : addend i pod < 2 ^ 63) : countOf i (podRequests pod) = addend i pod := by
  cases i with
  | none => rfl
  | some r => exact podRequests_exact h hfit

/-- One pod more is added up if every count still fits. -/
theorem addPod_debug (h : NonNegative pod) (hacc : ∀ i, 0 ≤ countOf i acc) :
    (podRequestsIn .debug pod >>= fun o => acc.addIn .debug o) = some v ↔
      (∀ i, countOf i acc + addend i pod < 2 ^ 63) ∧ v = acc.add (podRequests pod) := by
  have hnonneg : (∀ i, addend i pod < 2 ^ 63) → ∀ i, 0 ≤ countOf i (podRequests pod) :=
    fun hfit i => countOf_podRequests h (hfit i) ▸ addend_nonneg h i
  rw [Option.bind_eq_bind, Option.bind_eq_some_iff]
  constructor
  · rintro ⟨o, ho, hadd⟩
    obtain ⟨hfit, rfl⟩ := (podRequestsIn_debug h).mp ho
    have hfit : ∀ i, addend i pod < 2 ^ 63 := forall_count.mpr ⟨hfit, show (1 : Int) < 2 ^ 63 by decide⟩
    obtain ⟨hlt, rfl⟩ := (addIn_debug hacc (hnonneg hfit)).mp hadd
    exact ⟨fun i => countOf_podRequests h (hfit i) ▸ hlt i, rfl⟩
  · rintro ⟨hlt, rfl⟩
    have hfit : ∀ i, addend i pod < 2 ^ 63 := by
      intro i
      have hpos := hacc i
      have hsum := hlt i
      omega
    refine ⟨_, (podRequestsIn_debug h).mpr ⟨fun r => hfit (some r), rfl⟩, ?_⟩
    refine (addIn_debug hacc (hnonneg hfit)).mpr ⟨fun i => ?_, rfl⟩
    rw [countOf_podRequests h (hfit i)]
    exact hlt i

theorem countOf_zero : ∀ i, countOf i {} = 0 :=
  forall_count.mpr ⟨fun r => by rw [countOf, of_zero]; rfl, rfl⟩

/-- **The sum in a debug build**: computed exactly if it fits, and the number of
pods does. -/
theorem sumRequestsIn_debug (h : ∀ pod ∈ pods, NonNegative pod) :
    sumRequestsIn .debug pods = some v ↔
      ((∀ r, (pods.map (total r)).sum < 2 ^ 63) ∧ (pods.length : Int) < 2 ^ 63) ∧
        v = sumRequests pods := by
  have hplus : ∀ pod ∈ pods, ∀ acc, (∀ i, 0 ≤ countOf i acc) → ∀ i,
      countOf i acc + addend i pod < 2 ^ 63 →
        countOf i (acc.add (podRequests pod)) = countOf i acc + addend i pod := by
    intro pod hpod acc hacc i hlt
    have hpos := hacc i
    have hcount := countOf_podRequests (h pod hpod) (i := i) (by omega)
    rw [countOf_add hpos (hcount ▸ addend_nonneg (h pod hpod) i) (hcount ▸ hlt), hcount]
  have hfold := Lib.foldlM_checked_iff (v := v) countOf
    (fun i pod hpod => addend_nonneg (h pod hpod) i)
    (fun pod hpod acc v hacc => addPod_debug (h pod hpod) hacc) hplus {}
    (fun i => by rw [countOf_zero]; decide)
  have hpods : (pods.map (addend none)).sum = pods.length := by
    show (pods.map (fun _ => (1 : Int))).sum = _
    rw [List.map_const', List.sum_replicate, nsmul_eq_mul, mul_one]
  simp only [countOf_zero, Int.zero_add] at hfold
  rw [forall_count, hpods] at hfold
  exact hfold

end Debug

/-! ## §8. Both builds. -/

/-- **Requests of pods.** In a release build the requests of any pods, and their
sum, are right exactly if what wraps is; a debug build computes them exactly if
all of it fits. -/
theorem requests_right_iff (pods : List Pod) (h : ∀ pod ∈ pods, NonNegative pod) :
    (RightRequests .release pods ↔ ∀ r, Holds r pods) ∧
      (RightRequests .debug pods ↔
        (∀ r, (pods.map (total r)).sum < 2 ^ 63) ∧ (pods.length : Int) < 2 ^ 63) := by
  have hrelease : RightRequests .release pods ↔ ∀ r, Holds r pods := by
    unfold RightRequests
    simp only [podRequestsIn_release, sumRequestsIn_release, Option.some.injEq, exists_eq_left']
    constructor
    · intro hright r
      exact (right_iff_holds h).mp ⟨fun pod hpod => hright.1 pod hpod r, hright.2 r⟩
    · intro hholds
      have hright := fun r => (right_iff_holds h).mpr (hholds r)
      exact ⟨fun pod hpod r => (hright r).1 pod hpod, fun r => (hright r).2⟩
  refine ⟨hrelease, ⟨fun hright => ?_, fun hfit => ?_⟩⟩
  · obtain ⟨_, v, hv, _⟩ := hright
    exact ((sumRequestsIn_debug h).mp hv).1
  · -- nothing overflows, so it is what a release build computes
    obtain ⟨hpods, hsum⟩ := hrelease.mpr (fun r => holds_of_fit h (hfit.1 r))
    refine ⟨fun pod hpod => ?_, ?_⟩
    · have hone : ∀ r, total r pod < 2 ^ 63 :=
        fun r => Int.lt_of_le_of_lt (total_le_sum h hpod) (hfit.1 r)
      obtain ⟨v, hv, hright⟩ := hpods pod hpod
      cases (podRequestsIn_release pod).symm.trans hv
      exact ⟨_, (podRequestsIn_debug (h pod hpod)).mpr ⟨hone, rfl⟩, hright⟩
    · obtain ⟨v, hv, hright⟩ := hsum
      cases (sumRequestsIn_release pods).symm.trans hv
      exact ⟨_, (sumRequestsIn_debug h).mpr ⟨hfit, rfl⟩, hright⟩

/-- A pod with two containers and an init container. -/
def modestPod : Pod where
  containers := [{ requests := .ofList [("cpu", "100m"), ("memory", "64Mi")] },
    { requests := .ofList [("cpu", "200m")] }]
  initContainers := [{ requests := .ofList [("cpu", "1"), ("memory", "32Mi")] }]

/-- Two pods whose requests are far from overflowing. -/
theorem modest_right :
    RightRequests .release [modestPod, modestPod] ∧ RightRequests .debug [modestPod, modestPod] := by
  have hpos : ∀ pod ∈ [modestPod, modestPod], NonNegative pod := by decide +kernel
  have hfit : ∀ r, ([modestPod, modestPod].map (total r)).sum < 2 ^ 63 :=
    forall_resource.mpr (by decide +kernel)
  exact ⟨(requests_right_iff _ hpos).1.mpr (fun r => holds_of_fit hpos (hfit r)),
    (requests_right_iff _ hpos).2.mpr ⟨hfit, by decide⟩⟩

/-- A container that asks for as much memory as can be asked for. -/
def greedy : Container where
  requests := .ofList [("memory", "8Ei")]

/-- Two such containers wrap to less than nothing, which fits everywhere; so do
two pods with one each. A debug build panics. -/
theorem greedy_fits :
    asked .memory greedy.requests = 2 ^ 63 - 1 ∧
      NonNegative { containers := [greedy, greedy] } ∧
      (podRequests { containers := [greedy, greedy] }).memoryBytes.toInt = -2 ∧
      ({ pods := 1 } : ResourceAmounts).fits (podRequests { containers := [greedy, greedy] }) = true ∧
      ¬ RightRequests .release [{ containers := [greedy, greedy] }] ∧
      ¬ RightRequests .debug [{ containers := [greedy, greedy] }] ∧
      (sumRequests [{ containers := [greedy] }, { containers := [greedy] }]).memoryBytes.toInt
        = -2 := by
  refine ⟨by decide +kernel, by decide +kernel, by decide +kernel, by decide +kernel, ?_, ?_,
    by decide +kernel⟩
  · rintro ⟨_, v, hv, hright⟩
    cases (sumRequestsIn_release _).symm.trans hv
    have hpos := (hright .memory).nonneg
    exact absurd hpos (by decide +kernel)
  · rintro ⟨_, v, hv, _⟩
    have hpanic : sumRequestsIn .debug [{ containers := [greedy, greedy] }] = none := by
      decide +kernel
    cases hpanic.symm.trans hv

end HardwareAutoscaler
