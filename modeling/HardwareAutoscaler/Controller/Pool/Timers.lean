/-
  HardwareAutoscaler.Controller.Pool.Timers
  ─────────────────────────────────────────
  THE UNNEEDED TIMERS OVER THE CYCLES OF A POOL.

  A cycle reads `status.unneededSince`, carries over the timers of the
  members that are unneeded now and stores the result as a merge patch.  A
  timer is meant to say since when its member has been unneeded without a
  break.

    • `poolStep` — one cycle on the stored status,
    • `Since` / `since_step` — what a stored timer says, and one cycle of it,
    • `idle_since` — a machine powered off as unneeded was so for all of
      `unneededSeconds`, in runs whose cycles keep no stale timer,
    • `idle_since_fails` — a timer dropped while others stay is not removed by
      the merge patch: the member's busy cycle is forgotten.
-/
import HardwareAutoscaler.Controller.Pool.Reconcile
import HardwareAutoscaler.Controller.Pool.Status
import HardwareAutoscaler.Lib.Run

namespace HardwareAutoscaler

open Std (TreeMap)
open Lib (Json stateAt)
open Lib.Json (DistinctKeys)

/-! ## §1. Cycles. -/

/-- What one cycle reads besides the stored status: the pool (its status
aside), the stores, the clock and the answers of the API. -/
structure PoolInput where
  pool : NodeScalingPool
  cluster : Cluster
  times : String → BuildTimes
  preferredAt : Int
  now : Int
  api : PoolApi

/-- The pool as one cycle reads it. -/
def PoolInput.read (i : PoolInput) (stored : Json) : NodeScalingPool :=
  { i.pool with status := readStatus stored }

/-- The snapshot of one cycle. -/
def PoolInput.snapshot (i : PoolInput) (stored : Json) : PoolSnapshot :=
  HardwareAutoscaler.snapshot (i.read stored) i.cluster i.times i.now

/-- The cycle. -/
def PoolInput.reconcile (i : PoolInput) (stored : Json) : PoolCycle :=
  poolReconcile (i.read stored) i.cluster i.times i.preferredAt i.now i.api

/-- The stored status after a cycle. -/
def poolStep (stored : Json) (i : PoolInput) : Json :=
  match (i.reconcile stored).status with
  | some st => patchedStatus stored st
  | none => stored

/-- The stored status before cycle `n`, from an empty one. -/
def poolStored (inp : Nat → PoolInput) (n : Nat) : Json := stateAt poolStep .null inp n

theorem poolStored_succ (inp : Nat → PoolInput) (n : Nat) :
    poolStored inp (n + 1) = poolStep (poolStored inp n) (inp n) :=
  Lib.stateAt_succ n

/-- The snapshot of cycle `n`. -/
def poolSnapshot (inp : Nat → PoolInput) (n : Nat) : PoolSnapshot :=
  (inp n).snapshot (poolStored inp n)

/-! ## §2. Unneeded members. -/

namespace PoolSnapshot

/-- The member is an `Auto` online candidate with no blocking pods, outside
the drain-failure backoff, not waiting for device registration and below the
utilization threshold. -/
def isIdle (s : PoolSnapshot) (m : Member) : Bool :=
  m.auto && m.state == .online && m.blockingPods.isEmpty
    && m.drainFailedAt.all (fun t =>
        s.now - t ≥ seconds s.spec.scaleDown.drainFailureBackoffSeconds.toNat)
    && (waitingForRegistration m s.selected).isNone && !(util m).ge s.threshold

/-- The member named `x` is idle in this snapshot. -/
def Idle (s : PoolSnapshot) (x : String) : Prop := ∃ m ∈ s.members, m.name = x ∧ s.isIdle m = true

instance (s : PoolSnapshot) (x : String) : Decidable (s.Idle x) := by
  unfold Idle
  infer_instance

/-- The two settings the timers rest on are within `i64`, which the planner
casts them to. -/
structure SettingsFit (s : PoolSnapshot) : Prop where
  unneeded : s.spec.scaleDown.unneededSeconds.toNat < 2 ^ 63
  backoff : s.spec.scaleDown.drainFailureBackoffSeconds.toNat < 2 ^ 63

variable {s : PoolSnapshot}

/-- A setting that fits is the wait it says. -/
theorem unneededFor_eq (h : s.SettingsFit) :
    s.unneededFor = seconds s.spec.scaleDown.unneededSeconds.toNat := by
  unfold unneededFor
  rw [asI64_of_lt h.unneeded]

/-- A setting that fits is the wait it says. -/
theorem backoff_eq (h : s.SettingsFit) :
    s.backoff = seconds s.spec.scaleDown.drainFailureBackoffSeconds.toNat := by
  unfold backoff
  rw [asI64_of_lt h.backoff]

/-- **The planner finds a candidate unneeded exactly when it is idle.** -/
theorem downStatus_unneeded_iff (h : s.SettingsFit) {m : Member} (hm : m ∈ s.candidates) (t : Int) :
    s.downStatus m = .unneeded t ↔
      s.isIdle m = true ∧ t = s.unneededSince[m.name]?.getD s.now := by
  obtain ⟨_, hauto, hst⟩ := mem_candidates.mp hm
  unfold downStatus isIdle
  rw [hauto, hst, ← backoff_eq h]
  cases hw : waitingForRegistration m s.selected with
  | some note => simp
  | none =>
    by_cases hb : m.blockingPods.isEmpty = true
    · cases hd : m.drainFailedAt with
      | none =>
        by_cases hu : (util m).ge s.threshold = true
        · simp [hb, hu]
        · simp [hb, hu, eq_comm]
      | some d =>
        by_cases hlt : s.now - d < s.backoff
        · simp [hb, Option.filter_some, hlt]
        · by_cases hu : (util m).ge s.threshold = true
          · simp [hb, hu, Option.filter_some, hlt]
          · have hge : s.backoff ≤ s.now - d := by omega
            simp [hb, hu, Option.filter_some, hlt, hge, eq_comm]
    · simp [hb]

/-- An idle machine is a candidate. -/
theorem mem_candidates_of_isIdle {m : Member} (hm : m ∈ s.members) (h : s.isIdle m = true) :
    m ∈ s.candidates := by
  unfold isIdle at h
  simp only [Bool.and_eq_true, beq_iff_eq] at h
  exact mem_candidates.mpr ⟨hm, h.1.1.1.1.1, h.1.1.1.1.2⟩

/-- **The timers a plan keeps**: those of the idle members, carried over or
started now. -/
theorem newUnneededSince_iff (hd : s.DistinctMembers) (h : s.SettingsFit) (x : String) (t : Int) :
    s.newUnneededSince[x]? = some t ↔ s.Idle x ∧ t = s.unneededSince[x]?.getD s.now := by
  constructor
  · intro hx
    obtain ⟨m, hm, hname, hst⟩ := newUnneededSince_some hx
    obtain ⟨hidle, ht⟩ := (downStatus_unneeded_iff h hm t).mp hst
    rw [hname] at ht
    exact ⟨⟨m, (mem_candidates.mp hm).1, hname, hidle⟩, ht⟩
  -- an idle member is a candidate, and the only one of its name
  · rintro ⟨⟨m, hm, hname, hidle⟩, ht⟩
    have hcand := mem_candidates_of_isIdle hm hidle
    have hst : s.downStatus m = .unneeded t :=
      (downStatus_unneeded_iff h hcand t).mpr ⟨hidle, by rw [hname]; exact ht⟩
    unfold newUnneededSince
    apply Lib.insertAll_of_entry
    · exact ⟨m, hcand, by rw [hst, hname]⟩
    · intro m' hm' t' hentry
      split at hentry
      · rename_i since hsince
        simp only [Option.some.injEq, Prod.mk.injEq] at hentry
        have hsame : m' = m :=
          hd.eq_of_name (mem_candidates.mp hm').1 hm (hentry.1.trans hname.symm)
        rw [hsame, hst] at hsince
        rw [← hentry.2]
        exact (DownStatus.unneeded.inj hsince).symm
      · cases hentry

end PoolSnapshot

/-! ## §3. What a stored timer says. -/

/-- **The meaning of a timer** before cycle `n`: it was started by a cycle at
its time, and its member has been idle in every cycle since. -/
def Since (inp : Nat → PoolInput) (n : Nat) : Prop :=
  ∀ x t, timer (poolStored inp n) x = some t →
    ∃ k < n, (inp k).now = t ∧ ∀ j, k ≤ j → j < n → (poolSnapshot inp j).Idle x

/-- The cycle keeps no stale timer: every member with a stored timer is idle in
it, or no member is. -/
def KeepsNoStale (inp : Nat → PoolInput) (n : Nat) : Prop :=
  (∀ x t, timer (poolStored inp n) x = some t → (poolSnapshot inp n).Idle x) ∨
    ∀ x, ¬ (poolSnapshot inp n).Idle x

/-- The cycle stores its status. -/
def Stores (inp : Nat → PoolInput) (n : Nat) : Prop :=
  ((inp n).reconcile (poolStored inp n)).status.isSome = true

/-- An absent status holds no timers. -/
theorem unneededSince_readStatus (stored : Json) :
    ((readStatus stored).getD {}).unneededSince
      = (NodeScalingPoolStatus.ofJson stored).unneededSince := by
  cases stored with
  | null => rfl
  | _ => rfl

/-- The timers stored have distinct keys. -/
theorem timerFields_poolStored (inp : Nat → PoolInput) (n : Nat) :
    DistinctKeys (timerFields (poolStored inp n)) := by
  have hempty : DistinctKeys (timerFields .null) := List.nodup_nil
  have hstep : ∀ j < n, DistinctKeys (timerFields (poolStored inp j)) →
      DistinctKeys (timerFields (poolStep (poolStored inp j) (inp j))) := by
    intro j _ ih
    unfold poolStep
    split
    · exact timerFields_distinct ih _
    · exact ih
  exact Lib.stateAt_invariant (fun _ stored => DistinctKeys (timerFields stored)) hempty hstep n
    (Nat.le_refl n)

/-- The timers a plan is given are the stored ones. -/
theorem unneededSince_poolSnapshot (inp : Nat → PoolInput) (n : Nat) (x : String) :
    (poolSnapshot inp n).unneededSince[x]? = timer (poolStored inp n) x := by
  show ((readStatus (poolStored inp n)).getD {}).unneededSince[x]? = _
  rw [unneededSince_readStatus]
  exact unneededSince_ofJson (timerFields_poolStored inp n) x

/-- The stored timers after a cycle that stores its status. -/
theorem timer_poolStored_succ {inp : Nat → PoolInput} {n : Nat} (hs : Stores inp n) (x : String) :
    timer (poolStored inp (n + 1)) x
      = if (poolSnapshot inp n).newUnneededSince.isEmpty then none
        else ((poolSnapshot inp n).newUnneededSince[x]?).or (timer (poolStored inp n) x) := by
  unfold Stores at hs
  rw [poolStored_succ]
  unfold poolStep
  cases hst : ((inp n).reconcile (poolStored inp n)).status with
  | none => rw [hst] at hs; cases hs
  | some st =>
    have htimers : st.unneededSince = (poolSnapshot inp n).newUnneededSince := by
      unfold PoolInput.reconcile poolReconcile at hst
      simp only at hst
      split at hst
      · cases hst
        rfl
      · cases hst
    simp only
    rw [timer_patchedStatus (timerFields_poolStored inp n), htimers]

/-- **One cycle keeps the meaning of the timers.** -/
theorem since_step {inp : Nat → PoolInput} {n : Nat} (hfit : (poolSnapshot inp n).SettingsFit)
    (hs : Stores inp n) (hk : KeepsNoStale inp n) (ih : Since inp n) : Since inp (n + 1) := by
  have hd : (poolSnapshot inp n).DistinctMembers := snapshot_distinct _ _ _ _
  intro x t ht
  rw [timer_poolStored_succ hs] at ht
  split at ht
  · cases ht
  · rename_i hnonempty
    cases hnew : (poolSnapshot inp n).newUnneededSince[x]? with
    | some t' =>
      rw [hnew, Option.some_or, Option.some.injEq] at ht
      subst ht
      obtain ⟨hidle, hsince⟩ := (PoolSnapshot.newUnneededSince_iff hd hfit x t').mp hnew
      rw [unneededSince_poolSnapshot] at hsince
      cases hold : timer (poolStored inp n) x with
      | none =>
        -- the timer is started in this cycle
        rw [hold, Option.getD_none] at hsince
        refine ⟨n, by omega, hsince.symm, ?_⟩
        intro j hj hjn
        have : j = n := by omega
        rw [this]
        exact hidle
      | some t₀ =>
        rw [hold, Option.getD_some] at hsince
        obtain ⟨k, hkn, hnow, hall⟩ := ih x t₀ hold
        refine ⟨k, by omega, hnow.trans hsince.symm, ?_⟩
        intro j hkj hjn
        rcases Nat.lt_or_ge j n with hlt | hge
        · exact hall j hkj hlt
        · have : j = n := by omega
          rw [this]
          exact hidle
    | none =>
      -- a stored timer the plan left out: the condition excludes it
      rw [hnew, Option.none_or] at ht
      have hnot : ¬ (poolSnapshot inp n).Idle x := by
        intro hidle
        have hsome := (PoolSnapshot.newUnneededSince_iff hd hfit x _).mpr ⟨hidle, rfl⟩
        rw [hnew] at hsome
        cases hsome
      rcases hk with hk | hk
      · exact absurd (hk x t ht) hnot
      · exfalso
        apply hnonempty
        rw [TreeMap.isEmpty_iff_forall_not_mem]
        intro y hy
        obtain ⟨t', ht'⟩ := Option.isSome_iff_exists.mp (TreeMap.isSome_getElem?_iff_mem.mpr hy)
        exact hk y ((PoolSnapshot.newUnneededSince_iff hd hfit y t').mp ht').1

/-- What the timers say throughout a run. -/
theorem since_run {inp : Nat → PoolInput} {n : Nat}
    (hfit : ∀ j < n, (poolSnapshot inp j).SettingsFit) (hs : ∀ j < n, Stores inp j)
    (hk : ∀ j < n, KeepsNoStale inp j) : Since inp n := by
  induction n with
  | zero => intro x t ht; cases ht
  | succ n ih =>
    exact since_step (hfit n (by omega)) (hs n (by omega)) (hk n (by omega))
      (ih (fun j hj => hfit j (by omega)) (fun j hj => hs j (by omega))
        (fun j hj => hk j (by omega)))

/-! ## §4. Powered off as unneeded. -/

/-- The machine is powered off because it was unneeded: the pool is not above
`maxOnline` and the machine is not past a manual release time. -/
structure OffAsUnneeded (s : PoolSnapshot) (x : String) : Prop where
  off : x ∈ (plan s).powerOff.map (·.1)
  notOver : s.overMax = 0
  notReleased : ∀ m ∈ s.members, m.name = x → ∀ t, m.releaseAfter = some t → s.now < t

/-- A machine powered off as unneeded has a timer older than
`unneededSeconds`. -/
theorem timer_of_offAsUnneeded {s : PoolSnapshot} (hfit : s.SettingsFit) {x : String}
    (h : OffAsUnneeded s x) :
    ∃ t, s.newUnneededSince[x]? = some t ∧
      s.now - t ≥ seconds s.spec.scaleDown.unneededSeconds.toNat := by
  obtain ⟨_, m, hm, hname, _⟩ := PoolSnapshot.mem_powerOff (List.mem_toFinset.mpr h.off)
  obtain ⟨hcand, helig⟩ := PoolSnapshot.mem_eligible.mp hm
  have hnotrel : s.released m = false := by
    unfold PoolSnapshot.released
    cases hr : m.releaseAfter with
    | none => rfl
    | some t =>
      have hlt := h.notReleased m (PoolSnapshot.mem_candidates.mp hcand).1 hname t hr
      have hnot : ¬ s.now ≥ t := by omega
      simp [hnot]
  unfold PoolSnapshot.isEligible at helig
  rw [h.notOver, hnotrel] at helig
  have hexp : s.expired m = true := by simpa using helig
  unfold PoolSnapshot.expired at hexp
  rw [Option.any_eq_true, hname] at hexp
  obtain ⟨t, ht, hage⟩ := hexp
  rw [← PoolSnapshot.unneededFor_eq hfit]
  exact ⟨t, ht, by simpa using hage⟩

/-- **A machine powered off as unneeded was idle in every cycle of the last
`unneededSeconds`**, in a run whose cycles store their status and keep no
stale timer. -/
theorem idle_since (inp : Nat → PoolInput) (n : Nat) (x : String)
    (hstores : ∀ j < n, Stores inp j) (hfit : ∀ j ≤ n, (poolSnapshot inp j).SettingsFit)
    (hkeeps : ∀ j < n, KeepsNoStale inp j) (hoff : OffAsUnneeded (poolSnapshot inp n) x) :
    ∃ k ≤ n, (inp k).now ≤ (inp n).now
        - seconds (poolSnapshot inp n).spec.scaleDown.unneededSeconds.toNat ∧
      ∀ j, k ≤ j → j ≤ n → (poolSnapshot inp j).Idle x := by
  have hd : (poolSnapshot inp n).DistinctMembers := snapshot_distinct _ _ _ _
  have hsince : Since inp n :=
    since_run (fun j hj => hfit j (by omega)) hstores hkeeps
  obtain ⟨t, ht, hage⟩ := timer_of_offAsUnneeded (hfit n (Nat.le_refl n)) hoff
  obtain ⟨hidle, htimer⟩ :=
    (PoolSnapshot.newUnneededSince_iff hd (hfit n (Nat.le_refl n)) x t).mp ht
  rw [unneededSince_poolSnapshot] at htimer
  have hage : (inp n).now - t
      ≥ seconds (poolSnapshot inp n).spec.scaleDown.unneededSeconds.toNat := hage
  cases hold : timer (poolStored inp n) x with
  | none =>
    -- the timer is of this cycle, so `unneededSeconds` is zero
    rw [hold, Option.getD_none] at htimer
    have htimer : t = (inp n).now := htimer
    refine ⟨n, Nat.le_refl n, by omega, ?_⟩
    intro j hj hjn
    have : j = n := by omega
    rw [this]
    exact hidle
  | some t₀ =>
    -- the timer is older: the invariant has the cycles up to this one
    rw [hold, Option.getD_some] at htimer
    subst htimer
    obtain ⟨k, hkn, hnow, hall⟩ := hsince x t hold
    refine ⟨k, by omega, by omega, ?_⟩
    intro j hkj hjn
    rcases Nat.lt_or_ge j n with hlt | hge
    · exact hall j hkj hlt
    · have : j = n := by omega
      rw [this]
      exact hidle

/-! ## §5. A busy cycle that is forgotten. -/

/-- A pod without a controller: it blocks the drain. -/
def barePod : Pod where
  «namespace» := "default"
  name := "notebook"
  nodeName := some "m2"

/-- A pool with the default settings. -/
def plainPool : NodeScalingPool where
  name := "a"
  spec := { nodeSelector := { matchLabels := (∅ : TreeMap String String).insert "pool" "x" } }

theorem plainPool_distinct : ([plainPool].map (·.name)).Nodup := List.nodup_singleton _

theorem pairNames_distinct : ["m1", "m2"].Nodup := by decide

/-- The two machines of the pool; `m2` runs a bare pod when `busy`. -/
def idlePair (busy : Bool) : Cluster where
  nodes := ["m1", "m2"].map (fun n =>
    { name := n, labels := (∅ : TreeMap String String).insert "pool" "x" })
  pods := if busy then [barePod] else []
  configs := ["m1", "m2"].map (fun n =>
    { name := n
      spec := { nodeName := n, powerInterfaces := [] }
      status := some { phase := .on, nodeReady := true } })
  pools := [plainPool]
  nodes_distinct := pairNames_distinct
  configs_distinct := pairNames_distinct
  pools_distinct := plainPool_distinct

/-- A cycle every five minutes; `m2` is busy in cycle 1 when `blip`. -/
def pairRun (blip : Bool) (n : Nat) : PoolInput where
  pool := plainPool
  cluster := idlePair (blip && n == 1)
  times := fun _ => ⟨seconds (300 * n), seconds (300 * n), seconds (300 * n)⟩
  preferredAt := seconds (300 * n)
  now := seconds (300 * n)
  api := { decideAt := fun _ => seconds (300 * n) }

/-- `m2` is powered off in cycle 2, by a timer of ten minutes: with and
without the busy cycle. -/
theorem offAsUnneeded_pairRun (blip : Bool) :
    OffAsUnneeded (poolSnapshot (pairRun blip) 2) "m2" := by
  have hnone : ∀ m ∈ (poolSnapshot (pairRun blip) 2).members, m.releaseAfter = none := by
    cases blip <;> decide +kernel
  refine ⟨?_, ?_, ?_⟩
  · cases blip <;> decide +kernel
  · cases blip <;> decide +kernel
  · intro m hm _ t ht
    rw [hnone m hm] at ht
    cases ht

theorem settingsFit_pairRun (blip : Bool) (n : Nat) :
    (poolSnapshot (pairRun blip) n).SettingsFit :=
  ⟨by show (600 : UInt64).toNat < 2 ^ 63; decide, by show (1800 : UInt64).toNat < 2 ^ 63; decide⟩

/-- A cycle in which all names with a stored timer are idle keeps no stale
timer. -/
theorem keepsNoStale_of_keys {inp : Nat → PoolInput} {n : Nat}
    (h : ∀ p ∈ timerFields (poolStored inp n), (poolSnapshot inp n).Idle p.1) :
    KeepsNoStale inp n := by
  left
  intro x t ht
  unfold timer at ht
  obtain ⟨v, hv, _⟩ := Option.bind_eq_some_iff.mp ht
  exact h (x, v) (Lib.Json.mem_of_lookup hv)

theorem stores_pairRun (blip : Bool) : ∀ j < 2, Stores (pairRun blip) j := by
  unfold Stores
  cases blip <;> decide +kernel

/-- Without the busy cycle `m2` was idle all along. -/
theorem idle_since_pairRun :
    ∃ k ≤ 2, (pairRun false k).now ≤ (pairRun false 2).now
      - seconds (poolSnapshot (pairRun false) 2).spec.scaleDown.unneededSeconds.toNat ∧
    ∀ j, k ≤ j → j ≤ 2 → (poolSnapshot (pairRun false) j).Idle "m2" := by
  have hkeys : ∀ j < 2, ∀ p ∈ timerFields (poolStored (pairRun false) j),
      (poolSnapshot (pairRun false) j).Idle p.1 := by decide +kernel
  exact idle_since _ 2 "m2" (stores_pairRun false) (fun j _ => settingsFit_pairRun false j)
    (fun j hj => keepsNoStale_of_keys (hkeys j hj)) (offAsUnneeded_pairRun false)

/-- **The busy cycle of `m2` is forgotten**: its timer, left out while that of
`m1` stays, is still stored, and cycle 2 powers `m2` off although no stretch of
idle cycles reaches ten minutes back. -/
theorem idle_since_fails :
    (∀ j < 2, Stores (pairRun true) j) ∧ OffAsUnneeded (poolSnapshot (pairRun true) 2) "m2" ∧
    ¬ ∃ k ≤ 2, (pairRun true k).now ≤ (pairRun true 2).now
          - seconds (poolSnapshot (pairRun true) 2).spec.scaleDown.unneededSeconds.toNat ∧
        ∀ j, k ≤ j → j ≤ 2 → (poolSnapshot (pairRun true) j).Idle "m2" := by
  refine ⟨stores_pairRun true, offAsUnneeded_pairRun true, ?_⟩
  rintro ⟨k, hk, hnow, hall⟩
  have hbusy : ¬ (poolSnapshot (pairRun true) 1).Idle "m2" := by decide +kernel
  have hnow : seconds (300 * k) ≤ seconds (300 * 2) - seconds 600 := hnow
  have hk0 : k = 0 := by
    unfold seconds at hnow
    omega
  exact hbusy (hall 1 (by omega) (by omega))

end HardwareAutoscaler
