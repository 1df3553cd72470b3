/-
  HardwareAutoscaler.Controller.Machine.BootWindow
  ────────────────────────────────────────────────
  WHAT COUNTS AS BOOT TIME.

  `trackBoot` is called once a reconcile, on a status whose readings and
  phase change as they like.  The clock of a boot is meant to count the time
  the machine was read On without its Node being Ready.  It counts more: it
  starts at the entry of the phase `PoweringOn`, when the machine may still
  have been off, and goes on through readings that are unknown.

    • `BootCall` — one call, and the phases set after it,
    • `OnSince` / `Window` — what a failure must rest on,
    • `not_again` — one failure for each boot, in every run,
    • `counted_call` / `counted_run` — where the clock stands,
    • `window_of_clockFromOn` — the runs in which the clock counts no more,
    • `window_missed` — two in which it does.
-/
import HardwareAutoscaler.Controller.Machine.Boots
import HardwareAutoscaler.Lib.Run

namespace HardwareAutoscaler

/-! ## §1. Runs of calls. -/

/-- What one call of `trackBoot` reads, and the phases set until the next. -/
structure BootCall where
  now : Int
  bootTimeout : UInt64 := 1200
  powerState : PowerState
  nodeReady : Bool := false
  standbySince : Option Int := none
  phases : List Phase := []

namespace BootCall

variable (c : BootCall) (st : NodePowerManagementConfigStatus)

/-- The status with the readings of the call. -/
def seen : NodePowerManagementConfigStatus :=
  { st with
    powerState := c.powerState
    nodeReady := c.nodeReady
    standbySince := c.standbySince }

/-- What the call does with the status, and returns. -/
def track : NodePowerManagementConfigStatus × BootEvent :=
  trackBoot (c.seen st) c.now c.bootTimeout

/-- The status after the call and the phases set after it. -/
def next : NodePowerManagementConfigStatus := c.phases.foldl (enterPhase c.now) (c.track st).1

/-- The machine is read On, its Node not Ready. -/
def OnNotReady : Prop := c.powerState = .on ∧ c.nodeReady = false

end BootCall

/-- The status before call `n`. -/
def bootState (st₀ : NodePowerManagementConfigStatus) (inp : Nat → BootCall) (n : Nat) :
    NodePowerManagementConfigStatus :=
  Lib.stateAt (fun st c => BootCall.next c st) st₀ inp n

/-- What call `n` returns. -/
def bootEvent (st₀ : NodePowerManagementConfigStatus) (inp : Nat → BootCall) (n : Nat) :
    BootEvent :=
  ((inp n).track (bootState st₀ inp n)).2

/-! ## §2. What a failure must rest on. -/

section Runs

variable (st₀ : NodePowerManagementConfigStatus) (inp : Nat → BootCall)

/-- From call `c` to call `n` the machine was read On, its Node not Ready. -/
def OnSince (c n : Nat) : Prop := ∀ j, c ≤ j → j ≤ n → (inp j).OnNotReady

/-- The boot time counted after call `n` is time since a reading of On. -/
def CountedFromOn (n : Nat) : Prop :=
  ∀ since, (bootState st₀ inp (n + 1)).poweredOnNotReadySince = some since →
    ∃ c, c ≤ n ∧ (inp c).now ≤ since ∧ OnSince inp c n

/-- **What is expected of call `n`**: it returns `Failed` only for a machine on
without a Ready Node for more than the timeout, once for each boot, and counts
no other time. -/
structure Window (n : Nat) : Prop where
  failed : bootEvent st₀ inp n = .failed → ∃ c, c ≤ n ∧
    seconds (inp n).bootTimeout.toNat < (inp n).now - (inp c).now ∧ OnSince inp c n
  again : ∀ m, m < n → bootEvent st₀ inp m = .failed → bootEvent st₀ inp n = .failed →
    ∃ j, m < j ∧ j < n ∧ ((inp j).powerState = .off ∨ (inp j).nodeReady = true)
  counted : CountedFromOn st₀ inp n

/-- Call `k` first sees a boot under way. -/
def FirstSeen (k : Nat) : Prop :=
  (inp k).nodeReady = false ∧ isBooting ((inp k).seen (bootState st₀ inp k)) = true ∧
    (bootState st₀ inp k).poweredOnNotReadySince = none

/-- **Call `k` leaves the clock on readings of On**: it does not read Unknown
while a boot is timed; and where it first sees a boot in phase `PoweringOn` or
`BootFailed`, the phase was entered with the machine already read On. -/
structure ClockFromOn (k : Nat) : Prop where
  known : (inp k).powerState = .unknown → (inp k).nodeReady = false →
    (bootState st₀ inp k).poweredOnNotReadySince = none
  entered : FirstSeen st₀ inp k →
    (bootState st₀ inp k).phase = .poweringOn ∨ (bootState st₀ inp k).phase = .bootFailed →
    ∀ t, (bootState st₀ inp k).phaseSince = some t →
      ∃ c, c ≤ k ∧ (inp c).now ≤ t ∧ OnSince inp c k

end Runs

/-! ## §3. One call. -/

/-- Setting phases touches nothing else. -/
theorem foldl_enterPhase (now : Int) (phases : List Phase) :
    ∀ {st : NodePowerManagementConfigStatus}, ∃ phase since,
      phases.foldl (enterPhase now) st = { st with phase := phase, phaseSince := since } := by
  induction phases with
  | nil => intro st; exact ⟨st.phase, st.phaseSince, rfl⟩
  | cons p phases ih =>
    intro st
    obtain ⟨phase, since, heq⟩ := @ih (enterPhase now st p)
    refine ⟨phase, since, ?_⟩
    show phases.foldl (enterPhase now) (enterPhase now st p) = _
    rw [heq]
    unfold enterPhase
    split <;> rfl

/-- A boot first seen starts now, or when its phase was entered. -/
theorem bootStart_cases (st : NodePowerManagementConfigStatus) (now : Int) :
    bootStart st now = now ∨ ((st.phase = .poweringOn ∨ st.phase = .bootFailed) ∧
      ∃ t, st.phaseSince = some t ∧ bootStart st now = min t now) := by
  have hentered : min (st.phaseSince.getD now) now = now ∨
      ∃ t, st.phaseSince = some t ∧ min (st.phaseSince.getD now) now = min t now := by
    cases hs : st.phaseSince with
    | none => exact Or.inl (Int.min_self now)
    | some t => exact Or.inr ⟨t, rfl, rfl⟩
  unfold bootStart
  cases hp : st.phase with
  | poweringOn =>
    rcases hentered with hnow | hthen
    · exact Or.inl hnow
    · exact Or.inr ⟨Or.inl rfl, hthen⟩
  | bootFailed =>
    rcases hentered with hnow | hthen
    · exact Or.inl hnow
    · exact Or.inr ⟨Or.inr rfl, hthen⟩
  | _ => exact Or.inl rfl

theorem bootStart_entered {st : NodePowerManagementConfigStatus} {now t : Int}
    (hphase : st.phase = .poweringOn ∨ st.phase = .bootFailed) (ht : st.phaseSince = some t) :
    bootStart st now = min t now := by
  unfold bootStart
  rcases hphase with hp | hp
  · rw [hp, ht]
    rfl
  · rw [hp, ht]
    rfl

section Call

variable {c : BootCall} {st : NodePowerManagementConfigStatus}

theorem next_since (c : BootCall) (st : NodePowerManagementConfigStatus) :
    (c.next st).poweredOnNotReadySince = (c.track st).1.poweredOnNotReadySince := by
  obtain ⟨phase, since, heq⟩ := @foldl_enterPhase c.now c.phases (c.track st).1
  unfold BootCall.next
  rw [heq]

theorem next_failureIsCurrent (c : BootCall) (st : NodePowerManagementConfigStatus) :
    failureIsCurrent (c.next st) = failureIsCurrent (c.track st).1 := by
  obtain ⟨phase, since, heq⟩ := @foldl_enterPhase c.now c.phases (c.track st).1
  unfold BootCall.next
  rw [heq]
  rfl

theorem onNotReady_of_isBooting (hready : c.nodeReady = false)
    (h : isBooting (c.seen st) = true) : c.OnNotReady := by
  unfold isBooting at h
  simp only [Bool.and_eq_true, beq_iff_eq] at h
  exact ⟨h.1.1, hready⟩

theorem track_booting (hready : c.nodeReady = false) (h : isBooting (c.seen st) = true) :
    (c.track st).1.poweredOnNotReadySince = some (bootSince (c.seen st) c.now) := by
  unfold BootCall.track
  rw [trackBoot_booting hready h]
  split <;> rfl

/-- **What a call does to the clock**: it clears it, leaves it, or reads it. -/
theorem track_cases (c : BootCall) (st : NodePowerManagementConfigStatus) :
    ((c.powerState = .off ∨ c.nodeReady = true) ∧
      (c.track st).1.poweredOnNotReadySince = none) ∨
    (c.nodeReady = false ∧ c.powerState ≠ .off ∧ c.track st = (c.seen st, .none)) ∨
    (c.nodeReady = false ∧ isBooting (c.seen st) = true ∧
      (c.track st).1.poweredOnNotReadySince = some (bootSince (c.seen st) c.now)) := by
  by_cases hready : c.nodeReady = true
  · exact Or.inl ⟨Or.inr hready, trackBoot_since_none (Or.inl hready)⟩
  have hready : c.nodeReady = false := by simpa using hready
  by_cases hoff : c.powerState = .off
  · exact Or.inl ⟨Or.inl hoff, trackBoot_since_none (Or.inr hoff)⟩
  · refine Or.inr ?_
    by_cases hbooting : isBooting (c.seen st) = true
    · exact Or.inr ⟨hready, hbooting, track_booting hready hbooting⟩
    · exact Or.inl ⟨hready, hoff, trackBoot_held hready hoff (by simpa using hbooting)⟩

/-- A call that fails has read a clock past the timeout. -/
theorem failed_late (h : (c.track st).2 = .failed) : ∃ since,
    (c.track st).1.poweredOnNotReadySince = some since ∧
      asI64 c.bootTimeout < numSeconds (c.now - since) := by
  have hready : (c.seen st).nodeReady = false := (trackBoot_failed h).1
  rcases track_cases c st with ⟨hdown, _⟩ | ⟨_, _, hidle⟩ | ⟨_, hbooting, hread⟩
  · rcases hdown with hoff | hup
    · have hon : c.powerState = .on := (trackBoot_failed h).2.1
      rw [hoff] at hon
      cases hon
    · have hready : c.nodeReady = false := hready
      rw [hready] at hup
      cases hup
  · rw [hidle] at h
    cases h
  · refine ⟨_, hread, ?_⟩
    have hnow : failsNow (c.seen st) c.now c.bootTimeout = true := by
      by_contra hnot
      unfold BootCall.track at h
      rw [trackBoot_booting hready hbooting, if_neg hnot] at h
      cases h
    unfold failsNow at hnow
    simp only [Bool.and_eq_true, decide_eq_true_eq] at hnow
    exact hnow.2

/-- A call leaves no clock that is ahead. -/
theorem track_since_le (hle : ∀ since, st.poweredOnNotReadySince = some since → since ≤ c.now) :
    ∀ since, (c.track st).1.poweredOnNotReadySince = some since → since ≤ c.now := by
  intro since hs
  rcases track_cases c st with ⟨_, hnone⟩ | ⟨_, _, hidle⟩ | ⟨_, _, hread⟩
  · rw [hnone] at hs
    cases hs
  · rw [hidle] at hs
    exact hle since hs
  · rw [hread] at hs
    cases hs
    unfold bootSince
    show st.poweredOnNotReadySince.getD (bootStart (c.seen st) c.now) ≤ c.now
    cases hs : st.poweredOnNotReadySince with
    | some since => exact hle since hs
    | none =>
      show bootStart (c.seen st) c.now ≤ c.now
      unfold bootStart
      split <;> omega

/-- A call that fails has the failure of the boot it read the clock of. -/
theorem failed_current (h : (c.track st).2 = .failed)
    (hle : ∀ since, (c.track st).1.poweredOnNotReadySince = some since → since ≤ c.now) :
    failureIsCurrent (c.track st).1 = true := by
  obtain ⟨since, hsince, _⟩ := failed_late h
  obtain ⟨_, _, hfailure⟩ := trackBoot_failed h
  exact failureIsCurrent_iff.mpr ⟨_, since, hfailure, hsince, hle since hsince⟩

/-- **A boot that has failed does not fail again** while the machine is neither
seen Off nor its Node Ready. -/
theorem current_kept (h : failureIsCurrent st = true) (hoff : c.powerState ≠ .off)
    (hready : c.nodeReady = false) :
    (c.track st).2 ≠ .failed ∧ failureIsCurrent (c.track st).1 = true := by
  by_cases hbooting : isBooting (c.seen st) = true
  · obtain ⟨f, since, hf, hs, hle⟩ := failureIsCurrent_iff.mp h
    have hsince : bootSince (c.seen st) c.now = since := by
      unfold bootSince
      show st.poweredOnNotReadySince.getD _ = since
      rw [hs]
      rfl
    have hold : failsNow (c.seen st) c.now c.bootTimeout = false := by
      unfold failsNow
      rw [hsince]
      show (st.bootFailure.all (fun f => since > f.time) && _) = false
      rw [hf, Option.all_some, decide_eq_false (by omega), Bool.false_and]
    unfold BootCall.track
    rw [trackBoot_booting hready hbooting, hold]
    refine ⟨by simp, failureIsCurrent_iff.mpr ⟨f, since, hf, ?_, hle⟩⟩
    show some (bootSince (c.seen st) c.now) = some since
    rw [hsince]
  · unfold BootCall.track
    rw [trackBoot_held hready hoff (by simpa using hbooting)]
    exact ⟨by simp, h⟩

end Call

/-! ## §4. Every run. -/

section Runs

variable {st₀ : NodePowerManagementConfigStatus} {inp : Nat → BootCall} {n : Nat}

theorem bootState_succ (n : Nat) :
    bootState st₀ inp (n + 1) = (inp n).next (bootState st₀ inp n) := rfl

/-- Times do not decrease over the first `n` calls. -/
theorem now_mono (hmono : ∀ k, k < n → (inp k).now ≤ (inp (k + 1)).now) :
    ∀ m k, m ≤ k → k ≤ n → (inp m).now ≤ (inp k).now := by
  intro m k
  induction k with
  | zero =>
    intro hm _
    rw [Nat.le_zero.mp hm]
  | succ k ih =>
    intro hm hk
    rcases Nat.lt_or_ge k m with hlt | hle
    · rw [show m = k + 1 from by omega]
    · have hprev := ih hle (by omega)
      have hnext := hmono k (by omega)
      omega

/-- No clock is ahead of the calls made. -/
theorem since_le (h₀ : st₀.poweredOnNotReadySince = none)
    (hmono : ∀ k, k < n → (inp k).now ≤ (inp (k + 1)).now) :
    ∀ k, k ≤ n → ∀ since, (bootState st₀ inp k).poweredOnNotReadySince = some since →
      since ≤ (inp k).now := by
  intro k
  induction k with
  | zero =>
    intro _ since hs
    have hs : st₀.poweredOnNotReadySince = some since := hs
    rw [h₀] at hs
    cases hs
  | succ k ih =>
    intro hk since hs
    have hnext := hmono k (by omega)
    rw [bootState_succ, next_since] at hs
    have hle := track_since_le (ih (by omega)) since hs
    omega

/-- **One failure for each boot**: between two there is a call that sees the
machine Off or its Node Ready, in every run. -/
theorem not_again (h₀ : st₀.poweredOnNotReadySince = none)
    (hmono : ∀ k, k < n → (inp k).now ≤ (inp (k + 1)).now) {m : Nat} (hm : m < n)
    (hfirst : bootEvent st₀ inp m = .failed) (hsecond : bootEvent st₀ inp n = .failed) :
    ∃ j, m < j ∧ j < n ∧ ((inp j).powerState = .off ∨ (inp j).nodeReady = true) := by
  by_contra hnone
  -- until then the failure stays that of the boot in progress
  have hkept : ∀ k, m < k → k ≤ n → failureIsCurrent (bootState st₀ inp k) = true := by
    intro k
    induction k with
    | zero => intro hk; omega
    | succ k ih =>
      intro hmk hk
      rw [bootState_succ, next_failureIsCurrent]
      rcases Nat.lt_or_ge m k with hlt | hge
      · have hoff : (inp k).powerState ≠ .off :=
          fun h => hnone ⟨k, hlt, by omega, Or.inl h⟩
        have hready : (inp k).nodeReady = false := by
          cases hr : (inp k).nodeReady with
          | false => rfl
          | true => exact absurd ⟨k, hlt, by omega, Or.inr hr⟩ hnone
        exact (current_kept (ih hlt (by omega)) hoff hready).2
      · have hkm : k = m := by omega
        rw [hkm]
        exact failed_current hfirst (track_since_le (since_le h₀ hmono m (by omega)))
  obtain ⟨hready, hon, _⟩ := trackBoot_failed hsecond
  have hon : (inp n).powerState = .on := hon
  exact (current_kept (hkept n hm (Nat.le_refl n)) (by rw [hon]; decide) hready).1 hsecond

/-- **One call keeps the clock on readings of On.** -/
theorem counted_call
    (hbefore : ∀ since, (bootState st₀ inp n).poweredOnNotReadySince = some since →
      ∃ c, c < n ∧ (inp c).now ≤ since ∧ ∀ j, c ≤ j → j < n → (inp j).OnNotReady)
    (hmono : ∀ k, k ≤ n → (inp k).now ≤ (inp n).now) (hclock : ClockFromOn st₀ inp n) :
    CountedFromOn st₀ inp n := by
  intro since hs
  rw [bootState_succ, next_since] at hs
  -- a clock that runs goes on as long as the machine is read On
  have hgoes : (inp n).OnNotReady → (bootState st₀ inp n).poweredOnNotReadySince = some since →
      ∃ c, c ≤ n ∧ (inp c).now ≤ since ∧ OnSince inp c n := by
    intro hon hsince
    obtain ⟨c, hc, hle, hall⟩ := hbefore since hsince
    refine ⟨c, by omega, hle, ?_⟩
    intro j hcj hj
    rcases Nat.lt_or_ge j n with hlt | hge
    · exact hall j hcj hlt
    · rw [show j = n from by omega]
      exact hon
  rcases track_cases (inp n) (bootState st₀ inp n) with ⟨_, hnone⟩ | ⟨hready, hoff, hidle⟩ |
    ⟨hready, hbooting, hread⟩
  · rw [hnone] at hs
    cases hs
  · rw [hidle] at hs
    have hs : (bootState st₀ inp n).poweredOnNotReadySince = some since := hs
    cases hp : (inp n).powerState with
    | on => exact hgoes ⟨hp, hready⟩ hs
    | off => exact absurd hp hoff
    | unknown =>
      rw [hclock.known hp hready] at hs
      cases hs
  · have hon := onNotReady_of_isBooting hready hbooting
    rw [hread] at hs
    cases hwas : (bootState st₀ inp n).poweredOnNotReadySince with
    | some since' =>
      have hsame : bootSince ((inp n).seen (bootState st₀ inp n)) (inp n).now = since' := by
        unfold bootSince
        show (bootState st₀ inp n).poweredOnNotReadySince.getD _ = since'
        rw [hwas]
        rfl
      rw [hsame] at hs
      exact hgoes hon (hwas.trans hs)
    | none =>
      have hstart : bootStart ((inp n).seen (bootState st₀ inp n)) (inp n).now = since := by
        unfold bootSince at hs
        have hs : some ((bootState st₀ inp n).poweredOnNotReadySince.getD _) = some since := hs
        rw [hwas] at hs
        exact Option.some.inj hs
      have hnow : OnSince inp n n := by
        intro j hj hj'
        rw [show j = n from by omega]
        exact hon
      rcases bootStart_cases ((inp n).seen (bootState st₀ inp n)) (inp n).now with
        hn | ⟨hphase, t, ht, hmin⟩
      · exact ⟨n, Nat.le_refl n, by omega, hnow⟩
      · obtain ⟨c, hc, hle, hall⟩ := hclock.entered ⟨hready, hbooting, hwas⟩ hphase t ht
        have hcn := hmono c hc
        exact ⟨c, hc, by omega, hall⟩

/-- **A run keeps the clock on readings of On.** -/
theorem counted_run (h₀ : st₀.poweredOnNotReadySince = none)
    (hmono : ∀ k, k < n → (inp k).now ≤ (inp (k + 1)).now)
    (hclock : ∀ k, k ≤ n → ClockFromOn st₀ inp k) :
    ∀ k, k ≤ n → CountedFromOn st₀ inp k := by
  intro k
  induction k with
  | zero =>
    intro _
    refine counted_call ?_ (fun m hm => now_mono hmono m 0 hm (by omega)) (hclock 0 (by omega))
    intro since hs
    have hs : st₀.poweredOnNotReadySince = some since := hs
    rw [h₀] at hs
    cases hs
  | succ k ih =>
    intro hk
    refine counted_call ?_ (fun m hm => now_mono hmono m (k + 1) hm hk) (hclock (k + 1) hk)
    intro since hs
    obtain ⟨c, hc, hle, hall⟩ := ih (by omega) since hs
    exact ⟨c, by omega, hle, fun j hcj hj => hall j hcj (by omega)⟩

/-- A clock on readings of On fails the machine only past the timeout. -/
theorem CountedFromOn.failed (h : CountedFromOn st₀ inp n)
    (htimeout : (inp n).bootTimeout.toNat < 2 ^ 63) (hfailed : bootEvent st₀ inp n = .failed) :
    ∃ c, c ≤ n ∧ seconds (inp n).bootTimeout.toNat < (inp n).now - (inp c).now ∧
      OnSince inp c n := by
  obtain ⟨since, hsince, hlate⟩ := failed_late hfailed
  rw [asI64_of_lt htimeout] at hlate
  have hlate := seconds_lt_of_lt_numSeconds hlate
  obtain ⟨c, hc, hle, hall⟩ := h since (by rw [bootState_succ, next_since]; exact hsince)
  exact ⟨c, hc, by omega, hall⟩

/-- **Nothing less will do**: a call after which only time since a reading of On
is counted has left the clock on such readings. -/
theorem CountedFromOn.clockFromOn (h : CountedFromOn st₀ inp n) : ClockFromOn st₀ inp n := by
  constructor
  · intro hunknown hready
    have hbooting : isBooting ((inp n).seen (bootState st₀ inp n)) = false := by
      unfold isBooting
      show ((inp n).powerState == .on && _ && _) = false
      rw [hunknown]
      rfl
    have hoff : (inp n).powerState ≠ .off := by
      rw [hunknown]
      decide
    have hidle : (inp n).track (bootState st₀ inp n) = ((inp n).seen (bootState st₀ inp n), .none) :=
      trackBoot_held hready hoff hbooting
    cases hs : (bootState st₀ inp n).poweredOnNotReadySince with
    | none => rfl
    | some since =>
      obtain ⟨c, hc, _, hall⟩ := h since (by rw [bootState_succ, next_since, hidle]; exact hs)
      have hon := (hall n hc (Nat.le_refl n)).1
      rw [hunknown] at hon
      cases hon
  · intro ⟨hready, hbooting, hnone⟩ hphase t ht
    have hread : (bootState st₀ inp (n + 1)).poweredOnNotReadySince
        = some (min t (inp n).now) := by
      rw [bootState_succ, next_since, track_booting hready hbooting]
      unfold bootSince
      show some ((bootState st₀ inp n).poweredOnNotReadySince.getD _) = _
      rw [hnone, Option.getD_none,
        @bootStart_entered ((inp n).seen (bootState st₀ inp n)) _ _ hphase ht]
    obtain ⟨c, hc, hle, hall⟩ := h _ hread
    exact ⟨c, hc, by omega, hall⟩

/-- **The clock of a boot counts what it is meant to** in every run whose
calls leave it on readings of On, with timeouts that are numbers of seconds as
`i64` too; and in no other. -/
theorem window_of_clockFromOn (st₀ : NodePowerManagementConfigStatus) (inp : Nat → BootCall)
    (n : Nat) (h₀ : st₀.poweredOnNotReadySince = none)
    (hmono : ∀ k, k < n → (inp k).now ≤ (inp (k + 1)).now) :
    ((∀ k, k ≤ n → (inp k).bootTimeout.toNat < 2 ^ 63 ∧ ClockFromOn st₀ inp k) →
      ∀ k, k ≤ n → Window st₀ inp k) ∧
    ((∀ k, k ≤ n → Window st₀ inp k) → ∀ k, k ≤ n → ClockFromOn st₀ inp k) := by
  refine ⟨?_, fun h k hk => (h k hk).counted.clockFromOn⟩
  intro hcond k hk
  have hcounted := counted_run h₀ hmono (fun j hj => (hcond j hj).2) k hk
  constructor
  · intro hfailed
    exact hcounted.failed (hcond k hk).1 hfailed
  · intro m hm hfirst hsecond
    exact not_again h₀ (fun j hj => hmono j (by omega)) hm hfirst hsecond
  · exact hcounted

end Runs

/-! ## §5. Three machines. -/

/-- Read On every 15 minutes, its Node never Ready. -/
def neverReady (n : Nat) : BootCall := { now := seconds (900 * n), powerState := .on }

theorem phase_neverReady (n : Nat) : (bootState {} neverReady n).phase = .unknown := by
  induction n with
  | zero => rfl
  | succ n ih =>
    obtain ⟨since, failure, heq⟩ := trackBoot_frame
      ((neverReady n).seen (bootState {} neverReady n)) (neverReady n).now
      (neverReady n).bootTimeout
    show (trackBoot ((neverReady n).seen (bootState {} neverReady n)) (neverReady n).now
      (neverReady n).bootTimeout).1.phase = .unknown
    rw [heq]
    exact ih

/-- Its boot fails at the third call, half an hour after the first. -/
theorem window_neverReady :
    bootEvent {} neverReady 2 = .failed ∧ ∀ k, k ≤ 2 → Window {} neverReady k := by
  refine ⟨by decide +kernel, (window_of_clockFromOn {} neverReady 2 rfl ?_).1 ?_⟩
  · intro k _
    show seconds (900 * k) ≤ seconds (900 * (k + 1 : Nat))
    unfold seconds
    omega
  · intro k _
    refine ⟨?_, ?_, ?_⟩
    · show (1200 : UInt64).toNat < 2 ^ 63
      decide
    · intro hunknown
      cases hunknown
    · intro _ hphase
      rw [phase_neverReady k] at hphase
      rcases hphase with h | h <;> cases h

/-- Powered on by the operator at 0; off for 25 minutes, then read On. -/
def slowPowerOn : Nat → BootCall
  | 0 => { now := 0, powerState := .off, phases := [.poweringOn] }
  | _ => { now := seconds 1500, powerState := .on }

/-- Read On, then not at all for 25 minutes, then On again. -/
def lostContact : Nat → BootCall
  | 0 => { now := 0, powerState := .on }
  | 1 => { now := seconds 1, powerState := .unknown }
  | _ => { now := seconds 1500, powerState := .on }

/-- **Both fail the moment they are read On**, though nobody knows of a minute
of boot before that. -/
theorem window_missed :
    ((∀ k, (slowPowerOn k).now ≤ (slowPowerOn (k + 1)).now) ∧
      bootEvent {} slowPowerOn 1 = .failed ∧ ¬ Window {} slowPowerOn 1) ∧
    ((∀ k, (lostContact k).now ≤ (lostContact (k + 1)).now) ∧
      bootEvent {} lostContact 2 = .failed ∧ ¬ Window {} lostContact 2) := by
  have hslow : bootEvent {} slowPowerOn 1 = .failed := by decide +kernel
  have hlost : bootEvent {} lostContact 2 = .failed := by decide +kernel
  -- the first run has one slow power-on, the second loses the interface in between
  refine ⟨⟨?_, hslow, ?_⟩, ?_, hlost, ?_⟩
  · intro k
    cases k with
    | zero => decide
    | succ k => exact Int.le_refl _
  · intro h
    obtain ⟨c, hc, hlate, hall⟩ := h.failed hslow
    cases c with
    | zero =>
      have hon := (hall 0 (Nat.le_refl 0) hc).1
      cases hon
    | succ c =>
      have hlate : seconds 1200 < seconds 1500 - seconds 1500 := hlate
      exact absurd hlate (by decide)
  · intro k
    match k with
    | 0 => decide
    | 1 => decide
    | _ + 2 => exact Int.le_refl _
  · intro h
    obtain ⟨c, hc, hlate, hall⟩ := h.failed hlost
    rcases Nat.lt_or_ge c 2 with hlt | hge
    · have hon := (hall 1 (by omega) (by omega)).1
      cases hon
    · obtain ⟨c, rfl⟩ := Nat.exists_eq_add_of_le' hge
      have hlate : seconds 1200 < seconds 1500 - seconds 1500 := hlate
      exact absurd hlate (by decide)

end HardwareAutoscaler
