/-
  HardwareAutoscaler.Scaling.Steady
  ─────────────────────────────────
  THE TEXT OF A PLAN WHILE ONLY TIME PASSES.

  A plan explains itself twice: the stable text goes into the status and
  changes only when the situation does, the live text may count seconds.
  Two snapshots that differ in the time alone, with the same outcome of every
  comparison with it, have plans with the same stable text.

    • `SameOutcomes`, `SameText` — the comparisons, and what has to agree,
    • `scaledUp_atTime` — both scale-up loops,
    • `downStatus_atTime`, `downNote_atTime` — what is found about a candidate,
    • `blockedReason_atTime` — what holds the pool's scale-down,
    • `scaledDown_atTime` — the removal loop,
    • `plan_sameText` — the whole plan.
-/
import HardwareAutoscaler.Scaling.Removal

namespace HardwareAutoscaler

open Std (TreeMap TreeSet)
open Lib (insertAll insertAll_congr_entry insertAll_map_congr)

/-! ## §1. What has to agree. -/

/-- A decision without the reason for the log. -/
def PlannedDecision.stable (d : PlannedDecision) :
    DecisionAction × Option String × String × String :=
  (d.action, d.node, d.reason, d.candidates)

/-- **Two plans with one text**: everything but the live renderings. -/
structure SameText (p q : Plan) : Prop where
  message : p.message = q.message
  details : p.details = q.details
  needed : p.needed = q.needed
  releasable : p.releasable = q.releasable
  unneededSince : p.unneededSince = q.unneededSince
  decisions : p.decisions.map PlannedDecision.stable = q.decisions.map PlannedDecision.stable

namespace PoolSnapshot

/-- The snapshot read at the time `t`, all else alike. -/
def atTime (s : PoolSnapshot) (t : Int) : PoolSnapshot := { s with now := t }

/-- **Every comparison with the time** comes out at `t` as it does at `s.now`. -/
structure SameOutcomes (s : PoolSnapshot) (t : Int) : Prop where
  grace : ∀ p ∈ s.pending, ∀ c, p.created = some c →
    (s.now - c ≥ seconds (asI64 s.spec.scaleUp.pendingPodGraceSeconds) ↔
      t - c ≥ seconds (asI64 s.spec.scaleUp.pendingPodGraceSeconds))
  backoff : ∀ m ∈ s.candidates, waitingForRegistration m s.selected = none →
    m.blockingPods = [] → ∀ f, m.drainFailedAt = some f →
      (s.now - f < s.backoff ↔ t - f < s.backoff)
  unneeded : ∀ m ∈ s.candidates, ∀ since, s.downStatus m = .unneeded since →
    (s.now - since ≥ s.unneededFor ↔ t - since ≥ s.unneededFor)
  hold : ∀ l, s.lastPowerOn = some l →
    (s.now < l + seconds (asI64 s.spec.scaleDown.holdAfterPowerOn) ↔
      t < l + seconds (asI64 s.spec.scaleDown.holdAfterPowerOn))
  release : ∀ m ∈ s.candidates, s.expired m = false → ∀ r, m.releaseAfter = some r →
    (s.now ≥ r ↔ t ≥ r)

/-- Every unneeded candidate has its timer recorded already. -/
def TimersRecorded (s : PoolSnapshot) : Prop :=
  ∀ m ∈ s.candidates, ∀ since, s.downStatus m = .unneeded since →
    (s.unneededSince[m.name]?).isSome = true

variable {s : PoolSnapshot} {t : Int}

/-! ## §2. Scale-up. -/

/-- Pods past their grace are so at both times. -/
theorem selected_atTime (h : s.SameOutcomes t) : (s.atTime t).selected = s.selected := by
  unfold selected
  congr 1
  apply List.filter_congr
  intro p hp
  cases hc : p.created with
  | none => rfl
  | some c => exact decide_eq_decide.mpr (h.grace p hp c hc).symm

/-- The same pods are relevant. -/
theorem relevant_atTime (h : s.SameOutcomes t) : (s.atTime t).relevant = s.relevant := by
  unfold relevant
  rw [selected_atTime h]
  rfl

/-- The loops themselves do not look at the time. -/
theorem fillMinOnline_atTime (l : List Member) :
    ∀ st : UpState, (s.atTime t).fillMinOnline st l = s.fillMinOnline st l := by
  induction l with
  | nil => intro st; rfl
  | cons m rest ih =>
    intro st
    unfold fillMinOnline
    simp only [ih]
    rfl

/-- Both scale-up loops do the same. -/
theorem scaledUp_atTime (h : s.SameOutcomes t) : (s.atTime t).scaledUp = s.scaledUp := by
  have hpack : (s.atTime t).packPending = s.packPending := by
    unfold packPending
    rw [relevant_atTime h]
    rfl
  unfold scaledUp
  rw [hpack, fillMinOnline_atTime]

/-- The same machines are powered on. -/
theorem powerOn_atTime (h : s.SameOutcomes t) : (s.atTime t).powerOn = s.powerOn := by
  unfold powerOn
  rw [scaledUp_atTime h]

/-! ## §3. The candidates. -/

/-- The candidates do not depend on the time. -/
theorem candidates_atTime : (s.atTime t).candidates = s.candidates := rfl

/-- A candidate has the same status at both times. -/
theorem downStatus_atTime (h : s.SameOutcomes t) (hrec : s.TimersRecorded) {m : Member}
    (hm : m ∈ s.candidates) : (s.atTime t).downStatus m = s.downStatus m := by
  have hrecorded := hrec m hm
  unfold downStatus at hrecorded ⊢
  rw [selected_atTime h]
  cases hwait : waitingForRegistration m s.selected with
  | some note => rfl
  | none =>
    simp only [hwait] at hrecorded
    by_cases hblock : m.blockingPods = []
    · have hdrain : m.drainFailedAt.filter (fun f => (s.atTime t).now - f < (s.atTime t).backoff)
          = m.drainFailedAt.filter (fun f => s.now - f < s.backoff) := by
        cases hf : m.drainFailedAt with
        | none => rfl
        | some f =>
          have hsame : decide (t - f < s.backoff) = decide (s.now - f < s.backoff) :=
            decide_eq_decide.mpr (h.backoff m hm hwait hblock f hf).symm
          exact congrArg (fun b => if b = true then some f else none) hsame
      simp only [hblock, hdrain, List.isEmpty_nil, Bool.not_true, Bool.false_eq_true, if_false]
        at hrecorded ⊢
      cases hfilter : m.drainFailedAt.filter (fun f => decide (s.now - f < s.backoff)) with
      | some f => rfl
      | none =>
        simp only [hfilter] at hrecorded
        by_cases hbusy : (util m).ge s.threshold = true
        · simp only [hbusy, if_true]
          exact if_pos hbusy
        · -- the time is read only where no timer is recorded
          rw [if_neg hbusy] at hrecorded ⊢
          obtain ⟨since, hsince⟩ := Option.isSome_iff_exists.mp (hrecorded _ rfl)
          have hsince' : (s.atTime t).unneededSince[m.name]? = some since := hsince
          rw [hsince', hsince]
          exact if_neg hbusy
    · have hne : m.blockingPods.isEmpty = false := by
        rw [List.isEmpty_eq_false_iff]
        exact hblock
      simp only [hne, Bool.not_false, if_true]

/-- The timers stay. -/
theorem newUnneededSince_atTime (h : s.SameOutcomes t) (hrec : s.TimersRecorded) :
    (s.atTime t).newUnneededSince = s.newUnneededSince := by
  unfold newUnneededSince
  apply insertAll_congr_entry
  intro m hm
  rw [downStatus_atTime h hrec hm]

theorem waitingNotes_atTime (h : s.SameOutcomes t) (hrec : s.TimersRecorded) :
    (s.atTime t).waitingNotes = s.waitingNotes := by
  unfold waitingNotes
  apply List.filterMap_congr
  intro m hm
  rw [downStatus_atTime h hrec hm]

/-- The stable text of a note stays. -/
theorem downNote_atTime (h : s.SameOutcomes t) (hrec : s.TimersRecorded) {m : Member}
    (hm : m ∈ s.candidates) : ((s.atTime t).downNote m).stable = (s.downNote m).stable := by
  unfold downNote
  rw [downStatus_atTime h hrec hm]
  cases hst : s.downStatus m with
  | waiting note => rfl
  | blocked => rfl
  | drainFailed f => rfl
  | busy => rfl
  | unneeded since =>
    -- which of the two notes it is hangs on the period alone
    by_cases hlong : s.now - since ≥ s.unneededFor
    · have hlong' : (s.atTime t).now - since ≥ (s.atTime t).unneededFor :=
        (h.unneeded m hm since hst).mp hlong
      simp only [hlong, hlong', if_true]
    · have hlong' : ¬ (s.atTime t).now - since ≥ (s.atTime t).unneededFor :=
        fun hl => hlong ((h.unneeded m hm since hst).mpr hl)
      simp only [hlong, hlong', if_false]
      rfl

theorem downNotes_atTime (h : s.SameOutcomes t) (hrec : s.TimersRecorded) (name : String) :
    (s.atTime t).downNotes[name]?.map (·.stable) = s.downNotes[name]?.map (·.stable) := by
  unfold downNotes
  apply insertAll_map_congr rfl
  intro m hm
  exact downNote_atTime h hrec hm

theorem downText_atTime (h : s.SameOutcomes t) (hrec : s.TimersRecorded) (name : String) :
    (s.atTime t).downText false name = s.downText false name := by
  unfold downText
  exact congrArg (fun o => Option.getD o "") (downNotes_atTime h hrec name)

/-- A timer runs out at both times or at neither. -/
theorem expired_atTime (h : s.SameOutcomes t) (hrec : s.TimersRecorded) (m : Member) :
    (s.atTime t).expired m = s.expired m := by
  unfold expired
  rw [newUnneededSince_atTime h hrec]
  cases hsince : s.newUnneededSince[m.name]? with
  | none => rfl
  | some since =>
    -- the timer is that of a candidate with this name
    obtain ⟨m', hm', _, hst⟩ := newUnneededSince_some hsince
    exact decide_eq_decide.mpr (h.unneeded m' hm' since hst).symm

theorem released_atTime (h : s.SameOutcomes t) {m : Member} (hm : m ∈ s.candidates)
    (hexp : s.expired m = false) : (s.atTime t).released m = s.released m := by
  unfold released
  congr 1
  cases hr : m.releaseAfter with
  | none => rfl
  | some r => exact decide_eq_decide.mpr (h.release m hm hexp r hr).symm

/-! ## §4. What holds the pool. -/

/-- The end of the hold stays. -/
theorem holdUntil_atTime (h : s.SameOutcomes t) : (s.atTime t).holdUntil = s.holdUntil := by
  unfold holdUntil
  have hlast : (s.atTime t).lastPowerOn = s.lastPowerOn := rfl
  rw [hlast]
  cases hl : s.lastPowerOn with
  | none => rfl
  | some l =>
    have hsame : decide (t < l + seconds (asI64 s.spec.scaleDown.holdAfterPowerOn))
        = decide (s.now < l + seconds (asI64 s.spec.scaleDown.holdAfterPowerOn)) :=
      decide_eq_decide.mpr (h.hold l hl).symm
    exact congrArg (fun b => if b = true then
      some (l + seconds (asI64 s.spec.scaleDown.holdAfterPowerOn)) else none) hsame

/-- The seconds left are in the live text only. -/
theorem blockedReason_atTime (h : s.SameOutcomes t) :
    (s.atTime t).blockedReason.map (·.stable) = s.blockedReason.map (·.stable) := by
  unfold blockedReason
  rw [powerOn_atTime h, relevant_atTime h, holdUntil_atTime h]
  have hover : (s.atTime t).overMax = s.overMax := rfl
  have hspec : (s.atTime t).spec = s.spec := rfl
  have hbooting : (s.atTime t).booting = s.booting := rfl
  rw [hover, hspec, hbooting]
  split
  · rfl
  · split
    · rfl
    · split
      · rfl
      · split
        · rfl
        · split
          · rfl
          · rw [Option.map_map, Option.map_map]
            rfl

/-- The pool is held at both times or at neither. -/
theorem blockedReason_isNone_atTime (h : s.SameOutcomes t) :
    (s.atTime t).blockedReason.isNone = s.blockedReason.isNone := by
  have hmap := congrArg Option.isNone (blockedReason_atTime h)
  simpa only [Option.isNone_map] using hmap

/-- Nothing holds the pool at either time, or two reasons with one stable text. -/
theorem blockedReason_cases (h : s.SameOutcomes t) :
    ((s.atTime t).blockedReason = none ∧ s.blockedReason = none) ∨
    ∃ r' r, (s.atTime t).blockedReason = some r' ∧ s.blockedReason = some r ∧
      r'.stable = r.stable := by
  have hmap := blockedReason_atTime h
  cases hr : s.blockedReason with
  | none =>
    rw [hr] at hmap
    exact Or.inl ⟨Option.map_eq_none_iff.mp hmap, rfl⟩
  | some r =>
    rw [hr] at hmap
    obtain ⟨r', hr', hstable⟩ := Option.map_eq_some_iff.mp hmap
    exact Or.inr ⟨r', r, hr', rfl, hstable⟩

/-! ## §5. The removal loop. -/

/-- A candidate is eligible at both times or at neither. -/
theorem isEligible_atTime (h : s.SameOutcomes t) (hrec : s.TimersRecorded) {m : Member}
    (hm : m ∈ s.candidates) : (s.atTime t).isEligible m = s.isEligible m := by
  unfold isEligible
  rw [expired_atTime h hrec]
  cases hexp : s.expired m with
  | true => simp only [Bool.or_true, Bool.true_or]
  | false =>
    rw [released_atTime h hm hexp]
    rfl

/-- The same machines are eligible. -/
theorem eligible_atTime (h : s.SameOutcomes t) (hrec : s.TimersRecorded) :
    (s.atTime t).eligible = s.eligible := by
  unfold eligible
  apply List.filter_congr
  intro m hm
  exact isEligible_atTime h hrec hm

theorem offWhy_atTime (h : s.SameOutcomes t) (hrec : s.TimersRecorded) {m : Member}
    (hm : m ∈ s.candidates) : (s.atTime t).offWhy m = s.offWhy m := by
  unfold offWhy
  rw [expired_atTime h hrec]
  cases hexp : s.expired m with
  | true =>
    simp only [Bool.not_true, Bool.and_false]
    rfl
  | false =>
    rw [released_atTime h hm hexp]
    rfl

theorem offReason_atTime (h : s.SameOutcomes t) (hrec : s.TimersRecorded) {m : Member}
    (hm : m ∈ s.candidates) (removed : TreeSet String) (rest : List Member) :
    (s.atTime t).offReason removed m rest = s.offReason removed m rest := by
  unfold offReason
  rw [offWhy_atTime h hrec hm]
  rfl

theorem removeStep_atTime (h : s.SameOutcomes t) (hrec : s.TimersRecorded) {m : Member}
    (hm : m ∈ s.candidates) (st : DownState) (rest : List Member) :
    (s.atTime t).removeStep st m rest = s.removeStep st m rest := by
  unfold removeStep
  simp only [offReason_atTime h hrec hm]
  rfl

/-- The removal loop does the same. -/
theorem removeLoop_atTime (h : s.SameOutcomes t) (hrec : s.TimersRecorded) (l : List Member) :
    ∀ st : DownState, (∀ m ∈ l, m ∈ s.candidates) →
      (s.atTime t).removeLoop st l = s.removeLoop st l := by
  induction l with
  | nil => intro st _; rfl
  | cons m rest ih =>
    intro st hl
    unfold removeLoop
    rw [removeStep_atTime h hrec (hl m List.mem_cons_self)]
    exact ih _ (fun o ho => hl o (List.mem_cons_of_mem _ ho))

theorem scaledDown_atTime (h : s.SameOutcomes t) (hrec : s.TimersRecorded) :
    (s.atTime t).scaledDown = s.scaledDown := by
  have hmay : (s.atTime t).mayScaleDown = s.mayScaleDown := by
    unfold mayScaleDown
    rw [blockedReason_isNone_atTime h]
    rfl
  have hloop := removeLoop_atTime h hrec s.eligible { free := s.freeAtStart }
    (fun m hm => (List.mem_filter.mp hm).1)
  unfold scaledDown
  rw [hmay, eligible_atTime h hrec, blockedReason_isNone_atTime h, ← hloop]
  rfl

/-- The same machines are powered off, for the same reasons. -/
theorem powerOff_atTime (h : s.SameOutcomes t) (hrec : s.TimersRecorded) :
    (s.atTime t).powerOff = s.powerOff := by
  unfold powerOff
  rw [scaledDown_atTime h hrec]

/-! ## §6. The text. -/

/-- What is said to other pools stays. -/
theorem held_atTime (h : s.SameOutcomes t) (hrec : s.TimersRecorded) {m : Member}
    (hm : m ∈ s.candidates) : (s.atTime t).held m = s.held m := by
  have hyoung : (!(s.atTime t).expired m && !(s.atTime t).released m)
      = (!s.expired m && !s.released m) := by
    rw [expired_atTime h hrec]
    cases hexp : s.expired m with
    | true => rfl
    | false => rw [released_atTime h hm hexp]
  unfold held
  rw [hyoung, downNotes_atTime h hrec]
  obtain ⟨hr', hr⟩ | ⟨r', r, hr', hr, hstable⟩ := blockedReason_cases h
  · rw [hr', hr]
    rfl
  · rw [hr', hr]
    simp only [hstable]

theorem releasable_atTime (h : s.SameOutcomes t) (hrec : s.TimersRecorded) :
    (s.atTime t).releasable = s.releasable := by
  unfold releasable
  have hfilter : s.candidates.filter (fun m => ((s.atTime t).held m).isNone)
      = s.candidates.filter (fun m => (s.held m).isNone) := by
    apply List.filter_congr
    intro m hm
    rw [held_atTime h hrec hm]
  rw [← hfilter]
  rfl

theorem needed_atTime (h : s.SameOutcomes t) (hrec : s.TimersRecorded) :
    (s.atTime t).needed = s.needed := by
  unfold needed
  have hheld : insertAll (fun m => ((s.atTime t).held m).map (fun why => (m.name, why))) ∅
        s.candidates
      = insertAll (fun m => (s.held m).map (fun why => (m.name, why))) ∅ s.candidates := by
    apply insertAll_congr_entry
    intro m hm
    rw [held_atTime h hrec hm]
  rw [← hheld]
  rfl

theorem message_atTime (h : s.SameOutcomes t) (hrec : s.TimersRecorded) :
    (s.atTime t).message = s.message := by
  unfold message
  rw [newUnneededSince_atTime h hrec, powerOn_atTime h, powerOff_atTime h hrec]
  obtain ⟨hr', hr⟩ | ⟨r', r, hr', hr, hstable⟩ := blockedReason_cases h
  · rw [hr', hr]
  · rw [hr', hr]
    cases s.powerOn.length with
    | zero =>
      cases s.powerOff.length with
      | zero => simp only [hstable]
      | succ off => rfl
    | succ on => rfl

/-- The stable rendering stays. -/
theorem render_atTime (h : s.SameOutcomes t) (hrec : s.TimersRecorded) :
    (s.atTime t).render false = s.render false := by
  have hup : (s.atTime t).upLine = s.upLine := by
    funext m
    unfold upLine
    rw [scaledUp_atTime h, relevant_atTime h]
    rfl
  have hdown : (s.atTime t).downLine false = s.downLine false := by
    funext i m
    unfold downLine
    rw [scaledDown_atTime h hrec, powerOff_atTime h hrec, downText_atTime h hrec]
    rfl
  unfold render
  rw [hup, hdown]
  rfl

theorem unneeded_atTime (h : s.SameOutcomes t) (hrec : s.TimersRecorded) :
    (s.atTime t).unneeded = s.unneeded := by
  unfold unneeded
  rw [newUnneededSince_atTime h hrec]
  rfl

theorem noActionWhy_atTime (h : s.SameOutcomes t) (hrec : s.TimersRecorded) :
    (s.atTime t).noActionWhy false = s.noActionWhy false := by
  have htext : (s.atTime t).downText false = s.downText false :=
    funext (downText_atTime h hrec)
  unfold noActionWhy
  rw [scaledUp_atTime h, unneeded_atTime h hrec, htext, scaledDown_atTime h hrec,
    waitingNotes_atTime h hrec, relevant_atTime h]
  obtain ⟨hr', hr⟩ | ⟨r', r, hr', hr, hstable⟩ := blockedReason_cases h
  · rw [hr', hr]
    rfl
  · rw [hr', hr]
    cases s.scaledUp.unplaced with
    | cons _ _ => rfl
    | nil =>
      cases s.unneeded with
      | nil => rfl
      | cons _ _ => simp only [Bool.false_eq_true, if_false, hstable]

/-- The decisions are told in the same words. -/
theorem decisions_atTime (h : s.SameOutcomes t) (hrec : s.TimersRecorded) :
    (s.atTime t).decisions.map PlannedDecision.stable = s.decisions.map PlannedDecision.stable := by
  have hwith : (s.atTime t).withNotes = s.withNotes := rfl
  have hcompact : (s.atTime t).compact = s.compact := rfl
  have hranked : (s.atTime t).rankedUp = s.rankedUp := rfl
  unfold decisions
  simp only [powerOn_atTime h, powerOff_atTime h hrec, unneeded_atTime h hrec, scaledUp_atTime h,
    noActionWhy_atTime h hrec, hwith, hcompact, hranked, candidates_atTime]
  split
  · rfl
  · rfl

/-- **The text of a plan changes only when the situation does**: when every
comparison with the time has the same outcome and every unneeded candidate has
its timer, the plans at the two times differ in the live renderings only. -/
theorem plan_sameText (s : PoolSnapshot) (t : Int) (h : s.SameOutcomes t)
    (hrec : s.TimersRecorded) :
    SameText (plan { s with now := t }) (plan s) where
  message := message_atTime h hrec
  details := render_atTime h hrec
  needed := needed_atTime h hrec
  releasable := releasable_atTime h hrec
  unneededSince := newUnneededSince_atTime h hrec
  decisions := decisions_atTime h hrec

/-- An idle machine, 100 s after the pool powered one on; idle for 50 s. -/
def heldBack : PoolSnapshot where
  spec := { minOnline := 0 }
  members :=
    [{ name := "idle", state := .online, auto := true
       allocatable := { cpuMillis := 4000, pods := 10 } }]
  now := seconds 3600
  lastScaleUp := some (seconds 3500)
  unneededSince := (∅ : TreeMap String Int).insert "idle" (seconds 3550)

/-- Fifteen seconds later only the live text differs. -/
theorem heldBack_sameText :
    SameText (plan { heldBack with now := seconds 3615 }) (plan heldBack) ∧
    (plan { heldBack with now := seconds 3615 }).liveDetails ≠ (plan heldBack).liveDetails := by
  have hidle : ∀ m ∈ heldBack.candidates, heldBack.downStatus m = .unneeded (seconds 3550) ∧
      m.drainFailedAt = none ∧ m.releaseAfter = none ∧
      (heldBack.unneededSince[m.name]?).isSome = true := by decide +kernel
  have h : heldBack.SameOutcomes (seconds 3615) :=
    { grace := fun p hp => by cases hp
      backoff := by
        intro m hm _ _ f hf
        rw [(hidle m hm).2.1] at hf
        cases hf
      unneeded := by
        intro m hm since hst
        rw [(hidle m hm).1] at hst
        cases hst
        decide
      hold := by
        intro l hl
        have hlast : heldBack.lastPowerOn = some (seconds 3500) := by decide +kernel
        rw [hlast] at hl
        cases hl
        decide
      release := by
        intro m hm _ r hr
        rw [(hidle m hm).2.2.1] at hr
        cases hr }
  exact ⟨plan_sameText heldBack (seconds 3615) h (fun m hm _ _ => (hidle m hm).2.2.2),
    by decide +kernel⟩

end PoolSnapshot

end HardwareAutoscaler
