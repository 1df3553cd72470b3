/-
  HardwareAutoscaler.Controller.Machine.BootFailures
  ──────────────────────────────────────────────────
  WHICH BOOT A BOOT FAILURE BELONGS TO.

  Whether the failure stored is that of the boot in progress is inferred from
  two times, `poweredOnNotReadySince` and the failure's own.  Over a run at
  increasing times this is right of every reconcile that stored its status: a
  reading that is not stored is forgotten.

    • `FailureTracked` — the invariant: the two times, the phase and its clock
      against the history of the run,
    • `failureTracked_run` — it holds in every run,
    • `forceOff_current` — what every stored reading since the failure saw when
      the boot handler cuts the power,
    • `reading_lost` — a reading of Off that is not stored.
-/
import HardwareAutoscaler.Controller.Machine.Override

namespace HardwareAutoscaler

open Reconciler (bootStaysFailed)

/-! ## §1. What a run has seen of the boot. -/

/-- Reconcile `j` gets to store its status. -/
def StoresStatus (inp : Nat → MachineInput) (j : Nat) : Prop :=
  ((machineAt inp j).cycle (inp j)).status.isSome = true

/-- Reconcile `j` sees the machine in the boot that failed: On, its Node not
Ready, and not switched on by hand. -/
def SeesBooting (inp : Nat → MachineInput) (j : Nat) : Prop :=
  ∀ d, (machineAt inp j).reading (inp j) = some d →
    d.fresh.powerState = .on ∧ d.fresh.nodeReady = false ∧
      d.change (inp j) ((machineAt inp j).old (inp j)) ≠ .poweredOn

/-- **The boot failure `f` is followed from its record on**: reconcile `k`
recorded it, and every reconcile since that stored its status saw the boot. -/
def SeenSince (inp : Nat → MachineInput) (n : Nat) (f : BootFailure) : Prop :=
  ∃ k < n, (inp k).now = f.time ∧
    ∀ j, k ≤ j → j < n → StoresStatus inp j → SeesBooting inp j

/-- **The invariant** before reconcile `n`. -/
structure FailureTracked (inp : Nat → MachineInput) (n : Nat)
    (st : NodePowerManagementConfigStatus) : Prop where
  /-- The failure was recorded by an earlier reconcile. -/
  recorded : ∀ f, st.bootFailure = some f → ∃ k < n, (inp k).now = f.time
  /-- A power-on under way was started after the failure. -/
  started : st.phase = .poweringOn → ∀ f, st.bootFailure = some f →
    ∃ since, st.phaseSince = some since ∧ f.time < since
  /-- A boot timed from before the failure is the one that failed. -/
  current : ∀ f since, st.bootFailure = some f → st.poweredOnNotReadySince = some since →
    since ≤ f.time → SeenSince inp n f

/-- The times of a run increase. -/
def ClockIncreases (inp : Nat → MachineInput) : Prop :=
  ∀ a b, a < b → (inp a).now < (inp b).now

/-! ## §2. What the state machine starts with. -/

namespace MachineState

variable {w : MachineState} {i : MachineInput} {d : MachineInput.Reading}

/-- The failure the state machine starts with: the one that tracking the boot
left, unless a manual change clears it. -/
theorem start_failure {f : BootFailure} (h : (d.start i (w.old i)).bootFailure = some f) :
    (d.tracked i (w.old i)).1.bootFailure = some f ∧ d.change i (w.old i) ≠ .poweredOn := by
  unfold MachineInput.Reading.start at h
  cases hc : d.change i (w.old i) with
  | none =>
    rw [hc] at h
    exact ⟨h, by decide⟩
  | poweredOn =>
    rw [hc] at h
    cases h
  | poweredOff =>
    rw [hc] at h
    refine ⟨?_, by decide⟩
    unfold Reconciler.manualChange at h
    simp only at h
    split at h
    · cases h
    · exact h

/-- A machine with a Ready Node has no failure when the state machine starts. -/
theorem start_failure_ready (hready : d.fresh.nodeReady = true) :
    (d.start i (w.old i)).bootFailure = none := by
  cases hf : (d.start i (w.old i)).bootFailure with
  | none => rfl
  | some f =>
    have htracked := (start_failure hf).1
    unfold MachineInput.Reading.tracked at htracked
    rw [(trackBoot_ready (by simpa using hready)).1] at htracked
    cases htracked

/-- The boot timer of a machine seen off, or with a Ready Node, is cleared. -/
theorem start_since_none (h : d.fresh.nodeReady = true ∨ d.fresh.powerState = .off) :
    (d.start i (w.old i)).poweredOnNotReadySince = none := by
  rw [d.start_since]
  exact trackBoot_since_none (by simpa using h)

/-- A failure that tracking the boot did not just record is the stored one. -/
theorem tracked_failure (h : w.reading i = some d) (hevent : (d.tracked i (w.old i)).2 ≠ .failed)
    {f : BootFailure} (hf : (d.tracked i (w.old i)).1.bootFailure = some f) :
    w.stored.bootFailure = some f := by
  obtain ⟨_, _, _, _, hfailure⟩ := seenOff_stored h
  rw [← hfailure]
  exact trackBoot_failure hevent hf

/-- **A boot timed from before a failure was timed when that failure was
stored**: one that is first seen now started after it. -/
theorem since_stored {inp : Nat → MachineInput} {n : Nat} (hclock : ClockIncreases inp)
    (hinv : FailureTracked inp n (machineAt inp n).stored)
    (h : (machineAt inp n).reading (inp n) = some d) {f : BootFailure} {since : Int}
    (hf : (machineAt inp n).stored.bootFailure = some f)
    (hsince : (d.tracked (inp n) ((machineAt inp n).old (inp n))).1.poweredOnNotReadySince = some since)
    (hle : since ≤ f.time) : (machineAt inp n).stored.poweredOnNotReadySince = some since := by
  obtain ⟨hphase, hphaseSince, _, hstored, _⟩ := seenOff_stored h
  obtain ⟨k, hk, htime⟩ := hinv.recorded f hf
  have hlt : f.time < (inp n).now := htime ▸ hclock k n hk
  unfold MachineInput.Reading.tracked at hsince
  by_cases hdown : d.fresh.nodeReady = true ∨ d.fresh.powerState = .off
  · rw [trackBoot_since_none (by simpa using hdown)] at hsince
    cases hsince
  have hready : d.fresh.nodeReady = false := by
    simpa using fun hr => hdown (Or.inl hr)
  have hon : d.fresh.powerState = .on :=
    (MachineInput.power_known (reading_eq.mp h)).resolve_right (fun ho => hdown (Or.inr ho))
  by_cases hbooting : isBooting (d.seenOff (inp n) ((machineAt inp n).old (inp n))) = true
  · rw [trackBoot_booting (by simpa using hready) hbooting] at hsince
    have hboot : bootSince (d.seenOff (inp n) ((machineAt inp n).old (inp n))) (inp n).now = since := by
      split at hsince
      · exact Option.some.inj hsince
      · exact Option.some.inj hsince
    unfold bootSince at hboot
    rw [hstored] at hboot
    cases hs : (machineAt inp n).stored.poweredOnNotReadySince with
    | some s =>
      rw [hs] at hboot
      exact congrArg some hboot
    -- not timed before: it started now, or with the phase, after the failure
    | none =>
      rw [hs] at hboot
      have hboot : bootStart (d.seenOff (inp n) ((machineAt inp n).old (inp n))) (inp n).now = since :=
        hboot
      unfold bootStart at hboot
      rw [hphase, hphaseSince] at hboot
      cases hp : (machineAt inp n).stored.phase with
      | poweringOn =>
        obtain ⟨started, hstarted, hafter⟩ := hinv.started hp f hf
        rw [hp, hstarted] at hboot
        have hmin : min started (inp n).now = since := hboot
        omega
      | bootFailed =>
        have htimed := (bootTimed_run inp n).failed hp
        rw [hs] at htimed
        cases htimed
      | _ =>
        rw [hp] at hboot
        have hnow : (inp n).now = since := hboot
        omega
  · rw [trackBoot_held (by simpa using hready) (by simp [hon]) (by simpa using hbooting)] at hsince
    exact hstored.symm.trans hsince

/-- What a released power-on records: its failure, and where the machine stands. -/
theorem released_records (h : w.reading i = some d) :
    ((d.machine i).releaseFailedPowerOn (i.begun (w.old i) d)).st.bootFailure
        = some { time := i.now } ∧
      ((d.fresh.powerState = .on ∧
        ((d.machine i).releaseFailedPowerOn (i.begun (w.old i) d)).st.phase = .bootFailed) ∨
      (d.fresh.powerState = .off ∧
        ((d.machine i).releaseFailedPowerOn (i.begun (w.old i) d)).st.phase = .off ∧
        ((d.machine i).releaseFailedPowerOn (i.begun (w.old i) d)).st.poweredOnNotReadySince
          = none)) := by
  have hview := (d.machine i).bootView_released (i.begun (w.old i) d)
  have hsince := congrArg BootView.poweredOnNotReadySince hview
  have hstart : (i.begun (w.old i) d).st.powerState = d.fresh.powerState :=
    d.start_powerState i (w.old i)
  refine ⟨congrArg BootView.bootFailure hview, ?_⟩
  rw [(d.machine i).phase_released (i.begun (w.old i) d), hstart]
  rcases MachineInput.power_known (reading_eq.mp h) with hon | hoff
  · exact Or.inl ⟨hon, if_pos hon⟩
  · refine Or.inr ⟨hoff, ?_, ?_⟩
    · rw [hoff]
      rfl
    · simp only [hstart, hoff] at hsince
      have hkept : ((d.machine i).releaseFailedPowerOn
          (i.begun (w.old i) d)).st.poweredOnNotReadySince
          = (d.start i (w.old i)).poweredOnNotReadySince := hsince
      rw [hkept]
      exact start_since_none (Or.inr hoff)

/-- **What a reconcile makes of the boot**: the boot failed, or timer and failure
are those the state machine started with, or a power-on was released. -/
theorem settle_boot (h : w.reading i = some d) :
    ((d.tracked i (w.old i)).2 = .failed ∧ (i.settle (w.old i) d).1.st.phase = .bootFailed ∧
      (i.settle (w.old i) d).1.st.poweredOnNotReadySince
        = (d.start i (w.old i)).poweredOnNotReadySince ∧
      (i.settle (w.old i) d).1.st.bootFailure.map (·.time)
        = (d.start i (w.old i)).bootFailure.map (·.time)) ∨
    ((d.tracked i (w.old i)).2 ≠ .failed ∧
      (i.settle (w.old i) d).1.st.poweredOnNotReadySince
        = (d.start i (w.old i)).poweredOnNotReadySince ∧
      (i.settle (w.old i) d).1.st.bootFailure = (d.start i (w.old i)).bootFailure) ∨
    ((d.tracked i (w.old i)).2 ≠ .failed ∧ d.fresh.nodeReady = false ∧
      d.change i (w.old i) = .none ∧
      (i.settle (w.old i) d).1.st.bootFailure = some { time := i.now } ∧
      ((d.fresh.powerState = .on ∧ (i.settle (w.old i) d).1.st.phase = .bootFailed) ∨
        (d.fresh.powerState = .off ∧ (i.settle (w.old i) d).1.st.phase = .off ∧
          (i.settle (w.old i) d).1.st.poweredOnNotReadySince = none))) := by
  by_cases hb : i.BootHandled (w.old i) d
  · have hview := (d.machine i).bootView_boot (i.begun (w.old i) d) (d.tracked i (w.old i)).2
    have hsince := congrArg BootView.poweredOnNotReadySince hview
    have hfailure := congrArg BootView.bootFailure hview
    by_cases hfailed : (d.tracked i (w.old i)).2 = .failed
    · rw [MachineInput.settle_failed hfailed, MachineInput.settle_handled hb]
      refine Or.inl ⟨hfailed, (d.machine i).phase_boot_handled (i.begun (w.old i) d)
        (MachineInput.boot_of_bootHandled hb), hsince, ?_⟩
      show ((d.start i (w.old i)).bootFailure.map _).map _ = _
      rw [Option.map_map]
      rfl
    · rw [MachineInput.settle_handled hb]
      simp only [if_neg hfailed] at hfailure
      exact Or.inr (Or.inl ⟨hfailed, hsince, hfailure⟩)
  · have hnotFailed : (d.tracked i (w.old i)).2 ≠ .failed := fun hfailed => hb (Or.inl hfailed)
    rw [MachineInput.settle_unhandled hb]
    rcases (d.machine i).bootView_towards (i.begun (w.old i) d) (i.consistent d.fresh)
      with hview | ⟨hreleased, hready, hdecided⟩
    · exact Or.inr (Or.inl ⟨hnotFailed, congrArg BootView.poweredOnNotReadySince hview,
        congrArg BootView.bootFailure hview⟩)
    · have hready : d.fresh.nodeReady = false := by
        rw [← MachineInput.Reading.start_nodeReady]
        exact hready
      -- a manual change would have dropped the decision
      have hchange : d.change i (w.old i) = .none := by
        by_contra hne
        have hdecided : (d.start i (w.old i)).scalingDecision.isSome = true := hdecided
        rw [MachineInput.Reading.start_decision_none hne] at hdecided
        cases hdecided
      rw [hreleased]
      exact Or.inr (Or.inr ⟨hnotFailed, hready, hchange, released_records h⟩)

end MachineState

/-! ## §3. The invariant. -/

section Invariant

variable {inp : Nat → MachineInput} {n : Nat}

/-- One more reconcile that saw the boot, or stored nothing. -/
theorem SeenSince.step {f : BootFailure} (h : SeenSince inp n f)
    (hn : StoresStatus inp n → SeesBooting inp n) : SeenSince inp (n + 1) f := by
  obtain ⟨k, hk, htime, hsince⟩ := h
  refine ⟨k, by omega, htime, ?_⟩
  intro j hkj hjn hstores
  by_cases hj : j = n
  · subst hj
    exact hn hstores
  · exact hsince j hkj (by omega) hstores

/-- The reconcile that records a failure sees the boot. -/
theorem SeenSince.start {f : BootFailure} (htime : (inp n).now = f.time)
    (hn : SeesBooting inp n) : SeenSince inp (n + 1) f := by
  refine ⟨n, by omega, htime, ?_⟩
  intro j hnj hjn _
  have hj : j = n := by omega
  subst hj
  exact hn

theorem seesBooting_of_reading {d : MachineInput.Reading}
    (hd : (machineAt inp n).reading (inp n) = some d) (hon : d.fresh.powerState = .on)
    (hready : d.fresh.nodeReady = false)
    (hchange : d.change (inp n) ((machineAt inp n).old (inp n)) ≠ .poweredOn) :
    SeesBooting inp n := by
  intro d' hd'
  have hsame : d' = d := Option.some.inj (hd'.symm.trans hd)
  subst hsame
  exact ⟨hon, hready, hchange⟩

/-- A status with the same boot, stored without a reading. -/
theorem FailureTracked.keep {st st' : NodePowerManagementConfigStatus}
    (h : FailureTracked inp n st) (hfailure : st'.bootFailure = st.bootFailure)
    (hsince : st'.poweredOnNotReadySince = st.poweredOnNotReadySince)
    (hphase : st'.phase = .poweringOn → st.phase = .poweringOn ∧ st'.phaseSince = st.phaseSince)
    (hn : StoresStatus inp n → SeesBooting inp n) : FailureTracked inp (n + 1) st' := by
  refine ⟨?_, ?_, ?_⟩
  · intro f hf
    obtain ⟨k, hk, htime⟩ := h.recorded f (hfailure ▸ hf)
    exact ⟨k, by omega, htime⟩
  · intro hp f hf
    obtain ⟨hp', hclock⟩ := hphase hp
    rw [hclock]
    exact h.started hp' f (hfailure ▸ hf)
  · intro f since hf hs hle
    exact (h.current f since (hfailure ▸ hf) (hsince ▸ hs) hle).step hn

/-- A status whose failure, if there is one, is recorded now. -/
theorem failureTracked_of_now {st : NodePowerManagementConfigStatus} (hphase : st.phase ≠ .poweringOn)
    (hnow : ∀ f, st.bootFailure = some f → (inp n).now = f.time)
    (hsees : ∀ f since, st.bootFailure = some f → st.poweredOnNotReadySince = some since →
      SeesBooting inp n) : FailureTracked inp (n + 1) st := by
  refine ⟨?_, ?_, ?_⟩
  · intro f hf
    exact ⟨n, by omega, hnow f hf⟩
  · intro hp
    exact absurd hp hphase
  · intro f since hf hs _
    exact SeenSince.start (hnow f hf) (hsees f since hf hs)

/-- A boot that has just failed is recorded now, by a reconcile that sees it. -/
theorem recorded_of_failed {d : MachineInput.Reading}
    (hd : (machineAt inp n).reading (inp n) = some d)
    (hfailed : (d.tracked (inp n) ((machineAt inp n).old (inp n))).2 = .failed)
    {f : BootFailure} (hf : some f.time
      = (d.start (inp n) ((machineAt inp n).old (inp n))).bootFailure.map (·.time)) :
    (inp n).now = f.time ∧ SeesBooting inp n := by
  obtain ⟨hready, hon, hnow⟩ := trackBoot_failed hfailed
  cases hstart : (d.start (inp n) ((machineAt inp n).old (inp n))).bootFailure with
  | none =>
    rw [hstart] at hf
    cases hf
  | some f₀ =>
    rw [hstart] at hf
    obtain ⟨htracked, hchange⟩ := MachineState.start_failure hstart
    have hf₀ : f₀ = { time := (inp n).now } := Option.some.inj (htracked.symm.trans hnow)
    have htime : f.time = f₀.time := Option.some.inj hf
    refine ⟨?_, seesBooting_of_reading hd (by simpa using hon) (by simpa using hready) hchange⟩
    rw [htime, hf₀]

/-- A failure that is left as the state machine started with it is the stored one. -/
theorem stored_of_start {d : MachineInput.Reading}
    (hd : (machineAt inp n).reading (inp n) = some d)
    (hnotFailed : (d.tracked (inp n) ((machineAt inp n).old (inp n))).2 ≠ .failed)
    {f : BootFailure}
    (hf : (d.start (inp n) ((machineAt inp n).old (inp n))).bootFailure = some f) :
    (machineAt inp n).stored.bootFailure = some f ∧ d.fresh.nodeReady = false ∧
      d.change (inp n) ((machineAt inp n).old (inp n)) ≠ .poweredOn := by
  obtain ⟨htracked, hchange⟩ := MachineState.start_failure hf
  refine ⟨MachineState.tracked_failure hd hnotFailed htracked, ?_, hchange⟩
  by_contra hr
  rw [MachineState.start_failure_ready (by simpa using hr)] at hf
  cases hf

/-- A reconcile that leaves timer and failure as the state machine started with
them keeps the invariant. -/
theorem FailureTracked.settle_kept (hclock : ClockIncreases inp)
    (h : FailureTracked inp n (machineAt inp n).stored) {d : MachineInput.Reading}
    (hd : (machineAt inp n).reading (inp n) = some d)
    (hnotFailed : (d.tracked (inp n) ((machineAt inp n).old (inp n))).2 ≠ .failed)
    (hsince : ((inp n).settle ((machineAt inp n).old (inp n)) d).1.st.poweredOnNotReadySince
      = (d.start (inp n) ((machineAt inp n).old (inp n))).poweredOnNotReadySince)
    (hfailure : ((inp n).settle ((machineAt inp n).old (inp n)) d).1.st.bootFailure
      = (d.start (inp n) ((machineAt inp n).old (inp n))).bootFailure) :
    FailureTracked inp (n + 1) ((inp n).settle ((machineAt inp n).old (inp n)) d).1.st := by
  refine ⟨?_, ?_, ?_⟩
  · intro f hf
    obtain ⟨k, hk, htime⟩ := h.recorded f (stored_of_start hd hnotFailed (hfailure ▸ hf)).1
    exact ⟨k, by omega, htime⟩
  · intro hp f hf
    have hf := (stored_of_start hd hnotFailed (hfailure ▸ hf)).1
    obtain ⟨k, hk, htime⟩ := h.recorded f hf
    have hlt : f.time < (inp n).now := htime ▸ hclock k n hk
    -- the phase is the stored one, or entered now
    rcases (d.machine (inp n)).step_clocked
      ⟨d.start (inp n) ((machineAt inp n).old (inp n)), d.contacted.map (.contact .status)⟩
      (d.tracked (inp n) ((machineAt inp n).old (inp n))).2 ((inp n).consistent d.fresh) with
      ⟨hsame, hkept⟩ | hnow
    · have hwas : (machineAt inp n).stored.phase = .poweringOn :=
        (MachineState.start_phase_stored hd).symm.trans (hsame.symm.trans hp)
      obtain ⟨since, hs, hlt'⟩ := h.started hwas f hf
      exact ⟨since, hkept.trans ((MachineState.start_phaseSince_stored hd).trans hs), hlt'⟩
    · exact ⟨(inp n).now, hnow, hlt⟩
  · intro f since hf hs hle
    obtain ⟨hf, hready, hchange⟩ := stored_of_start hd hnotFailed (hfailure ▸ hf)
    rw [hsince] at hs
    have hon : d.fresh.powerState = .on := by
      refine (MachineInput.power_known (MachineState.reading_eq.mp hd)).resolve_right ?_
      intro hoff
      rw [MachineState.start_since_none (Or.inr hoff)] at hs
      cases hs
    rw [d.start_since] at hs
    have hwas := MachineState.since_stored hclock h hd hf hs hle
    exact (h.current f since hf hwas hle).step
      (fun _ => seesBooting_of_reading hd hon hready hchange)

/-- **One reconcile** that got to its state machine keeps the invariant. -/
theorem FailureTracked.settle (hclock : ClockIncreases inp)
    (h : FailureTracked inp n (machineAt inp n).stored) {d : MachineInput.Reading}
    (hd : (machineAt inp n).reading (inp n) = some d) :
    FailureTracked inp (n + 1) ((inp n).settle ((machineAt inp n).old (inp n)) d).1.st := by
  rcases MachineState.settle_boot hd with ⟨hfailed, hphase, _, hfailure⟩ |
    ⟨hnotFailed, hsince, hfailure⟩ | ⟨_, hready, hchange, hfailure, hends⟩
  -- the boot failed: its failure is recorded now
  · have hrecorded : ∀ f,
        ((inp n).settle ((machineAt inp n).old (inp n)) d).1.st.bootFailure = some f →
        (inp n).now = f.time ∧ SeesBooting inp n := by
      intro f hf
      rw [hf] at hfailure
      exact recorded_of_failed hd hfailed hfailure
    refine failureTracked_of_now ?_ (fun f hf => (hrecorded f hf).1)
      (fun f _ hf _ => (hrecorded f hf).2)
    rw [hphase]
    decide
  -- timer and failure are those the state machine started with
  · exact h.settle_kept hclock hd hnotFailed hsince hfailure
  -- a power-on was released: its failure is recorded now
  · refine failureTracked_of_now ?_ ?_ ?_
    · rcases hends with ⟨_, hphase⟩ | ⟨_, hphase, _⟩
      · rw [hphase]
        decide
      · rw [hphase]
        decide
    · intro f hf
      rw [hfailure] at hf
      rw [← Option.some.inj hf]
    · intro f since hf hs
      rcases hends with ⟨hon, _⟩ | ⟨_, _, hnone⟩
      · exact seesBooting_of_reading hd hon hready (by rw [hchange]; decide)
      · rw [hnone] at hs
        cases hs

end Invariant

/-- **The invariant holds in every run** at increasing times. -/
theorem failureTracked_run (inp : Nat → MachineInput) (hclock : ClockIncreases inp) (n : Nat) :
    FailureTracked inp n (machineAt inp n).stored := by
  induction n with
  | zero =>
    refine ⟨?_, ?_, ?_⟩
    · intro f hf
      cases hf
    · intro hp
      cases hp
    · intro f since hf
      cases hf
  | succ n ih =>
    rw [machineAt_succ]
    -- nothing stored; stored by an error; or settled
    rcases (machineAt inp n).step_stored (inp n) with ⟨hnone, hstored⟩ | ⟨e, he, hstored⟩ |
      ⟨d, hd, _, hstored⟩
    · rw [hstored]
      refine ih.keep rfl rfl (fun hp => ⟨hp, rfl⟩) ?_
      intro hstores
      unfold StoresStatus at hstores
      rw [hnone] at hstores
      cases hstores
    · have hreading : (machineAt inp n).reading (inp n) = none := by
        unfold MachineState.reading
        rw [he]
        rfl
      obtain ⟨_, _, _, _, _, _, _, heq, hphase⟩ := MachineInput.stopped_frame he
      -- an error keeps the boot view and at most enters phase Error
      have hsame : e.st.bootView.bootFailure = (machineAt inp n).stored.bootFailure ∧
          e.st.bootView.poweredOnNotReadySince = (machineAt inp n).stored.poweredOnNotReadySince ∧
          e.st.phaseSince = (machineAt inp n).stored.phaseSince := by
        rw [heq]
        exact ⟨rfl, rfl, rfl⟩
      obtain ⟨hfailure, hsince, hclocked⟩ := hsame
      rw [hstored]
      refine ih.keep hfailure hsince ?_ ?_
      · intro hp
        have hp : e.st.phase = .poweringOn := hp
        rcases hphase with hphase | hphase
        · rw [hphase] at hp
          cases hp
        · exact ⟨hphase.symm.trans hp, hclocked⟩
      · intro _ d hd
        rw [hreading] at hd
        cases hd
    · rw [hstored]
      have hsettled := FailureTracked.settle hclock ih hd
      exact ⟨hsettled.recorded, hsettled.started, hsettled.current⟩

/-! ## §4. When the power is cut. -/

/-- The handler cuts the power in a boot that stays failed, not in one that has
just failed. -/
theorem Reconciler.stays_of_bootAction_forceOff {r : Reconciler} {event : BootEvent}
    {st : NodePowerManagementConfigStatus} (h : r.bootAction event st = some .forceOff) :
    event = .none ∧ bootStaysFailed st = true := by
  unfold bootAction at h
  cases event with
  | recovered => cases h
  | failed =>
    simp only at h
    split at h <;> cases h
  | none =>
    simp only at h
    split at h
    · rename_i hany
      obtain ⟨_, _, hcut⟩ := (Option.any_eq_true _ _).mp hany
      simp only [Bool.and_eq_true] at hcut
      refine ⟨rfl, ?_⟩
      unfold bootStaysFailed
      simp only [Bool.and_eq_true]
      exact hcut.1
    · cases h

/-- The boot handler of reconcile `n` cuts the power because of failure `f`. -/
structure CutsPowerFor (inp : Nat → MachineInput) (n : Nat) (d : MachineInput.Reading)
    (f : BootFailure) : Prop where
  reading : (machineAt inp n).reading (inp n) = some d
  failure : (d.start (inp n) ((machineAt inp n).old (inp n))).bootFailure = some f
  action : (d.machine (inp n)).bootAction
      (d.tracked (inp n) ((machineAt inp n).old (inp n))).2
      (d.start (inp n) ((machineAt inp n).old (inp n))) = some .forceOff

/-- **When the boot handler cuts the power because of a failure, every reconcile
since that failure was recorded that stored its status saw the machine On, its
Node not Ready, and not switched on by hand.**  Once one has seen it Off, Ready
or switched on by hand and stored that, the failure never acts again. -/
theorem forceOff_current (inp : Nat → MachineInput) (hclock : ClockIncreases inp) (n : Nat)
    {d : MachineInput.Reading} {f : BootFailure} (h : CutsPowerFor inp n d f) :
    (∃ k < n, (inp k).now = f.time) ∧
    (∀ j < n, f.time ≤ (inp j).now → StoresStatus inp j → SeesBooting inp j) ∧
    SeesBooting inp n := by
  have hinv := failureTracked_run inp hclock n
  obtain ⟨hevent, hstays⟩ := Reconciler.stays_of_bootAction_forceOff h.action
  have hnotFailed : (d.tracked (inp n) ((machineAt inp n).old (inp n))).2 ≠ .failed := by
    rw [hevent]
    decide
  unfold bootStaysFailed at hstays
  simp only [Bool.and_eq_true, Bool.not_eq_true', beq_iff_eq,
    MachineInput.Reading.start_nodeReady, MachineInput.Reading.start_powerState] at hstays
  obtain ⟨⟨hready, hon⟩, hcurrent⟩ := hstays
  obtain ⟨htracked, hchange⟩ := MachineState.start_failure h.failure
  have hstored := MachineState.tracked_failure h.reading hnotFailed htracked
  obtain ⟨f', since, hf', hs, hle⟩ := failureIsCurrent_iff.mp hcurrent
  rw [h.failure] at hf'
  cases hf'
  rw [d.start_since] at hs
  have hwas := MachineState.since_stored hclock hinv h.reading hstored hs hle
  obtain ⟨k, hk, htime, hsince⟩ := hinv.current f since hstored hwas hle
  refine ⟨⟨k, hk, htime⟩, ?_, seesBooting_of_reading h.reading hon hready hchange⟩
  intro j hj hafter hstores
  refine hsince j ?_ hj hstores
  by_contra hbefore
  have hlt := hclock j k (by omega)
  omega

/-! ## §5. A reading that is not stored. -/

/-- A machine whose boot fails in the second reconcile, that is off in the third
and that someone has switched on again by the fourth.  The third one may not be
able to store its status. -/
def switchedBack (patch : Bool) (n : Nat) : MachineInput where
  mn :=
    { name := "m1"
      spec :=
        { nodeName := "m1"
          powerInterfaces := [{ driver := "redfish" }]
          manualPowerOnPolicy := some .adopt } }
  cluster :=
    { nodes := [{ pooledNode false with conditions := [{ type_ := "Ready", status := "False" }] }]
      pools := [poolA]
      nodes_distinct := notReady_distinct
      pools_distinct := poolA_distinct }
  built := fun _ => .ok { powerState := .ok (if n = 2 ∧ patch = false then .off else .on) }
  now := seconds (1300 * n)
  lookupAt := seconds (1300 * n)
  storeAt := seconds (1300 * n)
  api := { patch := n != 2 || patch }

theorem clock_switchedBack (patch : Bool) : ClockIncreases (switchedBack patch) := by
  intro a b hab
  show seconds (1300 * a) < seconds (1300 * b)
  unfold seconds
  omega

/-- A machine that stays on after its boot failed is cut, and was seen on
throughout. -/
theorem stayed_on : SeesBooting (switchedBack true) 2 ∧
    (machineAt (switchedBack true) 2).actions (switchedBack true 2) = [.forceOff] := by
  have hread : ((machineAt (switchedBack true) 2).reading (switchedBack true 2)).any (fun d =>
      let st := d.start (switchedBack true 2) ((machineAt (switchedBack true) 2).old (switchedBack true 2))
      let event := (d.tracked (switchedBack true 2)
        ((machineAt (switchedBack true) 2).old (switchedBack true 2))).2
      decide (st.bootFailure = some { time := seconds 1300 } ∧
        (d.machine (switchedBack true 2)).bootAction event st = some .forceOff)) = true := by
    decide +kernel
  obtain ⟨d, hd, hall⟩ := (Option.any_eq_true _ _).mp hread
  obtain ⟨hfailure, haction⟩ := of_decide_eq_true hall
  obtain ⟨_, _, hsees⟩ := forceOff_current (switchedBack true) (clock_switchedBack true) 2
    ⟨hd, hfailure, haction⟩
  exact ⟨hsees, by decide +kernel⟩

/-- **A reading of Off that is not stored**: the machine was off since its boot
failed, but the old failure cuts its power after it was switched on again. -/
theorem reading_lost : ClockIncreases (switchedBack false) ∧
    (machineAt (switchedBack false) 2).stored.bootFailure = some { time := seconds 1300 } ∧
    ReadsPower (switchedBack false) 2 .off = true ∧
    (machineAt (switchedBack false) 3).stored.bootFailure = some { time := seconds 1300 } ∧
    ReadsPower (switchedBack false) 3 .on = true ∧
    (machineAt (switchedBack false) 3).actions (switchedBack false 3) = [.forceOff] :=
  ⟨clock_switchedBack false, by decide +kernel, by decide +kernel, by decide +kernel,
    by decide +kernel, by decide +kernel⟩

end HardwareAutoscaler
