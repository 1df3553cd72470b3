/-
  HardwareAutoscaler.Controller.Machine.PoweredOff
  ────────────────────────────────────────────────
  A RUNNING MACHINE THAT SOMEONE SWITCHES OFF.

  The detection compares with the previous stored reading and phase.  A
  reconcile in between that cannot read the power state stores `Unknown`, and
  one that cannot build the interfaces stores phase `Error` as well: the
  power-off is then not seen as one, and the stored decision powers the
  machine on again.

    • `change_poweredOff_iff` — when the reconcile sees the manual power-off,
    • `poweredOff_recorded` — what it then does, and that it does so exactly
      when the last reading is still stored.
-/
import HardwareAutoscaler.Controller.Machine.ManualChange

namespace HardwareAutoscaler

/-! ## §1. The reconcile that sees it. -/

namespace MachineState

variable (w : MachineState) (i : MachineInput)

/-- The machine is still stored as one that reads On. -/
structure KnownOn : Prop where
  phase : w.stored.phase ∈ ([.on, .poweringOn, .bootFailed] : List Phase)
  power : w.stored.powerState = .on

instance : Decidable w.KnownOn :=
  decidable_of_iff (w.stored.phase ∈ ([.on, .poweringOn, .bootFailed] : List Phase) ∧
    w.stored.powerState = .on) ⟨fun h => ⟨h.1, h.2⟩, fun h => ⟨h.phase, h.power⟩⟩

/-- **The power-off is taken for a manual one**: it is recorded as such, no
decision is left, no boot failure is recorded and no PowerOn is issued. -/
structure PowerOffRespected (d : MachineInput.Reading) : Prop where
  recorded : (i.settle (w.old i) d).1.st.manualPowerOff = some { time := i.now }
  decision : (i.settle (w.old i) d).1.st.scalingDecision = none
  failure : (i.settle (w.old i) d).1.st.bootFailure = none ∨
    (i.settle (w.old i) d).1.st.bootFailure = w.stored.bootFailure
  actions : PowerAction.powerOn ∉ w.actions i

variable {w i} {d : MachineInput.Reading}

/-- The manual power-off a reconcile leaves is its own, or the one stored. -/
theorem manualPowerOff_settle (h : w.reading i = some d) :
    (i.settle (w.old i) d).1.st.manualPowerOff =
      if d.change i (w.old i) = .poweredOff then some { time := i.now }
      else w.stored.manualPowerOff := by
  -- tracking the boot leaves the record of power-offs alone
  have hstored : (d.tracked i (w.old i)).1.manualPowerOff = w.stored.manualPowerOff := by
    obtain ⟨_, _, _, _, _, _, _, hfresh⟩ := MachineInput.fresh_frame (reading_eq.mp h)
    obtain ⟨since, failure, htracked⟩ :=
      trackBoot_frame (d.seenOff i (w.old i)) i.now (d.machine i).bootTimeout
    unfold MachineInput.Reading.tracked
    rw [htracked]
    show (d.seenOff i (w.old i)).manualPowerOff = _
    unfold MachineInput.Reading.seenOff
    split
    · rw [hfresh]
      rfl
    · rw [hfresh]
      rfl
  unfold MachineInput.settle
  rw [Reconciler.manualPowerOff_step]
  show (d.start i (w.old i)).manualPowerOff = _
  unfold MachineInput.Reading.start
  cases d.change i (w.old i) with
  | none => exact hstored
  | poweredOn => exact hstored
  | poweredOff => rfl

/-- **When a machine that reads Off is taken for switched off by hand**: it is
still stored as one that reads On, and no power-off of ours is recent. -/
theorem change_poweredOff_iff (hoff : d.fresh.powerState = .off)
    (hready : d.fresh.nodeReady = false)
    (hours : ourOff d.fresh i.now i.mn.spec.lifecycle.shutdownTimeoutSeconds = false) :
    d.change i (w.old i) = .poweredOff ↔ w.KnownOn := by
  have hdown : offNow d.fresh = true := by
    unfold offNow
    rw [hoff, hready]
    rfl
  unfold MachineInput.Reading.change
  rw [detect_poweredOff_iff]
  exact ⟨fun h => ⟨h.1, h.2.1⟩, fun h => ⟨h.phase, h.power, hdown, hours⟩⟩

/-- What a reconcile that takes the power-off for a manual one does. -/
theorem respected_of_change (h : w.reading i = some d) (hauto : i.mn.spec.powerPolicy = .auto)
    (hoff : d.fresh.powerState = .off) (hready : d.fresh.nodeReady = false)
    (hchange : d.change i (w.old i) = .poweredOff) : w.PowerOffRespected i d := by
  have hne : d.change i (w.old i) ≠ .none := by rw [hchange]; decide
  obtain ⟨_, _, _, _, hfailure⟩ := seenOff_stored h
  -- a machine that is off has no boot that could fail,
  have htracked : d.tracked i (w.old i)
      = ({ d.seenOff i (w.old i) with poweredOnNotReadySince := none }, .none) :=
    trackBoot_off (by simpa using hready) (by simpa using hoff)
  have hstart : (d.start i (w.old i)).bootFailure = none ∨
      (d.start i (w.old i)).bootFailure = w.stored.bootFailure := by
    unfold MachineInput.Reading.start
    rw [htracked, hchange]
    unfold Reconciler.manualChange
    simp only
    split
    · exact Or.inl rfl
    · exact Or.inr hfailure
  have hunhandled : ¬ i.BootHandled (w.old i) d := by
    intro h
    rcases h with hfailed | ⟨_, hstays⟩
    · rw [htracked] at hfailed
      cases hfailed
    · rw [MachineInput.Reading.not_bootStaysFailed hne] at hstays
      cases hstays
  -- and without a decision it has no target
  have htarget : managedTarget (d.machine i).mn.spec.powerPolicy (i.begun (w.old i) d).st
      (d.machine i).manualPolicy = none :=
    MachineInput.Reading.start_no_target hauto hne _
  obtain ⟨hissued, hdecision⟩ := (d.machine i).towards_no_target (i.begun (w.old i) d) htarget
  have hsettle := MachineInput.settle_unhandled hunhandled
  refine ⟨?_, ?_, ?_, ?_⟩
  · rw [manualPowerOff_settle h, if_pos hchange]
  · rw [hsettle, hdecision]
    exact MachineInput.Reading.start_decision_none hne
  · have hsame : (i.settle (w.old i) d).1.st.bootFailure = (d.start i (w.old i)).bootFailure := by
      rw [hsettle]
      exact congrArg BootView.bootFailure
        ((d.machine i).bootView_no_target (i.begun (w.old i) d) htarget)
    rw [hsame]
    exact hstart
  · rw [actions_of_reading h, hsettle, hissued, i.begun_issued]
    exact List.not_mem_nil

end MachineState

/-! ## §2. In every run. -/

/-- The manual power-offs stored were recorded by earlier reconciles. -/
theorem manualPowerOff_run (inp : Nat → MachineInput) (n : Nat) :
    ∀ m, (machineAt inp n).stored.manualPowerOff = some m → ∃ k < n, (inp k).now = m.time := by
  induction n with
  | zero =>
    intro m hm
    cases hm
  | succ n ih =>
    intro m hm
    have hkept : (machineAt inp n).stored.manualPowerOff = some m →
        ∃ k < n + 1, (inp k).now = m.time := by
      intro h
      obtain ⟨k, hk, htime⟩ := ih m h
      exact ⟨k, by omega, htime⟩
    rw [machineAt_succ] at hm
    rcases (machineAt inp n).step_stored (inp n) with ⟨_, hstored⟩ | ⟨e, he, hstored⟩ | ⟨d, hd, _, hstored⟩
    · rw [hstored] at hm
      exact hkept hm
    · obtain ⟨_, _, _, _, _, _, _, heq, _⟩ := MachineInput.stopped_frame he
      have hsame : e.st.manualPowerOff = (machineAt inp n).stored.manualPowerOff := by
        rw [heq]
        rfl
      rw [hstored] at hm
      exact hkept (hsame ▸ hm)
    · rw [hstored] at hm
      have hm : ((inp n).settle ((machineAt inp n).old (inp n)) d).1.st.manualPowerOff = some m := hm
      rw [MachineState.manualPowerOff_settle hd] at hm
      split at hm
      · cases hm
        exact ⟨n, by omega, rfl⟩
      · exact hkept hm

/-- **An `Auto` machine that was On and Ready with a stored On decision is
switched off by someone else**: reconcile `b` is the first after `a` that reads
it Off with its Node not Ready, and no off action of ours is recent. -/
structure SwitchedOff (inp : Nat → MachineInput) (a b : Nat) (d : MachineInput.Reading) : Prop where
  later : a < b
  auto : ∀ k ≤ b, (inp k).mn.spec.powerPolicy = .auto
  wasUp : ((machineAt inp a).reading (inp a)).any
    (fun d => d.fresh.powerState == .on && d.fresh.nodeReady) = true
  decided : (machineAt inp (a + 1)).stored.scalingDecision.any (·.target == .on) = true
  first : ∀ j < b, a < j → ((machineAt inp j).reading (inp j)).all
    (fun d => !(d.fresh.powerState == .off && !d.fresh.nodeReady)) = true
  reading : (machineAt inp b).reading (inp b) = some d
  off : d.fresh.powerState = .off
  notReady : d.fresh.nodeReady = false
  /-- No off action of ours within the detection window. -/
  notOurs : ∀ k < b, ∀ action ∈ (machineAt inp k).actions (inp k), action.isOff = true →
    ((Int64.ofInt (asI64 (inp b).mn.spec.lifecycle.shutdownTimeoutSeconds)) + 300).toInt
      < numSeconds ((inp b).now - (inp k).now)

/-- A command recorded was issued. -/
theorem mem_actions_of_lastRecorded {inp : Nat → MachineInput} {n k : Nat} {action : PowerAction}
    (h : lastRecorded inp n = some (k, action)) :
    k < n ∧ action ∈ (machineAt inp k).actions (inp k) := by
  induction n with
  | zero => cases h
  | succ n ih =>
    unfold lastRecorded at h
    cases hrec : (machineAt inp n).records (inp n) with
    | none =>
      rw [hrec] at h
      obtain ⟨hk, hmem⟩ := ih h
      exact ⟨by omega, hmem⟩
    | some a =>
      rw [hrec] at h
      cases h
      refine ⟨by omega, ?_⟩
      unfold MachineState.records at hrec
      split at hrec
      · exact List.mem_of_getLast? hrec
      · cases hrec

/-- No off action of ours is within the detection window of reconcile `n`. -/
def NoRecentOff (inp : Nat → MachineInput) (n : Nat) : Prop :=
  ∀ k < n, ∀ action ∈ (machineAt inp k).actions (inp k), action.isOff = true →
    ((Int64.ofInt (asI64 (inp n).mn.spec.lifecycle.shutdownTimeoutSeconds)) + 300).toInt
      < numSeconds ((inp n).now - (inp k).now)

/-- Then none explains a machine that is off. -/
theorem NoRecentOff.ourOff {inp : Nat → MachineInput} {n : Nat} (h : NoRecentOff inp n)
    {d : MachineInput.Reading} (hd : (machineAt inp n).reading (inp n) = some d) :
    ourOff d.fresh (inp n).now (inp n).mn.spec.lifecycle.shutdownTimeoutSeconds = false := by
  have hiff := actionAge_iff hd (·.isOff)
    ((Int64.ofInt (asI64 (inp n).mn.spec.lifecycle.shutdownTimeoutSeconds)) + 300).toInt
  unfold HardwareAutoscaler.ourOff
  rw [Bool.eq_false_iff]
  intro hrecent
  obtain ⟨k, action, hlast, hisOff, hage⟩ := hiff.mp hrecent
  obtain ⟨hk, hmem⟩ := mem_actions_of_lastRecorded hlast
  have hold := h k hk action hmem hisOff
  omega

/-- **Switched off by someone else, the machine is taken for that exactly when it
is still stored as one that reads On**, whatever happened in between. -/
theorem poweredOff_recorded (inp : Nat → MachineInput) (a b : Nat) {d : MachineInput.Reading}
    (h : SwitchedOff inp a b d) :
    ((machineAt inp b).KnownOn → (machineAt inp b).PowerOffRespected (inp b) d) ∧
    ((∀ k < b, (inp k).now < (inp b).now) →
      (machineAt inp b).PowerOffRespected (inp b) d → (machineAt inp b).KnownOn) := by
  have hours : ourOff d.fresh (inp b).now (inp b).mn.spec.lifecycle.shutdownTimeoutSeconds = false :=
    NoRecentOff.ourOff h.notOurs h.reading
  have hiff : d.change (inp b) ((machineAt inp b).old (inp b)) = .poweredOff ↔
      (machineAt inp b).KnownOn := MachineState.change_poweredOff_iff h.off h.notReady hours
  constructor
  · intro hknown
    exact MachineState.respected_of_change h.reading (h.auto b (Nat.le_refl b)) h.off h.notReady
      (hiff.mpr hknown)
  · intro hclock hrespected
    rw [← hiff]
    by_contra hnot
    have hrecorded := hrespected.recorded
    rw [MachineState.manualPowerOff_settle h.reading, if_neg hnot] at hrecorded
    -- the record would be one of an earlier reconcile, at an earlier time
    obtain ⟨k, hk, htime⟩ := manualPowerOff_run inp b _ hrecorded
    have hlt := hclock k hk
    simp only at htime
    omega

/-- A machine that its pool wants on and that runs until someone unplugs it
before the third reconcile; the second one may not reach its interface. -/
def unplugged (reached : Bool) (n : Nat) : MachineInput where
  edit := { decision := if n = 0 then some (some ⟨"a", .on, "2 pending pod(s)", 0⟩) else none }
  mn := { name := "m1", spec := { nodeName := "m1", powerInterfaces := [{ driver := "redfish" }] } }
  cluster :=
    { nodes := [{ pooledNode false with
        conditions := [{ type_ := "Ready", status := if n < 2 then "True" else "False" }] }]
      pools := [poolA]
      nodes_distinct := List.nodup_singleton _
      pools_distinct := poolA_distinct }
  built := fun _ =>
    if n = 1 ∧ !reached then .error "no credentials"
    else .ok { powerState := .ok (if n < 2 then .on else .off) }
  now := seconds (10 * n)
  lookupAt := seconds (10 * n)
  storeAt := seconds (10 * n)

/-- The machine of `unplugged` is switched off by someone else. -/
theorem unplugged_switchedOff (reached : Bool) :
    ∃ d, SwitchedOff (unplugged reached) 0 2 d := by
  have hread : ((machineAt (unplugged reached) 2).reading (unplugged reached 2)).any (fun d =>
      d.fresh.powerState == .off && !d.fresh.nodeReady) = true := by
    cases reached <;> decide +kernel
  obtain ⟨d, hd, hdown⟩ := (Option.any_eq_true _ _).mp hread
  simp only [Bool.and_eq_true, beq_iff_eq, Bool.not_eq_true'] at hdown
  have hnothing : ∀ k < 2, (machineAt (unplugged reached) k).actions (unplugged reached k) = [] := by
    cases reached <;> decide +kernel
  refine ⟨d, by decide, fun _ _ => rfl, ?_, ?_, ?_, hd, hdown.1, hdown.2, ?_⟩
  · cases reached <;> decide +kernel
  · cases reached <;> decide +kernel
  · cases reached <;> decide +kernel
  · intro k hk action hmem
    rw [hnothing k hk] at hmem
    cases hmem

/-- The last reading is still stored: the power-off is taken for a manual one. -/
theorem unplugged_recorded : ∃ d,
    (machineAt (unplugged true) 2).PowerOffRespected (unplugged true 2) d := by
  obtain ⟨d, h⟩ := unplugged_switchedOff true
  exact ⟨d, (poweredOff_recorded (unplugged true) 0 2 h).1 (by decide +kernel)⟩

/-- **The interface cannot be built in between**: the power-off is not recorded,
and the stored decision powers the machine on again. -/
theorem unplugged_powered_on :
    (∃ d, SwitchedOff (unplugged false) 0 2 d) ∧
    (machineAt (unplugged false) 2).actions (unplugged false 2) = [.powerOn] ∧
    (machineAt (unplugged false) 3).stored.manualPowerOff = none ∧
    (machineAt (unplugged false) 3).stored.scalingDecision.isSome = true :=
  ⟨unplugged_switchedOff false, by decide +kernel, by decide +kernel, by decide +kernel⟩

end HardwareAutoscaler
