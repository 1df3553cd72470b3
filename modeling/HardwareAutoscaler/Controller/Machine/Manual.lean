/-
  HardwareAutoscaler.Controller.Machine.Manual
  ────────────────────────────────────────────
  WHOSE POWER CHANGE IT WAS.

  `detect_manual_change` knows one command only, the last one in the stored
  status.  Over a run this is the last command of a reconcile whose status was
  stored; an earlier one whose effect is still to come is forgotten.

    • `Reconciler.recorded_step` — a step records the last command it issues,
    • `lastPowerAction_run` — the stored record over a run,
    • `ReadInTime`, `change_none_iff` — when one reconcile takes no change for a
      manual one,
    • `OwnCommands`, `told_apart_iff` — where only the operator changes the power,
      the interleavings of commands and readings in which all reconciles do so,
    • `standby_overtaken` — a standby that takes effect after a later PowerOn
      is taken for a manual power-off.
-/
import HardwareAutoscaler.Controller.Machine.Boots
import HardwareAutoscaler.Controller.Machine.Cordon

namespace HardwareAutoscaler

open Std (TreeMap)

/-! ## §1. The record of a step. -/

/-- A plain effect issues no action. -/
theorem issued_of_plain {effects : List Effect} (h : ∀ e ∈ effects, Reconciler.IsPlain e) :
    issued effects = [] := by
  unfold issued
  rw [List.filterMap_eq_nil_iff]
  intro e he
  have hplain := h e he
  cases e with
  | act a ok => cases hplain
  | _ => rfl

namespace Reconciler

variable (r : Reconciler)

/-- Since `s` the commands `as` were issued, and the last of them recorded. -/
def RecordedSince (s s' : Progress) : Prop :=
  ∃ as, s'.issued = s.issued ++ as ∧
    s'.st.lastPowerAction = (as.getLast?.map r.record <|> s.st.lastPowerAction)

theorem recordedSince_kept (s : Progress) : r.KeptByMoves (r.RecordedSince s) where
  did := by
    rintro s' ys ⟨as, hissued, hlast⟩ hplain
    refine ⟨as, ?_, hlast⟩
    rw [Progress.issued_did, issued_of_plain hplain, List.append_nil]
    exact hissued
  phase := by
    rintro s' phase ⟨as, hissued, hlast⟩
    refine ⟨as, by rw [issued_setPhase]; exact hissued, ?_⟩
    rw [setPhase_eq]
    exact hlast
  clock := by
    rintro s' ⟨as, hissued, hlast⟩
    exact ⟨as, hissued, hlast⟩
  act := by
    rintro s' action ⟨as, hissued, _⟩
    refine ⟨as ++ [action], ?_, ?_⟩
    · rw [issued_act, hissued, List.append_assoc]
    · rw [act_st, List.getLast?_concat]
      rfl
  write := by
    rintro s' st ⟨as, hissued, hlast⟩ hcore
    exact ⟨as, hissued, hcore.lastPowerAction.trans hlast⟩

/-- **A step records the last command it issues**, and keeps the record when it
issues none. -/
theorem recorded_step (event : BootEvent) (consistent : Bool) (s : Progress)
    (hs : s.issued = []) :
    (r.step event consistent s).1.st.lastPowerAction =
      ((r.step event consistent s).1.issued.getLast?.map r.record <|> s.st.lastPowerAction) := by
  have hstart : r.RecordedSince s s := ⟨[], (List.append_nil _).symm, rfl⟩
  obtain ⟨as, hissued, hlast⟩ := (r.recordedSince_kept s).step event consistent hstart
  rw [hs, List.nil_append] at hissued
  rw [hissued]
  exact hlast

end Reconciler

/-! ## §2. The record over a run. -/

/-- What a record says of the command: which one it was, and when. -/
def PowerActionRecord.command (a : PowerActionRecord) : PowerAction × Int := (a.action, a.time)

namespace MachineState

variable (w : MachineState) (i : MachineInput)

/-- The command a reconcile leaves in the stored status: its last one, if it
gets to store its status. -/
def records : Option PowerAction :=
  if (w.cycle i).status.isSome then (w.actions i).getLast? else none

/-- A patch keeps the command, whatever it does to `via`. -/
theorem command_patched (old new : NodePowerManagementConfigStatus) :
    (patched old new).lastPowerAction.map PowerActionRecord.command
      = new.lastPowerAction.map PowerActionRecord.command := by
  unfold patched
  simp only
  split
  · rename_i hnew
    rw [hnew]
    rfl
  · rfl

variable {w i}

/-- The status a reconcile gets to store after its state machine. -/
theorem status_of_reading {d : MachineInput.Reading} {st : NodePowerManagementConfigStatus}
    (h : w.reading i = some d) (hstatus : (w.cycle i).status = some st) :
    st = (i.settle (w.old i) d).1.st := by
  have hread := reading_eq.mp h
  unfold cycle MachineInput.reconcile at hstatus
  rcases hr : i.read (w.old i) w.cache with ⟨answer, cache⟩
  rw [hr] at hread hstatus
  simp only at hread
  subst hread
  rcases hs : i.settle (w.old i) d with ⟨s, requeue⟩
  cases requeue with
  | none => simp [hs] at hstatus
  | some requeue =>
    simp only [hs] at hstatus
    split at hstatus
    · exact (Option.some.inj hstatus).symm
    · cases hstatus

/-- A reconcile that stopped early keeps the record. -/
theorem lastPowerAction_of_stopped {st : NodePowerManagementConfigStatus}
    (h : w.reading i = none) (hstatus : (w.cycle i).status = some st) :
    st.lastPowerAction = (w.old i).lastPowerAction := by
  unfold reading at h
  unfold cycle MachineInput.reconcile at hstatus
  rcases hr : i.read (w.old i) w.cache with ⟨answer, cache⟩
  rw [hr] at h hstatus
  cases answer with
  | ok d => cases h
  | error e =>
    simp only at hstatus
    have he : (i.read (w.old i) w.cache).1 = .error e := by rw [hr]
    obtain ⟨_, _, _, _, _, _, _, heq, _⟩ := MachineInput.stopped_frame he
    split at hstatus
    · rw [← Option.some.inj hstatus, heq]
    · cases hstatus

/-- The status a state machine starts from has the stored record. -/
theorem lastPowerAction_of_reading {d : MachineInput.Reading} (h : w.reading i = some d) :
    d.fresh.lastPowerAction = w.stored.lastPowerAction := by
  obtain ⟨_, _, _, _, _, _, _, hfresh⟩ := MachineInput.fresh_frame (reading_eq.mp h)
  rw [hfresh]
  rfl

variable (w i)

/-- **One reconcile**: the stored record is that of its last command, or the one
from before. -/
theorem command_step :
    (machineStep w i).stored.lastPowerAction.map PowerActionRecord.command =
      ((w.records i).map (·, i.now)
        <|> w.stored.lastPowerAction.map PowerActionRecord.command) := by
  unfold records
  cases hstatus : (w.cycle i).status with
  | none =>
    have hstored : (machineStep w i).stored = w.old i := by
      unfold machineStep
      rw [hstatus]
    rw [hstored]
    rfl
  -- stored, after the state machine or from a reconcile that stopped before it
  | some st =>
    have hstored : (machineStep w i).stored = patched (w.old i) st := by
      unfold machineStep
      rw [hstatus]
    rw [hstored, command_patched, Option.isSome_some, if_pos rfl]
    cases hr : w.reading i with
    | none =>
      rw [actions_of_stopped hr, lastPowerAction_of_stopped hr hstatus]
      rfl
    | some d =>
      rw [status_of_reading hr hstatus, actions_of_reading hr]
      have hstep : (i.settle (w.old i) d).1.st.lastPowerAction =
          ((i.settle (w.old i) d).1.issued.getLast?.map (d.machine i).record
            <|> (d.start i (w.old i)).lastPowerAction) :=
        (d.machine i).recorded_step (d.tracked i (w.old i)).2 (i.consistent d.fresh)
          ⟨d.start i (w.old i), d.contacted.map (.contact .status)⟩ (issued_contacts _)
      rw [hstep, MachineInput.Reading.start_lastPowerAction, lastPowerAction_of_reading hr]
      cases (i.settle (w.old i) d).1.issued.getLast? with
      | none => rfl
      | some a => rfl

end MachineState

/-- The last command before reconcile `n` whose record was stored: the reconcile
that issued it and the command. -/
def lastRecorded (inp : Nat → MachineInput) : Nat → Option (Nat × PowerAction)
  | 0 => none
  | n + 1 => ((machineAt inp n).records (inp n)).map (n, ·) <|> lastRecorded inp n

/-- **The stored record over a run** is that of the last command recorded. -/
theorem lastPowerAction_run (inp : Nat → MachineInput) (n : Nat) :
    (machineAt inp n).stored.lastPowerAction.map PowerActionRecord.command
      = (lastRecorded inp n).map (fun c => (c.2, (inp c.1).now)) := by
  induction n with
  | zero => rfl
  | succ n ih =>
    rw [machineAt_succ, MachineState.command_step, ih]
    show _ = Option.map _ (((machineAt inp n).records (inp n)).map (n, ·) <|> lastRecorded inp n)
    cases (machineAt inp n).records (inp n) with
    | none => rfl
    | some a => rfl

/-! ## §3. Which changes are told apart. -/

/-- What `detect_manual_change` lets through. -/
theorem detect_none_iff (old st : NodePowerManagementConfigStatus) (now : Int)
    (bootTimeout shutdownTimeout : UInt64) :
    detectManualChange old st now bootTimeout shutdownTimeout = .none ↔
      (old.phase = .off → onNow st = true → ourOn st now bootTimeout = true) ∧
      (old.phase = .standby → st.nodeReady = true →
        (∀ t, old.standbySince = some t → spontaneousWakeSecs < numSeconds (now - t)) →
        ourOn st now bootTimeout = true) ∧
      (old.phase ∈ ([.on, .poweringOn, .bootFailed] : List Phase) → old.powerState = .on →
        offNow st = true → ourOff st now shutdownTimeout = true) := by
  have hslept : (old.standbySince.all fun t => numSeconds (now - t) > spontaneousWakeSecs) = true ↔
      ∀ t, old.standbySince = some t → spontaneousWakeSecs < numSeconds (now - t) := by
    simp only [Option.all_eq_true, decide_eq_true_eq, gt_iff_lt]
  -- one group of phases for each kind of change; the others report none
  unfold detectManualChange
  rw [← hslept]
  cases old.phase with
  | off =>
    cases ourOn st now bootTimeout <;> simp
  | standby =>
    cases ourOn st now bootTimeout <;> simp
  | on => cases ourOff st now shutdownTimeout <;> simp
  | poweringOn => cases ourOff st now shutdownTimeout <;> simp
  | bootFailed => cases ourOff st now shutdownTimeout <;> simp
  | _ => simp

/-- The shutdown timeout and 300 s, where the sum does not wrap. -/
theorem wrapped_sum_eq {n : UInt64} (h : n.toNat + 300 < 2 ^ 63) :
    ((Int64.ofInt (asI64 n)) + 300).toInt = n.toNat + 300 := by
  have h300 : Int64.toInt 300 = 300 := by decide
  unfold asI64
  rw [Int64.ofInt_toInt, Int64.toInt_add, h300]
  show (asI64 n + 300).bmod _ = _
  rw [asI64_of_lt (by omega), Int.bmod_def]
  split <;> omega

section Runs

variable (inp : Nat → MachineInput) (n : Nat)

/-- The last command recorded before reconcile `n` is one of `commands`, at most
`limit` seconds before it. -/
def RecordedWithin (commands : PowerAction → Bool) (limit : Int) : Prop :=
  ∃ k a, lastRecorded inp n = some (k, a) ∧ commands a = true ∧
    numSeconds ((inp n).now - (inp k).now) ≤ limit

/-- The change that reconcile `n` reads, if it reads one, is that of the last
command recorded, and it is read in time. -/
structure ReadInTime (d : MachineInput.Reading) : Prop where
  /-- A machine that was off is up. -/
  on : (machineAt inp n).stored.phase = .off →
    d.fresh.powerState = .on ∨ d.fresh.nodeReady = true →
    RecordedWithin inp n (!·.isOff) (asI64 (d.machine (inp n)).bootTimeout)
  /-- A machine that was in standby, for longer than a spontaneous wake takes, is
  up. -/
  awake : (machineAt inp n).stored.phase = .standby → d.fresh.nodeReady = true →
    (∀ t, (machineAt inp n).stored.standbySince = some t →
      spontaneousWakeSecs < numSeconds ((inp n).now - t)) →
    RecordedWithin inp n (!·.isOff) (asI64 (d.machine (inp n)).bootTimeout)
  /-- A machine that was on, or on its way there, is off. -/
  off : (machineAt inp n).stored.phase ∈ ([.on, .poweringOn, .bootFailed] : List Phase) →
    (machineAt inp n).stored.powerState = .on → d.fresh.powerState = .off →
    d.fresh.nodeReady = false →
    RecordedWithin inp n (·.isOff)
      ((Int64.ofInt (asI64 (inp n).mn.spec.lifecycle.shutdownTimeoutSeconds)) + 300).toInt

variable {inp n}

/-- The age of the stored command is that of the last command recorded. -/
theorem actionAge_iff {d : MachineInput.Reading} (hd : (machineAt inp n).reading (inp n) = some d)
    (commands : PowerAction → Bool) (limit : Int) :
    (actionAge d.fresh commands (inp n).now).any (· ≤ limit) = true ↔
      RecordedWithin inp n commands limit := by
  have hrun := lastPowerAction_run inp n
  unfold actionAge RecordedWithin
  rw [MachineState.lastPowerAction_of_reading hd]
  -- a record is stored exactly when a command was recorded, and it names that command
  cases hlast : (machineAt inp n).stored.lastPowerAction with
  | none =>
    rw [hlast] at hrun
    cases hrec : lastRecorded inp n with
    | none => simp
    | some c =>
      rw [hrec] at hrun
      cases hrun
  | some a =>
    rw [hlast] at hrun
    cases hrec : lastRecorded inp n with
    | none =>
      rw [hrec] at hrun
      cases hrun
    | some c =>
      rw [hrec] at hrun
      have hcommand : (a.action, a.time) = (c.2, (inp c.1).now) := Option.some.inj hrun
      obtain ⟨haction, htime⟩ := Prod.mk.inj hcommand
      have hfilter : (some a).filter (fun a => commands a.action)
          = if commands c.2 then some a else none := by
        rw [← haction]
        rfl
      rw [hfilter]
      constructor
      · intro h
        split at h
        · rename_i hmem
          refine ⟨c.1, c.2, rfl, hmem, ?_⟩
          rw [← htime]
          simpa using h
        · cases h
      · rintro ⟨k, b, hc, hmem, hage⟩
        cases hc
        rw [if_pos hmem]
        show decide (numSeconds ((inp n).now - a.time) ≤ limit) = true
        rw [htime]
        exact decide_eq_true hage

/-- **One reconcile**: no change is taken for a manual one exactly when the
change it reads is that of the last command recorded, in time. -/
theorem change_none_iff {d : MachineInput.Reading}
    (hd : (machineAt inp n).reading (inp n) = some d) :
    d.change (inp n) ((machineAt inp n).old (inp n)) = .none ↔ ReadInTime inp n d := by
  have hon : ourOn d.fresh (inp n).now (d.machine (inp n)).bootTimeout = true ↔ _ :=
    actionAge_iff hd (!·.isOff) (asI64 (d.machine (inp n)).bootTimeout)
  have hoff : ourOff d.fresh (inp n).now (inp n).mn.spec.lifecycle.shutdownTimeoutSeconds = true ↔ _ :=
    actionAge_iff hd (·.isOff)
      ((Int64.ofInt (asI64 (inp n).mn.spec.lifecycle.shutdownTimeoutSeconds)) + 300).toInt
  have hup : onNow d.fresh = true ↔ d.fresh.powerState = .on ∨ d.fresh.nodeReady = true := by
    simp [onNow]
  have hdown : offNow d.fresh = true ↔ d.fresh.powerState = .off ∧ d.fresh.nodeReady = false := by
    simp [offNow]
  unfold MachineInput.Reading.change
  rw [detect_none_iff, hon, hoff, hup, hdown]
  constructor
  · rintro ⟨hfromOff, hfromStandby, hfromOn⟩
    exact ⟨hfromOff, hfromStandby, fun hphase hwas hpower hready =>
      hfromOn hphase hwas ⟨hpower, hready⟩⟩
  · intro h
    exact ⟨h.on, h.awake, fun hphase hwas hnow => h.off hphase hwas hnow.1 hnow.2⟩

end Runs

/-! ## §4. A machine whose power only the operator changes. -/

/-- Reconcile `n` reads the power state `p`. -/
def ReadsPower (inp : Nat → MachineInput) (n : Nat) (p : PowerState) : Bool :=
  ((machineAt inp n).reading (inp n)).any (·.fresh.powerState == p)

/-- Reconcile `n` reads the power state `after`, and the last one before it that
could read one read `before`. -/
def PowerChanges (inp : Nat → MachineInput) (n : Nat) (before after : PowerState) : Prop :=
  ReadsPower inp n after = true ∧ ∃ m < n, ReadsPower inp m before = true ∧
    ∀ j < n, m < j → ((machineAt inp j).reading (inp j)).isSome = false

instance (inp : Nat → MachineInput) (n : Nat) (before after : PowerState) :
    Decidable (PowerChanges inp n before after) :=
  inferInstanceAs (Decidable (_ ∧ ∃ m < n, _))

/-- In standby as far as the operator knows, and its Node is Ready. -/
def WakesUp (inp : Nat → MachineInput) (n : Nat) : Prop :=
  (machineAt inp n).stored.phase = .standby ∧
    ((machineAt inp n).reading (inp n)).any (·.fresh.nodeReady) = true

instance (inp : Nat → MachineInput) (n : Nat) : Decidable (WakesUp inp n) :=
  inferInstanceAs (Decidable (_ ∧ _))

/-- **The power of the machine changes only because of the operator's own
commands**, as its first `N` reconciles read it: it comes on, or wakes up, only
after a `PowerOn`, and goes off only within the shutdown timeout and 300 s of a
`PowerOff`, `ForceOff` or `Standby`. -/
structure OwnCommands (inp : Nat → MachineInput) (N : Nat) : Prop where
  comesOn : ∀ n < N, PowerChanges inp n .off .on →
    ∃ k < n, PowerAction.powerOn ∈ (machineAt inp k).actions (inp k)
  wakesUp : ∀ n < N, WakesUp inp n →
    ∃ k < n, PowerAction.powerOn ∈ (machineAt inp k).actions (inp k)
  goesOff : ∀ n < N, PowerChanges inp n .on .off →
    ∃ k < n, (∃ a ∈ (machineAt inp k).actions (inp k), a.isOff = true) ∧
      (inp n).now - (inp k).now
        ≤ seconds ((inp n).mn.spec.lifecycle.shutdownTimeoutSeconds.toNat + 300)

/-! ## §5. Which interleavings are told apart. -/

/-- The last command issued before reconcile `n`, and the reconcile that issued
it. -/
def lastIssued (inp : Nat → MachineInput) : Nat → Option (Nat × PowerAction)
  | 0 => none
  | n + 1 => ((machineAt inp n).actions (inp n)).getLast?.map (n, ·) <|> lastIssued inp n

/-- Reconcile `n` reads the power otherwise than it is stored. -/
def ReadsChange (inp : Nat → MachineInput) (n : Nat) : Prop :=
  ((machineAt inp n).stored.phase = .off ∧ ReadsPower inp n .on = true) ∨
    ((machineAt inp n).stored.powerState = .on ∧ ReadsPower inp n .off = true)

instance (inp : Nat → MachineInput) (n : Nat) : Decidable (ReadsChange inp n) :=
  inferInstanceAs (Decidable (_ ∨ _))

/-- **No command and no change is lost** in the first `N` reconciles: each that
issues a command, or reads the power otherwise than stored, gets to store its
status.  The clock does not go back, and the timeout fits. -/
structure NothingLost (inp : Nat → MachineInput) (N : Nat) : Prop where
  clock : ∀ n < N, ∀ k < n, (inp k).now ≤ (inp n).now
  fits : ∀ n < N, (inp n).mn.spec.lifecycle.shutdownTimeoutSeconds.toNat + 300 < 2 ^ 63
  command : ∀ n < N, (machineAt inp n).actions (inp n) ≠ [] →
    ((machineAt inp n).cycle (inp n)).status.isSome = true
  change : ∀ n < N, ReadsChange inp n → ((machineAt inp n).cycle (inp n)).status.isSome = true

/-- The command is a `PowerOn` within the boot timeout before reconcile `n`. -/
def bringsUp (inp : Nat → MachineInput) (n : Nat) (d : MachineInput.Reading)
    (c : Nat × PowerAction) : Bool :=
  !c.2.isOff && numSeconds ((inp n).now - (inp c.1).now) ≤ asI64 (d.machine (inp n)).bootTimeout

/-- **Commands and readings in order** at reconcile `n`, with reading `d`: the
command behind a change that is read is still the last one. -/
structure InOrder (inp : Nat → MachineInput) (n : Nat) (d : MachineInput.Reading) : Prop where
  /-- No `PowerOn` overtook the command that took it off, or to sleep. -/
  off : (machineAt inp n).stored.phase ∈ ([.on, .poweringOn, .bootFailed] : List Phase) →
    (machineAt inp n).stored.powerState = .on → d.fresh.powerState = .off →
    d.fresh.nodeReady = false → (lastIssued inp n).all (fun c => c.2.isOff) = true
  /-- No command to go off overtook the `PowerOn`, and it took effect in time. -/
  on : (machineAt inp n).stored.phase = .off → d.fresh.powerState = .on →
    (lastIssued inp n).all (bringsUp inp n d) = true
  awake : (machineAt inp n).stored.phase = .standby → d.fresh.nodeReady = true →
    (machineAt inp n).stored.standbySince.all
      (fun t => spontaneousWakeSecs < numSeconds ((inp n).now - t)) = true →
    (lastIssued inp n).all (bringsUp inp n d) = true
  /-- The Node of a machine that is still off does not count as Ready, unless the
  machine is on its way up. -/
  still : (machineAt inp n).stored.phase = .off → d.fresh.powerState = .off →
    d.fresh.nodeReady = true → (lastIssued inp n).any (bringsUp inp n d) = true

instance (inp : Nat → MachineInput) (n : Nat) (d : MachineInput.Reading) :
    Decidable (InOrder inp n d) :=
  decidable_of_iff (((machineAt inp n).stored.phase ∈ ([.on, .poweringOn, .bootFailed] : List Phase) →
      (machineAt inp n).stored.powerState = .on → d.fresh.powerState = .off →
      d.fresh.nodeReady = false → (lastIssued inp n).all (fun c => c.2.isOff) = true) ∧
    ((machineAt inp n).stored.phase = .off → d.fresh.powerState = .on →
      (lastIssued inp n).all (bringsUp inp n d) = true) ∧
    ((machineAt inp n).stored.phase = .standby → d.fresh.nodeReady = true →
      (machineAt inp n).stored.standbySince.all
        (fun t => spontaneousWakeSecs < numSeconds ((inp n).now - t)) = true →
      (lastIssued inp n).all (bringsUp inp n d) = true) ∧
    ((machineAt inp n).stored.phase = .off → d.fresh.powerState = .off →
      d.fresh.nodeReady = true → (lastIssued inp n).any (bringsUp inp n d) = true))
    ⟨fun h => ⟨h.1, h.2.1, h.2.2.1, h.2.2.2⟩, fun h => ⟨h.off, h.on, h.awake, h.still⟩⟩

section InOrder

variable {inp : Nat → MachineInput} {N n : Nat} {d : MachineInput.Reading}

/-- A command issued before is, or was followed by, the last one. -/
theorem exists_lastIssued {k : Nat} (hk : k < n)
    (hissued : (machineAt inp k).actions (inp k) ≠ []) :
    ∃ j a, lastIssued inp n = some (j, a) ∧ k ≤ j ∧ j < n := by
  induction n with
  | zero => omega
  | succ n ih =>
    unfold lastIssued
    cases hlast : ((machineAt inp n).actions (inp n)).getLast? with
    | some a => exact ⟨n, a, rfl, by omega, by omega⟩
    | none =>
      have hnone : (machineAt inp n).actions (inp n) = [] := by simpa using hlast
      have hne : k ≠ n := by
        rintro rfl
        exact hissued hnone
      obtain ⟨j, a, hj, hkj, hjn⟩ := ih (by omega)
      exact ⟨j, a, hj, hkj, by omega⟩

/-- Where no command is lost, the last one recorded is the last one issued. -/
theorem NothingLost.lastRecorded (h : NothingLost inp N) (hn : n ≤ N) :
    lastRecorded inp n = lastIssued inp n := by
  induction n with
  | zero => rfl
  | succ n ih =>
    have hrecords : (machineAt inp n).records (inp n)
        = ((machineAt inp n).actions (inp n)).getLast? := by
      unfold MachineState.records
      split
      · rfl
      · rename_i hlost
        cases hactions : (machineAt inp n).actions (inp n) with
        | nil => rfl
        | cons a as => exact absurd (h.command n (by omega) (by rw [hactions]; simp)) hlost
    unfold HardwareAutoscaler.lastRecorded lastIssued
    rw [hrecords, ih (by omega)]

/-- The last reconcile before `n` that could read the power read `p`. -/
def LastRead (inp : Nat → MachineInput) (n : Nat) (p : PowerState) : Prop :=
  ∃ m < n, ReadsPower inp m p = true ∧
    ∀ j < n, m < j → ((machineAt inp j).reading (inp j)).isSome = false

theorem LastRead.keep {p : PowerState} (h : LastRead inp n p)
    (hnone : (machineAt inp n).reading (inp n) = none) : LastRead inp (n + 1) p := by
  obtain ⟨m, hm, hread, hsince⟩ := h
  refine ⟨m, by omega, hread, fun j hj hmj => ?_⟩
  rcases Nat.lt_succ_iff_lt_or_eq.mp hj with hlt | rfl
  · exact hsince j hlt hmj
  · rw [hnone]
    rfl

theorem LastRead.now {p : PowerState} (hd : (machineAt inp n).reading (inp n) = some d)
    (hp : d.fresh.powerState = p) : LastRead inp (n + 1) p := by
  refine ⟨n, by omega, ?_, fun j hj hnj => by omega⟩
  unfold ReadsPower
  rw [hd]
  simpa using hp

/-- **What is stored as off was read off, and what is stored as on was read on**,
by the last reconcile that could read the power. -/
theorem NothingLost.lastRead (h : NothingLost inp N) (hn : n ≤ N) :
    ((machineAt inp n).stored.phase = .off → LastRead inp n .off) ∧
    ((machineAt inp n).stored.powerState = .on → LastRead inp n .on) := by
  induction n with
  | zero =>
    constructor
    · intro hphase
      cases hphase
    · intro hpower
      cases hpower
  | succ n ih =>
    obtain ⟨hoff, hon⟩ := ih (by omega)
    rw [machineAt_succ]
    rcases (machineAt inp n).step_stored (inp n) with
      ⟨hnone, hstored⟩ | ⟨e, he, hstored⟩ | ⟨d, hd, hanswer, hstored⟩
    -- nothing is stored, so no change was read
    · have hsame : ¬ ReadsChange inp n := by
        intro hchange
        have hstatus := h.change n (by omega) hchange
        rw [hnone] at hstatus
        cases hstatus
      rw [hstored]
      cases hd : (machineAt inp n).reading (inp n) with
      | none => exact ⟨fun hp => (hoff hp).keep hd, fun hp => (hon hp).keep hd⟩
      | some d =>
        have hreads : ∀ p, d.fresh.powerState = p → ReadsPower inp n p = true := by
          intro p hp
          unfold ReadsPower
          rw [hd]
          simpa using hp
        rcases MachineInput.power_known (MachineState.reading_eq.mp hd) with hup | hdown
        · exact ⟨fun hp => absurd (Or.inl ⟨hp, hreads _ hup⟩) hsame, fun _ => .now hd hup⟩
        · exact ⟨fun _ => .now hd hdown, fun hp => absurd (Or.inr ⟨hp, hreads _ hdown⟩) hsame⟩
    · have hd : (machineAt inp n).reading (inp n) = none := by
        cases hd : (machineAt inp n).reading (inp n) with
        | none => rfl
        | some d =>
          rw [MachineState.reading_eq, he] at hd
          cases hd
      obtain ⟨_, _, _, _, _, _, _, heq, hphase⟩ := MachineInput.stopped_frame he
      rw [hstored]
      constructor
      · intro hp
        have hp : e.st.phase = .off := hp
        rcases hphase with herror | hsame
        · rw [hp] at herror
          cases herror
        · exact (hoff (hsame.symm.trans hp)).keep hd
      · intro hp
        have hp : e.st.powerState = .on := hp
        rw [heq] at hp
        cases hp
    · have hpower : ((inp n).settle ((machineAt inp n).old (inp n)) d).1.st.powerState
          = d.fresh.powerState :=
        ((d.machine (inp n)).powerState_step _ _ _).trans (d.start_powerState _ _)
      rw [hstored]
      constructor
      · intro hp
        have hnot := (d.machine (inp n)).powerState_of_off _ hanswer hp
        have hnot : d.fresh.powerState ≠ .on := fun hup =>
          hnot ((d.start_powerState _ _).trans hup)
        exact .now hd
          ((MachineInput.power_known (MachineState.reading_eq.mp hd)).resolve_left hnot)
      · intro hp
        exact .now hd (hpower.symm.trans hp)

/-- An off command within the shutdown timeout and 300 s is one by the detection
window too, and so is a later one. -/
theorem NothingLost.withinWindow (h : NothingLost inp N) (hn : n < N) {k j : Nat} (hkj : k ≤ j)
    (hjn : j < n)
    (hrecent : (inp n).now - (inp k).now
      ≤ seconds ((inp n).mn.spec.lifecycle.shutdownTimeoutSeconds.toNat + 300)) :
    numSeconds ((inp n).now - (inp j).now)
      ≤ ((Int64.ofInt (asI64 (inp n).mn.spec.lifecycle.shutdownTimeoutSeconds)) + 300).toInt := by
  have hclock : (inp k).now ≤ (inp j).now := by
    rcases Nat.lt_or_eq_of_le hkj with hlt | rfl
    · exact h.clock j (by omega) k hlt
    · exact Int.le_refl _
  rw [wrapped_sum_eq (h.fits n hn)]
  by_contra hlate
  have hlt := seconds_lt_of_lt_numSeconds (Int.not_le.mp hlate)
  omega

/-- A `PowerOn` is recorded in time when the last command brings the machine up. -/
theorem NothingLost.recordedOn_iff (h : NothingLost inp N) (hn : n < N) :
    RecordedWithin inp n (!·.isOff) (asI64 (d.machine (inp n)).bootTimeout) ↔
      (lastIssued inp n).any (bringsUp inp n d) = true := by
  unfold RecordedWithin
  rw [h.lastRecorded (Nat.le_of_lt hn)]
  constructor
  · rintro ⟨k, a, hlast, hon, hage⟩
    rw [hlast]
    unfold bringsUp
    simp only [Option.any_some, Bool.and_eq_true, decide_eq_true_eq]
    exact ⟨hon, hage⟩
  · intro hany
    obtain ⟨⟨k, a⟩, hlast, hbrings⟩ := (Option.any_eq_true _ _).mp hany
    unfold bringsUp at hbrings
    simp only [Bool.and_eq_true, decide_eq_true_eq] at hbrings
    exact ⟨k, a, hlast, hbrings.1, hbrings.2⟩

/-- After a `PowerOn` there is a last command, so what holds of it holds of one. -/
theorem bringsUp_of_all {k : Nat} (hk : k < n)
    (hissued : PowerAction.powerOn ∈ (machineAt inp k).actions (inp k))
    (hall : (lastIssued inp n).all (bringsUp inp n d) = true) :
    (lastIssued inp n).any (bringsUp inp n d) = true := by
  obtain ⟨j, a, hlast, _, _⟩ := exists_lastIssued hk (List.ne_nil_of_mem hissued)
  rw [hlast] at hall ⊢
  exact hall

/-- A standby that lasts, as the detection and as the record of its time have
it. -/
theorem slept_iff {old : NodePowerManagementConfigStatus} {now : Int} :
    old.standbySince.all (fun t => spontaneousWakeSecs < numSeconds (now - t)) = true ↔
      ∀ t, old.standbySince = some t → spontaneousWakeSecs < numSeconds (now - t) := by
  simp only [Option.all_eq_true, decide_eq_true_eq]

/-- **One reconcile**, where only the operator changes the power and nothing is
lost. -/
theorem readInTime_iff_inOrder (hown : OwnCommands inp N) (h : NothingLost inp N) (hn : n < N)
    (hd : (machineAt inp n).reading (inp n) = some d) :
    ReadInTime inp n d ↔ InOrder inp n d := by
  have hreads : ∀ p, d.fresh.powerState = p → ReadsPower inp n p = true := by
    intro p hp
    unfold ReadsPower
    rw [hd]
    simpa using hp
  obtain ⟨hwasOff, hwasOn⟩ := h.lastRead (Nat.le_of_lt hn)
  have hon_iff := h.recordedOn_iff (d := d) hn
  have any_all : ∀ {α : Type} {p : α → Bool} {x : Option α}, x.any p = true → x.all p = true := by
    intro α p x hany
    obtain ⟨c, rfl, hc⟩ := (Option.any_eq_true _ _).mp hany
    exact hc
  constructor
  · intro htime
    refine ⟨?_, ?_, ?_, ?_⟩
    · intro hphase hwas hoff hready
      obtain ⟨k, a, hlast, hisOff, _⟩ := htime.off hphase hwas hoff hready
      rw [h.lastRecorded (Nat.le_of_lt hn)] at hlast
      rw [hlast]
      exact hisOff
    · intro hphase hup
      exact any_all (hon_iff.mp (htime.on hphase (Or.inl hup)))
    · intro hphase hready hslept
      exact any_all (hon_iff.mp (htime.awake hphase hready (slept_iff.mp hslept)))
    · intro hphase _ hready
      exact hon_iff.mp (htime.on hphase (Or.inr hready))
  · intro hord
    refine ⟨?_, ?_, ?_⟩
    -- it comes on, after a `PowerOn`; or it is still off, with its Node Ready
    · intro hphase hup
      rw [hon_iff]
      rcases MachineInput.power_known (MachineState.reading_eq.mp hd) with hon | hoff
      · obtain ⟨k, hk, hissued⟩ := hown.comesOn n hn ⟨hreads _ hon, hwasOff hphase⟩
        exact bringsUp_of_all hk hissued (hord.on hphase hon)
      · rcases hup with hon | hready
        · rw [hoff] at hon
          cases hon
        · exact hord.still hphase hoff hready
    -- it wakes up, after a `PowerOn`
    · intro hphase hready hslept
      rw [hon_iff]
      have hwakes : WakesUp inp n := by
        refine ⟨hphase, ?_⟩
        rw [hd]
        exact hready
      obtain ⟨k, hk, hissued⟩ := hown.wakesUp n hn hwakes
      exact bringsUp_of_all hk hissued (hord.awake hphase hready (slept_iff.mpr hslept))
    -- it goes off, soon after a command that the last one did not overtake
    · intro hphase hwas hoff hready
      obtain ⟨k, hk, ⟨action, hissued, _⟩, hrecent⟩ :=
        hown.goesOff n hn ⟨hreads _ hoff, hwasOn hwas⟩
      obtain ⟨j, a, hlast, hkj, hjn⟩ := exists_lastIssued hk (List.ne_nil_of_mem hissued)
      have hall := hord.off hphase hwas hoff hready
      rw [hlast] at hall
      refine ⟨j, a, ?_, hall, h.withinWindow hn hkj hjn hrecent⟩
      rw [h.lastRecorded (Nat.le_of_lt hn), hlast]

end InOrder

/-- **Where only the operator changes the power, and nothing is lost, no change is
taken for a manual one exactly when commands and readings come in order.** -/
theorem told_apart_iff (inp : Nat → MachineInput) (N : Nat) (hown : OwnCommands inp N)
    (hlost : NothingLost inp N) :
    (∀ n < N, ∀ d, (machineAt inp n).reading (inp n) = some d →
      d.change (inp n) ((machineAt inp n).old (inp n)) = .none) ↔
    ∀ n < N, ∀ d, (machineAt inp n).reading (inp n) = some d → InOrder inp n d := by
  constructor
  · intro h n hn d hd
    exact (readInTime_iff_inOrder hown hlost hn hd).mp ((change_none_iff hd).mp (h n hn d hd))
  · intro h n hn d hd
    exact (change_none_iff hd).mpr ((readInTime_iff_inOrder hown hlost hn hd).mpr (h n hn d hd))

/-- A machine that pool `a` lets sleep, and wants back from reconcile `wanted`
on.  Its Node is gone after the second reconcile, its interface reads Off in
the fourth and On again from the sixth on. -/
def suspended (wanted n : Nat) : MachineInput where
  edit :=
    { decision :=
        if n < wanted then some (some ⟨"a", .off, "unneeded", 0⟩)
        else some (some ⟨"a", .on, "2 pending pod(s)", seconds (10 * n)⟩) }
  mn :=
    { name := "m1"
      spec :=
        { nodeName := "m1"
          powerInterfaces := [{ driver := "redfish" }]
          lifecycle := { powerOffMode := .standby } } }
  cluster :=
    { nodes := [{ pooledNode (n != 0) with
        conditions := [{ type_ := "Ready", status := if n < 2 then "True" else "False" }] }]
      pools := [poolA]
      nodes_distinct := List.nodup_singleton _
      pools_distinct := poolA_distinct }
  built := fun _ => .ok { powerState := .ok (if n < 3 ∨ 5 ≤ n then .on else .off) }
  now := seconds (10 * n)
  lookupAt := seconds (10 * n)
  storeAt := seconds (10 * n)

/-- Wanted back in the fifth reconcile, the machine is in standby by then: its
standby and its waking are told apart from what others do. -/
theorem told_apart_in_order : OwnCommands (suspended 4) 6 ∧ PowerChanges (suspended 4) 3 .on .off ∧
    PowerChanges (suspended 4) 5 .off .on ∧
    ∀ n < 6, ∀ d, (machineAt (suspended 4) n).reading (suspended 4 n) = some d →
      d.change (suspended 4 n) ((machineAt (suspended 4) n).old (suspended 4 n)) = .none := by
  have hown : OwnCommands (suspended 4) 6 :=
    ⟨by decide +kernel, by decide +kernel, by decide +kernel⟩
  have hlost : NothingLost (suspended 4) 6 :=
    ⟨by decide +kernel, by decide +kernel, by decide +kernel, by decide +kernel⟩
  have hall : ∀ n < 6, ((machineAt (suspended 4) n).reading (suspended 4 n)).all (fun d =>
      decide (InOrder (suspended 4) n d)) = true := by
    decide +kernel
  refine ⟨hown, by decide +kernel, by decide +kernel,
    (told_apart_iff (suspended 4) 6 hown hlost).mpr ?_⟩
  intro n hn d hd
  have hord := hall n hn
  rw [hd] at hord
  exact of_decide_eq_true hord

/-- **A standby that takes effect after a later PowerOn**: the machine is wanted
back 10 s after its `Standby`, is sent a `PowerOn`, and reads Off 20 s after the
`Standby`.  The record is that of the `PowerOn` by then, so the machine counts as
switched off by hand, and the decision of its pool is dropped. -/
theorem standby_overtaken : OwnCommands (suspended 2) 4 ∧ NothingLost (suspended 2) 4 ∧
    (machineAt (suspended 2) 1).actions (suspended 2 1) = [.standby] ∧
    (machineAt (suspended 2) 2).actions (suspended 2 2) = [.powerOn] ∧
    (∃ d, (machineAt (suspended 2) 3).reading (suspended 2 3) = some d ∧
      d.change (suspended 2 3) ((machineAt (suspended 2) 3).old (suspended 2 3)) = .poweredOff) ∧
    (machineAt (suspended 2) 4).stored.scalingDecision = none := by
  have hown : OwnCommands (suspended 2) 4 :=
    ⟨by decide +kernel, by decide +kernel, by decide +kernel⟩
  have hlost : NothingLost (suspended 2) 4 :=
    ⟨by decide +kernel, by decide +kernel, by decide +kernel, by decide +kernel⟩
  have hread : ((machineAt (suspended 2) 3).reading (suspended 2 3)).any (fun d =>
      d.change (suspended 2 3) ((machineAt (suspended 2) 3).old (suspended 2 3)) == .poweredOff)
      = true := by
    decide +kernel
  obtain ⟨d, hd, hchange⟩ := (Option.any_eq_true _ _).mp hread
  exact ⟨hown, hlost, by decide +kernel, by decide +kernel, ⟨d, hd, eq_of_beq hchange⟩,
    by decide +kernel⟩

end HardwareAutoscaler
