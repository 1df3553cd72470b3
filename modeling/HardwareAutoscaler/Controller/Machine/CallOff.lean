/-
  HardwareAutoscaler.Controller.Machine.CallOff
  ─────────────────────────────────────────────
  AN OFF ACTION THAT IS CALLED OFF: the target turns to On while a suspend or
  a graceful shutdown is in flight.

  `ensure_on` withdraws the suspend and waits for the shutdown, but only after
  its shortcut for a machine that reads On with a Ready Node, and the suspend
  only after an attempt that has expired.

    • `suspend_withdrawn_iff` — when the suspend pod is deleted first,
    • `shutdown_awaited_iff` — when the shutdown is waited for,
    • `called_off_iff` — both together.
-/
import HardwareAutoscaler.Controller.Machine.Boots
import HardwareAutoscaler.Controller.Machine.Manual

namespace HardwareAutoscaler

namespace Reconciler

variable (r : Reconciler) (st : NodePowerManagementConfigStatus)

/-! ## §1. What the Node answers. -/

/-- The Node carries the operator's cordon. -/
def uncordons : Bool := r.node.any cordonedByUs

/-- The Node carries the powered-off marker. -/
def unmarks : Bool := r.node.any (·.annotations.contains poweredOffAnnotation)

theorem uncordon_eq : r.uncordon =
    (!r.uncordons || r.api.uncordon, if r.uncordons && r.api.uncordon then [.uncordon] else []) := by
  unfold uncordon uncordons uncordonIfOurs
  cases r.node with
  | none => rfl
  | some node =>
    cases hours : cordonedByUs node with
    | false => simp [hours]
    | true => cases hapi : r.api.uncordon <;> simp [hours]

theorem clearMarker_fst : r.clearMarker.1 = (!r.unmarks || r.api.clearPoweredOff) := by
  unfold clearMarker unmarks clearPoweredOff
  cases r.node with
  | none => rfl
  | some node =>
    cases hmark : node.annotations.contains poweredOffAnnotation with
    | false => simp [hmark]
    | true => cases hapi : r.api.clearPoweredOff <;> simp [hmark]

theorem clearMarker_of_failed (h : r.clearMarker.1 = false) : r.clearMarker.2 = [] := by
  unfold clearMarker clearPoweredOff at h ⊢
  cases hnode : r.node with
  | none => rfl
  | some node =>
    rw [hnode] at h
    simp only at h ⊢
    split
    · rfl
    · rename_i hmark
      rw [if_neg hmark] at h
      split
      · rename_i hapi
        rw [if_pos hapi] at h
        cases h
      · rfl

theorem clearMarker_keeps_pod : Effect.deleteSuspendPod ∉ r.clearMarker.2 := by
  unfold clearMarker clearPoweredOff
  cases r.node with
  | none => simp
  | some node =>
    simp only
    split
    · simp
    · split <;> simp

variable (s : Progress)

/-- A machine whose Node cannot be written to stays as it is. -/
theorem online_refused (h : r.uncordon.1 = false ∨ r.clearMarker.1 = false) :
    (r.online s).1 = s.did r.uncordon.2 := by
  unfold online
  simp only
  by_cases hu : r.uncordon.1 = true
  · have hc : r.clearMarker.1 = false := h.resolve_left (by simp [hu])
    rw [if_neg (by simp [hu]), if_pos (by simp [hc]), r.clearMarker_of_failed hc]
    show ((s.did r.uncordon.2).did []) = s.did r.uncordon.2
    unfold Progress.did
    simp
  · rw [if_pos (by simpa using hu)]

/-- Otherwise it is up: no standby is recorded any more. -/
theorem online_up (hu : r.uncordon.1 = true) (hc : r.clearMarker.1 = true) :
    (r.online s).1.st.phase = .on ∧ (r.online s).1.st.standbySince = none ∧
    ∃ rest, (r.online s).1.effects = s.effects ++ r.uncordon.2 ++ rest ∧
      Effect.deleteSuspendPod ∉ rest := by
  -- entering On has no effect of its own; the probe adds at most one, which is no pod
  have hon : ∀ s' : Progress, (r.enterOn s').st.phase = .on ∧ (r.enterOn s').st.standbySince = none ∧
      (r.enterOn s').effects = s'.effects := by
    intro s'
    unfold enterOn
    simp
  have hprobe : ∀ s' : Progress, (r.probeSleep s').1.st.phase = s'.st.phase ∧
      (r.probeSleep s').1.st.standbySince = s'.st.standbySince ∧
      ∃ rest, (r.probeSleep s').1.effects = s'.effects ++ rest ∧
        Effect.deleteSuspendPod ∉ rest := by
    intro s'
    unfold probeSleep
    split
    · exact ⟨rfl, rfl, [], by simp, by simp⟩
    · split
      · exact ⟨rfl, rfl, [], by simp, by simp⟩
      · split
        · exact ⟨rfl, rfl, [.probe], rfl, by simp⟩
        · exact ⟨rfl, rfl, [.probe], rfl, by simp⟩
  obtain ⟨hphase, hstandby, heffects⟩ := hon ((s.did r.uncordon.2).did r.clearMarker.2)
  unfold online
  simp only
  rw [if_neg (by simp [hu]), if_neg (by simp [hc])]
  split
  · obtain ⟨hp, hst, rest, heff, hrest⟩ :=
      hprobe (r.enterOn ((s.did r.uncordon.2).did r.clearMarker.2))
    refine ⟨hp.trans hphase, hst.trans hstandby, r.clearMarker.2 ++ rest, ?_, ?_⟩
    · show (r.probeSleep _).1.effects = _
      rw [heff, heffects]
      show s.effects ++ r.uncordon.2 ++ r.clearMarker.2 ++ rest = _
      rw [List.append_assoc (s.effects ++ r.uncordon.2)]
    · simp [hrest, r.clearMarker_keeps_pod]
  · exact ⟨hphase, hstandby, r.clearMarker.2, heffects, r.clearMarker_keeps_pod⟩

/-- No power action deletes the suspend pod. -/
theorem act_keeps_pod (action : PowerAction)
    (h : Effect.deleteSuspendPod ∉ s.effects) :
    Effect.deleteSuspendPod ∉ (r.act action s).effects := by
  have hasked : ∀ a answer, Effect.deleteSuspendPod ∉ (asked a answer).2 := by
    intro a answer
    unfold asked
    simp
  have hcommand : Effect.deleteSuspendPod ∉ (r.command action).2 := by
    unfold command
    split
    · simp
    · cases action with
      | standby => simp
      | powerOn => exact hasked _ _
      | powerOff => exact hasked _ _
      | forceOff => exact hasked _ _
  show Effect.deleteSuspendPod ∉ s.effects ++ (r.command action).2 ++ [.act action _]
  simp [h, hcommand]

/-- Starting a machine deletes no pod. -/
theorem startPowerOn_pod : Effect.deleteSuspendPod ∈ (r.startPowerOn s).effects ↔
    Effect.deleteSuspendPod ∈ s.effects := by
  have hact : Effect.deleteSuspendPod ∈ (r.act .powerOn s).effects ↔
      Effect.deleteSuspendPod ∈ s.effects := by
    constructor
    · intro h
      by_contra hnot
      exact r.act_keeps_pod s .powerOn hnot h
    · intro h
      show Effect.deleteSuspendPod ∈ s.effects ++ (r.command .powerOn).2 ++ [.act .powerOn _]
      simp [h]
  unfold startPowerOn
  simp only
  split <;> rw [setPhase_effects, hact]

/-- Nor does releasing one. -/
theorem released_keeps_pod (h : Effect.deleteSuspendPod ∉ s.effects) :
    Effect.deleteSuspendPod ∉ (r.releaseFailedPowerOn s).effects := by
  have hmark : Effect.deleteSuspendPod ∉ markPoweredOff r.dryRun r.api := by
    unfold markPoweredOff
    split <;> simp
  unfold releaseFailedPowerOn
  simp only
  split
  · rw [setPhase_effects]
    refine r.act_keeps_pod _ .forceOff ?_
    show Effect.deleteSuspendPod ∉ s.effects ++ markPoweredOff r.dryRun r.api
    simp [h, hmark]
  · rw [setPhase_effects]
    exact h

/-! ## §2. A suspend in flight. -/

/-- The off action in flight is a suspend. -/
def SuspendInFlight : Prop :=
  (st.phase = .poweringOff ∨ st.phase = .standby) ∧ st.standbySince.isSome = true

/-- **The suspend pod is deleted before the machine leaves the phase or its
standby record is cleared.** -/
def SuspendWithdrawn : Prop :=
  ((r.ensureOn { st := st }).1.st.phase = st.phase ∧
    (r.ensureOn { st := st }).1.st.standbySince = st.standbySince) ∨
  Effect.deleteSuspendPod ∈ (r.ensureOn { st := st }).1.effects

/-- The suspend is called off in time: the machine is not taken for one that is
up (or its Node cannot be written to), the attempt has not expired, and the pod
can be deleted. -/
def SuspendCalledOff : Prop :=
  if st.powerState = .on ∧ st.nodeReady = true then
    (r.uncordons = true ∧ r.api.uncordon = false) ∨
      (r.unmarks = true ∧ r.api.clearPoweredOff = false)
  else powerOnAttempt st r.now r.powerOnFailurePolicy r.powerOnTimeout = .ongoing ∧
    r.api.cancel = true

variable {st}

/-- When the Node of a machine that is up can be written to. -/
theorem refused_iff : (r.uncordon.1 = false ∨ r.clearMarker.1 = false) ↔
    (r.uncordons = true ∧ r.api.uncordon = false) ∨
      (r.unmarks = true ∧ r.api.clearPoweredOff = false) := by
  rw [clearMarker_fst, uncordon_eq]
  simp

theorem keeps_pod_uncordon : Effect.deleteSuspendPod ∉ r.uncordon.2 := by
  rw [uncordon_eq]
  split <;> simp

/-- Of a machine that is up the suspend is withdrawn only when its Node cannot be
written to: it stays as it is. -/
theorem withdrawn_up (h : SuspendInFlight st) (hup : st.powerState = .on ∧ st.nodeReady = true) :
    r.SuspendWithdrawn st ↔ r.uncordon.1 = false ∨ r.clearMarker.1 = false := by
  have hnotOn : st.phase ≠ .on := by
    rcases h.1 with hp | hp <;> simp [hp]
  unfold SuspendWithdrawn
  rw [r.ensureOn_up { st := st } hup]
  constructor
  · intro hw
    by_contra hwritten
    simp only [not_or, Bool.not_eq_false] at hwritten
    obtain ⟨hon, _, rest, heff, hrest⟩ := r.online_up { st := st } hwritten.1 hwritten.2
    rcases hw with ⟨hkept, _⟩ | hdeleted
    · exact hnotOn (hkept.symm.trans hon)
    · rw [heff] at hdeleted
      simp [hrest, r.keeps_pod_uncordon] at hdeleted
  · intro hrefused
    rw [r.online_refused _ hrefused]
    exact Or.inl ⟨rfl, rfl⟩

/-- An attempt that has expired leaves the suspend pod where it is. -/
theorem not_withdrawn_expired (h : SuspendInFlight st)
    (hexpired : powerOnAttempt st r.now r.powerOnFailurePolicy r.powerOnTimeout = .expired) :
    ¬ r.SuspendWithdrawn st := by
  unfold SuspendWithdrawn
  rw [r.ensureOn_expired { st := st } hexpired]
  rintro (⟨hkept, _⟩ | hdeleted)
  · rw [phase_released] at hkept
    rcases h.1 with hp | hp
    · rw [hp] at hkept
      split at hkept <;> cases hkept
    · rw [hp] at hkept
      split at hkept <;> cases hkept
  · exact r.released_keeps_pod _ List.not_mem_nil hdeleted

/-- Otherwise the machine leaves its phase, and the pod is deleted unless that
call fails. -/
theorem withdrawn_ongoing (h : SuspendInFlight st)
    (hdown : ¬ (st.powerState = .on ∧ st.nodeReady = true))
    (hongoing : powerOnAttempt st r.now r.powerOnFailurePolicy r.powerOnTimeout = .ongoing) :
    r.SuspendWithdrawn st ↔ r.api.cancel = true := by
  have hnotStarting : ¬ st.phase = .poweringOn := by
    rcases h.1 with hp | hp <;> simp [hp]
  -- under way and wanted on again, the standby is called off
  have hcalled : r.ensureOn { st := st } = (r.callOffStandby { st := st }, some fast) := by
    unfold ensureOn
    simp only
    rw [if_neg hdown, if_neg (by rw [hongoing]; decide), if_neg hnotStarting, if_pos ⟨h.1, h.2⟩]
  -- that ends in another phase, so the suspend counts as withdrawn only by its pod's deletion
  have hleft : (r.callOffStandby { st := st }).st.phase ≠ st.phase := by
    have hstart := r.phase_startPowerOn
      (Progress.did { st := st } (if r.api.cancel then [.deleteSuspendPod] else []))
    intro hkept
    rw [show (r.callOffStandby { st := st }) = r.startPowerOn _ from rfl] at hkept
    rw [hkept] at hstart
    rcases h.1 with hp | hp <;> simp [hp] at hstart
  have hpod : Effect.deleteSuspendPod ∈ (r.callOffStandby { st := st }).effects ↔
      r.api.cancel = true := by
    unfold callOffStandby
    rw [startPowerOn_pod]
    cases r.api.cancel <;> simp [Progress.did]
  unfold SuspendWithdrawn
  rw [hcalled]
  constructor
  · intro hw
    rcases hw with ⟨hkept, _⟩ | hdeleted
    · exact absurd hkept hleft
    · exact hpod.mp hdeleted
  · intro hcancel
    exact Or.inr (hpod.mpr hcancel)

/-- **When a suspend in flight is withdrawn**: exactly when it is called off in
time. -/
theorem suspend_withdrawn_iff (h : SuspendInFlight st) :
    r.SuspendWithdrawn st ↔ r.SuspendCalledOff st := by
  unfold SuspendCalledOff
  by_cases hup : st.powerState = .on ∧ st.nodeReady = true
  · rw [if_pos hup, ← r.refused_iff]
    exact r.withdrawn_up h hup
  · rw [if_neg hup]
    cases hattempt : powerOnAttempt st r.now r.powerOnFailurePolicy r.powerOnTimeout with
    | expired =>
      have hnot := r.not_withdrawn_expired h hattempt
      exact ⟨fun hw => absurd hw hnot, fun hc => by cases hc.1⟩
    | ongoing =>
      rw [r.withdrawn_ongoing h hup hattempt]
      exact ⟨fun hcancel => ⟨rfl, hcancel⟩, fun hc => hc.2⟩

/-! ## §3. A shutdown in flight. -/

variable (st)

/-- The off action in flight is a graceful shutdown: the interface still reads
On, and the shutdown timeout has not passed. -/
def ShutdownInFlight : Prop :=
  st.phase = .poweringOff ∧ st.standbySince = none ∧ st.powerState = .on ∧
    ∃ since, st.phaseSince = some since ∧
      r.now - since ≤ seconds r.mn.spec.lifecycle.shutdownTimeoutSeconds.toNat

/-- **The shutdown is waited for**: the machine stays in its phase, its Node is
not uncordoned, and nothing is issued. -/
def ShutdownAwaited : Prop :=
  (r.ensureOn { st := st }).1.st.phase = .poweringOff ∧
    Effect.uncordon ∉ (r.ensureOn { st := st }).1.effects ∧
    (r.ensureOn { st := st }).1.issued = []

/-- The shutdown is left to finish: the machine is not taken for one that is up
(or its Node cannot be written to), and its timeout is one that `as i64` keeps
(or the Node cannot be written to). -/
def ShutdownLeft : Prop :=
  if st.nodeReady = true then
    (r.uncordons = true ∧ r.api.uncordon = false) ∨
      (r.uncordons = false ∧ r.unmarks = true ∧ r.api.clearPoweredOff = false)
  else r.inPhaseFor st ≤ asI64 r.mn.spec.lifecycle.shutdownTimeoutSeconds ∨
    (r.uncordons = true ∧ r.api.uncordon = false)

variable {st}

theorem uncordon_refused_iff :
    r.uncordon.1 = false ↔ r.uncordons = true ∧ r.api.uncordon = false := by
  rw [uncordon_eq]
  simp

theorem mem_uncordon_iff :
    Effect.uncordon ∈ r.uncordon.2 ↔ r.uncordons = true ∧ r.api.uncordon = true := by
  rw [uncordon_eq]
  cases r.uncordons <;> cases r.api.uncordon <;> simp

/-- A step that stops at a Node it cannot write to waits for the shutdown, unless
it has uncordoned the Node before. -/
theorem awaited_of_refused {out : Progress × Option Nat} (hphase : st.phase = .poweringOff)
    (heq : r.ensureOn { st := st } = out) (hout : out.1 = Progress.did { st := st } r.uncordon.2)
    (hnot : Effect.uncordon ∉ r.uncordon.2) : r.ShutdownAwaited st := by
  unfold ShutdownAwaited
  rw [heq, hout]
  refine ⟨hphase, ?_, ?_⟩
  · simpa [Progress.did] using hnot
  · rw [Progress.issued_did, r.issued_uncordon]
    rfl

/-- Of a machine that is up the shutdown is waited for only when its Node cannot
be written to, and is not uncordoned before that. -/
theorem awaited_up (h : r.ShutdownInFlight st) (hready : st.nodeReady = true) :
    r.ShutdownAwaited st ↔
      (r.uncordon.1 = false ∨ r.clearMarker.1 = false) ∧ Effect.uncordon ∉ r.uncordon.2 := by
  obtain ⟨hphase, _, hon, _⟩ := h
  have hup := r.ensureOn_up { st := st } ⟨hon, hready⟩
  constructor
  · unfold ShutdownAwaited
    rw [hup]
    rintro ⟨hstays, hnot, _⟩
    have hr : r.uncordon.1 = false ∨ r.clearMarker.1 = false := by
      by_contra hwritten
      simp only [not_or, Bool.not_eq_false] at hwritten
      obtain ⟨hphaseOn, _⟩ := r.online_up { st := st } hwritten.1 hwritten.2
      rw [hphaseOn] at hstays
      cases hstays
    rw [r.online_refused _ hr] at hnot
    exact ⟨hr, by simpa [Progress.did] using hnot⟩
  · rintro ⟨hr, hnot⟩
    exact r.awaited_of_refused hphase hup (r.online_refused _ hr) hnot

/-- Towards On, a machine that shuts down without a Ready Node waits within its
timeout, and else is taken to be coming up. -/
theorem ensureOn_shutdown (h : r.ShutdownInFlight st) (hready : st.nodeReady = false) :
    r.ensureOn { st := st } =
      if r.inPhaseFor st ≤ asI64 r.mn.spec.lifecycle.shutdownTimeoutSeconds then
        (Progress.message { st := st }
          (some "waiting for shutdown to complete before powering back on"), some fast)
      else r.comingUp { st := st } := by
  obtain ⟨hphase, hstandby, hon, _⟩ := h
  have hattempt : powerOnAttempt st r.now r.powerOnFailurePolicy r.powerOnTimeout = .ongoing := by
    unfold powerOnAttempt
    split
    · rfl
    · split
      · rfl
      · rw [if_pos ⟨hon, by rw [hstandby]; rfl⟩]
  unfold ensureOn
  simp only
  rw [if_neg (by simp [hready]), if_neg (by rw [hattempt]; decide),
    if_neg (by simp [hphase]), if_neg (by simp [hstandby])]
  by_cases hwait : r.inPhaseFor st ≤ asI64 r.mn.spec.lifecycle.shutdownTimeoutSeconds
  · rw [if_pos hwait, if_pos ⟨hphase, hon, hwait⟩]
  · rw [if_neg hwait, if_neg (fun hc => hwait hc.2.2), if_pos ⟨hon, by rw [hstandby]; rfl⟩]

/-- A machine taken to be coming up leaves its phase, unless it cannot be
uncordoned. -/
theorem awaited_comingUp (hphase : st.phase = .poweringOff)
    (heq : r.ensureOn { st := st } = r.comingUp { st := st }) :
    r.ShutdownAwaited st ↔ r.uncordon.1 = false := by
  constructor
  · unfold ShutdownAwaited
    rw [heq]
    rintro ⟨hstays, _⟩
    by_contra hu
    unfold comingUp at hstays
    simp only at hstays
    rw [if_neg (by simpa using hu)] at hstays
    simp at hstays
  · intro hu
    have hnot : Effect.uncordon ∉ r.uncordon.2 := by
      rw [mem_uncordon_iff]
      rintro ⟨_, hapi⟩
      rw [(r.uncordon_refused_iff.mp hu).2] at hapi
      cases hapi
    refine r.awaited_of_refused hphase heq ?_ hnot
    unfold comingUp
    simp only
    rw [if_pos (by simp [hu])]

/-- **When a shutdown in flight is waited for**: exactly when it is left to
finish. -/
theorem shutdown_awaited_iff (h : r.ShutdownInFlight st) :
    r.ShutdownAwaited st ↔ r.ShutdownLeft st := by
  unfold ShutdownLeft
  by_cases hready : st.nodeReady = true
  · rw [if_pos hready, r.awaited_up h hready, r.refused_iff, mem_uncordon_iff]
    -- the uncordon that fails comes before the marker, and is not in the effects
    cases hu : r.uncordons with
    | false => simp
    | true => cases hapi : r.api.uncordon <;> simp
  · have hready : st.nodeReady = false := by simpa using hready
    rw [if_neg (by simp [hready])]
    have hstep := r.ensureOn_shutdown h hready
    by_cases hwait : r.inPhaseFor st ≤ asI64 r.mn.spec.lifecycle.shutdownTimeoutSeconds
    · rw [if_pos hwait] at hstep
      unfold ShutdownAwaited
      rw [hstep]
      exact ⟨fun _ => Or.inl hwait, fun _ => ⟨h.1, List.not_mem_nil, rfl⟩⟩
    · rw [if_neg hwait] at hstep
      rw [r.awaited_comingUp h.1 hstep, uncordon_refused_iff]
      exact ⟨fun hu => Or.inr hu, fun hl => hl.resolve_left hwait⟩

variable (st) in
/-- **An off action in flight is called off in time** — a suspend is withdrawn, a
shutdown waited for — exactly when neither the shortcut for a machine that is
up nor an expired attempt comes first. -/
theorem called_off_iff :
    (SuspendInFlight st → r.SuspendWithdrawn st) ∧ (r.ShutdownInFlight st → r.ShutdownAwaited st) ↔
    (SuspendInFlight st → r.SuspendCalledOff st) ∧ (r.ShutdownInFlight st → r.ShutdownLeft st) := by
  constructor
  · rintro ⟨hsuspend, hshutdown⟩
    exact ⟨fun h => (r.suspend_withdrawn_iff h).mp (hsuspend h),
      fun h => (r.shutdown_awaited_iff h).mp (hshutdown h)⟩
  · rintro ⟨hsuspend, hshutdown⟩
    exact ⟨fun h => (r.suspend_withdrawn_iff h).mpr (hsuspend h),
      fun h => (r.shutdown_awaited_iff h).mpr (hshutdown h)⟩

/-! ## §4. A machine wanted back at once. -/

variable (st)

instance : Decidable (SuspendInFlight st) := inferInstanceAs (Decidable (_ ∧ _))

instance : Decidable (r.SuspendWithdrawn st) := inferInstanceAs (Decidable (_ ∨ _))

instance : Decidable (r.ShutdownAwaited st) := inferInstanceAs (Decidable (_ ∧ _))

instance : Decidable (r.ShutdownInFlight st) :=
  decidable_of_iff (st.phase = .poweringOff ∧ st.standbySince = none ∧ st.powerState = .on ∧
    st.phaseSince.any (fun since => decide (r.now - since
      ≤ seconds r.mn.spec.lifecycle.shutdownTimeoutSeconds.toNat)) = true) (by
    unfold ShutdownInFlight
    simp [Option.any_eq_true])

end Reconciler

/-- A machine that its pool lets go of and wants back in the third reconcile,
10 s after its off action: its Node is still Ready by then. -/
def wantedBack (mode : PowerOffMode) (n : Nat) : MachineInput where
  edit :=
    { decision :=
        if n < 2 then some (some ⟨"a", .off, "unneeded", 0⟩)
        else some (some ⟨"a", .on, "2 pending pod(s)", seconds (10 * n)⟩) }
  mn :=
    { name := "m1"
      spec :=
        { nodeName := "m1"
          powerInterfaces := [{ driver := "redfish" }]
          lifecycle := { powerOffMode := mode } } }
  cluster :=
    { nodes := [pooledNode (n != 0)]
      pools := [poolA]
      nodes_distinct := pooledNode_distinct n
      pools_distinct := poolA_distinct }
  built := fun _ => .ok readsOn
  now := seconds (10 * n)
  lookupAt := seconds (10 * n)
  storeAt := seconds (10 * n)

/-- **The suspend pod stays, and the shutdown is not waited for**: 10 s after the
off action the machine still looks up, so it is taken for one that is. -/
theorem wantedBack_not_called_off :
    (machineAt (wantedBack .standby) 1).actions (wantedBack .standby 1) = [.standby] ∧
    (∃ d, (machineAt (wantedBack .standby) 2).reading (wantedBack .standby 2) = some d ∧
      Reconciler.SuspendInFlight
        (d.start (wantedBack .standby 2) ((machineAt (wantedBack .standby) 2).old (wantedBack .standby 2))) ∧
      ¬ (d.machine (wantedBack .standby 2)).SuspendWithdrawn
        (d.start (wantedBack .standby 2) ((machineAt (wantedBack .standby) 2).old (wantedBack .standby 2)))) ∧
    (machineAt (wantedBack .shutdown) 1).actions (wantedBack .shutdown 1) = [.powerOff] ∧
    ∃ d, (machineAt (wantedBack .shutdown) 2).reading (wantedBack .shutdown 2) = some d ∧
      (d.machine (wantedBack .shutdown 2)).ShutdownInFlight
        (d.start (wantedBack .shutdown 2) ((machineAt (wantedBack .shutdown) 2).old (wantedBack .shutdown 2))) ∧
      ¬ (d.machine (wantedBack .shutdown 2)).ShutdownAwaited
        (d.start (wantedBack .shutdown 2) ((machineAt (wantedBack .shutdown) 2).old (wantedBack .shutdown 2))) := by
  have hsuspend : ((machineAt (wantedBack .standby) 2).reading (wantedBack .standby 2)).any (fun d =>
      let st := d.start (wantedBack .standby 2)
        ((machineAt (wantedBack .standby) 2).old (wantedBack .standby 2))
      decide (Reconciler.SuspendInFlight st ∧
        ¬ (d.machine (wantedBack .standby 2)).SuspendWithdrawn st)) = true := by
    decide +kernel
  have hshutdown : ((machineAt (wantedBack .shutdown) 2).reading (wantedBack .shutdown 2)).any
      (fun d =>
        let st := d.start (wantedBack .shutdown 2)
          ((machineAt (wantedBack .shutdown) 2).old (wantedBack .shutdown 2))
        decide ((d.machine (wantedBack .shutdown 2)).ShutdownInFlight st ∧
          ¬ (d.machine (wantedBack .shutdown 2)).ShutdownAwaited st)) = true := by
    decide +kernel
  obtain ⟨d, hd, hnot⟩ := (Option.any_eq_true _ _).mp hsuspend
  obtain ⟨d', hd', hnot'⟩ := (Option.any_eq_true _ _).mp hshutdown
  exact ⟨by decide +kernel, ⟨d, hd, of_decide_eq_true hnot⟩, by decide +kernel,
    d', hd', of_decide_eq_true hnot'⟩

end HardwareAutoscaler
