/-
  HardwareAutoscaler.Controller.Machine.Phases
  ────────────────────────────────────────────
  THE PHASES OF A MACHINE: which step enters which phase, and the clock of a
  phase.

    • `Clocked`, `step_clocked` — `phaseSince` is set to the time of the
      reconcile, or stays with the phase,
    • `phase_ensureOn`, `phase_ensureOff`, … — the phases a branch can enter,
    • `enters_poweringOff` — only a drain that is over enters `PoweringOff`,
    • `issued_ready` — what is issued to a machine that is On and Ready.
-/
import HardwareAutoscaler.Controller.Machine.Readings

namespace HardwareAutoscaler

namespace Reconciler

variable (r : Reconciler) (s : Progress)

/-! ## §1. The clock of a phase. -/

/-- The clock of the phase is set now, or phase and clock stay. -/
def Clocked (st st' : NodePowerManagementConfigStatus) : Prop :=
  (st'.phase = st.phase ∧ st'.phaseSince = st.phaseSince) ∨ st'.phaseSince = some r.now

variable {r s}

theorem Clocked.refl (st : NodePowerManagementConfigStatus) : r.Clocked st st := Or.inl ⟨rfl, rfl⟩

/-- What writes neither the phase nor its clock. -/
theorem Clocked.keep {st st' : NodePowerManagementConfigStatus} (hp : st'.phase = st.phase)
    (hs : st'.phaseSince = st.phaseSince) : r.Clocked st st' := Or.inl ⟨hp, hs⟩

theorem Clocked.trans {st st' st'' : NodePowerManagementConfigStatus} (h : r.Clocked st st')
    (h' : r.Clocked st' st'') : r.Clocked st st'' := by
  rcases h' with ⟨hp', hs'⟩ | hs'
  · rcases h with ⟨hp, hs⟩ | hs
    · exact Or.inl ⟨hp'.trans hp, hs'.trans hs⟩
    · exact Or.inr (hs'.trans hs)
  · exact Or.inr hs'

/-- A phase that is set starts its clock. -/
theorem setPhase_clocked (phase : Phase) : r.Clocked s.st (r.setPhase phase s).st := by
  by_cases h : s.st.phase = phase
  · unfold setPhase enterPhase
    rw [if_neg (by simpa using h)]
    exact Clocked.refl _
  · unfold setPhase enterPhase
    rw [if_pos h]
    exact Or.inr rfl

variable (r s)

/-- **A step sets the clock of the phase now, or leaves phase and clock.** -/
theorem step_clocked (event : BootEvent) (consistent : Bool) :
    r.Clocked s.st (r.step event consistent s).1.st := by
  have hkept : r.KeptByMoves (fun s' => r.Clocked s.st s'.st) := by
    constructor
    · intro s' _ hs' _
      exact hs'
    · intro s' phase hs'
      exact hs'.trans (setPhase_clocked phase)
    · intro s' _
      exact Or.inr rfl
    · intro s' _ hs'
      exact hs'.trans (Clocked.keep rfl rfl)
    · intro s' st hs' hcore
      exact hs'.trans (Clocked.keep hcore.phase hcore.phaseSince)
  exact hkept.step event consistent (Clocked.refl _)

/-! ## §2. The phases a step can enter. -/

/-- A first power-on leads to `PoweringOn`, or to an error. -/
theorem phase_startPowerOn :
    (r.startPowerOn s).st.phase ∈ ([.poweringOn, .error] : List Phase) := by
  unfold startPowerOn
  simp only
  split
  · simp
  · simp

@[simp] theorem phase_probeSleep : (r.probeSleep s).1.st.phase = s.st.phase := by
  obtain ⟨support, effects, heq, _⟩ := r.probeSleep_fst s
  rw [heq]

@[simp] theorem phase_enterOn : (r.enterOn s).st.phase = .on := by
  unfold enterOn
  simp

/-- **Where bringing the machine up leads.** -/
theorem phase_ensureOn : (r.ensureOn s).1.st.phase = s.st.phase ∨
    (r.ensureOn s).1.st.phase ∈ ([.on, .poweringOn, .error, .off, .bootFailed] : List Phase) := by
  refine r.ensureOn_cases s (P := fun out => out.1.st.phase = s.st.phase ∨
    out.1.st.phase ∈ ([.on, .poweringOn, .error, .off, .bootFailed] : List Phase))
    ?online ?released ?keep ?callOff ?wait ?comingUp ?hold ?start
  -- each branch stores one of the listed phases, or leaves the phase alone
  case online =>
    intro _ _
    unfold online
    simp only
    split
    · simp
    · split
      · simp
      · split <;> simp
  case released =>
    intro _
    unfold releaseFailedPowerOn
    simp only
    split <;> simp
  case keep =>
    intro _ _
    unfold keepPoweringOn
    simp only
    split
    · simp
    · split <;> simp
  -- calling a standby off goes on to power the machine on
  case callOff =>
    intro _ _ _
    have hphase := r.phase_startPowerOn (s.did (if r.api.cancel then [.deleteSuspendPod] else []))
    right
    unfold callOffStandby
    simp only [List.mem_cons, List.not_mem_nil, or_false] at hphase ⊢
    rcases hphase with hphase | hphase <;> simp [hphase]
  case wait =>
    intro _ _ _
    exact Or.inl rfl
  case comingUp =>
    intro _ _ _
    unfold comingUp
    simp only
    split <;> simp
  case hold =>
    intro _ _
    exact Or.inl rfl
  case start =>
    intro _ _ _
    have hphase := r.phase_startPowerOn s
    right
    simp only [List.mem_cons, List.not_mem_nil, or_false] at hphase ⊢
    rcases hphase with hphase | hphase <;> simp [hphase]

/-- The drain of this reconcile is over: nothing is left to wait for, or it is
forced. -/
def DrainOver (st : NodePowerManagementConfigStatus) : Prop :=
  st.phase = .draining ∧ (r.drained = true ∨
    (r.mn.spec.lifecycle.forceAfterDrainTimeout = true ∧
      asI64 r.mn.spec.lifecycle.drainTimeoutSeconds < r.inPhaseFor st))

@[simp] theorem phase_powerOff : (r.powerOff s).st.phase = .poweringOff := by
  unfold powerOff
  simp

@[simp] theorem phase_keepPoweringOff : (r.keepPoweringOff s).st.phase = s.st.phase := by
  unfold keepPoweringOff
  simp only
  split
  · simp
  · split
    · split <;> simp
    · split <;> simp

@[simp] theorem phase_awake : (r.awake s).st.phase = s.st.phase := by
  unfold awake
  split <;> rfl

@[simp] theorem phaseSince_awake : (r.awake s).st.phaseSince = s.st.phaseSince := by
  unfold awake
  split <;> rfl

/-- **A drain powers off only when it is over.** -/
theorem phase_drain (hd : s.st.phase = .draining) : (r.drain s).1.st.phase = .draining ∨
    (r.drain s).1.st.phase = .on ∨
    ((r.drain s).1.st.phase = .poweringOff ∧ r.DrainOver s.st) := by
  refine r.drain_cases s (P := fun out => out.1.st.phase = .draining ∨ out.1.st.phase = .on ∨
    (out.1.st.phase = .poweringOff ∧ r.DrainOver s.st)) ?done ?wait ?forced ?failed
  case done =>
    intro hdone
    have hover : r.DrainOver s.st := ⟨hd, Or.inl hdone⟩
    unfold drainDone
    simp only
    split
    · split
      · simp [hd]
      · simp [hover]
    · simp [hover]
  case wait =>
    intro _ _
    exact Or.inl hd
  case forced =>
    intro _ hforce hlate
    have hover : r.DrainOver s.st := ⟨hd, Or.inr ⟨hforce, hlate⟩⟩
    simp [hover]
  case failed =>
    intro _
    unfold drainFailed
    simp only
    split
    · split
      · exact Or.inl hd
      · simp
    · exact Or.inl hd

/-- **Where bringing the machine down leads**: to `PoweringOff` once its drain is
over. -/
theorem phase_ensureOff : (r.ensureOff s).1.st.phase = s.st.phase ∨
    (r.ensureOff s).1.st.phase ∈ ([.off, .standby, .draining, .on] : List Phase) ∨
    ((r.ensureOff s).1.st.phase = .poweringOff ∧ r.DrainOver s.st) := by
  refine r.ensureOff_cases s (P := fun out => out.1.st.phase = s.st.phase ∨
    out.1.st.phase ∈ ([.off, .standby, .draining, .on] : List Phase) ∨
    (out.1.st.phase = .poweringOff ∧ r.DrainOver s.st)) ?offline ?keep ?drain ?start
  case offline =>
    intro _
    unfold offline
    simp only [setPhase_phase]
    split <;> simp
  case keep =>
    intro _ _
    simp
  case drain =>
    intro _ hphase
    -- waking up leaves the phase and its clock
    have hover : r.DrainOver (r.awake s).st ↔ r.DrainOver s.st := by
      unfold DrainOver inPhaseFor
      rw [phase_awake, phaseSince_awake]
    rcases r.phase_drain (r.awake s) (by simpa using hphase) with h | h | ⟨h, ho⟩
    · simp [h]
    · simp [h]
    · exact Or.inr (Or.inr ⟨h, hover.mp ho⟩)
  case start =>
    intro _ _ _
    unfold startDrain
    split
    · simp only
      split <;> simp
    · simp

/-- Where observing leads. -/
theorem phase_observe : (r.observe s).st.phase = s.st.phase ∨
    (r.observe s).st.phase ∈ ([.on, .poweringOn, .off, .unknown] : List Phase) := by
  unfold observe
  split
  · exact Or.inl rfl
  · split
    · split <;> simp
    · simp
    · simp

/-- A boot leads nowhere but to `BootFailed`. -/
theorem phase_boot (event : BootEvent) : (r.boot event s).1.st.phase = s.st.phase ∨
    (r.boot event s).1.st.phase = .bootFailed := by
  unfold boot
  cases event with
  | recovered => exact Or.inl rfl
  | failed =>
    unfold bootFailed
    simp only
    split <;> simp
  | none =>
    simp only
    split
    · exact Or.inl rfl
    · split
      · exact Or.inl rfl
      · split <;> simp

/-- **`PoweringOff` is only entered by a drain that is over.** -/
theorem enters_poweringOff {event : BootEvent} {consistent : Bool}
    (h : (r.step event consistent s).1.st.phase = .poweringOff) :
    s.st.phase = .poweringOff ∨ r.DrainOver s.st := by
  revert h
  refine r.step_cases s (P := fun out => out.1.st.phase = .poweringOff →
    s.st.phase = .poweringOff ∨ r.DrainOver s.st) ?boot ?gated ?idle ?on ?off
  -- every case but the last stores a phase other than PoweringOff, or the one it found
  case boot =>
    intro _ _ h
    rcases r.phase_boot s event with hp | hp
    · exact Or.inl (hp.symm.trans h)
    · rw [hp] at h
      cases h
  case gated =>
    intro _ _ h
    rcases r.phase_observe (s.message (some r.gateMessage)) with hp | hp
    · exact Or.inl (hp.symm.trans h)
    · rw [h] at hp
      simp at hp
  case idle =>
    intro _ _ _ _ h
    rcases r.phase_observe s with hp | hp
    · exact Or.inl (hp.symm.trans h)
    · rw [h] at hp
      simp at hp
  case on =>
    intro _ _ _ _ h
    rcases r.phase_ensureOn s with hp | hp
    · exact Or.inl (hp.symm.trans h)
    · rw [h] at hp
      simp at hp
  case off =>
    intro _ _ _ _ h
    rcases r.phase_ensureOff s with hp | hp | ⟨_, ho⟩
    · exact Or.inl (hp.symm.trans h)
    · rw [h] at hp
      simp at hp
    · exact Or.inr ho

/-! ## §3. What is issued to a running machine. -/

/-- A drain issues nothing before it is over. -/
theorem issued_drain (hd : s.st.phase = .draining) :
    (r.drain s).1.issued = s.issued ∨ r.DrainOver s.st := by
  have hevict : HardwareAutoscaler.issued r.evictions = [] := by
    unfold evictions HardwareAutoscaler.issued
    simp
  refine r.drain_cases s (P := fun out => out.1.issued = s.issued ∨ r.DrainOver s.st)
    ?done ?wait ?forced ?failed
  case done =>
    intro hdone
    exact Or.inr ⟨hd, Or.inl hdone⟩
  case wait =>
    intro _ _
    simp [hevict]
  case forced =>
    intro _ hforce hlate
    exact Or.inr ⟨hd, Or.inr ⟨hforce, hlate⟩⟩
  case failed =>
    intro _
    left
    unfold drainFailed
    simp only
    split
    · split <;> simp [hevict]
    · simp [hevict]

@[simp] theorem issued_awake : (r.awake s).issued = s.issued := by
  unfold awake
  split <;> rfl

/-- **The power of a machine that is On and Ready is cut only in phase
`PoweringOff`, or by a drain that is over.** -/
theorem issued_ready (event : BootEvent) (consistent : Bool) (hevent : event ≠ .failed)
    (hon : s.st.powerState = .on) (hready : s.st.nodeReady = true) :
    (r.step event consistent s).1.issued = s.issued ∨ s.st.phase = .poweringOff ∨
      r.DrainOver s.st := by
  refine r.step_cases s (P := fun out => out.1.issued = s.issued ∨ s.st.phase = .poweringOff ∨
    r.DrainOver s.st) ?boot ?gated ?idle ?on ?off
  case boot =>
    intro _ _
    left
    rw [issued_boot]
    cases event with
    | recovered => simp [bootAction]
    | failed => exact absurd rfl hevent
    | none => simp [bootAction, hready]
  case gated =>
    intro _ _
    exact Or.inl (by simp)
  case idle =>
    intro _ _ _ _
    exact Or.inl (by simp)
  -- On and Ready is where `ensureOn` wants the machine: nothing is issued
  case on =>
    intro _ _ _ _
    rw [r.ensureOn_up s ⟨hon, hready⟩]
    exact Or.inl (r.issued_online s)
  case off =>
    intro _ _ _ _
    refine r.ensureOff_cases s (P := fun out => out.1.issued = s.issued ∨
      s.st.phase = .poweringOff ∨ r.DrainOver s.st) ?offline ?keep ?drain ?start
    case offline =>
      intro _
      left
      unfold offline
      simp
    case keep =>
      intro _ hphase
      exact Or.inr (Or.inl hphase)
    case drain =>
      intro _ hphase
      have hover : r.DrainOver (r.awake s).st ↔ r.DrainOver s.st := by
        unfold DrainOver inPhaseFor
        rw [phase_awake, phaseSince_awake]
      rcases r.issued_drain (r.awake s) (by simpa using hphase) with h | h
      · exact Or.inl (by rw [h, issued_awake])
      · exact Or.inr (Or.inr (hover.mp h))
    case start =>
      intro _ _ _
      left
      unfold startDrain
      split
      · simp only
        split <;> simp [issued_cordon]
      · simp

end Reconciler

end HardwareAutoscaler
