/-
  HardwareAutoscaler.Controller.Machine.Moves
  ───────────────────────────────────────────
  WHAT THE STATE MACHINE CAN DO: its branches as rules, with the condition of
  each, and the actions each issues.

    • `ensureOn_cases`, `ensureOff_cases`, `drain_cases`, `step_cases` — the
      branches,
    • `issued_boot` — the actions of the boot handler,
    • `KeptByMoves.step` — the rule of moves: what every phase change, action,
      effect and write of a step keeps, the step keeps,
    • `powerState_step` — no move writes the power reading.
-/
import HardwareAutoscaler.Controller.Machine.Reconcile

namespace HardwareAutoscaler

namespace Progress

variable (s : Progress)

@[simp] theorem did_st (effects : List Effect) : (s.did effects).st = s.st := rfl

@[simp] theorem issued_did (effects : List Effect) :
    (s.did effects).issued = s.issued ++ HardwareAutoscaler.issued effects :=
  issued_append _ _

@[simp] theorem message_st (m : Option String) : (s.message m).st = { s.st with message := m } := rfl

@[simp] theorem issued_message (m : Option String) : (s.message m).issued = s.issued := rfl

/-- What is issued does not depend on the status. -/
@[simp] theorem issued_mk (st : NodePowerManagementConfigStatus) :
    Progress.issued { s with st := st } = s.issued := rfl

end Progress

namespace Reconciler

variable (r : Reconciler) (s : Progress)

/-! ## §1. Phases and actions. -/

/-- Setting a phase is setting two fields. -/
theorem setPhase_eq (phase : Phase) :
    r.setPhase phase s = { s with st :=
      { s.st with
        phase := phase
        phaseSince := if s.st.phase ≠ phase then some r.now else s.st.phaseSince } } := by
  unfold setPhase enterPhase
  by_cases h : s.st.phase = phase
  · rw [if_neg (by simp [h]), if_neg (by simp [h]), ← h]
  · rw [if_pos h, if_pos h]

@[simp] theorem setPhase_phase (phase : Phase) : (r.setPhase phase s).st.phase = phase := by
  rw [setPhase_eq]

@[simp] theorem setPhase_effects (phase : Phase) : (r.setPhase phase s).effects = s.effects := by
  rw [setPhase_eq]

@[simp] theorem issued_setPhase (phase : Phase) : (r.setPhase phase s).issued = s.issued := by
  rw [setPhase_eq]
  rfl

/-- What an action leaves in the status. -/
theorem act_st (action : PowerAction) :
    (r.act action s).st =
      { s.st with
        standbySince := r.standbyAfter action s.st.standbySince
        lastPowerAction := some (r.record action)
        message := match (r.command action).1 with
          | .ok _ => s.st.message
          | .error e => some s!"{action.name} failed: {e}" } := rfl

@[simp] theorem act_phase (action : PowerAction) : (r.act action s).st.phase = s.st.phase := rfl

/-- Carrying an action out is not itself issuing one. -/
theorem issued_command (action : PowerAction) :
    HardwareAutoscaler.issued (r.command action).2 = [] := by
  have hasked : ∀ a answer, HardwareAutoscaler.issued (asked a answer).2 = [] := by
    intro a answer
    unfold asked HardwareAutoscaler.issued
    simp
  unfold command
  split
  · rfl
  · cases action with
    | standby => rfl
    | powerOn => exact hasked _ _
    | powerOff => exact hasked _ _
    | forceOff => exact hasked _ _

@[simp] theorem issued_act (action : PowerAction) :
    (r.act action s).issued = s.issued ++ [action] := by
  show HardwareAutoscaler.issued (s.effects ++ (r.command action).2 ++ [.act action _]) = _
  rw [issued_append, issued_append, issued_command, HardwareAutoscaler.issued_act,
    List.append_nil]
  rfl

@[simp] theorem issued_standbyFailed : (r.standbyFailed s).issued = s.issued := rfl

@[simp] theorem standbyFailed_phase : (r.standbyFailed s).st.phase = s.st.phase := rfl

/-- What the probe changes: nothing but what is known of the machine's sleep. -/
theorem probeSleep_fst :
    ∃ support effects, (r.probeSleep s).1
        = { st := { s.st with sleepSupport := support }, effects := s.effects ++ effects } ∧
      HardwareAutoscaler.issued effects = [] := by
  unfold probeSleep
  split
  · exact ⟨s.st.sleepSupport, [], by simp, rfl⟩
  · split
    · exact ⟨s.st.sleepSupport, [], by simp, rfl⟩
    · split
      · exact ⟨s.st.sleepSupport, [.probe], rfl, rfl⟩
      · rename_i support _
        exact ⟨some support, [.probe], rfl, rfl⟩

@[simp] theorem issued_probeSleep : (r.probeSleep s).1.issued = s.issued := by
  obtain ⟨support, effects, heq, hnone⟩ := r.probeSleep_fst s
  rw [heq]
  show HardwareAutoscaler.issued (s.effects ++ effects) = s.issued
  rw [issued_append, hnone, List.append_nil]
  rfl

/-! ## §2. The branches towards On. -/

/-- A machine that reads On with a Ready Node is where `ensureOn` wants it. -/
theorem ensureOn_up (h : s.st.powerState = .on ∧ s.st.nodeReady = true) :
    r.ensureOn s = r.online s := by
  unfold ensureOn
  exact if_pos h

/-- The branches of `ensureOn`, with the conditions that lead to them. -/
theorem ensureOn_cases {P : Progress × Option Nat → Prop}
    (online : s.st.powerState = .on → s.st.nodeReady = true → P (r.online s))
    (released : powerOnAttempt s.st r.now r.powerOnFailurePolicy r.powerOnTimeout = .expired →
      P (r.releaseFailedPowerOn s, some fast))
    (keep : ¬ (s.st.powerState = .on ∧ s.st.nodeReady = true) → s.st.phase = .poweringOn →
      P (r.keepPoweringOn s, some fast))
    (callOff : ¬ (s.st.powerState = .on ∧ s.st.nodeReady = true) →
      s.st.phase = .poweringOff ∨ s.st.phase = .standby → s.st.standbySince.isSome = true →
      P (r.callOffStandby s, some fast))
    (wait : ¬ (s.st.powerState = .on ∧ s.st.nodeReady = true) → s.st.phase = .poweringOff →
      s.st.powerState = .on →
      P (s.message (some "waiting for shutdown to complete before powering back on"), some fast))
    (comingUp : s.st.powerState = .on → s.st.nodeReady = false → s.st.standbySince = none →
      P (r.comingUp s))
    (hold : ¬ (s.st.powerState = .on ∧ s.st.nodeReady = true) → s.st.phase = .error →
      P (s, some normal))
    (start : ¬ (s.st.powerState = .on ∧ s.st.nodeReady = true) → s.st.phase ≠ .poweringOn →
      ¬ (s.st.powerState = .on ∧ s.st.standbySince = none) → P (r.startPowerOn s, some fast)) :
    P (r.ensureOn s) := by
  unfold ensureOn
  simp only
  -- the tests of `ensure_on` from the top; each case keeps what the ones before it denied
  split
  · rename_i h
    exact online h.1 h.2
  · rename_i hnot
    split
    · rename_i h
      exact released h
    · split
      · rename_i h
        exact keep hnot h
      · rename_i hphase
        split
        · rename_i h
          exact callOff hnot h.1 h.2
        · split
          · rename_i h
            exact wait hnot h.1 h.2.1
          · split
            · rename_i h
              exact comingUp h.1 (by simpa [h.1] using hnot) (by simpa using h.2)
            · rename_i hoff
              split
              · rename_i h
                exact hold hnot h.1
              · exact start hnot hphase (by simpa using hoff)

@[simp] theorem issued_uncordon : HardwareAutoscaler.issued r.uncordon.2 = [] := by
  unfold uncordon
  split
  · exact issued_uncordonIfOurs _ _
  · rfl

@[simp] theorem issued_clearMarker : HardwareAutoscaler.issued r.clearMarker.2 = [] := by
  unfold clearMarker
  split
  · exact issued_clearPoweredOff _ _
  · rfl

@[simp] theorem issued_enterOn : (r.enterOn s).issued = s.issued := by
  unfold enterOn
  simp

/-- Nothing is issued to a machine that is On with a Ready Node. -/
theorem issued_online : (r.online s).1.issued = s.issued := by
  unfold online
  simp only
  split
  · simp
  · split
    · simp
    · split
      · simp
      · simp

/-! ## §3. The branches towards Off. -/

/-- The progress `ensureOff` goes on with: a machine that woke up by itself is
not in standby any more. -/
def awake : Progress :=
  if wokeByItself s.st then
    { s with st := { s.st with standbyFailedAt := some r.now, standbySince := none } }
  else s

/-- **All that bringing the machine down can do.** -/
theorem ensureOff_cases {P : Progress × Option Nat → Prop}
    (offline : s.st.powerState = .off ∨
        inStandby s.st.phase (r.awake s).st.standbySince.isSome s.st.nodeReady = true →
      P (r.offline (r.awake s), some slow))
    (keep : s.st.powerState ≠ .off → s.st.phase = .poweringOff →
      P (r.keepPoweringOff (r.awake s), some fast))
    (drain : s.st.powerState ≠ .off → s.st.phase = .draining → P (r.drain (r.awake s)))
    (start : s.st.powerState ≠ .off → s.st.phase ≠ .poweringOff → s.st.phase ≠ .draining →
      P (r.startDrain (r.awake s))) :
    P (r.ensureOff s) := by
  -- waking up changes neither the readings nor the phase, so the conditions are those of `s`
  have hpower : (r.awake s).st.powerState = s.st.powerState := by
    unfold awake
    split <;> rfl
  have hphase : (r.awake s).st.phase = s.st.phase := by
    unfold awake
    split <;> rfl
  have hready : (r.awake s).st.nodeReady = s.st.nodeReady := by
    unfold awake
    split <;> rfl
  have hunfold : r.ensureOff s =
      if (r.awake s).st.powerState = .off ∨
          inStandby (r.awake s).st.phase (r.awake s).st.standbySince.isSome
            (r.awake s).st.nodeReady then
        (r.offline (r.awake s), some slow)
      else if (r.awake s).st.phase = .poweringOff then (r.keepPoweringOff (r.awake s), some fast)
      else if (r.awake s).st.phase = .draining then r.drain (r.awake s)
      else r.startDrain (r.awake s) := rfl
  rw [hunfold, hpower, hphase, hready]
  split
  · rename_i h
    exact offline h
  · rename_i hnot
    have hon : s.st.powerState ≠ .off := fun h => hnot (Or.inl h)
    split
    · rename_i h
      exact keep hon h
    · rename_i hoff
      split
      · rename_i h
        exact drain hon h
      · rename_i hdr
        exact start hon hoff hdr

/-- The branches of `drain`: the machine is powered off when nothing is left to
wait for, or when the drain is forced. -/
theorem drain_cases {P : Progress × Option Nat → Prop}
    (done : r.drained = true → P (r.drainDone (s.did r.evictions)))
    (wait : r.drained = false →
      r.inPhaseFor s.st ≤ asI64 r.mn.spec.lifecycle.drainTimeoutSeconds →
      P ((s.did r.evictions).message (some r.drainSummary), some 5))
    (forced : r.drained = false → r.mn.spec.lifecycle.forceAfterDrainTimeout = true →
      asI64 r.mn.spec.lifecycle.drainTimeoutSeconds < r.inPhaseFor s.st →
      P (r.powerOff ((s.did r.evictions).message
        (some s!"drain timed out ({r.drainSummary}); powering off anyway")), some fast))
    (failed : r.drained = false → P (r.drainFailed (s.did r.evictions))) :
    P (r.drain s) := by
  unfold drain
  simp only
  split
  · rename_i h
    exact done h
  · rename_i hnot
    have hnot : r.drained = false := by simpa using hnot
    split
    · rename_i h
      exact wait hnot h
    · rename_i hlate
      have hlate : asI64 r.mn.spec.lifecycle.drainTimeoutSeconds < r.inPhaseFor s.st := by
        have : ¬ r.inPhaseFor s.st ≤ asI64 r.mn.spec.lifecycle.drainTimeoutSeconds := hlate
        omega
      split
      · rename_i h
        exact forced hnot h hlate
      · exact failed hnot

/-! ## §4. The step. -/

/-- **The boot handler's action**: it powers a machine off whose boot has just
failed, and cuts the power of one that stayed on since. -/
def bootAction (event : BootEvent) (st : NodePowerManagementConfigStatus) : Option PowerAction :=
  match event with
  | .recovered => none
  | .failed =>
    if bootFailureLeavesOn st r.mn.spec.powerPolicy r.manualPolicy then none else some .powerOff
  | .none =>
    if st.bootFailure.any (fun f =>
        !st.nodeReady && st.powerState == .on && failureIsCurrent st && r.cutsPower st f) then
      some .forceOff
    else none

/-- A boot issues one action at most. -/
theorem issued_boot (event : BootEvent) :
    (r.boot event s).1.issued = s.issued ++ (r.bootAction event s.st).toList := by
  cases event with
  | recovered => simp [boot, bootAction]
  | failed =>
    simp only [boot, bootFailed, bootAction]
    split
    · simp
    · simp [issued_markPoweredOff]
  | none =>
    simp only [boot, bootAction]
    split
    · rename_i h
      simp [h]
    -- a failure is recorded: it matters while the machine is on and its Node not Ready
    · rename_i f h
      by_cases hgo : s.st.nodeReady = true ∨ s.st.powerState ≠ .on ∨ (!failureIsCurrent s.st) = true
      · rw [if_pos hgo, if_neg]
        · simp
        · rw [h, Option.any_some]
          rcases hgo with hgo | hgo | hgo
          · simp [hgo]
          · simp [hgo]
          · simp [by simpa using hgo]
      · rw [if_neg hgo]
        simp only [not_or, Bool.not_eq_true, Bool.not_eq_false', not_not] at hgo
        have hcut : r.cutsPower (r.setPhase .bootFailed s).st f = r.cutsPower s.st f := by
          rw [setPhase_eq]
          rfl
        rw [hcut, h, Option.any_some, hgo.1, hgo.2.1, hgo.2.2]
        by_cases hc : r.cutsPower s.st f = true
        · simp [hc]
        · simp [hc]

/-- A boot handler that leaves the machine to its target does nothing. -/
theorem boot_none {event : BootEvent} (h : (r.boot event s).2 = none) :
    (r.boot event s).1 = s ∧ r.bootAction event s.st = none := by
  have hsame : (r.boot event s).1 = s := by
    unfold Reconciler.boot at h ⊢
    cases event with
    | recovered => rfl
    | failed => cases h
    | none =>
      simp only at h ⊢
      split
      · rfl
      · rename_i f hf
        rw [hf] at h
        simp only at h
        split
        · rfl
        · rename_i hgo
          rw [if_neg hgo] at h
          split at h <;> cases h
  -- what it issues is then what was issued before, so there is no action
  refine ⟨hsame, ?_⟩
  have hissued := r.issued_boot s event
  rw [hsame] at hissued
  have hlen := congrArg List.length hissued
  cases hb : r.bootAction event s.st with
  | none => rfl
  | some a =>
    rw [hb, List.length_append] at hlen
    simp at hlen

/-- The branches of a step: the boot handler, a failed gate, or the target. -/
theorem step_cases {P : Progress × Option Nat → Prop} {event : BootEvent} {consistent : Bool}
    (boot : ∀ requeue, (r.boot event s).2 = some requeue → P (r.boot event s))
    (gated : (r.boot event s).2 = none → (r.node = none ∨ consistent = false) →
      P (r.observe (s.message (some r.gateMessage)), some slow))
    (idle : (r.boot event s).2 = none → r.node.isSome = true → consistent = true →
      managedTarget r.mn.spec.powerPolicy s.st r.manualPolicy = none → P (r.observe s, some slow))
    (on : (r.boot event s).2 = none → r.node.isSome = true → consistent = true →
      managedTarget r.mn.spec.powerPolicy s.st r.manualPolicy = some .on → P (r.ensureOn s))
    (off : (r.boot event s).2 = none → r.node.isSome = true → consistent = true →
      managedTarget r.mn.spec.powerPolicy s.st r.manualPolicy = some .off → P (r.ensureOff s)) :
    P (r.step event consistent s) := by
  unfold step
  rcases hb : r.boot event s with ⟨s', requeue⟩
  cases requeue with
  | some requeue =>
    have := boot requeue (by rw [hb])
    rwa [hb] at this
  | none =>
    have hnone : (r.boot event s).2 = none := by rw [hb]
    -- the handler stood back, so the target is driven from `s` itself
    have hs : s' = s := by
      have := (r.boot_none s hnone).1
      rwa [hb] at this
    subst hs
    simp only
    unfold towards
    split
    · rename_i h
      exact gated hnone (by simpa using h)
    · rename_i h
      simp only [Option.isNone_iff_eq_none, Bool.not_eq_true', not_or, Bool.not_eq_false] at h
      have hnode : r.node.isSome = true := Option.isSome_iff_ne_none.mpr h.1
      split
      · rename_i ht
        exact idle hnone hnode h.2 ht
      · rename_i ht
        exact on hnone hnode h.2 ht
      · rename_i ht
        exact off hnone hnode h.2 ht

@[simp] theorem issued_observe : (r.observe s).issued = s.issued := by
  unfold observe
  split
  · rfl
  · split
    · split <;> simp
    · simp
    · simp

/-! ## §5. The moves of a step. -/

/-- An effect that is neither an action nor a call that carries one out. -/
def IsPlain : Effect → Prop
  | .act _ _ | .contact _ _ | .suspendPod _ => False
  | _ => True

/-- Cordoning, uncordoning, the marker and evictions are no power actions. -/
theorem plain_cordon (api : MachineApi) (node : Node) :
    ∀ e ∈ (HardwareAutoscaler.cordon api node).2, IsPlain e := by
  unfold HardwareAutoscaler.cordon
  split
  · simp
  · split <;> simp [IsPlain]

theorem plain_uncordon : ∀ e ∈ r.uncordon.2, IsPlain e := by
  unfold uncordon
  split
  · unfold uncordonIfOurs
    split
    · simp
    · split <;> simp [IsPlain]
  · simp

theorem plain_clearMarker : ∀ e ∈ r.clearMarker.2, IsPlain e := by
  unfold clearMarker
  split
  · unfold clearPoweredOff
    split
    · simp
    · split <;> simp [IsPlain]
  · simp

theorem plain_markPoweredOff (dryRun : Bool) (api : MachineApi) :
    ∀ e ∈ markPoweredOff dryRun api, IsPlain e := by
  unfold markPoweredOff
  split <;> simp [IsPlain]

theorem plain_evictions : ∀ e ∈ r.evictions, IsPlain e := by
  intro e he
  unfold evictions at he
  obtain ⟨pod, _, rfl⟩ := List.mem_map.mp he
  trivial

/-- The fields that only a phase change, an action or a new clock writes, and
those that no step writes. -/
structure SameCore (st st' : NodePowerManagementConfigStatus) : Prop where
  phase : st'.phase = st.phase
  phaseSince : st'.phaseSince = st.phaseSince
  powerState : st'.powerState = st.powerState
  nodeReady : st'.nodeReady = st.nodeReady
  lastPowerAction : st'.lastPowerAction = st.lastPowerAction

/-- What is kept by the moves a step is made of. -/
structure KeptByMoves (P : Progress → Prop) : Prop where
  did : ∀ s ys, P s → (∀ e ∈ ys, IsPlain e) → P (s.did ys)
  phase : ∀ s phase, P s → P (r.setPhase phase s)
  clock : ∀ s, P s → P { s with st := { s.st with phaseSince := some r.now } }
  act : ∀ s action, P s → P (r.act action s)
  write : ∀ s st, P s → SameCore s.st st → P { s with st := st }

namespace KeptByMoves

variable {r s} {P : Progress → Prop} (h : r.KeptByMoves P)
include h

theorem message (m : Option String) (hs : P s) : P (s.message m) :=
  h.write _ _ hs ⟨rfl, rfl, rfl, rfl, rfl⟩

theorem probeSleep (hs : P s) : P (r.probeSleep s).1 := by
  have hprobed : P (s.did [.probe]) := h.did _ _ hs (by simp [IsPlain])
  unfold Reconciler.probeSleep
  split
  · exact hs
  · split
    · exact hs
    · split
      · exact hprobed
      · exact h.write _ _ hprobed ⟨rfl, rfl, rfl, rfl, rfl⟩

/-- The rule for a first power-on. -/
theorem startPowerOn (hs : P s) : P (r.startPowerOn s) := by
  unfold Reconciler.startPowerOn
  simp only
  split
  · exact h.phase _ _ (h.act _ _ hs)
  · exact h.phase _ _ (h.act _ _ hs)

/-- The rule for a power-off. -/
theorem powerOff (hs : P s) : P (r.powerOff s) :=
  h.phase _ _ (h.act _ _ (h.did _ _ hs (plain_markPoweredOff _ _)))

theorem standbyFailed (hs : P s) : P (r.standbyFailed s) :=
  h.write _ _ hs ⟨rfl, rfl, rfl, rfl, rfl⟩

/-- The rule for observing. -/
theorem observe (hs : P s) : P (r.observe s) := by
  unfold Reconciler.observe
  split
  · exact hs
  · split
    · split
      · exact h.phase _ _ hs
      · exact h.phase _ _ hs
    · exact h.phase _ _ hs
    · exact h.phase _ _ hs

/-- The rule for a machine found up. -/
theorem online (hs : P s) : P (r.online s).1 := by
  have huncordoned : P (s.did r.uncordon.2) := h.did _ _ hs r.plain_uncordon
  have hcleared : P ((s.did r.uncordon.2).did r.clearMarker.2) :=
    h.did _ _ huncordoned r.plain_clearMarker
  have hentered : P (r.enterOn ((s.did r.uncordon.2).did r.clearMarker.2)) :=
    h.write _ _ (h.phase _ .on hcleared) ⟨rfl, rfl, rfl, rfl, rfl⟩
  unfold Reconciler.online
  simp only
  split
  · exact huncordoned
  · split
    · exact hcleared
    · split
      · exact h.probeSleep hentered
      · exact hentered

theorem releaseFailedPowerOn (hs : P s) : P (r.releaseFailedPowerOn s) := by
  have hreleased : P { s with st := r.released s.st } :=
    h.write _ _ hs ⟨rfl, rfl, rfl, rfl, rfl⟩
  unfold Reconciler.releaseFailedPowerOn
  simp only
  split
  · have hmarked := h.did _ _ hreleased (plain_markPoweredOff r.dryRun r.api)
    have hbooting : P ⟨{ r.released s.st with poweredOnNotReadySince := some r.now }, _⟩ :=
      h.write _ _ hmarked ⟨rfl, rfl, rfl, rfl, rfl⟩
    exact h.phase _ _ (h.write _ _ (h.act _ .forceOff hbooting) ⟨rfl, rfl, rfl, rfl, rfl⟩)
  · exact h.phase _ _ hreleased

theorem keepPoweringOn (hs : P s) : P (r.keepPoweringOn s) := by
  unfold Reconciler.keepPoweringOn
  simp only
  split
  · exact h.message _ (h.phase _ _ (h.act _ _ (h.standbyFailed hs)))
  · split
    · exact h.act _ _ hs
    · exact hs

/-- The rule for a machine that is coming up. -/
theorem comingUp (hs : P s) : P (r.comingUp s).1 := by
  have huncordoned : P (s.did r.uncordon.2) := h.did _ _ hs r.plain_uncordon
  unfold Reconciler.comingUp
  simp only
  split
  · exact huncordoned
  · exact h.phase _ _ huncordoned

/-- **The rule for bringing the machine up.** -/
theorem ensureOn (hs : P s) : P (r.ensureOn s).1 := by
  refine r.ensureOn_cases s (P := fun out => P out.1)
    ?online ?released ?keep ?callOff ?wait ?comingUp ?hold ?start
  case online => intros; exact h.online hs
  case released => intros; exact h.releaseFailedPowerOn hs
  case keep => intros; exact h.keepPoweringOn hs
  case callOff =>
    intro _ _ _
    refine h.startPowerOn (h.did _ _ hs ?_)
    split <;> simp [IsPlain]
  case wait => intros; exact h.message _ hs
  case comingUp => intros; exact h.comingUp hs
  case hold => intros; exact hs
  case start => intros; exact h.startPowerOn hs

/-- The rule for a drain that is done. -/
theorem drainDone (hs : P s) : P (r.drainDone s).1 := by
  unfold Reconciler.drainDone
  simp only
  split
  · have hprobed := h.probeSleep hs
    split
    · exact h.message _ hprobed
    · exact h.powerOff (h.message _ hprobed)
  · exact h.powerOff (h.message _ hs)

/-- The rule for a drain that failed. -/
theorem drainFailed (hs : P s) : P (r.drainFailed s).1 := by
  have htimedOut : P { s with st := r.drainTimedOut s.st } :=
    h.write _ _ hs ⟨rfl, rfl, rfl, rfl, rfl⟩
  unfold Reconciler.drainFailed
  simp only
  split
  · have huncordoned := h.did _ _ (h.write _ { r.drainTimedOut s.st with
      scalingDecision := some (r.abortDecision (r.drainTimedOut s.st)) } htimedOut
      ⟨rfl, rfl, rfl, rfl, rfl⟩) r.plain_uncordon
    split
    · exact huncordoned
    · exact h.phase _ _ huncordoned
  · exact h.clock _ htimedOut

/-- **The rule for a drain.** -/
theorem drain (hs : P s) : P (r.drain s).1 := by
  have hevicted : P (s.did r.evictions) := h.did _ _ hs r.plain_evictions
  refine r.drain_cases s (P := fun out => P out.1) ?done ?wait ?forced ?failed
  case done => intros; exact h.drainDone hevicted
  case wait => intros; exact h.message _ hevicted
  case forced => intros; exact h.powerOff (h.message _ hevicted)
  case failed => intros; exact h.drainFailed hevicted

theorem keepPoweringOff (hs : P s) : P (r.keepPoweringOff s) := by
  unfold Reconciler.keepPoweringOff
  simp only
  split
  · exact h.clock _ (h.act _ _ (h.standbyFailed hs))
  · split
    · split
      · exact h.write _ _ (h.act _ .forceOff (h.message _ hs)) ⟨rfl, rfl, rfl, rfl, rfl⟩
      · exact hs
    · split
      · exact h.act _ _ hs
      · exact hs

theorem awake (hs : P s) : P (r.awake s) := by
  unfold Reconciler.awake
  split
  · exact h.write _ _ hs ⟨rfl, rfl, rfl, rfl, rfl⟩
  · exact hs

theorem startDrain (hs : P s) : P (r.startDrain s).1 := by
  unfold Reconciler.startDrain
  split
  · rename_i node _
    have hcordoned := h.did _ _ hs (plain_cordon r.api node)
    simp only
    split
    · exact hcordoned
    · exact h.phase _ _ hcordoned
  · exact h.message _ hs

/-- **The rule for bringing the machine down.** -/
theorem ensureOff (hs : P s) : P (r.ensureOff s).1 := by
  have hawake : P (r.awake s) := h.awake hs
  refine r.ensureOff_cases s (P := fun out => P out.1) ?offline ?keep ?drain ?start
  case offline =>
    intro _
    exact h.write _ _ (h.phase _ _ hawake) ⟨rfl, rfl, rfl, rfl, rfl⟩
  case keep => intros; exact h.keepPoweringOff hawake
  case drain => intros; exact h.drain hawake
  case start => intros; exact h.startDrain hawake

/-- **The rule for a boot.** -/
theorem boot (event : BootEvent) (hs : P s) : P (r.boot event s).1 := by
  unfold Reconciler.boot
  cases event with
  | recovered => exact hs
  | failed =>
    have hphase : P (r.setPhase .bootFailed { s with st := r.failedBoot s.st }) :=
      h.phase _ _ (h.write _ _ hs ⟨rfl, rfl, rfl, rfl, rfl⟩)
    unfold Reconciler.bootFailed
    simp only
    split
    · exact hphase
    · exact h.act _ _ (h.did _ _ hphase (plain_markPoweredOff _ _))
  | none =>
    have hphase : P (r.setPhase .bootFailed s) := h.phase _ _ hs
    simp only
    split
    · exact hs
    · split
      · exact hs
      · split
        · exact h.write _ _ (h.act _ .forceOff hphase) ⟨rfl, rfl, rfl, rfl, rfl⟩
        · exact hphase

/-- **The rule of moves**: what holds of the progress a step starts with and is
kept by its moves holds of the progress it ends with. -/
theorem step (event : BootEvent) (consistent : Bool) (hs : P s) :
    P (r.step event consistent s).1 := by
  refine r.step_cases s (P := fun out => P out.1) ?boot ?gated ?idle ?on ?off
  case boot => intros; exact h.boot event hs
  case gated => intros; exact h.observe (h.message _ hs)
  case idle => intros; exact h.observe hs
  case on => intros; exact h.ensureOn hs
  case off => intros; exact h.ensureOff hs

end KeptByMoves

/-- **The power reading is the one the step starts with.** -/
theorem powerState_step (event : BootEvent) (consistent : Bool) :
    (r.step event consistent s).1.st.powerState = s.st.powerState := by
  have hkept : r.KeptByMoves (fun s' => s'.st.powerState = s.st.powerState) := by
    constructor
    · intro _ _ hs' _
      exact hs'
    · intro s' phase hs'
      rw [setPhase_eq]
      exact hs'
    · intro _ hs'
      exact hs'
    · intro _ _ hs'
      exact hs'
    · intro _ _ hs' hcore
      exact hcore.powerState.trans hs'
  exact hkept.step event consistent rfl

end Reconciler

end HardwareAutoscaler
