/-
  HardwareAutoscaler.Controller.Machine.Cordon
  ────────────────────────────────────────────
  THE OPERATOR'S OWN CORDON: set when a drain begins, taken back when the
  machine is On and Ready and when a drain fails.

  Phase `On` has a third way in: `observe()` mirrors a machine that has no
  target, and takes no cordon back.

    • `cordonAfter_step` — the cordon after a step that ends in phase `On`,
    • `on_uncordoned_iff` — a machine On and Ready has no cordon left after any
      reconcile, exactly when no reconcile observes a cordoned one,
    • `on_cordoned` — a pool deleted during a drain.
-/
import HardwareAutoscaler.Controller.Machine.Drain

namespace HardwareAutoscaler

open Std (TreeMap)

/-! ## §1. The cordon along the effects. -/

/-- One list of effects after another. -/
theorem cordonAfter_append (xs ys : List Effect) (c : Bool) :
    cordonAfter (xs ++ ys) c = cordonAfter ys (cordonAfter xs c) :=
  List.foldl_append

@[simp] theorem cordonAfter_nil (c : Bool) : cordonAfter [] c = c := rfl

/-- Effects other than the two cordon writes leave the cordon. -/
theorem cordonAfter_of_forall {effects : List Effect} (c : Bool)
    (h : ∀ e ∈ effects, e ≠ .cordon ∧ e ≠ .uncordon) : cordonAfter effects c = c := by
  induction effects with
  | nil => rfl
  | cons e effects ih =>
    have hrest := ih (fun e' he' => h e' (List.mem_cons_of_mem _ he'))
    obtain ⟨hcordon, huncordon⟩ := h e List.mem_cons_self
    cases e with
    | cordon => exact absurd rfl hcordon
    | uncordon => exact absurd rfl huncordon
    | act => exact hrest
    | contact => exact hrest
    | suspendPod => exact hrest
    | deleteSuspendPod => exact hrest
    | probe => exact hrest
    | clearPoweredOff => exact hrest
    | markPoweredOff => exact hrest
    | evict => exact hrest

/-- Contacting interfaces cordons nothing. -/
theorem cordonAfter_contacts (action : InterfaceAction) (contacted : List Nat) (c : Bool) :
    cordonAfter (contacted.map (Effect.contact action)) c = c := by
  apply cordonAfter_of_forall
  intro e he
  obtain ⟨i, _, rfl⟩ := List.mem_map.mp he
  simp

/-- Marking the Node cordons nothing. -/
theorem cordonAfter_markPoweredOff (dryRun : Bool) (api : MachineApi) (c : Bool) :
    cordonAfter (markPoweredOff dryRun api) c = c := by
  unfold markPoweredOff
  split <;> rfl

namespace Progress

/-- The cordon after what was done so far. -/
def cordoned (s : Progress) (c : Bool) : Bool := cordonAfter s.effects c

@[simp] theorem cordoned_did (s : Progress) (effects : List Effect) (c : Bool) :
    (s.did effects).cordoned c = cordonAfter effects (s.cordoned c) :=
  cordonAfter_append _ _ _

@[simp] theorem cordoned_message (s : Progress) (m : Option String) (c : Bool) :
    (s.message m).cordoned c = s.cordoned c := rfl

@[simp] theorem cordoned_mk (s : Progress) (st : NodePowerManagementConfigStatus) (c : Bool) :
    Progress.cordoned { s with st := st } c = s.cordoned c := rfl

end Progress

namespace Reconciler

variable (r : Reconciler) (s : Progress) (c : Bool)

@[simp] theorem cordoned_setPhase (phase : Phase) :
    (r.setPhase phase s).cordoned c = s.cordoned c := by
  unfold Progress.cordoned
  rw [setPhase_effects]

@[simp] theorem cordoned_act (action : PowerAction) :
    (r.act action s).cordoned c = s.cordoned c := by
  have hcommand : ∀ c, cordonAfter (r.command action).2 c = c := by
    intro c
    unfold command asked
    split
    · rfl
    · cases action with
      | standby => rfl
      | powerOn => exact cordonAfter_contacts _ _ _
      | powerOff => exact cordonAfter_contacts _ _ _
      | forceOff => exact cordonAfter_contacts _ _ _
  show cordonAfter (s.effects ++ (r.command action).2 ++ [.act action _]) c = _
  rw [cordonAfter_append, cordonAfter_append, hcommand]
  rfl

@[simp] theorem cordoned_probeSleep : (r.probeSleep s).1.cordoned c = s.cordoned c := by
  unfold probeSleep
  split
  · rfl
  · split
    · rfl
    · split
      · exact Progress.cordoned_did s [.probe] c
      · exact Progress.cordoned_did s [.probe] c

@[simp] theorem cordoned_enterOn : (r.enterOn s).cordoned c = s.cordoned c := by
  unfold enterOn
  simp

@[simp] theorem cordoned_powerOff : (r.powerOff s).cordoned c = s.cordoned c := by
  unfold powerOff
  simp [cordonAfter_markPoweredOff]

/-- **After an uncordon that succeeds no cordon is left**, as far as the Node is
known. -/
theorem cordonAfter_uncordon (hapi : r.api.uncordon = true) (hnode : r.node.isSome = true)
    (hcur : r.node.any cordonedByUs = c) : cordonAfter r.uncordon.2 c = false := by
  unfold uncordon
  cases hn : r.node with
  | none => rw [hn] at hnode; cases hnode
  | some node =>
    rw [hn, Option.any_some] at hcur
    simp only
    unfold uncordonIfOurs
    cases hc : cordonedByUs node with
    | false =>
      rw [hc] at hcur
      simpa using hcur.symm
    | true => simp [hapi, cordonAfter]

/-- Clearing the marker cordons nothing. -/
theorem cordonAfter_clearMarker : cordonAfter r.clearMarker.2 c = c := by
  unfold clearMarker
  split
  · unfold clearPoweredOff
    split
    · rfl
    · split <;> rfl
  · rfl

/-! ## §2. Steps that end in phase `On`. -/

/-- A cordon succeeds if its API call does. -/
theorem cordon_ok (hapi : r.api.cordon = true) (node : Node) : (cordon r.api node).1 = true := by
  unfold HardwareAutoscaler.cordon
  rw [if_pos hapi]
  split <;> rfl

/-- Observing ends in phase `On` only for a machine that is On and Ready. -/
theorem observe_on (h : (r.observe s).st.phase = .on) :
    s.st.powerState = .on ∧ s.st.nodeReady = true := by
  unfold observe at h
  split at h
  · rename_i hs
    unfold inStandby at hs
    rw [h] at hs
    simp at hs
  · split at h
    · rename_i hp
      split at h
      · rename_i hready
        exact ⟨hp, hready⟩
      · simp at h
    · simp at h
    · simp at h

@[simp] theorem cordoned_observe : (r.observe s).cordoned c = s.cordoned c := by
  unfold observe
  split
  · rfl
  · split
    · split <;> simp
    · simp
    · simp

@[simp] theorem cordoned_boot (event : BootEvent) :
    (r.boot event s).1.cordoned c = s.cordoned c := by
  unfold boot
  cases event with
  | recovered => rfl
  | failed =>
    unfold bootFailed
    simp only
    split
    · simp
    · simp [cordonAfter_markPoweredOff]
  | none =>
    simp only
    split
    · rfl
    · split
      · rfl
      · split <;> simp

/-- `ensureOn` ends in phase `On` only after taking the cordon back. -/
theorem ensureOn_on (hapi : r.api.uncordon = true) (hnode : r.node.isSome = true)
    (hcur : r.node.any cordonedByUs = s.cordoned c) (h : (r.ensureOn s).1.st.phase = .on) :
    (r.ensureOn s).1.cordoned c = false ∨
      (s.st.phase = .on ∧ (r.ensureOn s).1.cordoned c = s.cordoned c) := by
  -- both branches that end in On uncordon, and here the uncordon succeeds
  have huncordon := r.cordonAfter_uncordon (s.cordoned c) hapi hnode hcur
  revert h
  refine r.ensureOn_cases s (P := fun out => out.1.st.phase = .on → out.1.cordoned c = false ∨
    (s.st.phase = .on ∧ out.1.cordoned c = s.cordoned c))
    ?online ?released ?keep ?callOff ?wait ?comingUp ?hold ?start
  case online =>
    intro _ _ _
    left
    unfold online
    simp only
    split
    · simp [huncordon]
    · split
      · simp [huncordon, cordonAfter_clearMarker]
      · split
        · simp [huncordon, cordonAfter_clearMarker]
        · simp [huncordon, cordonAfter_clearMarker]
  -- these branches store another phase, or keep the phase they found
  case released =>
    intro _ h
    unfold releaseFailedPowerOn at h
    simp only at h
    split at h <;> simp at h
  case keep =>
    intro _ hphase h
    unfold keepPoweringOn at h
    simp only at h
    split at h
    · simp at h
    · split at h <;> simp [hphase] at h
  case callOff =>
    intro _ _ _ h
    have hphase := r.phase_startPowerOn (s.did (if r.api.cancel then [.deleteSuspendPod] else []))
    have h : (r.startPowerOn _).st.phase = .on := h
    rw [h] at hphase
    simp at hphase
  case wait =>
    intro _ hphase _ h
    have h : s.st.phase = .on := h
    rw [hphase] at h
    cases h
  -- the interface already says On: uncordoned before the phase is entered
  case comingUp =>
    intro _ _ _ h
    left
    unfold comingUp
    simp only
    split
    · simp [huncordon]
    · simp [huncordon]
  case hold =>
    intro _ hphase h
    have h : s.st.phase = .on := h
    rw [hphase] at h
    cases h
  case start =>
    intro _ _ _ h
    have hphase := r.phase_startPowerOn s
    have h : (r.startPowerOn s).st.phase = .on := h
    rw [h] at hphase
    simp at hphase

/-- A failed drain ends in phase `On` only after taking the cordon back. -/
theorem drain_on (hapi : r.api.uncordon = true) (hnode : r.node.isSome = true)
    (hcur : r.node.any cordonedByUs = s.cordoned c) (hd : s.st.phase = .draining)
    (h : (r.drain s).1.st.phase = .on) : (r.drain s).1.cordoned c = false := by
  have hevict : ∀ c, cordonAfter r.evictions c = c := by
    intro c
    apply cordonAfter_of_forall
    intro e he
    unfold evictions at he
    obtain ⟨pod, _, rfl⟩ := List.mem_map.mp he
    simp
  have huncordon := r.cordonAfter_uncordon (s.cordoned c) hapi hnode hcur
  revert h
  refine r.drain_cases s (P := fun out => out.1.st.phase = .on → out.1.cordoned c = false)
    ?done ?wait ?forced ?failed
  case done =>
    intro _ h
    unfold drainDone at h
    simp only at h
    split at h
    · split at h <;> simp [hd] at h
    · simp at h
  case wait =>
    intro _ _ h
    have h : s.st.phase = .on := h
    rw [hd] at h
    cases h
  case forced =>
    intro _ _ _ h
    simp at h
  case failed =>
    intro _ h
    unfold drainFailed at h ⊢
    simp only at h ⊢
    split at h
    -- under `Auto` the machine is given back to its pool, uncordoned
    · rename_i hauto
      rw [if_pos hauto]
      split
      · simp [hevict, huncordon]
      · simp [hevict, huncordon]
    · have h : s.st.phase = .on := h
      rw [hd] at h
      cases h

/-- `ensureOff` ends in phase `On` only after taking the cordon back. -/
theorem ensureOff_on (hapi : r.api.uncordon = true) (hcordon : r.api.cordon = true)
    (hnode : r.node.isSome = true) (hcur : r.node.any cordonedByUs = s.cordoned c)
    (h : (r.ensureOff s).1.st.phase = .on) : (r.ensureOff s).1.cordoned c = false := by
  have hawake : (r.awake s).cordoned c = s.cordoned c := by
    unfold awake
    split <;> rfl
  revert h
  refine r.ensureOff_cases s (P := fun out => out.1.st.phase = .on → out.1.cordoned c = false)
    ?offline ?keep ?drain ?start
  case offline =>
    intro _ h
    unfold offline at h
    simp only [setPhase_phase] at h
    split at h <;> cases h
  case keep =>
    intro _ hphase h
    simp [hphase] at h
  case drain =>
    intro _ hphase h
    exact r.drain_on (r.awake s) c hapi hnode (by rw [hawake]; exact hcur) (by simpa using hphase) h
  case start =>
    intro _ _ _ h
    unfold startDrain at h
    cases hn : r.node with
    | none => rw [hn] at hnode; cases hnode
    | some node =>
      rw [hn] at h
      simp [r.cordon_ok hcordon node] at h

/-- **The cordon after a step that ends in phase `On`**: none is left, or the
machine was `On` before or is observed, and the cordon is as before. -/
theorem cordonAfter_step {event : BootEvent} {consistent : Bool} (hapi : r.api.uncordon = true)
    (hcordon : r.api.cordon = true)
    (hcur : r.node.isSome = true → r.node.any cordonedByUs = s.cordoned c)
    (h : (r.step event consistent s).1.st.phase = .on) :
    (r.step event consistent s).1.cordoned c = false ∨
    (s.st.phase = .on ∧ (r.step event consistent s).1.cordoned c = s.cordoned c) ∨
    ((r.step event consistent s).1.cordoned c = s.cordoned c ∧
      s.st.powerState = .on ∧ s.st.nodeReady = true ∧
      (r.node = none ∨ consistent = false ∨
        managedTarget r.mn.spec.powerPolicy s.st r.manualPolicy = none)) := by
  revert h
  refine r.step_cases s (P := fun out => out.1.st.phase = .on → out.1.cordoned c = false ∨
    (s.st.phase = .on ∧ out.1.cordoned c = s.cordoned c) ∨
    (out.1.cordoned c = s.cordoned c ∧ s.st.powerState = .on ∧ s.st.nodeReady = true ∧
      (r.node = none ∨ consistent = false ∨
        managedTarget r.mn.spec.powerPolicy s.st r.manualPolicy = none))) ?boot ?gated ?idle ?on ?off
  -- by what the cycle does with the machine
  case boot =>
    intro _ _ h
    right
    left
    rcases r.phase_boot s event with hp | hp
    · exact ⟨hp.symm.trans h, r.cordoned_boot s c event⟩
    · rw [hp] at h
      cases h
  case gated =>
    intro _ hg h
    obtain ⟨hon, hready⟩ := r.observe_on _ h
    refine Or.inr (Or.inr ⟨by simp, hon, hready, ?_⟩)
    rcases hg with hg | hg
    · exact Or.inl hg
    · exact Or.inr (Or.inl hg)
  case idle =>
    intro _ _ _ ht h
    obtain ⟨hon, hready⟩ := r.observe_on _ h
    exact Or.inr (Or.inr ⟨by simp, hon, hready, Or.inr (Or.inr ht)⟩)
  case on =>
    intro _ hnode _ _ h
    rcases r.ensureOn_on s c hapi hnode (hcur hnode) h with hc | hc
    · exact Or.inl hc
    · exact Or.inr (Or.inl hc)
  case off =>
    intro _ hnode _ _ h
    exact Or.inl (r.ensureOff_on s c hapi hcordon hnode (hcur hnode) h)

/-! ## §3. Steps whose calls succeed. -/

/-- An uncordon succeeds if its API call does. -/
theorem uncordon_ok (hapi : r.api.uncordon = true) : r.uncordon.1 = true := by
  unfold uncordon
  split
  · unfold uncordonIfOurs
    rw [if_pos hapi]
    split <;> rfl
  · rfl

/-- Clearing the marker succeeds if its API call does. -/
theorem clearMarker_ok (hapi : r.api.clearPoweredOff = true) : r.clearMarker.1 = true := by
  unfold clearMarker
  split
  · unfold clearPoweredOff
    rw [if_pos hapi]
    split <;> rfl
  · rfl

/-- With the API at hand, bringing the machine up comes to an end. -/
theorem ensureOn_answers (huncordon : r.api.uncordon = true)
    (hclear : r.api.clearPoweredOff = true) : (r.ensureOn s).2.isSome = true := by
  have hu := r.uncordon_ok huncordon
  have hc := r.clearMarker_ok hclear
  refine r.ensureOn_cases s (P := fun out => out.2.isSome = true)
    ?online ?released ?keep ?callOff ?wait ?comingUp ?hold ?start
  case online =>
    intro _ _
    unfold online
    simp only [hu, hc, Bool.not_true, Bool.false_eq_true, if_false]
    split <;> rfl
  case comingUp =>
    intro _ _ _
    unfold comingUp
    simp [hu]
  all_goals intros; rfl

/-- With the API at hand, a drain comes to an end. -/
theorem drain_answers (huncordon : r.api.uncordon = true) : (r.drain s).2.isSome = true := by
  have hu := r.uncordon_ok huncordon
  refine r.drain_cases s (P := fun out => out.2.isSome = true) ?done ?wait ?forced ?failed
  case done =>
    intro _
    unfold drainDone
    simp only
    split
    · split <;> rfl
    · rfl
  case wait => intros; rfl
  case forced => intros; rfl
  case failed =>
    intro _
    unfold drainFailed
    simp only [hu]
    split
    · rfl
    · rfl

/-- With the API at hand, bringing the machine down comes to an end. -/
theorem ensureOff_answers (huncordon : r.api.uncordon = true) (hcordon : r.api.cordon = true) :
    (r.ensureOff s).2.isSome = true := by
  refine r.ensureOff_cases s (P := fun out => out.2.isSome = true) ?offline ?keep ?drain ?start
  case offline => intros; rfl
  case keep => intros; rfl
  case drain => intro _ _; exact r.drain_answers (r.awake s) huncordon
  case start =>
    intro _ _ _
    unfold startDrain
    split
    · rename_i node _
      simp [r.cordon_ok hcordon node]
    · rfl

/-- **A step whose writes to the Node succeed does not end in an error.** -/
theorem step_answers {event : BootEvent} {consistent : Bool} (huncordon : r.api.uncordon = true)
    (hclear : r.api.clearPoweredOff = true) (hcordon : r.api.cordon = true) :
    (r.step event consistent s).2.isSome = true := by
  refine r.step_cases s (P := fun out => out.2.isSome = true) ?boot ?gated ?idle ?on ?off
  case boot =>
    intro requeue h
    rw [h]
    rfl
  case gated => intros; rfl
  case idle => intros; rfl
  case on => intro _ _ _ _; exact r.ensureOn_answers s huncordon hclear
  case off => intro _ _ _ _; exact r.ensureOff_answers s huncordon hcordon

/-- **A machine that is On and Ready and has no target is only observed**: the
step does nothing but enter phase `On`. -/
theorem step_idle_ready {event : BootEvent} (hevent : event ≠ .failed)
    (hnode : r.node.isSome = true) (hon : s.st.powerState = .on) (hready : s.st.nodeReady = true)
    (ht : managedTarget r.mn.spec.powerPolicy s.st r.manualPolicy = none) :
    (r.step event true s).1 = r.setPhase .on s := by
  have hobserve : r.observe s = r.setPhase .on s := by
    unfold observe
    rw [hready, inStandby_of_nodeReady, hon]
    rfl
  refine r.step_cases s (P := fun out => out.1 = r.setPhase .on s) ?boot ?gated ?idle ?on ?off
  case boot =>
    -- the handler stands back while the Node is Ready, whatever failure is recorded
    intro requeue hb
    unfold boot at hb
    cases event with
    | recovered => cases hb
    | failed => exact absurd rfl hevent
    | none =>
      simp only [hready, true_or, if_true] at hb
      split at hb <;> cases hb
  case gated =>
    intro _ hgate
    rcases hgate with hgate | hgate
    · rw [hgate] at hnode
      cases hnode
    · cases hgate
  case idle =>
    intro _ _ _ _
    exact hobserve
  case on =>
    intro _ _ _ htarget
    rw [ht] at htarget
    cases htarget
  case off =>
    intro _ _ _ htarget
    rw [ht] at htarget
    cases htarget

end Reconciler

/-! ## §4. Over a run. -/

namespace MachineInput

/-- The calls of the API that a reconcile waits for succeed. -/
structure ApiSucceeds (i : MachineInput) : Prop where
  cordon : i.api.cordon = true
  uncordon : i.api.uncordon = true
  clearPoweredOff : i.api.clearPoweredOff = true
  patch : i.api.patch = true

end MachineInput

namespace MachineState

variable (w : MachineState) (i : MachineInput)

/-- The Node in the store carries the operator's cordon exactly when the real
one does. -/
def NodeCurrent : Prop := i.node.isSome = true → i.node.any cordonedByUs = w.cordonedNow i

/-- No cordon is left on a machine that is On and Ready. -/
def OnUncordoned : Prop :=
  w.stored.phase = .on → w.stored.nodeReady = true → w.cordoned = false

/-- A machine that is On and Ready is only observed, with the operator's cordon
on its Node. -/
def ObservesCordoned : Prop :=
  w.cordonedNow i = true ∧ ∃ d, w.reading i = some d ∧ d.fresh.powerState = .on ∧
    d.fresh.nodeReady = true ∧
    managedTarget i.mn.spec.powerPolicy (d.start i (w.old i)) (d.machine i).manualPolicy = none

variable {w i}

/-- The cordon after a reconcile. -/
theorem cordoned_of_reading {d : MachineInput.Reading} (h : w.reading i = some d) :
    (machineStep w i).cordoned = (i.settle (w.old i) d).1.cordoned (w.cordonedNow i) := by
  show cordonAfter (w.cycle i).effects _ = _
  rw [effects_of_reading h]
  rfl

/-- A reconcile that reads nothing cordons nothing. -/
theorem cordoned_of_stopped (h : w.reading i = none) :
    (machineStep w i).cordoned = w.cordonedNow i := by
  obtain ⟨contacted, heff⟩ := effects_of_stopped h
  show cordonAfter (w.cycle i).effects _ = _
  rw [heff, cordonAfter_contacts]

/-- With the API at hand, a reconcile comes to an end. -/
theorem settle_answers (hapi : i.ApiSucceeds) (old : NodePowerManagementConfigStatus)
    (d : MachineInput.Reading) : (i.settle old d).2.isSome = true :=
  Reconciler.step_answers _ _ hapi.uncordon hapi.clearPoweredOff hapi.cordon

/-- A machine that is On and Ready passes the gates. -/
theorem gates_of_on_ready {d : MachineInput.Reading} (h : w.reading i = some d)
    (hon : d.fresh.powerState = .on) (hready : d.fresh.nodeReady = true) :
    i.node.isSome = true ∧ i.consistent d.fresh = true := by
  obtain ⟨_, _, _, _, _, _, _, hfresh⟩ := MachineInput.fresh_frame (reading_eq.mp h)
  constructor
  · rw [hfresh] at hready
    cases hn : i.node with
    | none => rw [hn] at hready; cases hready
    | some node => rfl
  · unfold MachineInput.consistent powerStateConsistent
    rw [hon]
    rfl

/-- **One reconcile keeps phase `On` uncordoned**, unless it observes a cordoned
machine. -/
theorem uncordoned_step (hapi : i.ApiSucceeds) (hcur : w.NodeCurrent i)
    (hnot : ¬ w.ObservesCordoned i) (hinv : w.stored.phase = .on → w.cordoned = false)
    (h : (machineStep w i).stored.phase = .on) : (machineStep w i).cordoned = false := by
  have hkept : w.stored.phase = .on → w.cordonedNow i = false := by
    intro hp
    unfold cordonedNow
    rw [hinv hp]
    rfl
  -- a reconcile that stopped early keeps the cordon, and does not enter phase `On`
  cases hr : w.reading i with
  | none =>
    rw [cordoned_of_stopped hr]
    rcases w.step_phase i with ⟨hp, _⟩ | herr | ⟨d, hd, _⟩
    · exact hkept (hp.symm.trans h)
    · rw [h] at herr
      cases herr
    · rw [hr] at hd
      cases hd
  | some d =>
    rw [cordoned_of_reading hr]
    rw [stored_of_reading hr hapi.patch (settle_answers hapi _ d)] at h
    have h : (i.settle (w.old i) d).1.st.phase = .on := h
    have hbase : Progress.cordoned
        ⟨d.start i (w.old i), d.contacted.map (.contact .status)⟩ (w.cordonedNow i)
          = w.cordonedNow i :=
      cordonAfter_contacts _ _ _
    rcases (d.machine i).cordonAfter_step _ (w.cordonedNow i) hapi.uncordon hapi.cordon
      (fun hnode => (hcur hnode).trans hbase.symm) h with hc | ⟨hp, hc⟩ | ⟨hc, hon, hready, hgate⟩
    · exact hc
    · exact hc.trans (hbase.trans (hkept ((start_phase_stored hr).symm.trans hp)))
    · have hon : (d.start i (w.old i)).powerState = .on := hon
      have hready : (d.start i (w.old i)).nodeReady = true := hready
      rw [MachineInput.Reading.start_powerState] at hon
      rw [MachineInput.Reading.start_nodeReady] at hready
      obtain ⟨hnode, hcons⟩ := gates_of_on_ready hr hon hready
      have ht : managedTarget i.mn.spec.powerPolicy (d.start i (w.old i))
          (d.machine i).manualPolicy = none := by
        rcases hgate with hgate | hgate | hgate
        · have hgate : i.node = none := hgate
          rw [hgate] at hnode
          cases hnode
        · rw [hcons] at hgate
          cases hgate
        · exact hgate
      -- observed without a cordon, as the condition has it
      refine hc.trans (hbase.trans ?_)
      by_contra hcordoned
      exact hnot ⟨by simpa using hcordoned, d, hr, hon, hready, ht⟩

/-- A reconcile that observes a cordoned machine leaves it On, Ready and
cordoned. -/
theorem cordoned_of_observes (hapi : i.ApiSucceeds) (h : w.ObservesCordoned i) :
    (machineStep w i).stored.phase = .on ∧ (machineStep w i).stored.nodeReady = true ∧
      (machineStep w i).cordoned = true := by
  obtain ⟨hcordoned, d, hr, hon, hready, ht⟩ := h
  obtain ⟨hnode, hcons⟩ := gates_of_on_ready hr hon hready
  have hobserve : (i.settle (w.old i) d).1 = (d.machine i).setPhase .on
      ⟨d.start i (w.old i), d.contacted.map (.contact .status)⟩ := by
    unfold MachineInput.settle
    rw [hcons]
    exact (d.machine i).step_idle_ready _ (d.tracked_ne_failed i (w.old i) hready) hnode
      ((d.start_powerState i (w.old i)).trans hon) ((d.start_nodeReady i (w.old i)).trans hready) ht
  refine ⟨?_, ?_, ?_⟩
  · rw [stored_of_reading hr hapi.patch (settle_answers hapi _ d), hobserve]
    show ((d.machine i).setPhase .on _).st.phase = .on
    exact Reconciler.setPhase_phase _ _ _
  · rw [stored_of_reading hr hapi.patch (settle_answers hapi _ d), hobserve,
      Reconciler.setPhase_eq]
    show (d.start i (w.old i)).nodeReady = true
    rw [MachineInput.Reading.start_nodeReady]
    exact hready
  · rw [cordoned_of_reading hr, hobserve, Reconciler.cordoned_setPhase]
    show cordonAfter (d.contacted.map (.contact .status)) (w.cordonedNow i) = true
    rw [cordonAfter_contacts, hcordoned]

end MachineState

/-- **No cordon is left on a machine that is On and Ready, after any reconcile,
exactly when no reconcile observes a cordoned one**: in every run whose calls
succeed and whose reconciles see the Node as it is. -/
theorem on_uncordoned_iff (inp : Nat → MachineInput) (N : Nat)
    (hapi : ∀ n < N, (inp n).ApiSucceeds)
    (hcur : ∀ n < N, (machineAt inp n).NodeCurrent (inp n)) :
    (∀ n < N, (machineAt inp (n + 1)).OnUncordoned) ↔
      ∀ n < N, ¬ (machineAt inp n).ObservesCordoned (inp n) := by
  constructor
  · intro h n hn hobs
    obtain ⟨hphase, hready, hcordoned⟩ := MachineState.cordoned_of_observes (hapi n hn) hobs
    have hnone := h n hn
    rw [machineAt_succ] at hnone
    rw [hnone hphase hready] at hcordoned
    cases hcordoned
  · intro hnot
    -- for any readiness: a Node can become Ready again while the phase stays `On`
    have hinv : ∀ n ≤ N, (machineAt inp n).stored.phase = .on →
        (machineAt inp n).cordoned = false :=
      Lib.stateAt_invariant
        (fun _ (w : MachineState) => w.stored.phase = .on → w.cordoned = false)
        (fun h => by cases h)
        (fun n hn ih h => MachineState.uncordoned_step (hapi n hn) (hcur n hn) (hnot n hn) ih h)
    intro n hn hphase _
    exact hinv (n + 1) hn hphase

/-! ## §5. A drain that is called off. -/

/-- The Node of a machine in pool `a`. -/
def pooledNode (cordoned : Bool) : Node where
  name := "m1"
  labels := (∅ : TreeMap String String).insert "pool" "x"
  annotations := if cordoned then (∅ : TreeMap String String).insert cordonedByAnnotation "true" else ∅
  unschedulable := cordoned
  conditions := [{ type_ := "Ready", status := "True" }]

/-- A pool that selects the machines of one label. -/
def poolA : NodeScalingPool where
  name := "a"
  spec := { nodeSelector := { matchLabels := (∅ : TreeMap String String).insert "pool" "x" } }

/-- There is one pool. -/
theorem poolA_distinct : ([poolA].map (·.name)).Nodup := List.nodup_singleton _

/-- There is one Node. -/
theorem pooledNode_distinct (n : Nat) : ([pooledNode (n != 0)].map (·.name)).Nodup :=
  List.nodup_singleton _

/-- Pool `a` powers the machine off; a second later it is deleted, or wants the
machine back. -/
def calledOff (deleted : Bool) (n : Nat) : MachineInput where
  edit :=
    { decision :=
        if n = 0 then some (some ⟨"a", .off, "unneeded", 0⟩)
        else if deleted then none
        else some (some ⟨"a", .on, "2 pending pod(s)", seconds n⟩) }
  mn := { name := "m1", spec := { nodeName := "m1", powerInterfaces := [{ driver := "redfish" }] } }
  cluster :=
    { nodes := [pooledNode (n != 0)]
      pools := if deleted ∧ n ≠ 0 then [] else [poolA]
      nodes_distinct := pooledNode_distinct n
      pools_distinct := by split <;> decide }
  built := fun _ => .ok readsOn
  now := seconds n
  lookupAt := seconds n
  storeAt := seconds n

/-- The API is at hand in both reconciles. -/
theorem apiSucceeds_calledOff (deleted : Bool) (n : Nat) : (calledOff deleted n).ApiSucceeds :=
  ⟨rfl, rfl, rfl, rfl⟩

/-- The Node is read as it is in both reconciles. -/
theorem nodeCurrent_calledOff (deleted : Bool) :
    ∀ n < 2, (machineAt (calledOff deleted) n).NodeCurrent (calledOff deleted n) := by
  unfold MachineState.NodeCurrent
  cases deleted <;> decide +kernel

/-- A machine that its pool wants back is uncordoned. -/
theorem on_uncordoned_wanted :
    (machineAt (calledOff false) 1).cordoned = true ∧
    (machineAt (calledOff false) 2).stored.phase = .on ∧
    ∀ n < 2, (machineAt (calledOff false) (n + 1)).OnUncordoned ∧
      ¬ (machineAt (calledOff false) n).ObservesCordoned (calledOff false n) := by
  have hon : ∀ n < 2, (machineAt (calledOff false) (n + 1)).OnUncordoned := by
    unfold MachineState.OnUncordoned
    decide +kernel
  have hnot := (on_uncordoned_iff _ 2 (fun n _ => apiSucceeds_calledOff false n)
    (nodeCurrent_calledOff false)).mp hon
  exact ⟨by decide +kernel, by decide +kernel, fun n hn => ⟨hon n hn, hnot n hn⟩⟩

/-- **The pool is deleted while its machine drains**: the machine is observed,
stored as `On` and Ready, and stays cordoned. -/
theorem on_cordoned :
    (∀ n < 2, (calledOff true n).ApiSucceeds ∧
      (machineAt (calledOff true) n).NodeCurrent (calledOff true n)) ∧
    (machineAt (calledOff true) 2).stored.phase = .on ∧
    (machineAt (calledOff true) 2).stored.nodeReady = true ∧
    (machineAt (calledOff true) 2).cordoned = true :=
  ⟨fun n hn => ⟨apiSucceeds_calledOff true n, nodeCurrent_calledOff true n hn⟩,
    by decide +kernel, by decide +kernel, by decide +kernel⟩

end HardwareAutoscaler
