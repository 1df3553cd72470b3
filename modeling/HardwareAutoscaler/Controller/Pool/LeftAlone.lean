/-
  HardwareAutoscaler.Controller.Pool.LeftAlone
  ────────────────────────────────────────────
  WHICH MACHINES BOTH CONTROLLERS LEAVE ALONE.

  The machine controller asks `managedTarget` whether it may act on a machine;
  the pool controller asks `classify` whether it may plan for it.  Both apply
  the policy for machines powered on by hand, but `managedTarget` does so with
  `powerPolicy: Auto` only, `classify` with any power policy.

    • `buildMember_state` — the state of a member, from the two parts
      `memberState` and `classify`,
    • `classify_failed`, `classify_on` — the branches of `classify`, by what
      they look at,
    • `leftAlone_iff` — the members left alone for a `LeaveOn` power-on,
    • `agree_iff` — when the two controllers agree.
-/
import HardwareAutoscaler.Controller.Pool.Member

namespace HardwareAutoscaler

open Std (TreeMap)

/-! ## §1. The parts of a member's state. -/

/-- The effective manual power-on policy of a machine in the pools `memberOf`. -/
def manualPolicyOf (mn : NodePowerManagementConfig) (memberOf : List String) (c : Cluster) :
    ManualPowerOnPolicy :=
  effectiveManualPowerOnPolicy mn.spec.manualPowerOnPolicy
    ((c.pools.filter (fun p => memberOf.contains p.name)).map (·.spec.manualPowerOnPolicy))

/-- What `buildMember` makes of boot failures and manual power changes. -/
def specialOf (mn : NodePowerManagementConfig) (memberOf : List String) (pool : NodeScalingPool)
    (c : Cluster) (now : Int) : Special :=
  let memberPools := c.pools.filter (fun p => memberOf.contains p.name)
  classify (mn.status.getD {}) (memberState mn memberOf) (manualPolicyOf mn memberOf c) pool.spec
    (effectiveBootTimeout mn.spec.lifecycle.bootTimeoutSeconds
      (memberPools.map (·.spec.scaleUp.bootTimeoutSeconds)))
    (effectiveManualPowerOffCooldown mn.spec.manualPowerOffCooldownSeconds
      (memberPools.map (·.spec.manualPowerOffCooldownSeconds))) now

section Build

variable {mn : NodePowerManagementConfig} {memberOf : List String} {pool : NodeScalingPool}
  {c : Cluster} {times : BuildTimes} {m : Member}

/-- **The state and the note of a member.** -/
theorem buildMember_state (h : buildMember mn memberOf pool c times = some m) :
    m.state = (specialOf mn memberOf pool c times.classify).state.getD (memberState mn memberOf) ∧
      m.note = (specialOf mn memberOf pool c times.classify).note := by
  unfold buildMember at h
  rw [Option.map_eq_some_iff] at h
  obtain ⟨node, _, rfl⟩ := h
  exact ⟨rfl, rfl⟩

/-- A member is built exactly for a machine whose Node exists. -/
theorem exists_buildMember (hnode : (c.node mn.spec.nodeName).isSome = true) :
    ∃ m, buildMember mn memberOf pool c times = some m := by
  obtain ⟨node, hn⟩ := Option.isSome_iff_exists.mp hnode
  unfold buildMember
  rw [hn]
  exact ⟨_, rfl⟩

end Build

/-- No interface is known to contradict the Node. -/
def PowerConsistent (st : NodePowerManagementConfigStatus) : Prop :=
  ∀ c ∈ st.conditions, c.type_ = condPowerStateConsistent → c.status ≠ "False"

instance (st : NodePowerManagementConfigStatus) : Decidable (PowerConsistent st) :=
  inferInstanceAs (Decidable (∀ c ∈ st.conditions, _ → _))

/-- The machine is in `BootFailed`, for a recorded failure. -/
def HeldByFailure (st : NodePowerManagementConfigStatus) : Prop :=
  st.phase = .bootFailed ∧ st.bootFailure.isSome = true

instance (st : NodePowerManagementConfigStatus) : Decidable (HeldByFailure st) :=
  inferInstanceAs (Decidable (_ ∧ _))

/-! ## §2. The plain state. -/

section State

variable {mn : NodePowerManagementConfig} {pools : List String}

/-- The condition tells whether power state and readiness agree. -/
theorem inconsistent_eq (st : NodePowerManagementConfigStatus) :
    (st.conditions.any (fun c => c.type_ == condPowerStateConsistent && c.status == "False"))
      = !decide (PowerConsistent st) := by
  by_cases hcons : PowerConsistent st
  · rw [decide_eq_true hcons, Bool.not_true, List.any_eq_false]
    intro c hc
    by_cases htype : c.type_ = condPowerStateConsistent
    · simp [hcons c hc htype]
    · simp [htype]
  · rw [decide_eq_false hcons, Bool.not_false]
    unfold PowerConsistent at hcons
    simpa using hcons

/-- Under an override a machine is `Online` or `Unavailable`: with `AlwaysOn`
it is online once it is on, Ready and consistent. -/
theorem memberState_override (h : mn.spec.powerPolicy ≠ .auto) :
    memberState mn pools =
      if mn.spec.powerPolicy = .alwaysOn ∧ PowerConsistent (mn.status.getD {}) ∧
        (mn.status.getD {}).phase = .on ∧ (mn.status.getD {}).nodeReady = true
      then .online else .unavailable := by
  unfold memberState
  simp only [inconsistent_eq]
  by_cases hcons : PowerConsistent (mn.status.getD {})
  · cases hpolicy : mn.spec.powerPolicy with
    | auto => exact absurd hpolicy h
    | alwaysOff => simp [hcons]
    | alwaysOn => simp [hcons]
  -- an interface contradicts the Node: whatever the policy
  · simp [hcons]

/-- A machine under an override is never to be opened. -/
theorem memberState_override_ne_offline (h : mn.spec.powerPolicy ≠ .auto) :
    memberState mn pools ≠ .offline := by
  rw [memberState_override h]
  split <;> simp

/-- A consistent machine that is on and Ready is online for every pool, unless
it is to be off. -/
theorem memberState_online {manual : ManualPowerOnPolicy}
    (htarget : managedTarget mn.spec.powerPolicy (mn.status.getD {}) manual = some .on)
    (hcons : PowerConsistent (mn.status.getD {})) (hphase : (mn.status.getD {}).phase = .on)
    (hready : (mn.status.getD {}).nodeReady = true) : memberState mn pools = .online := by
  by_cases hauto : mn.spec.powerPolicy = .auto
  · -- the decision, if this pool sees it, is the one driven towards
    have hon : ∀ d, (mn.status.getD {}).scalingDecision = some d → d.target = .on := by
      intro d hd
      unfold managedTarget desiredTarget at htarget
      rw [hauto, hd] at htarget
      split at htarget
      · cases htarget
      · simp only [Option.filter_some] at htarget
        split at htarget
        · simpa using htarget
        · cases htarget
    unfold memberState
    simp only [inconsistent_eq, hcons, decide_true, Bool.not_true, Bool.false_eq_true, if_false,
      hauto]
    cases hd : (mn.status.getD {}).scalingDecision with
    | none => simp [hphase, hready]
    | some d =>
      rw [Option.filter_some]
      by_cases hin : pools.contains d.pool = true
      · rw [if_pos hin, Option.map_some, hon d hd]
        simp [hphase, hready]
      · rw [if_neg hin]
        simp [hphase, hready]
  · rw [memberState_override hauto]
    have hpolicy : mn.spec.powerPolicy = .alwaysOn := by
      unfold managedTarget desiredTarget at htarget
      cases hp : mn.spec.powerPolicy with
      | auto => exact absurd hp hauto
      | alwaysOn => rfl
      | alwaysOff =>
        rw [hp] at htarget
        simp at htarget
    rw [if_pos ⟨hpolicy, hcons, hphase, hready⟩]

end State

/-! ## §3. The branches of `classify`. -/

section Classify

variable {st : NodePowerManagementConfigStatus} {base : MemberState}
  {policy : ManualPowerOnPolicy} {spec : NodeScalingPoolSpec} {boot cooldown : UInt64} {now : Int}

/-- A machine held by its failure is unavailable, and the note says so. -/
theorem classify_failed (h : HeldByFailure st) :
    (classify st base policy spec boot cooldown now).state = some .unavailable ∧
      ∃ rest, (classify st base policy spec boot cooldown now).note
        = some ("boot failed at " ++ rest) := by
  obtain ⟨hphase, hsome⟩ := h
  obtain ⟨f, hf⟩ := Option.isSome_iff_exists.mp hsome
  unfold classify
  rw [hphase, hf]
  refine ⟨rfl, ?_⟩
  simp only [String.append_assoc]
  exact ⟨_, rfl⟩

/-- Without a failed boot the manual changes decide. -/
theorem classify_of_not_failed (h : ¬ HeldByFailure st) :
    classify st base policy spec boot cooldown now =
      if base = .offline then classifyOffline st spec cooldown now
      else (st.manualPowerOn.map (fun on => classifyManualOn st on policy spec)).getD {} := by
  unfold classify
  split
  · rename_i f hphase hf
    exact absurd ⟨hphase, by rw [hf]; rfl⟩ h
  · split
    · rfl
    · cases st.manualPowerOn with
      | none => rfl
      | some on => rfl

/-- A machine that is not off is shaped by its manual power-on alone. -/
theorem classify_on (h : ¬ HeldByFailure st) (hbase : base ≠ .offline) :
    classify st base policy spec boot cooldown now =
      (st.manualPowerOn.map (fun on => classifyManualOn st on policy spec)).getD {} := by
  rw [classify_of_not_failed h, if_neg hbase]

/-- Texts that begin differently are different. -/
theorem append_ne_append {a b : String} (hlen : a.toList.length ≤ b.toList.length)
    (hnot : ¬ a.toList <+: b.toList) (x y : String) : a ++ x ≠ b ++ y := by
  intro h
  have hlist : a.toList ++ x.toList = b.toList ++ y.toList := by
    rw [← String.toList_append, ← String.toList_append, h]
  apply hnot
  have hleft : a.toList <+: b.toList ++ y.toList := by
    rw [← hlist]
    exact List.prefix_append _ _
  exact List.prefix_of_prefix_length_le hleft (List.prefix_append _ _) hlen

/-- The note of a machine powered on by hand under `LeaveOn` that is not Ready. -/
def leaveOnNote (on : ManualPowerChange) : String :=
  s!"manually powered on at {hhmmss on.time}, not Ready yet; policy LeaveOn; not managing"

/-- The notes tell the rules apart. -/
theorem leaveOnNote_ne_failed (on : ManualPowerChange) (x : String) :
    "boot failed at " ++ x ≠ leaveOnNote on := by
  unfold leaveOnNote
  simp only [String.append_assoc]
  exact append_ne_append (by decide) (by decide) _ _

theorem leaveOnNote_ne_off (on : ManualPowerChange) (x : String) :
    "manually powered off at " ++ x ≠ leaveOnNote on := by
  unfold leaveOnNote
  simp only [String.append_assoc]
  exact (append_ne_append (a := "manually powered on at ") (by decide) (by decide) _ _).symm

/-- What `classify` makes of the member leaves it alone: it is `Manual`, or
`Unavailable` with the note of its `LeaveOn` power-on. -/
def Special.LeavesAlone (special : Special) (st : NodePowerManagementConfigStatus)
    (base : MemberState) : Prop :=
  special.state.getD base = .manual ∨
    special.state.getD base = .unavailable ∧
      ∃ on, st.manualPowerOn = some on ∧ special.note = some (leaveOnNote on)

/-- A failed boot does not leave a machine alone. -/
theorem not_leavesAlone_failed (h : HeldByFailure st) :
    ¬ (classify st base policy spec boot cooldown now).LeavesAlone st base := by
  obtain ⟨hstate, rest, hnote⟩ := @classify_failed st base policy spec boot cooldown now h
  unfold Special.LeavesAlone
  rw [hstate, hnote]
  rintro (hm | ⟨_, on, _, he⟩)
  · cases hm
  · exact leaveOnNote_ne_failed on rest (Option.some.inj he)

/-- The notes of a machine that is off name its failure or its power-off. -/
theorem classifyOffline_cases {special : Special}
    (h : classifyOffline st spec cooldown now = special) :
    special.state ≠ some .manual ∧ (special.note = none ∨
      (∃ rest, special.note = some ("boot failed at " ++ rest)) ∨
      ∃ rest, special.note = some ("manually powered off at " ++ rest)) := by
  unfold classifyOffline at h
  simp only [String.append_assoc] at h
  split at h
  · subst h
    exact ⟨by simp, Or.inr (Or.inl ⟨_, rfl⟩)⟩
  · split at h
    · subst h
      exact ⟨by simp, Or.inl rfl⟩
    · split at h
      · subst h
        exact ⟨by simp, Or.inr (Or.inr ⟨_, rfl⟩)⟩
      · split at h
        · subst h
          exact ⟨by simp, Or.inr (Or.inr ⟨_, rfl⟩)⟩
        · subst h
          exact ⟨by simp, Or.inl rfl⟩

/-- A machine that is off is not left alone. -/
theorem not_leavesAlone_offline :
    ¬ (classifyOffline st spec cooldown now).LeavesAlone st .offline := by
  obtain ⟨hstate, hnote⟩ := @classifyOffline_cases st spec cooldown now _ rfl
  rintro (hm | ⟨_, on, _, he⟩)
  · cases hs : (classifyOffline st spec cooldown now).state with
    | none => rw [hs] at hm; cases hm
    | some x =>
      rw [hs, Option.getD_some] at hm
      exact hstate (by rw [hs, hm])
  · rcases hnote with hnone | ⟨rest, hn⟩ | ⟨rest, hn⟩
    · rw [hnone] at he
      cases he
    · exact leaveOnNote_ne_failed on rest (Option.some.inj (hn.symm.trans he))
    · exact leaveOnNote_ne_off on rest (Option.some.inj (hn.symm.trans he))

/-- A machine without a note is not left alone. -/
theorem not_leavesAlone_plain (hbase : base ≠ .manual) :
    ¬ ({} : Special).LeavesAlone st base := by
  unfold Special.LeavesAlone
  simp [hbase]

/-- The notes of the other policies go on differently. -/
theorem leaveOnNote_ne_managed (on : ManualPowerChange) (x : String) :
    "manually powered on at " ++ (hhmmss on.time ++ ("; policy " ++ x)) ≠ leaveOnNote on := by
  unfold leaveOnNote
  simp only [String.append_assoc]
  intro h
  have htail := (String.append_right_inj _).mp ((String.append_right_inj _).mp h)
  rw [← String.append_empty (s := toString ", not Ready yet; policy LeaveOn; not managing")] at htail
  exact append_ne_append (a := "; policy ") (by decide) (by decide) _ _ htail

/-- **Of the policies only `LeaveOn` leaves a machine alone.** -/
theorem leavesAlone_manualOn {on : ManualPowerChange} (hon : st.manualPowerOn = some on)
    (hbase : base ≠ .manual) :
    (classifyManualOn st on policy spec).LeavesAlone st base ↔ policy = .leaveOn := by
  unfold classifyManualOn
  cases policy with
  | leaveOn =>
    refine iff_of_true ?_ rfl
    by_cases hready : st.nodeReady = true
    · simp only [hready, if_true]
      exact Or.inl rfl
    · simp only [hready]
      exact Or.inr ⟨rfl, on, hon, rfl⟩
  | adopt =>
    refine iff_of_false ?_ (by simp)
    rintro (hm | ⟨_, on', hon', he⟩)
    · exact hbase hm
    · obtain rfl := Option.some.inj (hon.symm.trans hon')
      simp only [String.append_assoc] at he
      exact leaveOnNote_ne_managed on "Adopt; managed as if this pool woke it"
        (Option.some.inj he)
  | powerOff =>
    refine iff_of_false ?_ (by simp)
    rintro (hm | ⟨_, on', hon', he⟩)
    · exact hbase hm
    · obtain rfl := Option.some.inj (hon.symm.trans hon')
      simp only [String.append_assoc] at he
      exact leaveOnNote_ne_managed on ("PowerOff; powered off after " ++ hhmmss (on.time
        + seconds (asI64 spec.manualPowerOnGraceSeconds))) (Option.some.inj he)

end Classify

/-- A machine is manual by its classification alone. -/
theorem memberState_ne_manual (mn : NodePowerManagementConfig) (pools : List String) :
    memberState mn pools ≠ .manual := by
  unfold memberState
  simp only
  split
  · simp
  · split
    · split <;> simp
    · simp
    · split
      · split <;> simp
      · split
        · simp
        · split <;> simp
      · split
        · split <;> simp
        all_goals simp

/-! ## §4. Agreement. -/

/-- The pool leaves the member alone: it is `Manual`, or `Unavailable` with
the note of a `LeaveOn` power-on. -/
def LeftAlone (st : NodePowerManagementConfigStatus) (m : Member) : Prop :=
  m.state = .manual ∨
    m.state = .unavailable ∧ ∃ on, st.manualPowerOn = some on ∧ m.note = some (leaveOnNote on)

/-- What the two controllers have to agree on: the machine controller drives a
machine the pool leaves alone nowhere, and the pool counts a machine that is
driven towards on, and is on, Ready and consistent, as online. -/
structure ReconcilersAgree (mn : NodePowerManagementConfig) (policy : ManualPowerOnPolicy)
    (m : Member) : Prop where
  observed : LeftAlone (mn.status.getD {}) m →
    managedTarget mn.spec.powerPolicy (mn.status.getD {}) policy = none
  online : managedTarget mn.spec.powerPolicy (mn.status.getD {}) policy = some .on →
    (mn.status.getD {}).phase = .on → (mn.status.getD {}).nodeReady = true →
    PowerConsistent (mn.status.getD {}) → m.state = .online

section Agreement

variable {mn : NodePowerManagementConfig} {memberOf : List String} {pool : NodeScalingPool}
  {c : Cluster} {times : BuildTimes} {m : Member}

/-- **A member left alone** was powered on by hand under `LeaveOn`, has not
failed to boot and is not off. -/
theorem leftAlone_iff (h : buildMember mn memberOf pool c times = some m) :
    LeftAlone (mn.status.getD {}) m ↔
      (mn.status.getD {}).manualPowerOn.isSome = true ∧ manualPolicyOf mn memberOf c = .leaveOn ∧
        ¬ HeldByFailure (mn.status.getD {}) ∧ memberState mn memberOf ≠ .offline := by
  have hbase := memberState_ne_manual mn memberOf
  have hspecial : LeftAlone (mn.status.getD {}) m ↔ (specialOf mn memberOf pool c
      times.classify).LeavesAlone (mn.status.getD {}) (memberState mn memberOf) := by
    obtain ⟨hstate, hnote⟩ := buildMember_state h
    unfold LeftAlone Special.LeavesAlone
    rw [hstate, hnote]
  rw [hspecial]
  unfold specialOf
  -- one case for each branch of `classify`
  by_cases hfailed : HeldByFailure (mn.status.getD {})
  · exact iff_of_false (not_leavesAlone_failed hfailed) (fun hright => hright.2.2.1 hfailed)
  · by_cases hoff : memberState mn memberOf = .offline
    · refine iff_of_false ?_ (fun hright => hright.2.2.2 hoff)
      rw [classify_of_not_failed hfailed, if_pos hoff, hoff]
      exact not_leavesAlone_offline
    · rw [classify_on hfailed hoff]
      cases hon : (mn.status.getD {}).manualPowerOn with
      | none => exact iff_of_false (not_leavesAlone_plain hbase) (fun hright => by cases hright.1)
      | some on =>
        rw [Option.map_some, Option.getD_some, leavesAlone_manualOn hon hbase]
        simp [hfailed, hoff]

/-- **The two controllers agree** on a machine exactly when it is not one that
was powered on by hand under `LeaveOn`, without having failed to boot, and is
under a manual override. -/
theorem agree_iff (mn : NodePowerManagementConfig) (memberOf : List String)
    (pool : NodeScalingPool) (c : Cluster) (times : BuildTimes) (m : Member)
    (h : buildMember mn memberOf pool c times = some m) :
    ReconcilersAgree mn (manualPolicyOf mn memberOf c) m ↔
      ¬ (mn.spec.powerPolicy ≠ .auto ∧ (mn.status.getD {}).manualPowerOn.isSome = true ∧
        manualPolicyOf mn memberOf c = .leaveOn ∧
        ¬ ((mn.status.getD {}).phase = .bootFailed ∧
          (mn.status.getD {}).bootFailure.isSome = true)) := by
  constructor
  · rintro hagree ⟨hpolicy, hon, hleave, hfailed⟩
    -- left alone by the pool, driven by the override
    have hleft := (leftAlone_iff h).mpr ⟨hon, hleave, hfailed, memberState_override_ne_offline hpolicy⟩
    have hnone := hagree.observed hleft
    unfold managedTarget desiredTarget at hnone
    rw [if_neg (fun hall => hpolicy hall.1)] at hnone
    cases hp : mn.spec.powerPolicy with
    | auto => exact hpolicy hp
    | alwaysOn => rw [hp] at hnone; cases hnone
    | alwaysOff => rw [hp] at hnone; cases hnone
  · intro hnot
    constructor
    · intro hleft
      obtain ⟨hon, hleave, hfailed, _⟩ := (leftAlone_iff h).mp hleft
      have hauto : mn.spec.powerPolicy = .auto := by
        by_contra hpolicy
        exact hnot ⟨hpolicy, hon, hleave, hfailed⟩
      unfold managedTarget
      rw [if_pos ⟨hauto, hon, hleave⟩]
    · intro htarget hphase hready hcons
      have hbase : memberState mn memberOf = .online :=
        memberState_online htarget hcons hphase hready
      have hfailed : ¬ HeldByFailure (mn.status.getD {}) := by
        intro hheld
        rw [hheld.1] at hphase
        cases hphase
      rw [(buildMember_state h).1, hbase]
      unfold specialOf
      rw [classify_on hfailed (by rw [hbase]; simp)]
      cases hon : (mn.status.getD {}).manualPowerOn with
      | none => rfl
      | some on =>
        -- a machine driven towards on is not one under `LeaveOn`
        have hpolicy : manualPolicyOf mn memberOf c ≠ .leaveOn := by
          intro hleave
          by_cases hauto : mn.spec.powerPolicy = .auto
          · unfold managedTarget at htarget
            rw [if_pos ⟨hauto, by rw [hon]; rfl, hleave⟩] at htarget
            cases htarget
          · exact hnot ⟨hauto, by rw [hon]; rfl, hleave, hfailed⟩
        rw [Option.map_some, Option.getD_some]
        unfold classifyManualOn
        cases hp : manualPolicyOf mn memberOf c with
        | leaveOn => exact absurd hp hpolicy
        | adopt => rfl
        | powerOff => rfl

end Agreement

/-! ## §5. A machine under both. -/

/-- A machine that is on and Ready, powered on by hand, in pool `a`. -/
def poweredByHand (policy : PowerPolicy) : NodePowerManagementConfig where
  name := "m1"
  spec := { nodeName := "m1", powerInterfaces := [], powerPolicy := policy }
  status := some
    { phase := .on, powerState := .on, nodeReady := true, pools := ["a"]
      manualPowerOn := some { time := 0, policy := some .leaveOn } }

/-- Its Node, in a cluster of its own. -/
def oneNode : Cluster where
  nodes := [{ name := "m1" }]
  nodes_distinct := List.nodup_singleton _

/-- Pool `a`, with the default settings. -/
def defaultPool : NodeScalingPool where
  name := "a"
  spec := {}

/-- The member pool `a` sees. -/
def memberByHand (policy : PowerPolicy) : Option Member :=
  buildMember (poweredByHand policy) ["a"] defaultPool oneNode ⟨0, 0, 0⟩

/-- With `Auto` both leave the machine alone. -/
theorem agree_auto :
    ∃ m, memberByHand .auto = some m ∧ m.state = .manual ∧
      ReconcilersAgree (poweredByHand .auto) (manualPolicyOf (poweredByHand .auto) ["a"] oneNode)
        m := by
  obtain ⟨m, hm⟩ : ∃ m, memberByHand .auto = some m := exists_buildMember (by decide)
  have hstate : (memberByHand .auto).map (·.state) = some .manual := by decide +kernel
  rw [hm] at hstate
  refine ⟨m, hm, Option.some.inj hstate, ?_⟩
  exact (agree_iff _ _ _ _ _ m hm).mpr (fun hover => hover.1 rfl)

/-- **Under an override the pool leaves alone what the machine controller
drives**: with `AlwaysOff` towards off, while the pool takes the machine for
room that stays, and with `AlwaysOn` towards on, while the pool does not count
it as online. -/
theorem not_agree_override :
    (∃ m, memberByHand .alwaysOff = some m ∧ m.state = .manual ∧
      managedTarget .alwaysOff ((poweredByHand .alwaysOff).status.getD {}) .leaveOn = some .off ∧
      ¬ ReconcilersAgree (poweredByHand .alwaysOff)
        (manualPolicyOf (poweredByHand .alwaysOff) ["a"] oneNode) m) ∧
    ∃ m, memberByHand .alwaysOn = some m ∧ m.state = .manual ∧
      managedTarget .alwaysOn ((poweredByHand .alwaysOn).status.getD {}) .leaveOn = some .on ∧
      ¬ ReconcilersAgree (poweredByHand .alwaysOn)
        (manualPolicyOf (poweredByHand .alwaysOn) ["a"] oneNode) m := by
  constructor
  · obtain ⟨m, hm⟩ : ∃ m, memberByHand .alwaysOff = some m := exists_buildMember (by decide)
    have hstate : (memberByHand .alwaysOff).map (·.state) = some .manual := by decide +kernel
    rw [hm] at hstate
    have hmanual : m.state = .manual := Option.some.inj hstate
    refine ⟨m, hm, hmanual, by decide, fun hagree => ?_⟩
    have hnone := hagree.observed (Or.inl hmanual)
    cases hnone
  · obtain ⟨m, hm⟩ : ∃ m, memberByHand .alwaysOn = some m := exists_buildMember (by decide)
    have hstate : (memberByHand .alwaysOn).map (·.state) = some .manual := by decide +kernel
    rw [hm] at hstate
    have hmanual : m.state = .manual := Option.some.inj hstate
    refine ⟨m, hm, hmanual, by decide, fun hagree => ?_⟩
    have honline := hagree.online rfl rfl rfl (by decide)
    rw [hmanual] at honline
    cases honline

end HardwareAutoscaler
