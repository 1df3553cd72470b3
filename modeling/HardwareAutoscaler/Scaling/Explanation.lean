/-
  HardwareAutoscaler.Scaling.Explanation
  ──────────────────────────────────────
  THE ORDER OF A POOL'S MACHINES AND THE RULE THAT EXPLAINS IT.

  The machines are compared by weight, S3 capability, size and name in turn;
  the explanation of a choice names the first of these in which the machine
  chosen and the next one differ.

    • `RankRule`, `FirstDifference` — the rules, and the one that decides,
    • `powerOnOrder_lt_iff` — the order is decided by a rule,
    • `decidingRule_of_first` — the text names that rule, in both directions,
    • `powerOnOrder_strict`, `candidates_eq_reverse` — a strict total order,
      and its reverse for scale-down,
    • `NextBest`, `ExplainedUp`, `ExplainedDown` — the reasons of a plan: what
      they say in full, and of which machines,
    • `powerOn_explained`, `powerOff_explained` — every reason is such a text,
    • `order_explained` — all of it.
-/
import Mathlib.Data.String.Basic
import HardwareAutoscaler.Scaling.Ranking
import HardwareAutoscaler.Scaling.Bounds

namespace HardwareAutoscaler

open Std (TreeMap TreeSet OrientedCmp TransCmp LawfulEqOrd)

/-! ## §1. The rules. -/

/-- What two machines are compared by, in this order. -/
inductive RankRule where
  | weight
  | s3
  | size
  | name
  deriving DecidableEq, Repr

namespace RankRule

/-- `a` ranks ahead of `b` by this rule alone. -/
def Ahead (spec : NodeScalingPoolSpec) (a b : Member) : RankRule → Prop
  | weight => spec.scaleUp.nodeWeight b.name < spec.scaleUp.nodeWeight a.name
  | s3 => spec.scaleUp.preferS3Capable = true ∧ a.s3Capable = true ∧ b.s3Capable = false
  | size => b.allocatable.cpuMillis < a.allocatable.cpuMillis ∨
      (b.allocatable.cpuMillis = a.allocatable.cpuMillis ∧
        b.allocatable.memoryBytes < a.allocatable.memoryBytes)
  | name => a.name < b.name

/-- The two do not differ in this rule. -/
def Ties (spec : NodeScalingPoolSpec) (a b : Member) : RankRule → Prop
  | weight => spec.scaleUp.nodeWeight a.name = spec.scaleUp.nodeWeight b.name
  | s3 => spec.scaleUp.preferS3Capable = true → a.s3Capable = b.s3Capable
  | size => a.allocatable.cpuMillis = b.allocatable.cpuMillis ∧
      a.allocatable.memoryBytes = b.allocatable.memoryBytes
  | name => a.name = b.name

/-- The rules that come before. -/
def earlier : RankRule → List RankRule
  | weight => []
  | s3 => [weight]
  | size => [weight, s3]
  | name => [weight, s3, size]

/-- **The rule that decides**: the first in which the two differ, and there `a`
is ahead. -/
def FirstDifference (spec : NodeScalingPoolSpec) (a b : Member) (rule : RankRule) : Prop :=
  (∀ r ∈ rule.earlier, r.Ties spec a b) ∧ rule.Ahead spec a b

/-- How the rule reads for the machine chosen and the other one. -/
def text (spec : NodeScalingPoolSpec) (chosen other : Member) (down : Bool) : RankRule → String
  | weight =>
    s!"weight ({spec.scaleUp.nodeWeight chosen.name} vs {spec.scaleUp.nodeWeight other.name})"
  | s3 => if down then "S3 capability (not S3-capable)" else "S3 capability (S3-capable)"
  | size => s!"size ({HardwareAutoscaler.size chosen} vs {HardwareAutoscaler.size other})"
  | name =>
    let sign := if down then ">" else "<"
    s!"name ({chosen.name} {sign} {other.name})"

end RankRule

/-! ## §2. The order is decided by a rule. -/

section Rules

variable {spec : NodeScalingPoolSpec} {a b : Member}

/-- **Ranked ahead** is ranked ahead by the first rule in which the two
differ. -/
theorem powerOnOrder_lt_iff :
    powerOnOrder spec a b = .lt ↔ ∃ rule, RankRule.FirstDifference spec a b rule := by
  -- the two S3 components differ only under the preference
  have hs3 : ∀ prefer x y : Bool, compare (prefer && !x) (prefer && !y) = .lt ↔
      prefer = true ∧ x = true ∧ y = false := by decide
  have hs3eq : ∀ prefer x y : Bool, compare (prefer && !x) (prefer && !y) = .eq ↔
      (prefer = true → x = y) := by decide
  unfold powerOnOrder
  simp only [Ordering.then_eq_lt, compare_lt_iff_lt, compare_eq_iff_eq, hs3, hs3eq,
    Int64.toInt_inj, ← Int64.lt_iff_toInt_lt]
  constructor
  · rintro (hw | ⟨hw, hs | ⟨hs, hcpu | ⟨hcpu, hmem | ⟨hmem, hn⟩⟩⟩⟩)
    · exact ⟨.weight, by simp [RankRule.earlier], hw⟩
    · refine ⟨.s3, ?_, hs⟩
      simp only [RankRule.earlier, List.forall_mem_singleton]
      exact hw.symm
    · refine ⟨.size, ?_, Or.inl hcpu⟩
      simp only [RankRule.earlier, List.forall_mem_cons]
      exact ⟨hw.symm, hs, by simp⟩
    · refine ⟨.size, ?_, Or.inr ⟨hcpu, hmem⟩⟩
      simp only [RankRule.earlier, List.forall_mem_cons]
      exact ⟨hw.symm, hs, by simp⟩
    · refine ⟨.name, ?_, hn⟩
      simp only [RankRule.earlier, List.forall_mem_cons]
      exact ⟨hw.symm, hs, ⟨hcpu.symm, hmem.symm⟩, by simp⟩
  · rintro ⟨rule, hties, hahead⟩
    cases rule with
    | weight => exact Or.inl hahead
    | s3 =>
      simp only [RankRule.earlier, List.forall_mem_singleton] at hties
      exact Or.inr ⟨hties.symm, Or.inl hahead⟩
    | size =>
      simp only [RankRule.earlier, List.forall_mem_cons] at hties
      obtain ⟨hw, hs, _⟩ := hties
      rcases hahead with hcpu | ⟨hcpu, hmem⟩
      · exact Or.inr ⟨hw.symm, Or.inr ⟨hs, Or.inl hcpu⟩⟩
      · exact Or.inr ⟨hw.symm, Or.inr ⟨hs, Or.inr ⟨hcpu, Or.inl hmem⟩⟩⟩
    | name =>
      simp only [RankRule.earlier, List.forall_mem_cons] at hties
      obtain ⟨hw, hs, ⟨hcpu, hmem⟩, _⟩ := hties
      exact Or.inr ⟨hw.symm, Or.inr ⟨hs, Or.inr ⟨hcpu.symm, Or.inr ⟨hmem.symm, hahead⟩⟩⟩⟩

/-- The test for S3 capability fails of machines that tie in it. -/
theorem s3_tied (h : RankRule.s3.Ties spec a b) :
    ¬ (spec.scaleUp.preferS3Capable && a.s3Capable != b.s3Capable) = true := by
  simp only [Bool.and_eq_true, bne_iff_ne, ne_eq, not_and, not_not]
  exact h

/-- **The explanation names the rule that decides**, for the machine ahead on
the way up and for the one behind on the way down. -/
theorem decidingRule_of_first {rule : RankRule} (h : RankRule.FirstDifference spec a b rule) :
    decidingRule spec a b false = rule.text spec a b false ∧
      decidingRule spec b a true = rule.text spec b a true := by
  obtain ⟨hties, hahead⟩ := h
  unfold decidingRule
  -- by the rule that decides; the tests before it find no difference
  cases rule with
  | weight =>
    have hne : spec.scaleUp.nodeWeight a.name ≠ spec.scaleUp.nodeWeight b.name :=
      Nat.ne_of_gt hahead
    simp only [ne_eq, hne, hne.symm, not_false_iff, if_true]
    exact ⟨rfl, rfl⟩
  | s3 =>
    simp only [RankRule.earlier, List.forall_mem_singleton] at hties
    obtain ⟨hprefer, ha, hb⟩ := hahead
    have hw : spec.scaleUp.nodeWeight a.name = spec.scaleUp.nodeWeight b.name := hties
    simp only [hw, ne_eq, not_true, if_false, hprefer, ha, hb]
    exact ⟨rfl, rfl⟩
  | size =>
    simp only [RankRule.earlier, List.forall_mem_cons] at hties
    obtain ⟨hw, hs, _⟩ := hties
    have hw : spec.scaleUp.nodeWeight a.name = spec.scaleUp.nodeWeight b.name := hw
    have hne : (a.allocatable.cpuMillis, a.allocatable.memoryBytes)
        ≠ (b.allocatable.cpuMillis, b.allocatable.memoryBytes) := by
      intro he
      obtain ⟨hcpu, hmem⟩ := Prod.mk.inj he
      rcases hahead with hlt | ⟨_, hlt⟩
      · rw [hcpu] at hlt
        exact Int64.lt_irrefl hlt
      · rw [hmem] at hlt
        exact Int64.lt_irrefl hlt
    rw [if_neg (not_not.mpr hw), if_neg (not_not.mpr hw.symm), if_neg (s3_tied hs),
      if_neg (s3_tied (fun h => (hs h).symm)), if_pos hne, if_pos hne.symm]
    exact ⟨rfl, rfl⟩
  | name =>
    simp only [RankRule.earlier, List.forall_mem_cons] at hties
    obtain ⟨hw, hs, ⟨hcpu, hmem⟩, _⟩ := hties
    have hw : spec.scaleUp.nodeWeight a.name = spec.scaleUp.nodeWeight b.name := hw
    have heq : (a.allocatable.cpuMillis, a.allocatable.memoryBytes)
        = (b.allocatable.cpuMillis, b.allocatable.memoryBytes) := by rw [hcpu, hmem]
    rw [if_neg (not_not.mpr hw), if_neg (not_not.mpr hw.symm), if_neg (s3_tied hs),
      if_neg (s3_tied (fun h => (hs h).symm)), if_neg (not_not.mpr heq),
      if_neg (not_not.mpr heq.symm)]
    exact ⟨rfl, rfl⟩

end Rules

/-! ## §3. A strict total order. -/

/-- **A strict total order** of machines with distinct names. -/
structure StrictOrder (lt : Member → Member → Prop) : Prop where
  irrefl : ∀ a, ¬ lt a a
  trans : ∀ a b c, lt a b → lt b c → lt a c
  total : ∀ a b, a.name ≠ b.name → lt a b ∨ lt b a

/-- The ranking is a strict order. -/
theorem powerOnOrder_strict (spec : NodeScalingPoolSpec) :
    StrictOrder (fun a b => powerOnOrder spec a b = .lt) where
  irrefl := by
    intro a h
    have hself : powerOnOrder spec a a = .eq := Std.ReflCmp.compare_self
    rw [hself] at h
    cases h
  trans := by
    intro a b c hab hbc
    exact TransCmp.lt_trans hab hbc
  total := by
    intro a b hne
    cases hc : powerOnOrder spec a b with
    | lt => exact Or.inl rfl
    | eq => exact absurd (name_eq_of_powerOnOrder hc) hne
    | gt => exact Or.inr (OrientedCmp.lt_of_gt hc)

namespace PoolSnapshot

variable {s : PoolSnapshot}

/-- Sorted machines with distinct names are ranked strictly. -/
theorem pairwise_lt_of_isLE {l : List Member} (hnames : (l.map (·.name)).Nodup)
    (h : l.Pairwise (fun a b => (powerOnOrder s.spec a b).isLE = true)) :
    l.Pairwise (fun a b => powerOnOrder s.spec a b = .lt) := by
  have hne : l.Pairwise (fun a b => a.name ≠ b.name) := List.pairwise_map.mp hnames
  apply (h.and hne).imp
  intro a b hab
  cases hc : powerOnOrder s.spec a b with
  | lt => rfl
  | eq => exact absurd (name_eq_of_powerOnOrder hc) hab.2
  | gt =>
    rw [hc] at hab
    cases hab.1

/-- Machines that are off are ranked strictly. -/
theorem rankedUp_pairwise_lt (hd : s.DistinctMembers) :
    s.rankedUp.Pairwise (fun a b => powerOnOrder s.spec a b = .lt) :=
  pairwise_lt_of_isLE hd.rankedUp_nodup (rankedUp_pairwise s)

/-- The candidates in the power-on order. -/
def candidatesUp (s : PoolSnapshot) : List Member :=
  sortBy (powerOnOrder s.spec) (s.members.filter (fun m => m.auto && m.state == .online))

/-- **Scale-down goes through its candidates in the exact reverse** of the
power-on order. -/
theorem candidates_eq_reverse (hd : s.DistinctMembers) :
    s.candidates = s.candidatesUp.reverse := by
  have : TransCmp (fun a b => powerOnOrder s.spec b a) := TransCmp.opposite
  have hperm : s.candidates.Perm s.candidatesUp.reverse :=
    ((sortBy_perm _ _).trans (sortBy_perm _ _).symm).trans (List.reverse_perm _).symm
  have hdown : s.candidates.Pairwise (fun a b => (powerOnOrder s.spec b a).isLE = true) :=
    sortBy_pairwise _
  have hup : s.candidatesUp.reverse.Pairwise (fun a b => (powerOnOrder s.spec b a).isLE = true) :=
    List.pairwise_reverse.mpr (sortBy_pairwise _)
  refine List.Perm.eq_of_pairwise ?_ hdown hup hperm
  intro a b ha hb hab hba
  have hmem : b ∈ s.candidates := hperm.mem_iff.mpr hb
  exact hd.eq_of_name (mem_candidates.mp ha).1 (mem_candidates.mp hmem).1
    (name_eq_of_powerOnOrder (eq_of_isLE_isLE hba hab))

/-- Candidates are ranked strictly, the other way. -/
theorem candidates_pairwise_lt (hd : s.DistinctMembers) :
    s.candidates.Pairwise (fun a b => powerOnOrder s.spec b a = .lt) := by
  rw [candidates_eq_reverse hd]
  apply List.pairwise_reverse.mpr
  apply pairwise_lt_of_isLE ?_ (sortBy_pairwise _)
  have hnames := hd.candidates_nodup
  rw [candidates_eq_reverse hd, List.map_reverse] at hnames
  exact List.nodup_reverse.mp hnames

/-! ## §4. The reasons of a plan: power-on. -/

/-- Where `m` is chosen among the machines of `choice`, the end of the reason
names the next best of them and the rule that ranks `m` ahead of it; it is `only`
when there is no other. -/
def NextBest (s : PoolSnapshot) (choice : Member → Prop) (m : Member) (only decided : String) :
    Prop :=
  choice m ∧
  ((∃ next, choice next ∧ (∀ o, choice o → o = m ∨ o = next ∨ powerOnOrder s.spec next o = .lt) ∧
      ∃ rule, RankRule.FirstDifference s.spec m next rule ∧
        decided = s!"over {next.name} by {rule.text s.spec m next false}") ∨
    (∀ o, choice o → o = m) ∧ decided = only)

/-- The machine is off, and not among those named `opened`. -/
def StillOff (s : PoolSnapshot) (opened : List String) (o : Member) : Prop :=
  o ∈ s.rankedUp ∧ o.name ∉ opened

/-- **What the reason for powering `m` on says**, with the machines `opened` on
before: for which pod or for `minOnline`, the rank, and the machine it was taken
over, among those still off that the pod fits. -/
inductive ExplainedUp (s : PoolSnapshot) (opened : List String) (m : Member) (reason : String) :
    Prop where
  | pod (p : PodView) (decided : String) (hp : p ∈ s.relevant)
      (hnext : s.NextBest (fun o => s.StillOff opened o ∧ podFits p o o.allocatable = true) m
        "the only machine off that fits" decided)
      (hreason : reason = s!"unschedulable pod {podName p}; #{s.rankUp m} of "
        ++ s!"{s.rankedUp.length} to power on, {decided}")
  | minOnline (decided : String)
      (hnext : s.NextBest (s.StillOff opened) m "the only machine off" decided)
      (hreason : reason = s!"pool below minOnline ({s.spec.minOnline}); #{s.rankUp m} of "
        ++ s!"{s.rankedUp.length} to power on, {decided}")

/-- The machine named is the first after `m` in the list that fits. -/
theorem nextBest_of_split (hd : s.DistinctMembers) {choice : Member → Prop} {fits : Member → Bool}
    {m : Member} {before after : List Member}
    (hsub : (before ++ m :: after).Sublist s.rankedUp)
    (hchoice : ∀ o, choice o ↔ o ∈ before ++ m :: after ∧ fits o = true) (hm : fits m = true)
    (hbefore : ∀ o ∈ before, fits o = false) (only : String) :
    s.NextBest choice m only (match after.find? fits with
      | some next => s!"over {next.name} by {decidingRule s.spec m next false}"
      | none => only) := by
  have hpairs := (List.pairwise_cons.mp
    (List.pairwise_append.mp ((rankedUp_pairwise_lt hd).sublist hsub)).2.1)
  -- what comes before `m` does not fit, so the choice is `m` and what fits after it
  have hrest : ∀ o, choice o → o = m ∨ (o ∈ after ∧ fits o = true) := by
    intro o ho
    obtain ⟨hin, hfits⟩ := (hchoice o).mp ho
    rcases List.mem_append.mp hin with hb | hrest
    · rw [hbefore o hb] at hfits
      cases hfits
    · exact (List.mem_cons.mp hrest).imp_right (fun ha => ⟨ha, hfits⟩)
  refine ⟨(hchoice m).mpr ⟨List.mem_append_right _ List.mem_cons_self, hm⟩, ?_⟩
  cases hnext : after.find? fits with
  | some next =>
    -- the next one that fits is the one named: those skipped do not fit, those behind rank lower
    obtain ⟨hfits, skipped, behind, hsplit, hskipped⟩ := List.find?_eq_some_iff_append.mp hnext
    have hmem : next ∈ after := List.mem_of_find?_eq_some hnext
    obtain ⟨rule, hrule⟩ := powerOnOrder_lt_iff.mp (hpairs.1 next hmem)
    refine Or.inl ⟨next, ?_, ?_, rule, hrule, ?_⟩
    · exact (hchoice next).mpr
        ⟨List.mem_append_right _ (List.mem_cons_of_mem _ hmem), hfits⟩
    · intro o ho
      rcases hrest o ho with hsame | ⟨hin, hofits⟩
      · exact Or.inl hsame
      · rw [hsplit] at hin
        rcases List.mem_append.mp hin with hs | hb
        · have hno := hskipped o hs
          rw [hofits] at hno
          cases hno
        · have hpairs' := hpairs.2
          rw [hsplit] at hpairs'
          rcases List.mem_cons.mp hb with hsame | hb
          · exact Or.inr (Or.inl hsame)
          · exact Or.inr (Or.inr
              ((List.pairwise_cons.mp (List.pairwise_append.mp hpairs').2.1).1 o hb))
    · exact congrArg (fun rule => s!"over {next.name} by {rule}") (decidingRule_of_first hrule).1
  | none =>
    refine Or.inr ⟨fun o ho => ?_, rfl⟩
    rcases hrest o ho with hsame | ⟨hin, hfits⟩
    · exact hsame
    · rw [List.find?_eq_none] at hnext
      exact absurd hfits (hnext o hin)

/-- **The invariant of the scale-up loops**: what is still off stands in the
order, and what was opened is explained, by the machines off at the time. -/
structure Reasoned (s : PoolSnapshot) (opened : List (String × String)) (offline : List Member) :
    Prop where
  opening : s.Opening opened offline
  sublist : offline.Sublist s.rankedUp
  explained : ∀ before x after, opened = before ++ x :: after →
    ∃ m ∈ s.rankedUp, x.1 = m.name ∧ s.ExplainedUp (before.map (·.1)) m x.2

/-- The machines in the list are those still off. -/
theorem Reasoned.stillOff_iff (hd : s.DistinctMembers) {opened : List (String × String)}
    {offline : List Member} (h : s.Reasoned opened offline) {o : Member} :
    s.StillOff (opened.map (·.1)) o ↔ o ∈ offline := by
  have hnodup : (opened.map (·.1) ++ offline.map (·.name)).Nodup :=
    h.opening.perm.nodup_iff.mpr hd.rankedUp_nodup
  constructor
  · intro hoff
    obtain ⟨hin, hnot⟩ := hoff
    have hname : o.name ∈ opened.map (·.1) ++ offline.map (·.name) :=
      h.opening.perm.mem_iff.mpr (List.mem_map.mpr ⟨o, hin, rfl⟩)
    rcases List.mem_append.mp hname with ho | ho
    · exact absurd ho hnot
    · obtain ⟨o', ho', he⟩ := List.mem_map.mp ho
      have hmem' := (mem_rankedUp.mp (h.sublist.subset ho')).1
      rw [← hd.eq_of_name hmem' (mem_rankedUp.mp hin).1 he]
      exact ho'
  · intro hin
    refine ⟨h.sublist.subset hin, fun hopened => ?_⟩
    exact (List.nodup_append.mp hnodup).2.2 _ hopened _ (List.mem_map.mpr ⟨o, hin, rfl⟩) rfl

/-- One more machine is opened. -/
theorem Reasoned.open {opened opened' : List (String × String)} {before after : List Member}
    {m : Member} {reason : String} (h : s.Reasoned opened (before ++ m :: after))
    (hopened : opened' = opened ++ [(m.name, reason)])
    (hopening : s.Opening opened' (before ++ after))
    (hreason : s.ExplainedUp (opened.map (·.1)) m reason) :
    s.Reasoned opened' (before ++ after) where
  opening := hopening
  sublist := ((List.sublist_cons_self m after).append_left before).trans h.sublist
  explained := by
    intro first x last hsplit
    rw [hopened] at hsplit
    -- it is the last of those opened, or one of those before
    rcases List.eq_nil_or_concat last with rfl | ⟨last', y, rfl⟩
    · obtain ⟨hfirst, hx⟩ := List.append_inj' hsplit rfl
      rw [← hfirst, ← List.singleton_inj.mp hx]
      exact ⟨m, h.sublist.subset (by simp), rfl, hreason⟩
    · rw [List.concat_eq_append, ← List.cons_append, ← List.append_assoc] at hsplit
      obtain ⟨hopen, _⟩ := List.append_inj' hsplit rfl
      exact h.explained first x last' hopen

/-- A machine opened for a pod has its reason. -/
theorem reasoned_placePod (hd : s.DistinctMembers) {st : UpState} {pod : PodView}
    (hpod : pod ∈ s.relevant) (h : s.Reasoned st.opened st.offline) :
    s.Reasoned (s.placePod st pod).opened (s.placePod st pod).offline := by
  have hopening := opening_placePod pod h.opening
  unfold placePod at hopening ⊢
  split
  · exact h
  · split
    · exact h
    · split
      · exact h
      · split
        · rename_i hen _ hbins _ hcan _ before m after hsplit
          obtain ⟨hl, hfits, hfirst⟩ := splitFirst_some hsplit
          rw [hl] at h
          simp only [hen, hbins, hcan, hsplit] at hopening
          refine h.open rfl hopening ?_
          refine .pod pod _ hpod (nextBest_of_split hd h.sublist ?_ hfits hfirst _) rfl
          intro o
          rw [h.stillOff_iff hd]
        · exact h

/-- All machines opened for pods have their reasons. -/
theorem reasoned_placePods (hd : s.DistinctMembers) (pods : List PodView) :
    ∀ {st : UpState}, (∀ p ∈ pods, p ∈ s.relevant) → s.Reasoned st.opened st.offline →
      s.Reasoned (pods.foldl s.placePod st).opened (pods.foldl s.placePod st).offline := by
  induction pods with
  | nil => intro st _ h; exact h
  | cons p pods ih =>
    intro st hpods h
    exact ih (fun q hq => hpods q (List.mem_cons_of_mem _ hq))
      (reasoned_placePod hd (hpods p List.mem_cons_self) h)

/-- A machine opened for `minOnline` has its reason. -/
theorem reasoned_fillMinOnline (hd : s.DistinctMembers) {l : List Member} :
    ∀ {st : UpState}, s.Reasoned st.opened l →
      s.Reasoned (s.fillMinOnline st l).opened (s.fillMinOnline st l).offline := by
  -- on the machines still off, in power-on order
  induction l with
  | nil => intro st h; exact h
  | cons m rest ih =>
    intro st h
    unfold fillMinOnline
    split
    · rename_i hbound
      have hfirst : rest.head? = rest.find? (fun _ => true) := by cases rest <;> rfl
      apply ih
      have hopen : ∀ {reason : String}, s.ExplainedUp (st.opened.map (·.1)) m reason →
          s.Reasoned (st.opened ++ [(m.name, reason)]) rest := by
        intro reason hreason
        refine @Reasoned.open s st.opened _ [] rest m reason h rfl ?_ hreason
        exact @Opening.open s st.opened [] rest m h.opening reason hbound.2
      apply hopen
      rw [hfirst]
      refine .minOnline _ (@nextBest_of_split s hd _ (fun _ => true) m [] rest h.sublist ?_ rfl
        (fun _ ho => absurd ho List.not_mem_nil) _) rfl
      intro o
      rw [h.stillOff_iff hd, List.nil_append]
      exact ⟨fun ho => ⟨ho, rfl⟩, fun ho => ho.1⟩
    · exact h

/-- **Every machine powered on** is explained by the rule that ranks it ahead of
the machine named, the next best there was. -/
theorem powerOn_explained (hd : s.DistinctMembers) : ∀ before x after,
    s.powerOn = before ++ x :: after →
      ∃ m ∈ s.rankedUp, x.1 = m.name ∧ s.ExplainedUp (before.map (·.1)) m x.2 := by
  have hpacked : s.Reasoned s.packPending.opened s.packPending.offline := by
    apply reasoned_placePods hd _ (fun p hp => mem_sortBy.mp hp)
    exact ⟨⟨List.Perm.refl _, by simp⟩, List.Sublist.refl _, by simp⟩
  exact (reasoned_fillMinOnline hd hpacked).explained

/-! ## §5. The reasons of a plan: power-off. -/

/-- **What the reason for powering `m` off says**: why it may go, its rank, and
the eligible machine that comes next, with the rule that ranks it ahead of `m`; it
names none when `m` is the last, those before it having had their turn. -/
def ExplainedDown (s : PoolSnapshot) (m : Member) (reason : String) : Prop :=
  let rank := (s.candidates.findIdx? (·.name == m.name)).getD 0 + 1
  ∃ decided, reason = s!"{s.offWhy m}; #{rank} of {s.candidates.length} to power off, {decided}" ∧
    ((∃ next ∈ s.eligible, (∀ o ∈ s.eligible, powerOnOrder s.spec m o = .lt ∨ o = m ∨ o = next ∨
          powerOnOrder s.spec o next = .lt) ∧
        ∃ rule, RankRule.FirstDifference s.spec next m rule ∧
          decided = s!"before {next.name} by {rule.text s.spec m next true}") ∨
      (∀ o ∈ s.eligible, powerOnOrder s.spec m o = .lt ∨ o = m) ∧
        decided = "the only machine eligible")

/-- **The reason of a power-off** names the rule that decided. -/
theorem offReason_explained (hd : s.DistinctMembers) {removed : TreeSet String} {m : Member}
    {done rest : List Member} (hsplit : done ++ m :: rest = s.eligible)
    (hremoved : ∀ o ∈ rest, removed.contains o.name = false) :
    s.ExplainedDown m (s.offReason removed m rest) := by
  have hpairs : s.eligible.Pairwise (fun a b => powerOnOrder s.spec b a = .lt) :=
    (candidates_pairwise_lt hd).sublist List.filter_sublist
  rw [← hsplit] at hpairs
  obtain ⟨_, hback, hdone⟩ := List.pairwise_append.mp hpairs
  obtain ⟨hrest, hpairs'⟩ := List.pairwise_cons.mp hback
  have hbefore : ∀ o ∈ done, powerOnOrder s.spec m o = .lt :=
    fun o ho => hdone o ho m List.mem_cons_self
  unfold offReason ExplainedDown
  rw [← hsplit]
  cases rest with
  | nil =>
    refine ⟨_, rfl, Or.inr ⟨?_, rfl⟩⟩
    intro o ho
    rcases List.mem_append.mp ho with ho | ho
    · exact Or.inl (hbefore o ho)
    · exact Or.inr (List.mem_singleton.mp ho)
  | cons next behind =>
    obtain ⟨rule, hrule⟩ := powerOnOrder_lt_iff.mp (hrest next List.mem_cons_self)
    -- none of those still to come is gone, so the next one is the one named
    have hfind : (next :: behind).find? (fun o => !removed.contains o.name) = some next := by
      rw [List.find?_cons_of_pos]
      rw [hremoved next List.mem_cons_self]
      rfl
    rw [hfind]
    refine ⟨_, rfl, Or.inl ⟨next, by simp, ?_, rule, hrule, ?_⟩⟩
    · intro o ho
      rcases List.mem_append.mp ho with ho | ho
      · exact Or.inl (hbefore o ho)
      · rcases List.mem_cons.mp ho with ho | ho
        · exact Or.inr (Or.inl ho)
        · rcases List.mem_cons.mp ho with ho | ho
          · exact Or.inr (Or.inr (Or.inl ho))
          · exact Or.inr (Or.inr (Or.inr ((List.pairwise_cons.mp hpairs').1 o ho)))
    · exact congrArg (fun rule => s!"before {next.name} by {rule}")
        (decidingRule_of_first hrule).2

/-- One turn adds its machine with its reason, or none. -/
theorem powerOff_removeStep (st : DownState) (m : Member) (rest : List Member) :
    (s.removeStep st m rest).removed = st.removed ∧
      (s.removeStep st m rest).powerOff = st.powerOff ∨
    (s.removeStep st m rest).removed = st.removed.insert m.name ∧
      (s.removeStep st m rest).powerOff
        = st.powerOff ++ [(m.name, s.offReason (st.removed.insert m.name) m rest)] := by
  unfold removeStep
  split
  · exact Or.inl ⟨rfl, rfl⟩
  · split
    · exact Or.inl ⟨rfl, rfl⟩
    · split
      · exact Or.inl ⟨rfl, rfl⟩
      · split
        · exact Or.inr ⟨rfl, rfl⟩
        · exact Or.inl ⟨rfl, rfl⟩

/-- What was powered off so far is explained, and none still to come is gone. -/
structure ReasonedOff (s : PoolSnapshot) (st : DownState) (rest : List Member) : Prop where
  ahead : ∀ o ∈ rest, st.removed.contains o.name = false
  explained : ∀ x ∈ st.powerOff, ∃ m ∈ s.eligible, x.1 = m.name ∧ s.ExplainedDown m x.2

/-- A machine removed has its reason. -/
theorem ReasonedOff.step (hd : s.DistinctMembers) {st : DownState} {m : Member}
    {done rest : List Member} (hsplit : done ++ m :: rest = s.eligible)
    (h : s.ReasonedOff st (m :: rest)) : s.ReasonedOff (s.removeStep st m rest) rest := by
  have hnames : ((m :: rest).map (·.name)).Nodup := by
    have hall : (s.eligible.map (·.name)).Nodup :=
      (List.filter_sublist.map _).nodup hd.candidates_nodup
    rw [← hsplit, List.map_append] at hall
    exact (List.nodup_append.mp hall).2.1
  have hrest : ∀ o ∈ rest, (st.removed.insert m.name).contains o.name = false := by
    intro o ho
    have hne : m.name ≠ o.name := fun he =>
      (List.nodup_cons.mp hnames).1 (List.mem_map.mpr ⟨o, ho, he.symm⟩)
    rw [TreeSet.contains_insert, h.ahead o (List.mem_cons_of_mem _ ho), Bool.or_false]
    simpa using hne
  rcases powerOff_removeStep (s := s) st m rest with ⟨hremoved, hoff⟩ | ⟨hremoved, hoff⟩
  · constructor
    · rw [hremoved]
      exact fun o ho => h.ahead o (List.mem_cons_of_mem _ ho)
    · rw [hoff]
      exact h.explained
  · constructor
    · rw [hremoved]
      exact hrest
    · rw [hoff]
      intro x hx
      rcases List.mem_append.mp hx with hx | hx
      · exact h.explained x hx
      · rw [List.mem_singleton.mp hx]
        exact ⟨m, by rw [← hsplit]; simp, rfl, offReason_explained hd hsplit hrest⟩

/-- All machines removed have their reasons. -/
theorem reasonedOff_removeLoop (hd : s.DistinctMembers) (l : List Member) :
    ∀ {st : DownState} {done : List Member}, done ++ l = s.eligible → s.ReasonedOff st l →
      s.ReasonedOff (s.removeLoop st l) [] := by
  induction l with
  | nil => intro st _ _ h; exact h
  | cons m rest ih =>
    intro st done hsplit h
    refine @ih _ (done ++ [m]) ?_ (h.step hd hsplit)
    rw [List.append_assoc]
    exact hsplit

/-- **Every machine powered off** is explained by the rule that ranks it behind
the machine named, the next one eligible. -/
theorem powerOff_explained (hd : s.DistinctMembers) : ∀ x ∈ s.powerOff,
    ∃ m ∈ s.eligible, x.1 = m.name ∧ s.ExplainedDown m x.2 := by
  rcases scaledDown_cases (s := s) with ⟨_, he⟩ | ⟨_, he⟩
  · unfold powerOff
    rw [he]
    exact (reasonedOff_removeLoop hd s.eligible (List.nil_append _) ⟨by simp, by simp⟩).explained
  · rw [he]
    simp

/-! ## §6. All of it. -/

/-- **The order and its explanation agree**: the order is a strict total order,
scale-down uses its reverse, the text names the first rule in which two machines
differ in both directions, and the reasons of a plan are such texts, about the
machine that was the next best. -/
theorem order_explained (s : PoolSnapshot) (hd : s.DistinctMembers) :
    StrictOrder (fun a b => powerOnOrder s.spec a b = .lt) ∧
    s.candidates = s.candidatesUp.reverse ∧
    (∀ a b, powerOnOrder s.spec a b = .lt →
      ∃ rule, RankRule.FirstDifference s.spec a b rule ∧
        decidingRule s.spec a b false = rule.text s.spec a b false ∧
        decidingRule s.spec b a true = rule.text s.spec b a true) ∧
    (∀ before x after, (plan s).powerOn = before ++ x :: after →
      ∃ m ∈ s.rankedUp, x.1 = m.name ∧ s.ExplainedUp (before.map (·.1)) m x.2) ∧
    ∀ x ∈ (plan s).powerOff, ∃ m ∈ s.eligible, x.1 = m.name ∧ s.ExplainedDown m x.2 := by
  refine ⟨powerOnOrder_strict s.spec, candidates_eq_reverse hd, ?_, powerOn_explained hd,
    powerOff_explained hd⟩
  intro a b h
  obtain ⟨rule, hrule⟩ := powerOnOrder_lt_iff.mp h
  exact ⟨rule, hrule, decidingRule_of_first hrule⟩

/-- Two machines in the state `st` that tie in size and have been idle for an
hour; the second can be suspended. -/
def twoSizes (prefer : Bool) (st : MemberState) : PoolSnapshot where
  spec := { minOnline := 1, scaleUp := { preferS3Capable := prefer } }
  members :=
    [{ name := "a", state := st, auto := true
       allocatable := { cpuMillis := 4000, pods := 10 } },
     { name := "b", state := st, auto := true, s3Capable := true
       allocatable := { cpuMillis := 4000, pods := 10 } }]
  unneededSince := ((∅ : TreeMap String Int).insert "a" 0).insert "b" 0
  now := seconds 3600

theorem twoSizes_distinct (prefer : Bool) (st : MemberState) :
    (twoSizes prefer st).DistinctMembers := by
  show ["a", "b"].Nodup
  decide

/-- Both off, `b` is powered on for its S3 capability; both online, `a` is powered
off for the lack of it. -/
theorem twoSizes_explained :
    (∃ m, ((plan (twoSizes true .offline)).powerOn = [(m.name,
        "pool below minOnline (1); #1 of 2 to power on, over a by S3 capability (S3-capable)")] ∧
      (twoSizes true .offline).ExplainedUp [] m
        "pool below minOnline (1); #1 of 2 to power on, over a by S3 capability (S3-capable)")) ∧
    ∃ m, (plan (twoSizes true .online)).powerOff = [(m.name, "utilization 0% below 50% for 600s; "
        ++ "#1 of 2 to power off, before b by S3 capability (not S3-capable)")] ∧
      (twoSizes true .online).ExplainedDown m ("utilization 0% below 50% for 600s; "
        ++ "#1 of 2 to power off, before b by S3 capability (not S3-capable)") := by
  obtain ⟨_, _, _, hup, _⟩ := order_explained _ (twoSizes_distinct true .offline)
  obtain ⟨_, _, _, _, hdown⟩ := order_explained _ (twoSizes_distinct true .online)
  have hon : (plan (twoSizes true .offline)).powerOn = [("b",
      "pool below minOnline (1); #1 of 2 to power on, over a by S3 capability (S3-capable)")] := by
    decide +kernel
  have hoff : (plan (twoSizes true .online)).powerOff = [("a", "utilization 0% below 50% for 600s; "
      ++ "#1 of 2 to power off, before b by S3 capability (not S3-capable)")] := by
    decide +kernel
  refine ⟨?_, ?_⟩
  · obtain ⟨m, _, hname, hexpl⟩ := hup [] _ [] hon
    exact ⟨m, by rw [hon]; exact congrArg (fun n => [(n, _)]) hname, hexpl⟩
  · obtain ⟨m, _, hname, hexpl⟩ := hdown _ (by rw [hoff]; exact List.mem_singleton_self _)
    exact ⟨m, by rw [hoff]; exact congrArg (fun n => [(n, _)]) hname, hexpl⟩

/-- Without the preference the names decide. -/
example : (plan (twoSizes false .offline)).powerOn.map (·.1) = ["a"] := by decide +kernel

end PoolSnapshot

end HardwareAutoscaler
