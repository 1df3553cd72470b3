/-
  HardwareAutoscaler.Controller.Pool.DecisionLog
  ──────────────────────────────────────────────
  THE DECISION LOG OVER THE CYCLES (`record_decisions`).

  The log is cut to its last 20 entries after every cycle, and the same log
  tells which decisions of a cycle are new: only these are carried out.

    • `decisionHistory` — what a log that is never cut would hold,
    • `recordDecisions_eq` — one cycle, as a log that looks back at its last
      entry,
    • `KeepsHistory`, `keepsHistory` — every cycle of every run.
-/
import HardwareAutoscaler.Lib.Log
import HardwareAutoscaler.Controller.Pool.Reconcile

namespace HardwareAutoscaler

open Lib (stateAt entries appendAll lastN)

/-! ## §1. The history. -/

/-- The entry of a decision. -/
def PlannedDecision.record (d : PlannedDecision) (time : Int) : DecisionRecord where
  time := time
  action := d.action
  node := d.node
  reason := d.reason
  candidates := d.candidates

/-- A `NoAction` for the reason that the entry just before it gives already. -/
def Redundant (h : List DecisionRecord) (d : PlannedDecision) : Prop :=
  d.action = .noAction ∧ ∃ r ∈ h.getLast?, r.action = .noAction ∧ r.reason = d.reason

instance (h : List DecisionRecord) (d : PlannedDecision) : Decidable (Redundant h d) :=
  inferInstanceAs (Decidable (_ ∧ _))

/-- **The full history** of some decisions: each is recorded at its time,
unless it is redundant. -/
def decisionHistory (ds : List (Int × PlannedDecision)) : List DecisionRecord :=
  ds.foldl (fun h x => if Redundant h x.2 then h else h ++ [x.2.record x.1]) []

/-- The decision whose machine is told to go on or off. -/
def PlannedDecision.told (d : PlannedDecision) : Option (String × PowerTarget) :=
  match d.action with
  | .powerOn => some (d.node.getD "", .on)
  | .powerOff => some (d.node.getD "", .off)
  | .noAction => none

/-! ## §2. One cycle. -/

/-- The entry for a decision after `last`. -/
def keepDecision (last : Option DecisionRecord) (x : Int × PlannedDecision) :
    Option DecisionRecord :=
  if x.2.action == .noAction && last.any (fun r => r.action == .noAction && r.reason == x.2.reason)
  then none else some (x.2.record x.1)

/-- The decisions of one cycle, each at the time of the cycle. -/
def timed (now : Int) (ds : List PlannedDecision) : List (Int × PlannedDecision) :=
  ds.map (fun d => (now, d))

variable {recent : List DecisionRecord} {d : PlannedDecision} {ds : List PlannedDecision}
  {now : Int}

/-- A decision that repeats the last entry is not kept. -/
theorem keepDecision_of_isRepeated (h : isRepeated recent d = true) :
    keepDecision recent.getLast? (now, d) = none := if_pos h

/-- Any other decision is kept. -/
theorem keepDecision_of_not_isRepeated (h : ¬ isRepeated recent d = true) :
    keepDecision recent.getLast? (now, d) = some (d.record now) := if_neg h

/-- One round of the loop of `record_decisions`. -/
def recordStep (now : Int) (acc : List DecisionRecord × List PlannedDecision)
    (d : PlannedDecision) : List DecisionRecord × List PlannedDecision :=
  if isRepeated acc.1 d then acc else (acc.1 ++ [d.record now], acc.2 ++ [d])

/-- **The loop** appends the decisions that are kept. -/
theorem recordLoop_eq (ds : List PlannedDecision) :
    ∀ (recent : List DecisionRecord) (new : List PlannedDecision),
      ds.foldl (recordStep now) (recent, new)
      = (appendAll keepDecision recent (timed now ds),
          new ++ (entries keepDecision recent.getLast? (timed now ds)).map (fun x => x.1.2)) := by
  induction ds with
  | nil =>
    intro recent new
    simp only [List.foldl_nil, timed, List.map_nil, Lib.appendAll_nil, entries, List.append_nil]
  | cons d ds ih =>
    intro recent new
    have hcons : timed now (d :: ds) = (now, d) :: timed now ds := rfl
    rw [List.foldl_cons, hcons]
    unfold recordStep
    by_cases h : isRepeated recent d = true
    · have hkeep : keepDecision recent.getLast? (now, d) = none := keepDecision_of_isRepeated h
      rw [if_pos h, Lib.appendAll_cons_none hkeep, Lib.entries_cons_none hkeep]
      exact ih recent new
    · have hkeep : keepDecision recent.getLast? (now, d) = some (d.record now) :=
        keepDecision_of_not_isRepeated h
      rw [if_neg h, Lib.appendAll_cons_some hkeep, Lib.entries_cons_some hkeep, List.map_cons]
      refine (ih _ _).trans ?_
      rw [List.getLast?_concat, List.append_assoc, List.singleton_append]

/-- **One cycle of the log**: what it appends, cut, and what it found new. -/
theorem recordDecisions_eq (recent : List DecisionRecord) (ds : List PlannedDecision) (now : Int) :
    recordDecisions recent ds now
      = (lastN maxRecentDecisions (appendAll keepDecision recent (timed now ds)),
          (entries keepDecision recent.getLast? (timed now ds)).map (fun x => x.1.2)) := by
  unfold recordDecisions
  rw [List.foldl_ext _ (recordStep now) (recent, []) ?step, recordLoop_eq, List.nil_append]
  · rfl
  case step =>
    rintro ⟨recent, new⟩ d _
    rfl

/-- The full history is the log that is never cut. -/
theorem decisionHistory_eq (ds : List (Int × PlannedDecision)) :
    decisionHistory ds = appendAll keepDecision [] ds := by
  unfold decisionHistory
  suffices h : ∀ log : List DecisionRecord,
      ds.foldl (fun h x => if Redundant h x.2 then h else h ++ [x.2.record x.1]) log
        = appendAll keepDecision log ds from h []
  induction ds with
  | nil =>
    intro log
    exact Lib.appendAll_nil.symm
  | cons x ds ih =>
    intro log
    have hiff : (x.2.action == .noAction &&
        log.getLast?.any (fun r => r.action == .noAction && r.reason == x.2.reason)) = true ↔
          Redundant log x.2 := by
      unfold Redundant
      simp only [Bool.and_eq_true, beq_iff_eq, Option.any_eq_true, Option.mem_def]
    rw [List.foldl_cons]
    by_cases h : Redundant log x.2
    · have hkeep : keepDecision log.getLast? x = none := if_pos (hiff.mpr h)
      rw [if_pos h, Lib.appendAll_cons_none hkeep]
      exact ih log
    · have hkeep : keepDecision log.getLast? x = some (x.2.record x.1) :=
        if_neg (fun hc => h (hiff.mp hc))
      rw [if_neg h, Lib.appendAll_cons_some hkeep]
      exact ih _

/-- A decision to power a machine on or off is always recorded. -/
theorem keepDecision_told (last : Option DecisionRecord) (x : Int × PlannedDecision)
    (h : x.2.told.isSome = true) : (keepDecision last x).isSome = true := by
  obtain ⟨time, d⟩ := x
  have hne : d.action ≠ .noAction := by
    intro hno
    unfold PlannedDecision.told at h
    simp only [hno] at h
    cases h
  have hbeq : (d.action == .noAction) = false := by simpa using hne
  unfold keepDecision
  simp only [hbeq, Bool.false_and, Bool.false_eq_true, if_false, Option.isSome_some]

/-- The power actions of a cycle are among its new decisions, in order. -/
theorem recordDecisions_actions (recent : List DecisionRecord) (ds : List PlannedDecision)
    (now : Int) :
    (recordDecisions recent ds now).2.filter (·.told.isSome) = ds.filter (·.told.isSome) := by
  have hfilter := congrArg (List.map Prod.snd)
    (Lib.entries_filter keepDecision_told recent.getLast? : _ = (timed now ds).filter _)
  have htimed : ((timed now ds).filter (fun x => x.2.told.isSome)).map Prod.snd
      = ds.filter (·.told.isSome) := by
    unfold timed
    rw [List.filter_map, List.map_map]
    exact List.map_id _
  have hnew : (recordDecisions recent ds now).2
      = ((entries keepDecision recent.getLast? (timed now ds)).map Prod.fst).map Prod.snd := by
    rw [recordDecisions_eq, List.map_map]
    rfl
  rw [hnew, List.filter_map, ← htimed]
  exact hfilter

/-- Carried out without a failure, the new decisions tell these machines. -/
theorem writeDecisions_told {api : PoolApi} (hapi : ∀ i, api.decide i = true) (pool : String)
    (ds : List PlannedDecision) : ∀ i,
      (writeDecisions pool api i ds).1.map (fun w => (w.1, w.2.target))
        = ds.filterMap PlannedDecision.told ∧ (writeDecisions pool api i ds).2 = true := by
  induction ds with
  | nil => intro i; exact ⟨rfl, rfl⟩
  | cons d ds ih =>
    intro i
    have hrest := ih (i + 1)
    unfold writeDecisions decisionFor PlannedDecision.told
    rw [List.filterMap_cons]
    cases d.action with
    | noAction => exact hrest
    | powerOn =>
      simp only [hapi i, if_true, List.map_cons]
      exact ⟨congrArg _ hrest.1, hrest.2⟩
    | powerOff =>
      simp only [hapi i, if_true, List.map_cons]
      exact ⟨congrArg _ hrest.1, hrest.2⟩

/-- Decisions without a text are not told. -/
theorem filterMap_told_filter (ds : List PlannedDecision) :
    (ds.filter (·.told.isSome)).filterMap PlannedDecision.told
      = ds.filterMap PlannedDecision.told := by
  rw [List.filterMap_filter]
  apply List.filterMap_congr
  intro d _
  cases h : d.told with
  | none => rfl
  | some w => rfl

/-! ## §3. Every cycle of every run. -/

/-- The log before cycle `n`, from an empty one; each cycle has its time and the
decisions it planned. -/
def decisionLog (inp : Nat → Int × List PlannedDecision) (n : Nat) : List DecisionRecord :=
  stateAt (fun recent i => (recordDecisions recent i.2 i.1).1) [] inp n

/-- The decisions of cycle `n` that are new. -/
def newDecisions (inp : Nat → Int × List PlannedDecision) (n : Nat) : List PlannedDecision :=
  (recordDecisions (decisionLog inp n) (inp n).2 (inp n).1).2

/-- The full history before cycle `n`. -/
def historyBefore (inp : Nat → Int × List PlannedDecision) (n : Nat) : List DecisionRecord :=
  decisionHistory ((List.range n).flatMap (fun k => timed (inp k).1 (inp k).2))

/-- **The log keeps the history**: it is the tail of it, and what is new in a
cycle is what the cycle adds to it, whatever was dropped before. -/
structure KeepsHistory (inp : Nat → Int × List PlannedDecision) (n : Nat) : Prop where
  recent : decisionLog inp n = lastN maxRecentDecisions (historyBefore inp n)
  appended : historyBefore inp (n + 1)
    = historyBefore inp n ++ (newDecisions inp n).map (·.record (inp n).1)
  uncut : newDecisions inp n = (recordDecisions (historyBefore inp n) (inp n).2 (inp n).1).2
  carriedOut : ∀ (pool : String) (api : PoolApi), (∀ i, api.decide i = true) →
    (writeDecisions pool api 0 (newDecisions inp n)).1.map (fun w => (w.1, w.2.target))
      = (inp n).2.filterMap PlannedDecision.told

section Runs

variable (inp : Nat → Int × List PlannedDecision) (n : Nat)

/-- The history is a full log. -/
theorem historyBefore_eq : historyBefore inp n
    = Lib.fullLog keepDecision (fun k => timed (inp k).1 (inp k).2) n := by
  unfold historyBefore
  rw [decisionHistory_eq, Lib.fullLog_eq]

/-- The log is a bounded one. -/
theorem decisionLog_eq : decisionLog inp n
    = Lib.boundedLog keepDecision maxRecentDecisions (fun k => timed (inp k).1 (inp k).2) n := by
  induction n with
  | zero => rfl
  | succ n ih =>
    show (recordDecisions (decisionLog inp n) (inp n).2 (inp n).1).1 = _
    rw [recordDecisions_eq, ih]
    rfl

/-- **The log is the end of the history.** -/
theorem decisionLog_lastN : decisionLog inp n = lastN maxRecentDecisions (historyBefore inp n) := by
  rw [decisionLog_eq, historyBefore_eq]
  exact Lib.bounded_eq_lastN (by decide) _ n

/-- The entries of a cycle are those of its new decisions. -/
theorem entries_record (last : Option DecisionRecord) (now : Int) (ds : List PlannedDecision) :
    (entries keepDecision last (timed now ds)).map Prod.snd
      = (entries keepDecision last (timed now ds)).map (fun x => x.1.2.record now) := by
  induction ds generalizing last with
  | nil => rfl
  | cons d ds ih =>
    have hcons : timed now (d :: ds) = (now, d) :: timed now ds := rfl
    rw [hcons]
    unfold entries
    cases h : keepDecision last (now, d) with
    | none => exact ih last
    | some r =>
      have hr : r = d.record now := by
        unfold keepDecision at h
        split at h
        · cases h
        · cases h
          rfl
      show r :: _ = d.record now :: _
      rw [ih, hr]

/-- **Every cycle of every run keeps the history.** -/
theorem keepsHistory : KeepsHistory inp n := by
  have hrecent := decisionLog_lastN inp n
  have hlast : (decisionLog inp n).getLast? = (historyBefore inp n).getLast? := by
    rw [hrecent]
    exact Lib.getLast?_lastN (by decide)
  have huncut : newDecisions inp n
      = (recordDecisions (historyBefore inp n) (inp n).2 (inp n).1).2 := by
    unfold newDecisions
    rw [recordDecisions_eq, recordDecisions_eq, hlast]
  refine ⟨hrecent, ?_, huncut, ?_⟩
  · have hsucc : historyBefore inp (n + 1)
        = appendAll keepDecision (historyBefore inp n) (timed (inp n).1 (inp n).2) := by
      rw [historyBefore_eq, historyBefore_eq]
      rfl
    rw [hsucc, huncut, recordDecisions_eq]
    unfold appendAll
    rw [entries_record, List.map_map]
    rfl
  · intro pool api hapi
    rw [(writeDecisions_told hapi pool _ 0).1, ← filterMap_told_filter, newDecisions,
      recordDecisions_actions, filterMap_told_filter]

end Runs

end HardwareAutoscaler
