/-
  HardwareAutoscaler.Controller.Remembered
  ────────────────────────────────────────
  WHAT THE OPERATOR REMEMBERS between reconciles (`src/controller/mod.rs`): the
  identity results of its machines, and the warnings it has logged.

    • `cacheAt`, `cache_tells_the_last` — what the identity cache answers, in any
      run of lookups and stores of all machines,
    • `firstTime`, `poolWarnings` — the warnings of a pool's reconcile,
    • `logged_once_per_change` — when a warning is logged, in any run of
      reconciles of all pools.
-/
import HardwareAutoscaler.Lib.Latest
import HardwareAutoscaler.Controller.Pool.Reconcile

namespace HardwareAutoscaler

open Lib (stateAt stateAt_succ latest latest_eq_some stateAt_latest)
open Std (TreeMap)

/-! ## §1. Identity results. -/

/-- What one reconcile stores: the results of a machine at a generation, at an
instant; or nothing. -/
structure IdentityStore where
  key : IdentityKey
  results : List (String × IdentityCheck)
  instant : Int

namespace IdentityCache

/-- The cache after a reconcile. -/
def step (cache : IdentityCache) : Option IdentityStore → IdentityCache
  | some s => cache.put s.key s.results s.instant
  | none => cache

/-- The cache of an operator after `n` reconciles of its machines. -/
def cacheAt (stores : Nat → Option IdentityStore) (n : Nat) : IdentityCache :=
  stateAt step [] stores n

/-- The entry of a machine, whatever its generation. -/
def entryOf (cache : IdentityCache) (name : String) : Option (IdentityKey × IdentityEntry) :=
  cache.find? (·.1.1 == name)

/-- One entry for each machine. -/
def OnePerName (cache : IdentityCache) : Prop := (cache.map (·.1.1)).Nodup

/-- A store is the entry of its machine. -/
theorem entryOf_put_self (cache : IdentityCache) (key : IdentityKey)
    (results : List (String × IdentityCheck)) (instant : Int) :
    (cache.put key results instant).entryOf key.1 = some (key, instant, results) :=
  List.find?_cons_of_pos (by exact beq_self_eq_true key.1)

/-- A store leaves the entries of other machines. -/
theorem entryOf_put_other {cache : IdentityCache} {key : IdentityKey} {name : String}
    (h : name ≠ key.1) (results : List (String × IdentityCheck)) (instant : Int) :
    (cache.put key results instant).entryOf name = cache.entryOf name := by
  unfold entryOf put
  rw [List.find?_cons_of_neg (by simpa using Ne.symm h), List.find?_filter]
  refine congrArg (List.find? · cache) (funext fun e => ?_)
  by_cases he : e.1.1 = name
  · rw [he, beq_self_eq_true]
    exact decide_eq_true ⟨bne_iff_ne.mpr h, rfl⟩
  · rw [beq_eq_false_iff_ne.mpr he]
    exact decide_eq_false (fun hf => Bool.false_ne_true hf.2)

/-- A store leaves one entry per machine. -/
theorem OnePerName.put {cache : IdentityCache} (h : cache.OnePerName) (key : IdentityKey)
    (results : List (String × IdentityCheck)) (instant : Int) :
    (cache.put key results instant).OnePerName := by
  unfold OnePerName IdentityCache.put
  rw [List.map_cons, List.nodup_cons]
  refine ⟨fun hmem => ?_, h.sublist (List.filter_sublist.map _)⟩
  obtain ⟨e, he, heq⟩ := List.mem_map.mp hmem
  simpa [heq] using (List.mem_filter.mp he).2

/-- There is one entry per machine in every run. -/
theorem cacheAt_onePerName (stores : Nat → Option IdentityStore) (n : Nat) :
    (cacheAt stores n).OnePerName := by
  unfold cacheAt
  induction n with
  | zero => exact List.nodup_nil
  | succ n ih =>
    rw [stateAt_succ]
    cases stores n with
    | none => exact ih
    | some s => exact OnePerName.put ih s.key s.results s.instant

/-- A lookup is that of the machine's entry, if it has the generation. -/
theorem get_eq {cache : IdentityCache} (h : cache.OnePerName) (key : IdentityKey) (now : Int) :
    cache.get key now = (((cache.entryOf key.1).filter (·.1 == key)).filter
      (fun e => now - e.2.1 < identityTtl)).map (·.2.2) := by
  have hfind : cache.find? (·.1 == key) = (cache.entryOf key.1).filter (·.1 == key) := by
    unfold entryOf
    induction cache with
    | nil => rfl
    | cons e cache ih =>
      obtain ⟨hnot, hrest⟩ := List.nodup_cons.mp h
      by_cases hname : e.1.1 = key.1
      · rw [List.find?_cons_of_pos (a := e) (p := fun e => e.1.1 == key.1) (by simpa using hname)]
        by_cases hkey : e.1 = key
        · rw [List.find?_cons_of_pos (by simpa using hkey), Option.filter_some,
            if_pos (by simpa using hkey)]
        · rw [List.find?_cons_of_neg (by simpa using hkey), Option.filter_some,
            if_neg (by simpa using hkey), List.find?_eq_none]
          -- no other entry is of this machine
          intro e' he' heq
          have hk : e'.1 = key := by simpa using heq
          exact hnot (List.mem_map.mpr ⟨e', he', (congrArg (·.1) hk).trans hname.symm⟩)
      · rw [List.find?_cons_of_neg (a := e) (p := fun e => e.1.1 == key.1) (by simpa using hname),
          List.find?_cons_of_neg (by simpa using fun hk : e.1 = key => hname (by rw [hk]))]
        exact ih hrest
  unfold get
  rw [hfind]

/-- What a reconcile leaves as the entry of a machine, if it stores one. -/
def written (name : String) (o : Option IdentityStore) :
    Option (Option (IdentityKey × IdentityEntry)) :=
  (o.filter (·.key.1 == name)).map (fun s => some (s.key, s.instant, s.results))

theorem written_eq_some {name : String} {o : Option IdentityStore}
    {e : Option (IdentityKey × IdentityEntry)} : written name o = some e ↔
      ∃ s, o = some s ∧ s.key.1 = name ∧ e = some (s.key, s.instant, s.results) := by
  unfold written
  rw [Option.map_eq_some_iff]
  refine exists_congr fun s => ?_
  rw [Option.filter_eq_some_iff, beq_iff_eq, and_assoc, eq_comm (a := e)]

/-- What a reconcile leaves of an entry. -/
theorem entryOf_step (name : String) (cache : IdentityCache) (o : Option IdentityStore) :
    (cache.step o).entryOf name = (written name o).getD (cache.entryOf name) := by
  cases o with
  | none => rfl
  | some s =>
    by_cases hk : s.key.1 = name
    · subst hk
      rw [written_eq_some.mpr ⟨s, rfl, rfl, rfl⟩]
      exact entryOf_put_self cache s.key s.results s.instant
    · have hno : written name (some s) = none := by
        unfold written
        rw [Option.filter_some, if_neg (by simpa using hk)]
        rfl
      rw [hno]
      exact entryOf_put_other (Ne.symm hk) s.results s.instant

/-- **The entry of a machine** is what was last stored for it. -/
theorem entryOf_cacheAt (stores : Nat → Option IdentityStore) (name : String) (n : Nat) :
    (cacheAt stores n).entryOf name = (latest (fun i => written name (stores i)) n).getD none :=
  stateAt_latest (l := fun cache => entryOf cache name) (entryOf_step name) n

/-- **What the identity cache answers.** In any run of reconciles of any machines:
results are found for a machine at a generation exactly when they were stored
for it, less than ten minutes ago, and nothing was stored for that machine
since, at this generation or another. -/
theorem cache_tells_the_last (stores : Nat → Option IdentityStore) (n : Nat) (key : IdentityKey)
    (now : Int) (results : List (String × IdentityCheck)) :
    (cacheAt stores n).get key now = some results ↔
      ∃ j < n, ∃ s, stores j = some s ∧ s.key = key ∧ s.results = results ∧
        now - s.instant < identityTtl ∧
        ∀ i, j < i → i < n → ∀ s', stores i = some s' → s'.key.1 ≠ key.1 := by
  rw [get_eq (cacheAt_onePerName stores n), entryOf_cacheAt]
  constructor
  · -- the entry left is the last written for this name, and it is kept while young
    intro h
    cases hl : latest (fun i => written key.1 (stores i)) n with
    | none => simp [hl] at h
    | some e =>
      obtain ⟨j, hj, hw, hlast⟩ := latest_eq_some.mp hl
      obtain ⟨s, hs, -, rfl⟩ := written_eq_some.mp hw
      rw [hl] at h
      simp only [Option.getD_some, Option.filter_some, beq_iff_eq] at h
      split at h
      · rename_i hkey
        rw [Option.filter_some] at h
        split at h
        · rename_i hfresh
          refine ⟨j, hj, s, hs, hkey, Option.some.inj h, of_decide_eq_true hfresh,
            fun i hi hi' s' hs' hk => ?_⟩
          have hnone := hlast i hi hi'
          rw [written_eq_some.mpr ⟨s', hs', hk, rfl⟩] at hnone
          cases hnone
        · cases h
      · cases h
  · rintro ⟨j, hj, s, hs, rfl, rfl, hfresh, hlast⟩
    have hl : latest (fun i => written s.key.1 (stores i)) n
        = some (some (s.key, s.instant, s.results)) := by
      refine latest_eq_some.mpr ⟨j, hj, written_eq_some.mpr ⟨s, hs, rfl, rfl⟩, fun i hi hi' => ?_⟩
      rw [Option.eq_none_iff_forall_ne_some]
      intro e he
      obtain ⟨s', hs', hk, -⟩ := written_eq_some.mp he
      exact hlast i hi hi' s' hs' hk
    rw [hl]
    simp [Option.filter_some, hfresh]

end IdentityCache

/-! ## §2. Warnings. -/

/-- The last warning logged for each key. -/
abbrev Warned := TreeMap String String

/-- Whether `message` is new for `key`, which is remembered; nothing to warn of
is never new, and lets the same warning be logged again. -/
def firstTime (warned : Warned) (key : String) (message : Option String) : Bool × Warned :=
  match message with
  | some m => (warned[key]? != some m, warned.insert key m)
  | none => (false, warned.erase key)

/-- What is wrong with the names a pool lists. -/
def problemTexts (pool : NodeScalingPool) (c : Cluster) : List String :=
  let (missing, outside) := preferredNodeProblems pool.spec (fun n => (c.node n).map (·.labels))
  (if missing.isEmpty then [] else ["no such Node: " ++ ", ".intercalate missing])
  ++ (if outside.isEmpty then []
      else ["not selected by this pool's nodeSelector: " ++ ", ".intercalate outside])

/-- What `check_preferred_nodes` has to say. -/
def preferredMessage (pool : NodeScalingPool) (c : Cluster) : Option String :=
  if (problemTexts pool c).isEmpty then none
  else
    let texts := "; ".intercalate (problemTexts pool c)
    some s!"scaleUp.preferredNodes entries ignored ({texts}); the other entries apply"

/-- What a pool may be warned of. -/
inductive WarningKind where
  | deprecated
  | preferredNodes
  deriving DecidableEq, Repr

/-- The key of a pool's warning. -/
def WarningKind.key (kind : WarningKind) (pool : String) : String :=
  match kind with
  | .deprecated => pool ++ "/deprecated"
  | .preferredNodes => pool ++ "/preferredNodes"

/-- What a reconcile has to say of a pool, if anything. -/
def WarningKind.message (kind : WarningKind) (pool : NodeScalingPool) (c : Cluster) :
    Option String :=
  match kind with
  | .deprecated => pool.spec.scaleDown.deprecationWarning
  | .preferredNodes => preferredMessage pool c

/-- `if ctx.first_time(..) { warn!(..) }`. -/
def warn (warned : Warned) (kind : WarningKind) (pool : NodeScalingPool) (c : Cluster) :
    List String × Warned :=
  let message := kind.message pool c
  let (first, warned) := firstTime warned (kind.key pool.name) message
  (if first then message.toList else [], warned)

/-- What a reconcile of a pool logs of its spec: of each kind, and what is
remembered then. -/
def poolWarnings (warned : Warned) (pool : NodeScalingPool) (c : Cluster) :
    (WarningKind → List String) × Warned :=
  let (deprecated, warned) := warn warned .deprecated pool c
  let (preferred, warned) := warn warned .preferredNodes pool c
  (fun kind => match kind with
    | .deprecated => deprecated
    | .preferredNodes => preferred, warned)

/-- What the condition of a pool says is what is logged of it. -/
theorem checkPreferredNodes_message {pool : NodeScalingPool} {c : Cluster} {m : String}
    (h : preferredMessage pool c = some m) (now : Int) (conditions : List Condition) :
    ∃ reason, checkPreferredNodes pool c now conditions
      = setCondition condPreferredNodesValid "False" reason m now conditions := by
  unfold preferredMessage at h
  cases hp : (problemTexts pool c).isEmpty with
  | true =>
    rw [hp] at h
    cases h
  | false =>
    rw [hp] at h
    have hne : ¬ (problemTexts pool c).isEmpty = true := by rw [hp]; exact Bool.false_ne_true
    rw [← Option.some.inj h]
    exact ⟨_, if_neg hne⟩

/-! ## §3. In a run of reconciles. -/

/-- A warning is remembered under its key. -/
theorem firstTime_self (warned : Warned) (key : String) (message : Option String) :
    (firstTime warned key message).2[key]? = message := by
  cases message with
  | none => exact TreeMap.getElem?_erase_self
  | some m => exact TreeMap.getElem?_insert_self

/-- Other warnings are left. -/
theorem firstTime_other {warned : Warned} {key key' : String} (h : key' ≠ key)
    (message : Option String) : (firstTime warned key message).2[key']? = warned[key']? := by
  cases message with
  | none => exact Lib.getElem?_erase_of_ne (Ne.symm h)
  | some m => exact Lib.getElem?_insert_of_ne (Ne.symm h)

/-- A warning is logged unless it is what is remembered. -/
theorem warn_eq (warned : Warned) (kind : WarningKind) (pool : NodeScalingPool) (c : Cluster) :
    (warn warned kind pool c).1 = ((kind.message pool c).filter
      (fun m => warned[kind.key pool.name]? != some m)).toList := by
  unfold warn
  cases kind.message pool c with
  | none => rfl
  | some m =>
    rw [Option.filter_some]
    cases hm : warned[kind.key pool.name]? != some m with
    | true => simp [firstTime, hm]
    | false => simp [firstTime, hm]

/-- The keys of the two kinds end differently. -/
theorem WarningKind.key_ne (pool pool' : String) :
    WarningKind.deprecated.key pool ≠ WarningKind.preferredNodes.key pool' := by
  intro h
  have hlast := congrArg (fun s => s.toList.getLast?) h
  simp only [key, String.toList_append, List.getLast?_append] at hlast
  have hd : "/deprecated".toList.getLast? = some 'd' := rfl
  have hs : "/preferredNodes".toList.getLast? = some 's' := rfl
  rw [hd, hs] at hlast
  cases hlast

/-- A key is of one kind and one pool. -/
theorem WarningKind.key_injective {kind kind' : WarningKind} {pool pool' : String}
    (h : kind.key pool = kind'.key pool') : kind = kind' ∧ pool = pool' := by
  cases kind <;> cases kind'
  case deprecated.deprecated => exact ⟨rfl, (String.append_left_inj "/deprecated").mp h⟩
  case deprecated.preferredNodes => exact absurd h (key_ne pool pool')
  case preferredNodes.deprecated => exact absurd h.symm (key_ne pool' pool)
  case preferredNodes.preferredNodes => exact ⟨rfl, (String.append_left_inj "/preferredNodes").mp h⟩

theorem warn_self (warned : Warned) (kind : WarningKind) (pool : NodeScalingPool) (c : Cluster) :
    (warn warned kind pool c).2[kind.key pool.name]? = kind.message pool c :=
  firstTime_self warned (kind.key pool.name) (kind.message pool c)

theorem warn_other {warned : Warned} {kind : WarningKind} {pool : NodeScalingPool} {key : String}
    (h : key ≠ kind.key pool.name) (c : Cluster) :
    (warn warned kind pool c).2[key]? = warned[key]? :=
  firstTime_other h (kind.message pool c)

/-- A reconcile logs a warning unless it is what is remembered of the pool. -/
theorem poolWarnings_logged (warned : Warned) (pool : NodeScalingPool) (c : Cluster)
    (kind : WarningKind) :
    (poolWarnings warned pool c).1 kind = ((kind.message pool c).filter
      (fun m => warned[kind.key pool.name]? != some m)).toList := by
  cases kind with
  | deprecated => exact warn_eq warned .deprecated pool c
  | preferredNodes =>
    show (warn (warn warned .deprecated pool c).2 .preferredNodes pool c).1 = _
    rw [warn_eq, warn_other (Ne.symm (WarningKind.key_ne pool.name pool.name))]

/-- After a reconcile its pool's warnings are remembered. -/
theorem poolWarnings_self (warned : Warned) (pool : NodeScalingPool) (c : Cluster)
    (kind : WarningKind) :
    (poolWarnings warned pool c).2[kind.key pool.name]? = kind.message pool c := by
  show (warn (warn warned .deprecated pool c).2 .preferredNodes pool c).2[_]? = _
  cases kind with
  | deprecated => rw [warn_other (WarningKind.key_ne pool.name pool.name), warn_self]
  | preferredNodes => exact warn_self _ .preferredNodes pool c

/-- … and those of the other pools stay as they were. -/
theorem poolWarnings_other (warned : Warned) {pool : NodeScalingPool} (c : Cluster)
    (kind : WarningKind) {name : String} (h : name ≠ pool.name) :
    (poolWarnings warned pool c).2[kind.key name]? = warned[kind.key name]? := by
  show (warn (warn warned .deprecated pool c).2 .preferredNodes pool c).2[_]? = _
  rw [warn_other fun hk => h (WarningKind.key_injective hk).2,
    warn_other fun hk => h (WarningKind.key_injective hk).2]

/-- What is remembered when the `n`-th reconcile starts, of any pool each. -/
def warnedAt (reconciles : Nat → NodeScalingPool × Cluster) (n : Nat) : Warned :=
  stateAt (fun warned (pool, c) => (poolWarnings warned pool c).2) ∅ reconciles n

/-- What a reconcile has to say of the pool named, if it is that pool's. -/
def said (kind : WarningKind) (name : String) (r : NodeScalingPool × Cluster) :
    Option (Option String) :=
  if r.1.name = name then some (kind.message r.1 r.2) else none

/-- **What is remembered of a pool** is what its last reconcile had to say. -/
theorem warnedAt_key (reconciles : Nat → NodeScalingPool × Cluster) (kind : WarningKind)
    (name : String) (n : Nat) :
    (warnedAt reconciles n)[kind.key name]?
      = (latest (fun i => said kind name (reconciles i)) n).getD none := by
  refine (stateAt_latest (l := fun warned : Warned => warned[kind.key name]?)
    (fun warned r => ?_) n).trans (congrArg _ TreeMap.getElem?_emptyc)
  unfold said
  by_cases h : r.1.name = name
  · rw [if_pos h, ← h]
    exact poolWarnings_self warned r.1 r.2 kind
  · rw [if_neg h]
    exact poolWarnings_other warned r.2 kind (Ne.symm h)

/-- **When a warning is logged.** In any run of reconciles of any pools: a
reconcile logs a warning exactly when there is that to warn of, and the pool's
previous reconcile, if there was one, did not have the same to say. -/
theorem logged_once_per_change (reconciles : Nat → NodeScalingPool × Cluster) (n : Nat)
    (kind : WarningKind) (m : String) :
    m ∈ (poolWarnings (warnedAt reconciles n) (reconciles n).1 (reconciles n).2).1 kind ↔
      kind.message (reconciles n).1 (reconciles n).2 = some m ∧
        ∀ j < n, (reconciles j).1.name = (reconciles n).1.name →
          (∀ i, j < i → i < n → (reconciles i).1.name ≠ (reconciles n).1.name) →
            kind.message (reconciles j).1 (reconciles j).2 ≠ some m := by
  rw [poolWarnings_logged, Option.mem_toList, Option.filter_eq_some_iff, bne_iff_ne]
  refine and_congr_right fun _ => ?_
  rw [warnedAt_key]
  -- the message kept is the one of the last reconcile of this pool
  constructor
  · intro hne j hj hname hlast hm
    refine hne ?_
    have hl : latest (fun i => said kind (reconciles n).1.name (reconciles i)) n = some (some m) :=
      latest_eq_some.mpr ⟨j, hj, (if_pos hname).trans (congrArg some hm),
        fun i hi hi' => if_neg (hlast i hi hi')⟩
    rw [hl]
    rfl
  · intro hall hm
    cases hl : latest (fun i => said kind (reconciles n).1.name (reconciles i)) n with
    | none =>
      rw [hl] at hm
      cases hm
    | some message =>
      obtain ⟨j, hj, hw, hlast⟩ := latest_eq_some.mp hl
      rw [hl] at hm
      unfold said at hw
      split at hw
      · rename_i hname
        refine hall j hj hname (fun i hi hi' hn => ?_) ((Option.some.inj hw).trans hm)
        have hnone := hlast i hi hi'
        rw [said, if_pos hn] at hnone
        cases hnone
      · cases hw

end HardwareAutoscaler
