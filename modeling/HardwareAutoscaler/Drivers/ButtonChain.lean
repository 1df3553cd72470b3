/-
  HardwareAutoscaler.Drivers.ButtonChain
  ──────────────────────────────────────
  SEVERAL BUTTONS OF ONE MACHINE (`src/drivers/chain.rs` over `nanokvm.rs` and
  `jetkvm.rs`).

  A chain tries one interface after the other, each until its timeout, when the
  operation is dropped wherever it is.  All of these interfaces have the same
  button, which toggles.

    • `Runs` — an operation of a driver, to its end or cut off,
    • `tryLinks_attempts` — what an operation of the chain is to the machine,
    • `chain_reaches` — no fallback and no retry turns the machine away from
      where it should be.
-/
import HardwareAutoscaler.Drivers.Chain
import HardwareAutoscaler.Drivers.JetKvmPower
import HardwareAutoscaler.Drivers.NanoKvm

namespace HardwareAutoscaler

open Lib (Exchange)

/-! ## §1. The drivers. -/

/-- What can be asked of a chain, besides the state. -/
inductive PowerOp where
  | on
  | off (force : Bool)
  deriving DecidableEq, Repr

namespace PowerOp

/-- Whether the machine should be on then. -/
def target : PowerOp → Bool
  | .on => true
  | .off _ => false

/-- The operation at a NanoKVM. -/
def nanoKvm : PowerOp → NanoKvm.Operation
  | .on => .on
  | .off force => .off force

/-- The operation at a JetKVM. -/
def jetKvm : PowerOp → JetKvm.Op
  | .on => .on
  | .off force => .off force

theorem target_nanoKvm (op : PowerOp) : op.nanoKvm.target = op.target := by
  cases op <;> rfl

theorem target_jetKvm (op : PowerOp) : op.jetKvm.target = op.target := by
  cases op <;> rfl

end PowerOp

/-- A driver that has a button. -/
inductive ButtonDriver where
  | nanoKvm (crates : NanoKvm.Crates) (d : NanoKvm.NanoKvmDriver)
  | jetKvm (d : JetKvm.JetKvmDriver)

/-- A run of an operation, what it is to the machine, and its result.  It may be
cut off, which is an error; a call that was waited for then counts as one that
failed. -/
inductive ButtonDriver.Runs (op : PowerOp) :
    ButtonDriver → List ButtonEvent → Except String Unit → Prop
  | nanoKvm {crates : NanoKvm.Crates} {d : NanoKvm.NanoKvmDriver} {s s' : Option String}
      {talk : List (Exchange NanoKvm.NanoCall.Answer)} {r : Except String Unit}
      (h : (NanoKvm.operate crates d op.nanoKvm).Says s talk r s') :
    Runs op (.nanoKvm crates d) (talk.filterMap (NanoKvm.buttonEvent crates d)) r
  | nanoKvmCut {crates : NanoKvm.Crates} {d : NanoKvm.NanoKvmDriver} {s s' : Option String}
      {talk more : List (Exchange NanoKvm.NanoCall.Answer)} {r : Except String Unit}
      (h : (NanoKvm.operate crates d op.nanoKvm).Says s (talk ++ more) r s') (e : String) :
    Runs op (.nanoKvm crates d) (talk.filterMap (NanoKvm.buttonEvent crates d)) (.error e)
  | jetKvm {d : JetKvm.JetKvmDriver} {n m : Nat}
      {talk : List (Exchange JetKvm.JetCall.Answer)} {r : Except String Unit}
      (h : (JetKvm.operate d op.jetKvm n m).Says () talk r ()) :
    Runs op (.jetKvm d) (JetKvm.events d talk) r
  | jetKvmCut {d : JetKvm.JetKvmDriver} {n m : Nat}
      {talk more : List (Exchange JetKvm.JetCall.Answer)} {r : Except String Unit}
      (h : (JetKvm.operate d op.jetKvm n m).Says () (talk ++ more) r ()) (e : String) :
    Runs op (.jetKvm d) (JetKvm.events d talk) (.error e)

/-- **One press at most**, also when it is cut off. -/
theorem ButtonDriver.Runs.readThenPress {op : PowerOp} {b : ButtonDriver}
    {events : List ButtonEvent} {r : Except String Unit} (h : b.Runs op events r) :
    ReadThenPress op.target events r.isOk := by
  cases h with
  | nanoKvm h =>
    rw [← op.target_nanoKvm]
    exact NanoKvm.readThenPress h
  | nanoKvmCut h e =>
    -- what was said is the beginning of a whole talk
    rw [← op.target_nanoKvm]
    refine (NanoKvm.readThenPress h).cut ?_
    rw [List.filterMap_append]
    exact cut_append _ _
  | jetKvm h =>
    rw [← op.target_jetKvm]
    exact JetKvm.readThenPress h
  | jetKvmCut h e =>
    rw [← op.target_jetKvm]
    exact (JetKvm.readThenPress h).cut (JetKvm.events_cut _ _)

/-! ## §2. The chain. -/

/-- What a driver answers to an operation. -/
def Driver.answer (d : Driver) : PowerOp → Except String Unit
  | .on => d.powerOn
  | .off force => d.powerOff force

/-- The operation of a chain, and the interfaces contacted. -/
def PowerChain.operate (c : PowerChain) : PowerOp → Except String (Outcome Unit) × List Nat
  | .on => c.powerOn
  | .off force => c.powerOff force

/-- **What trying links is to the machine**: one operation after the other, of
which one succeeds if the whole does. -/
theorem tryLinks_attempts {op : Driver → Except String Unit} {target : Bool}
    {events : Nat → List ButtonEvent} {links : List Link} : ∀ {failures : List String},
      (∀ l ∈ links, l.index ∈ (PowerChain.tryLinks op links failures).2 →
        ReadThenPress target (events l.index) (op l.driver).isOk) →
      ∃ attempts : List (List ButtonEvent × Bool),
        (∀ a ∈ attempts, ReadThenPress target a.1 a.2) ∧
        attempts.flatMap (·.1) = (PowerChain.tryLinks op links failures).2.flatMap events ∧
        ((PowerChain.tryLinks op links failures).1.isOk = true → ∃ a ∈ attempts, a.2 = true) := by
  induction links with
  | nil =>
    intro failures _
    exact ⟨[], (fun a ha => by cases ha), rfl, (fun hf => by cases hf)⟩
  | cons l links ih =>
    intro failures h
    obtain ⟨hl, hrest⟩ := List.forall_mem_cons.mp h
    rw [PowerChain.tryLinks] at hl hrest ⊢
    cases hop : op l.driver with
    | ok value =>
      -- the first that succeeds is the last that is tried
      rw [hop] at hl hrest
      have hpress := hl List.mem_cons_self
      refine ⟨[(events l.index, true)], ?_, rfl, fun _ => ⟨_, List.mem_cons_self, rfl⟩⟩
      exact List.forall_mem_singleton.mpr hpress
    | error e =>
      rw [hop] at hl hrest
      have hpress := hl List.mem_cons_self
      obtain ⟨attempts, hall, hflat, hok⟩ :=
        ih (fun l' hl' hin => hrest l' hl' (List.mem_cons_of_mem _ hin))
      refine ⟨(events l.index, false) :: attempts, ?_, ?_, ?_⟩
      · exact List.forall_mem_cons.mpr ⟨hpress, hall⟩
      · rw [List.flatMap_cons, hflat]
        rfl
      · intro hres
        obtain ⟨a, ha, htrue⟩ := hok hres
        exact ⟨a, List.mem_cons_of_mem _ ha, htrue⟩

/-- One operation of a chain whose interfaces are wired to the machine. -/
structure Round where
  chain : PowerChain
  op : PowerOp
  /-- What is at the position of an interface, and what its operation is to the
  machine. -/
  wired : Nat → ButtonDriver
  events : Nat → List ButtonEvent

namespace Round

variable (r : Round)

/-- What the chain answers. -/
def result : Except String (Outcome Unit) := (r.chain.operate r.op).1

/-- The interfaces contacted. -/
def contacted : List Nat := (r.chain.operate r.op).2

/-- What happens to the machine. -/
def happened : List ButtonEvent := r.contacted.flatMap r.events

/-- What each contacted interface answers is the result of a run of its driver. -/
def Real : Prop :=
  ∀ l ∈ r.chain.links, l.index ∈ r.contacted →
    (r.wired l.index).Runs r.op (r.events l.index) (l.driver.answer r.op)

variable {r}

theorem attempts (h : r.Real) :
    ∃ attempts : List (List ButtonEvent × Bool),
      (∀ a ∈ attempts, ReadThenPress r.op.target a.1 a.2) ∧
      attempts.flatMap (·.1) = r.happened ∧
      (r.result.isOk = true → ∃ a ∈ attempts, a.2 = true) := by
  obtain ⟨action, hoperate⟩ : ∃ action, r.chain.operate r.op
      = r.chain.attempt action (fun d => d.answer r.op) := by
    cases r.op with
    | on => exact ⟨.powerOn, rfl⟩
    | off force => exact ⟨.powerOff, rfl⟩
  -- a chain's operation is `tryLinks` on the links that handle its action
  unfold Real contacted at h
  unfold happened contacted result
  rw [hoperate] at h ⊢
  have hsame : (r.chain.attempt action (fun d => d.answer r.op)).2
        = (PowerChain.tryLinks (fun d => d.answer r.op) (r.chain.handling action)
          r.chain.unavailable).2 ∧
      ((r.chain.attempt action (fun d => d.answer r.op)).1.isOk = true →
        (PowerChain.tryLinks (fun d => d.answer r.op) (r.chain.handling action)
          r.chain.unavailable).1.isOk = true) := by
    unfold PowerChain.attempt
    simp only
    split
    · rename_i outcome htry
      exact ⟨rfl, (fun _ => by rw [htry]; rfl)⟩
    · exact ⟨rfl, (fun hf => by cases hf)⟩
  rw [hsame.1] at h ⊢
  obtain ⟨attempts, hall, hflat, hok⟩ :=
    @tryLinks_attempts (fun d => d.answer r.op) r.op.target r.events _ _ fun l hl hin =>
      (h l (PowerChain.mem_links_of_handling hl) hin).readThenPress
  exact ⟨attempts, hall, hflat, fun hres => hok (hsame.2 hres)⟩

end Round

/-! ## §3. Retries. -/

/-- **No fallback and no retry turns the machine away.** Operations of chains,
one after another, that want the same, each falling back from interface to
interface, with operations that fail at any point or are cut off by their
timeout: at a machine that tells its state and follows its button, if it was
where it should be, or one of the operations succeeded, it is there in the end. -/
theorem chain_reaches {target : Bool} {rounds : List Round}
    (h : ∀ r ∈ rounds, r.Real ∧ r.op.target = target) {on on' : Bool}
    (hm : Obeys on (rounds.flatMap Round.happened) on')
    (hon : on = target ∨ ∃ r ∈ rounds, r.result.isOk = true) : on' = target := by
  induction rounds generalizing on with
  | nil =>
    cases hm
    rcases hon with hon | ⟨r, hr, -⟩
    · exact hon
    · cases hr
  | cons r rounds ih =>
    obtain ⟨⟨hreal, htarget⟩, hrest⟩ := List.forall_mem_cons.mp h
    rw [List.flatMap_cons] at hm
    obtain ⟨mid, hfirst, hlater⟩ := obeys_append hm
    -- to the machine the first round is a series of retries
    obtain ⟨attempts, hall, hflat, hok⟩ := Round.attempts hreal
    rw [htarget] at hall
    rw [← hflat] at hfirst
    refine ih hrest hlater ?_
    rcases hon with hon | ⟨r', hr', hres⟩
    · exact Or.inl (retries_reach hall hfirst (Or.inl hon))
    · rcases List.mem_cons.mp hr' with rfl | hr'
      · exact Or.inl (retries_reach hall hfirst (Or.inr (hok hres)))
      · exact Or.inr ⟨r', hr', hres⟩

/-- The NanoKVM is cut off after it has read the state, and the JetKVM presses. -/
def fallsBack : Round where
  chain :=
    { links :=
        [⟨0, "nanokvm", { driver := "nanokvm" },
            { powerState := .ok .off, powerOn := .error "timed out" }⟩,
          ⟨1, "jetkvm", { driver := "jetkvm" }, { powerState := .ok .off }⟩] }
  op := .on
  wired i := if i = 0 then .nanoKvm NanoKvm.opensslCrates NanoKvm.aKvm else .jetKvm JetKvm.aJetKvm
  events i :=
    if i = 0 then ((NanoKvm.powerOnTry NanoKvm.aKvm).take 1).filterMap
      (NanoKvm.buttonEvent NanoKvm.opensslCrates NanoKvm.aKvm)
    else JetKvm.events JetKvm.aJetKvm JetKvm.powerOnTry

theorem fallsBack_real : fallsBack.Real := by
  have hnano : (NanoKvm.operate NanoKvm.opensslCrates NanoKvm.aKvm PowerOp.on.nanoKvm).Says
      (some "t") ((NanoKvm.powerOnTry NanoKvm.aKvm).take 1
        ++ (NanoKvm.powerOnTry NanoKvm.aKvm).drop 1) (.ok ()) (some "t") :=
    .call (.call (.done _))
  refine List.forall_mem_cons.mpr ⟨fun _ => ?_, List.forall_mem_singleton.mpr fun _ => ?_⟩
  · exact .nanoKvmCut hnano "timed out"
  · exact .jetKvm (n := 1) (m := 1) JetKvm.powerOnTry_run

/-- The machine, off before, reads off twice and comes on by the press. -/
theorem fallsBack_obeyed : Obeys false fallsBack.happened true :=
  .reading (.reading (.toggled (.nil true)))

/-- The operation is tried at the NanoKVM and then at the JetKVM, it succeeds, and
the machine is on. -/
theorem fallsBack_on :
    fallsBack.Real ∧ fallsBack.result.isOk = true ∧ Obeys false fallsBack.happened true ∧
    true = PowerOp.on.target :=
  ⟨fallsBack_real, rfl, fallsBack_obeyed,
    @chain_reaches PowerOp.on.target [fallsBack]
      (List.forall_mem_singleton.mpr ⟨fallsBack_real, rfl⟩) false true
      (by rw [List.flatMap_singleton]; exact fallsBack_obeyed)
      (Or.inr ⟨fallsBack, List.mem_cons_self, rfl⟩)⟩

end HardwareAutoscaler
