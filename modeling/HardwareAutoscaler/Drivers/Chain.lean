/-
  HardwareAutoscaler.Drivers.Chain
  ────────────────────────────────
  ORDERED FALLBACK ACROSS A MACHINE'S POWER INTERFACES (`src/drivers/chain.rs`).

  What a driver answers is an input (`Driver`): an operation that fails or
  times out is an error with its text.  The position of an interface in
  `spec.powerInterfaces` is kept on its link, so that what was contacted can
  be said of interfaces and not of their labels, which may repeat.

    • `PowerChain.build`, `checkIdentity`, `disableMismatched`, `attempt`,
    • `mem_attempt` — only enabled links of the chain are contacted,
    • `mem_disableMismatched` — what is left has no mismatched label.
-/
import HardwareAutoscaler.Identity

namespace HardwareAutoscaler

/-! ## §1. Links. -/

/-- What the driver of one interface answers during one reconcile. -/
structure Driver where
  supports : InterfaceAction → Bool := fun _ => true
  powerState : Except String PowerState
  powerOn : Except String Unit := .ok ()
  powerOff : Bool → Except String Unit := fun _ => .ok ()
  systemId : Except String (Option SystemId) := .ok none

/-- One interface of a chain. -/
structure Link where
  /-- Position of the interface in `spec.powerInterfaces`. -/
  index : Nat
  label : String
  interface : PowerInterface
  driver : Driver

/-- The interfaces of a machine, in the order they are tried. -/
structure PowerChain where
  links : List Link
  /-- Interfaces that could not be built or were disabled, as "label: error". -/
  unavailable : List String := []

/-- Result of a successful chain operation. -/
structure Outcome (α : Type) where
  value : α
  /-- Label of the interface that succeeded. -/
  via : String
  /-- Interfaces that were tried first and failed, as "label: error". -/
  failures : List String

/-- `DriverError::Config`. -/
def configError (e : String) : String := "invalid power interface configuration: " ++ e

/-- `DriverError::Interface`. -/
def interfaceError (e : String) : String := "management interface error: " ++ e

namespace PowerChain

/-- The links of the interfaces whose driver could be built, with what is
wrong with the others. -/
def buildLinks (interfaces : List PowerInterface) (built : Nat → Except String Driver) :
    PowerChain where
  links := (interfaces.mapIdx (fun i pi => (i, pi))).filterMap (fun (i, pi) =>
    match built i with
    | .ok driver => some ⟨i, pi.label, pi, driver⟩
    | .error _ => none)
  unavailable := (interfaces.mapIdx (fun i pi => (i, pi))).filterMap (fun (i, pi) =>
    match built i with
    | .ok _ => none
    | .error e => some s!"{pi.label}: {e}")

/-- Builds all interfaces of a machine; fails only if none can be built. -/
def build (interfaces : List PowerInterface) (built : Nat → Except String Driver) :
    Except String PowerChain :=
  if interfaces.isEmpty then .error (configError "spec.powerInterfaces must not be empty")
  else
    let chain := buildLinks interfaces built
    if chain.links.isEmpty then .error (configError ("; ".intercalate chain.unavailable))
    else .ok chain

/-! ## §2. Identity. -/

/-- The identity check of one link: (label, result, cacheable). -/
def checkLink (nodeUuid : Option String) (link : Link) : String × IdentityCheck × Bool :=
  match link.driver.systemId with
  | .ok id => (link.label, check id nodeUuid, true)
  | .error _ => (link.label, .unverifiable, false)

/-- Asks every interface which machine it controls. -/
def checkIdentity (c : PowerChain) (nodeUuid : Option String) :
    List (String × IdentityCheck × Bool) :=
  c.links.map (checkLink nodeUuid)

/-- Disables the links with one mismatched label. -/
def disable (c : PowerChain) (label reported expected : String) : PowerChain where
  links := c.links.filter (·.label != label)
  unavailable := c.unavailable ++
    [s!"{label}: controls a different machine (reports {reported}, node is {expected}); disabled"]

/-- Disables every interface whose identity check found a different machine. -/
def disableMismatched (c : PowerChain) (results : List (String × IdentityCheck × Bool)) :
    PowerChain :=
  results.foldl (fun c (label, r, _) => match r with
    | .mismatch reported expected => c.disable label reported expected
    | _ => c) c

/-! ## §3. Operations. -/

/-- Tries the links in order until one succeeds; the positions contacted are
returned with the result. -/
def tryLinks {α : Type} (op : Driver → Except String α) :
    List Link → List String → Except (List String) (Outcome α) × List Nat
  | [], failures => (.error failures, [])
  | link :: links, failures =>
    match op link.driver with
    | .ok value => (.ok ⟨value, link.label, failures⟩, [link.index])
    | .error e =>
      let (result, contacted) := tryLinks op links (failures ++ [s!"{link.label}: {e}"])
      (result, link.index :: contacted)

/-- The links used for an operation. -/
def handling (c : PowerChain) (action : InterfaceAction) : List Link :=
  c.links.filter (fun l => l.interface.handles action && l.driver.supports action)

/-- The name of an action in messages. -/
def actionName : InterfaceAction → String
  | .status => "Status"
  | .powerOn => "PowerOn"
  | .powerOff => "PowerOff"

/-- `attempt`: tries the interfaces for an action one after another. -/
def attempt {α : Type} (c : PowerChain) (action : InterfaceAction)
    (op : Driver → Except String α) : Except String (Outcome α) × List Nat :=
  let links := c.handling action
  let (result, contacted) := tryLinks op links c.unavailable
  match result with
  | .ok outcome => (.ok outcome, contacted)
  | .error failures =>
    let failures := failures
      ++ if links.isEmpty then [s!"no power interface is enabled for {actionName action}"] else []
    let texts := "; ".intercalate failures
    (.error (interfaceError s!"all power interfaces failed ({texts})"), contacted)

/-- An `Unknown` reading counts as a failure. -/
def readState (d : Driver) : Except String PowerState :=
  match d.powerState with
  | .ok .unknown => .error (interfaceError "power state unknown")
  | r => r

/-- `power_state`, over the chain. -/
def powerState (c : PowerChain) : Except String (Outcome PowerState) × List Nat :=
  c.attempt .status readState

/-- `power_on`, over the chain. -/
def powerOn (c : PowerChain) : Except String (Outcome Unit) × List Nat :=
  c.attempt .powerOn (·.powerOn)

/-- `power_off`, over the chain. -/
def powerOff (c : PowerChain) (force : Bool) : Except String (Outcome Unit) × List Nat :=
  c.attempt .powerOff (·.powerOff force)

/-! ## §4. What a chain contacts. -/

theorem mem_tryLinks {α : Type} {op : Driver → Except String α} {links : List Link}
    {i : Nat} : ∀ {failures : List String}, i ∈ (tryLinks op links failures).2 →
      ∃ l ∈ links, l.index = i := by
  induction links with
  | nil => intro failures h; cases h
  | cons l links ih =>
    intro failures h
    rw [tryLinks] at h
    split at h
    · rw [List.mem_singleton] at h
      exact ⟨l, List.mem_cons_self, h.symm⟩
    · rcases List.mem_cons.mp h with rfl | h
      · exact ⟨l, List.mem_cons_self, rfl⟩
      · obtain ⟨l', hl', hi⟩ := ih h
        exact ⟨l', List.mem_cons_of_mem _ hl', hi⟩

/-- **Only links of the chain are contacted**, and only those enabled for the
operation. -/
theorem mem_attempt {α : Type} {c : PowerChain} {action : InterfaceAction}
    {op : Driver → Except String α} {i : Nat} (h : i ∈ (c.attempt action op).2) :
    ∃ l ∈ c.handling action, l.index = i := by
  unfold attempt at h
  simp only at h
  split at h <;> exact mem_tryLinks h

theorem mem_links_of_handling {c : PowerChain} {action : InterfaceAction} {l : Link}
    (h : l ∈ c.handling action) : l ∈ c.links :=
  (List.mem_filter.mp h).1

theorem mem_disable {c : PowerChain} {label reported expected : String} {l : Link} :
    l ∈ (c.disable label reported expected).links ↔ l ∈ c.links ∧ l.label ≠ label := by
  simp [disable]

/-- **What is left has no mismatched label.** -/
theorem mem_disableMismatched {results : List (String × IdentityCheck × Bool)} {l : Link} :
    ∀ {c : PowerChain}, l ∈ (c.disableMismatched results).links ↔
      l ∈ c.links ∧ ∀ r ∈ results, r.2.1.isMismatch = true → r.1 ≠ l.label := by
  induction results with
  | nil => intro c; simp [disableMismatched]
  | cons r results ih =>
    obtain ⟨label, result, cacheable⟩ := r
    intro c
    unfold disableMismatched
    rw [List.foldl_cons]
    rw [show ∀ c' : PowerChain, List.foldl _ c' results = c'.disableMismatched results
      from fun _ => rfl, ih]
    cases result with
    | mismatch reported expected =>
      simp only [mem_disable, List.forall_mem_cons, IdentityCheck.isMismatch, forall_const]
      constructor
      · rintro ⟨⟨hl, hne⟩, hrest⟩
        exact ⟨hl, Ne.symm hne, hrest⟩
      · rintro ⟨hl, hne, hrest⟩
        exact ⟨⟨hl, Ne.symm hne⟩, hrest⟩
    | «match» => simp [IdentityCheck.isMismatch]
    | unverifiable => simp [IdentityCheck.isMismatch]

/-- A result is the answer of a link. -/
theorem tryLinks_ok {α : Type} {op : Driver → Except String α} {links : List Link}
    {outcome : Outcome α} : ∀ {failures : List String},
      (tryLinks op links failures).1 = .ok outcome →
        ∃ l ∈ links, op l.driver = .ok outcome.value := by
  induction links with
  | nil => intro failures h; cases h
  | cons l links ih =>
    intro failures h
    rw [tryLinks] at h
    split at h
    · rename_i value hop
      cases h
      exact ⟨l, List.mem_cons_self, hop⟩
    · obtain ⟨l', hl', hop⟩ := ih h
      exact ⟨l', List.mem_cons_of_mem _ hl', hop⟩

/-- **A power reading is never `Unknown`.** -/
theorem powerState_known {c : PowerChain} {outcome : Outcome PowerState}
    (h : c.powerState.1 = .ok outcome) : outcome.value = .on ∨ outcome.value = .off := by
  unfold powerState attempt at h
  simp only at h
  split at h
  · rename_i outcome' htry
    cases h
    obtain ⟨l, _, hop⟩ := tryLinks_ok htry
    unfold readState at hop
    split at hop
    · cases hop
    · rename_i hne
      cases hv : outcome.value with
      | on => exact Or.inl rfl
      | off => exact Or.inr rfl
      | unknown =>
        rw [hv] at hop
        exact absurd hop hne
  · cases h

/-- A link of the built chain comes from an interface whose driver was built. -/
theorem mem_buildLinks {interfaces : List PowerInterface} {built : Nat → Except String Driver}
    {l : Link} : l ∈ (buildLinks interfaces built).links ↔
      ∃ pi d, interfaces[l.index]? = some pi ∧ built l.index = .ok d ∧
        l = ⟨l.index, pi.label, pi, d⟩ := by
  unfold buildLinks
  simp only [List.mem_filterMap, List.mem_mapIdx]
  constructor
  · rintro ⟨⟨i, pi⟩, ⟨j, hj, he⟩, hl⟩
    simp only [Prod.mk.injEq] at he
    obtain ⟨rfl, rfl⟩ := he
    cases hb : built j with
    | error e => rw [hb] at hl; cases hl
    | ok d =>
      rw [hb] at hl
      cases hl
      exact ⟨_, d, List.getElem?_eq_getElem hj, hb, rfl⟩
  · rintro ⟨pi, d, hpi, hb, hl⟩
    obtain ⟨hlt, hget⟩ := List.getElem?_eq_some_iff.mp hpi
    refine ⟨(l.index, pi), ⟨l.index, hlt, by rw [hget]⟩, ?_⟩
    simp only [hb]
    exact congrArg some hl.symm

end PowerChain

end HardwareAutoscaler
