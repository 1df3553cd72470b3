/-
  HardwareAutoscaler.Controller.Machine.IdentityGate
  ──────────────────────────────────────────────────
  THE IDENTITY GATE: no interface that controls a different machine is asked
  for the power state or to act.

  Results are cached by machine and generation, not by the Node's UUID they
  were computed with, nor by the interfaces that were there to ask.

    • `cache_from` — where a cached result comes from,
    • `not_through_mismatch` — in runs whose mismatching interfaces were
      compared with this UUID when the results in use were stored,
    • `through_mismatch` — results stored while the Node was missing let a
      wrong interface through.
-/
import HardwareAutoscaler.Controller.Machine.Safety

namespace HardwareAutoscaler

namespace PowerChain

/-- A chain that was built is made of the interfaces whose driver was. -/
theorem eq_buildLinks {interfaces : List PowerInterface} {built : Nat → Except String Driver}
    {chain : PowerChain} (h : build interfaces built = .ok chain) :
    chain = buildLinks interfaces built := by
  unfold build at h
  split at h
  · cases h
  · simp only at h
    split at h
    · cases h
    · cases h
      rfl

end PowerChain

/-! ## §1. What a reconcile contacts. -/

namespace Reconciler

variable (r : Reconciler)

/-- The interfaces contacted are among `links`. -/
def ContactsIn (links : List Link) (effects : List Effect) : Prop :=
  ∀ a j, Effect.contact a j ∈ effects → ∃ l ∈ links, l.index = j

/-- Carrying an action out contacts links of the chain. -/
theorem contacts_command (action : PowerAction) :
    ContactsIn r.chain.links (r.command action).2 := by
  have hattempt : ∀ {α : Type} (c : PowerChain) (a : InterfaceAction)
      (op : Driver → Except String α) (action : InterfaceAction),
      ContactsIn c.links ((c.attempt a op).2.map (Effect.contact action)) := by
    intro α c a op action b j hmem
    obtain ⟨i, hi, heq⟩ := List.mem_map.mp hmem
    cases heq
    obtain ⟨l, hl, hindex⟩ := PowerChain.mem_attempt hi
    exact ⟨l, PowerChain.mem_links_of_handling hl, hindex⟩
  unfold command asked
  split
  · intro a j hmem
    cases hmem
  · cases action with
    | standby =>
      intro a j hmem
      simp at hmem
    | powerOn => exact hattempt _ _ _ _
    | powerOff => exact hattempt _ _ _ _
    | forceOff => exact hattempt _ _ _ _

/-- **A step contacts links of its chain.** -/
theorem contacts_step {links : List Link} (hsub : ∀ l ∈ r.chain.links, l ∈ links) (s : Progress)
    (event : BootEvent) (consistent : Bool) (hs : ContactsIn links s.effects) :
    ContactsIn links (r.step event consistent s).1.effects := by
  have hkept : r.KeptByMoves (fun s' => ContactsIn links s'.effects) := by
    constructor
    · intro s' ys hs' hplain a j hmem
      rcases List.mem_append.mp hmem with hmem | hmem
      · exact hs' a j hmem
      · exact absurd (hplain _ hmem) (by simp [IsPlain])
    · intro s' phase hs'
      rw [setPhase_effects]
      exact hs'
    · intro s' hs'
      exact hs'
    · intro s' action hs' a j hmem
      simp only [act, List.mem_append, List.mem_singleton, reduceCtorEq, or_false] at hmem
      rcases hmem with hmem | hmem
      · exact hs' a j hmem
      · obtain ⟨l, hl, hindex⟩ := r.contacts_command action a j hmem
        exact ⟨l, hsub l hl, hindex⟩
    · intro s' st hs' _
      exact hs'
  exact hkept.step event consistent hs

end Reconciler

namespace MachineInput

variable (i : MachineInput) (cache : IdentityCache)

/-- The interfaces that could be built. -/
def chain : PowerChain := PowerChain.buildLinks i.mn.spec.powerInterfaces i.built

/-- The interfaces that the identity check leaves in. -/
def usable : PowerChain := i.chain.disableMismatched (i.identity i.chain cache).1

variable {i cache} {old : NodePowerManagementConfigStatus}

theorem chain_of_read {d : Reading} (h : (i.read old cache).1 = .ok d) :
    d.chain = i.usable cache ∧ d.contacted = (i.usable cache).powerState.2 := by
  unfold read at h
  simp only at h
  split at h
  · cases h
  · rename_i chain hbuild
    have hchain : chain = i.chain := PowerChain.eq_buildLinks hbuild
    rw [hchain] at h
    split at h
    · cases h
    · cases h
      exact ⟨rfl, rfl⟩

theorem effects_of_error {e : Stopped} (h : (i.read old cache).1 = .error e) :
    e.effects = [] ∨ e.effects = (i.usable cache).powerState.2.map (.contact .status) := by
  unfold read at h
  simp only at h
  split at h
  · cases h
    exact Or.inl rfl
  · rename_i chain hbuild
    have hchain : chain = i.chain := PowerChain.eq_buildLinks hbuild
    rw [hchain] at h
    split at h
    · cases h
      exact Or.inr rfl
    · cases h

/-- Reading the power state contacts usable interfaces. -/
theorem contacts_powerState : Reconciler.ContactsIn (i.usable cache).links
    ((i.usable cache).powerState.2.map (Effect.contact .status)) := by
  intro a j hmem
  obtain ⟨k, hk, heq⟩ := List.mem_map.mp hmem
  cases heq
  obtain ⟨l, hl, hindex⟩ := PowerChain.mem_attempt hk
  exact ⟨l, PowerChain.mem_links_of_handling hl, hindex⟩

end MachineInput

namespace MachineState

variable {w : MachineState} {i : MachineInput}

/-- **A reconcile contacts only interfaces that the identity check left in.** -/
theorem contacts_cycle :
    Reconciler.ContactsIn (i.usable w.cache).links (w.cycle i).effects := by
  cases hr : w.reading i with
  | some d =>
    obtain ⟨hchain, hcontacted⟩ := MachineInput.chain_of_read (reading_eq.mp hr)
    rw [effects_of_reading hr]
    unfold MachineInput.settle
    apply Reconciler.contacts_step
    · intro l hl
      have hl : l ∈ d.chain.links := hl
      rw [hchain] at hl
      exact hl
    · rw [hcontacted]
      exact MachineInput.contacts_powerState
  | none =>
    intro a j hmem
    unfold cycle MachineInput.reconcile at hmem
    rcases hread : i.read (w.old i) w.cache with ⟨answer, cache⟩
    cases answer with
    | ok d =>
      have hsome : w.reading i = some d := reading_eq.mpr (by rw [hread])
      rw [hr] at hsome
      cases hsome
    | error e =>
      -- an error has contacted nothing, or stopped after the power state
      rw [hread] at hmem
      have herr : (i.read (w.old i) w.cache).1 = .error e := by rw [hread]
      rcases MachineInput.effects_of_error herr with heff | heff
      · simp only at hmem
        rw [heff] at hmem
        cases hmem
      · simp only at hmem
        rw [heff] at hmem
        exact MachineInput.contacts_powerState a j hmem

end MachineState

/-! ## §2. Where cached results come from. -/

/-- The identity results of reconcile `n`, when it asks. -/
def answersAt (inp : Nat → MachineInput) (n : Nat) : List (String × IdentityCheck × Bool) :=
  (inp n).chain.checkIdentity (inp n).nodeUuid

/-- Reconcile `n` stores its results: it found none, and every interface that
could be built could answer. -/
def StoresIdentity (inp : Nat → MachineInput) (n : Nat) : Prop :=
  (machineAt inp n).cache.get (inp n).identityKey (inp n).lookupAt = none ∧
    (answersAt inp n).all (·.2.2) = true

section Runs

variable {inp : Nat → MachineInput}

/-- The cache after a reconcile: as before, or with what it stored. -/
theorem cache_step (n : Nat) : (machineAt inp (n + 1)).cache = (machineAt inp n).cache ∨
    (StoresIdentity inp n ∧ (machineAt inp (n + 1)).cache = (machineAt inp n).cache.put (inp n).identityKey
      ((answersAt inp n).map (fun (l, r, _) => (l, r))) (inp n).storeAt) := by
  have hread : (machineAt inp (n + 1)).cache
      = ((inp n).read ((machineAt inp n).old (inp n)) (machineAt inp n).cache).2 := by
    rw [machineAt_succ]
    show ((machineAt inp n).cycle (inp n)).cache = _
    unfold MachineState.cycle MachineInput.reconcile
    rcases (inp n).read ((machineAt inp n).old (inp n)) (machineAt inp n).cache with ⟨answer, cache⟩
    cases answer with
    | error e => rfl
    | ok d =>
      simp only
      split <;> rfl
  rw [hread]
  unfold MachineInput.read
  simp only
  split
  · exact Or.inl rfl
  · rename_i chain hbuild
    have hchain : chain = (inp n).chain := PowerChain.eq_buildLinks hbuild
    rw [hchain]
    -- the cache is written before the power state is read, whatever that answers
    have hidentity : ((inp n).identity (inp n).chain (machineAt inp n).cache).2
          = (machineAt inp n).cache ∨
        (StoresIdentity inp n ∧ ((inp n).identity (inp n).chain (machineAt inp n).cache).2
          = (machineAt inp n).cache.put (inp n).identityKey
            ((answersAt inp n).map (fun (l, r, _) => (l, r))) (inp n).storeAt) := by
      unfold MachineInput.identity
      split
      · exact Or.inl rfl
      · rename_i hmiss
        simp only
        split
        · rename_i hall
          exact Or.inr ⟨⟨hmiss, hall⟩, rfl⟩
        · exact Or.inl rfl
    split <;> exact hidentity

/-- **Every cached result was stored by an earlier reconcile**, with the Node's
UUID and the interfaces it had. -/
theorem cache_from {key : IdentityKey} (hkey : ∀ n, (inp n).identityKey = key) (n : Nat)
    {entry : IdentityKey × IdentityEntry}
    (h : (machineAt inp n).cache.find? (·.1 == key) = some entry) :
    ∃ k < n, StoresIdentity inp k ∧ entry.2.1 = (inp k).storeAt ∧
      entry.2.2 = (answersAt inp k).map (fun (l, r, _) => (l, r)) := by
  induction n with
  | zero => cases h
  | succ n ih =>
    rcases @cache_step inp n with hsame | ⟨hstores, hput⟩
    · rw [hsame] at h
      obtain ⟨k, hk, hfrom⟩ := ih h
      exact ⟨k, by omega, hfrom⟩
    -- the entry of the key is the one just stored: it is the first in the cache
    · rw [hput, hkey n] at h
      unfold IdentityCache.put at h
      rw [List.find?_cons_of_pos (by simp)] at h
      cases h
      exact ⟨n, by omega, hstores, rfl, rfl⟩

/-! ## §3. No wrong interface is used. -/

/-- The interface at position `j` could be built in reconcile `n`. -/
def BuiltAt (inp : Nat → MachineInput) (n j : Nat) : Prop := ((inp n).built j).isOk = true

/-- Interface `j` is found to control a different machine than the Node of
reconcile `n`, if its id is asked. -/
def Mismatches (inp : Nat → MachineInput) (ids : Nat → Option SystemId) (n j : Nat) : Prop :=
  (check (ids j) (inp n).nodeUuid).isMismatch = true

/-- The machine of a run: one object, with the same interfaces throughout, each
reporting the same system id whenever it answers. -/
structure SameMachine (inp : Nat → MachineInput) (interfaces : List PowerInterface)
    (key : IdentityKey) (ids : Nat → Option SystemId) : Prop where
  interfaces : ∀ n, (inp n).mn.spec.powerInterfaces = interfaces
  key : ∀ n, (inp n).identityKey = key
  ids : ∀ n j driver id, (inp n).built j = .ok driver → driver.systemId = .ok id → id = ids j

/-- The results reconcile `n` may use from the cache compared every interface
that is wrong now: it was there, and the Node had this UUID. -/
def Compared (inp : Nat → MachineInput) (ids : Nat → Option SystemId) (n : Nat) : Prop :=
  ∀ k < n, StoresIdentity inp k → (inp n).lookupAt - (inp k).storeAt < identityTtl →
    ∀ j, BuiltAt inp n j → Mismatches inp ids n j →
      BuiltAt inp k j ∧ (inp k).nodeUuid = (inp n).nodeUuid

/-- What an interface that could answer was found to be. -/
theorem mem_answersAt {interfaces : List PowerInterface} {key : IdentityKey}
    {ids : Nat → Option SystemId} (hm : SameMachine inp interfaces key ids) {n j : Nat}
    {pi : PowerInterface} {driver : Driver} (hpi : interfaces[j]? = some pi)
    (hb : (inp n).built j = .ok driver) {id : Option SystemId} (hid : driver.systemId = .ok id) :
    (pi.label, check (ids j) (inp n).nodeUuid, true) ∈ answersAt inp n := by
  have hlink : (⟨j, pi.label, pi, driver⟩ : Link) ∈ (inp n).chain.links :=
    PowerChain.mem_buildLinks.mpr ⟨pi, driver, by rw [hm.interfaces]; exact hpi, hb, rfl⟩
  have hcheck : PowerChain.checkLink (inp n).nodeUuid ⟨j, pi.label, pi, driver⟩
      = (pi.label, check (ids j) (inp n).nodeUuid, true) := by
    unfold PowerChain.checkLink
    rw [hid, hm.ids n j driver id hb hid]
  exact List.mem_map.mpr ⟨_, hlink, hcheck⟩

/-- Where results are stored, every interface that could be built has
answered. -/
theorem mem_answersAt_of_stores {interfaces : List PowerInterface} {key : IdentityKey}
    {ids : Nat → Option SystemId} (hm : SameMachine inp interfaces key ids) {k j : Nat}
    {pi : PowerInterface} {driver : Driver} (hpi : interfaces[j]? = some pi)
    (hb : (inp k).built j = .ok driver) (hstores : StoresIdentity inp k) :
    (pi.label, check (ids j) (inp k).nodeUuid, true) ∈ answersAt inp k := by
  have hlink : (⟨j, pi.label, pi, driver⟩ : Link) ∈ (inp k).chain.links :=
    PowerChain.mem_buildLinks.mpr ⟨pi, driver, by rw [hm.interfaces]; exact hpi, hb, rfl⟩
  have hanswered : (PowerChain.checkLink (inp k).nodeUuid ⟨j, pi.label, pi, driver⟩).2.2 = true :=
    List.all_eq_true.mp hstores.2 _ (List.mem_map_of_mem hlink)
  cases hid : driver.systemId with
  | error e =>
    unfold PowerChain.checkLink at hanswered
    simp only [hid] at hanswered
    cases hanswered
  | ok id => exact mem_answersAt hm hpi hb hid

/-- What a lookup finds was stored by an earlier reconcile, within the TTL. -/
theorem cached_from {key : IdentityKey} (hkey : ∀ n, (inp n).identityKey = key) {n : Nat}
    {cached : List (String × IdentityCheck)}
    (h : (machineAt inp n).cache.get (inp n).identityKey (inp n).lookupAt = some cached) :
    ∃ k < n, StoresIdentity inp k ∧ (inp n).lookupAt - (inp k).storeAt < identityTtl ∧
      cached = (answersAt inp k).map (fun (l, r, _) => (l, r)) := by
  unfold IdentityCache.get at h
  obtain ⟨entry, hentry, hresults⟩ := Option.map_eq_some_iff.mp h
  rw [Option.filter_eq_some_iff] at hentry
  obtain ⟨hfind, hage⟩ := hentry
  rw [hkey n] at hfind
  obtain ⟨k, hk, hstores, hat, hfrom⟩ := cache_from hkey n hfind
  refine ⟨k, hk, hstores, ?_, hresults.symm.trans hfrom⟩
  rw [← hat]
  simpa using hage

/-- **No wrong interface is used**: in every reconcile of a run whose results
compared every interface that is wrong with the Node's UUID, none that can
report its id is asked for the power state or to act. -/
theorem not_through_mismatch (inp : Nat → MachineInput) (interfaces : List PowerInterface)
    (key : IdentityKey) (ids : Nat → Option SystemId) (hm : SameMachine inp interfaces key ids)
    (n j : Nat) (hcompared : Compared inp ids n) (a : InterfaceAction) (driver : Driver)
    (id : Option SystemId) (hb : (inp n).built j = .ok driver) (hid : driver.systemId = .ok id)
    (hcontact : Effect.contact a j ∈ ((machineAt inp n).cycle (inp n)).effects) :
    ¬ Mismatches inp ids n j := by
  intro hmismatch
  obtain ⟨l, hl, hindex⟩ := MachineState.contacts_cycle a j hcontact
  unfold MachineInput.usable at hl
  rw [PowerChain.mem_disableMismatched] at hl
  obtain ⟨hlink, hleft⟩ := hl
  obtain ⟨pi, driver', hpi, hb', hlinkeq⟩ := PowerChain.mem_buildLinks.mp hlink
  rw [hindex] at hpi hb' hlinkeq
  rw [hm.interfaces] at hpi
  have hlabel : l.label = pi.label := by rw [hlinkeq]
  -- either way a mismatch with the label of this link is among the results used
  unfold MachineInput.identity at hleft
  cases hcache : (machineAt inp n).cache.get (inp n).identityKey (inp n).lookupAt with
  | none =>
    -- the interfaces are asked in this reconcile, and this one can report its id
    rw [hcache] at hleft
    have hmem := mem_answersAt hm hpi hb hid
    have hfresh : ∀ r ∈ answersAt inp n, r.2.1.isMismatch = true → r.1 ≠ l.label := by
      simp only at hleft
      split at hleft <;> exact hleft
    exact hfresh _ hmem hmismatch hlabel.symm
  | some cached =>
    -- the results of reconcile `k`: the interface was there, and the UUID the same
    rw [hcache] at hleft
    obtain ⟨k, hk, hstores, hage, hfrom⟩ := cached_from hm.key hcache
    have hbuilt : BuiltAt inp n j := by
      unfold BuiltAt
      rw [hb]
      rfl
    obtain ⟨hbk, huuid⟩ := hcompared k hk hstores hage j hbuilt hmismatch
    unfold BuiltAt at hbk
    cases hbk' : (inp k).built j with
    | error e => rw [hbk'] at hbk; cases hbk
    | ok driverK =>
      have hmem := mem_answersAt_of_stores hm hpi hbk' hstores
      rw [huuid] at hmem
      have hin : (pi.label, check (ids j) (inp n).nodeUuid) ∈ cached := by
        rw [hfrom]
        exact List.mem_map.mpr ⟨_, hmem, rfl⟩
      exact hleft _ (List.mem_map.mpr ⟨_, hin, rfl⟩) hmismatch hlabel.symm

end Runs

/-! ## §4. Two interfaces, the first of another machine. -/

/-- The UUID of one machine. -/
def uuidA : String := "0a000000-0000-4000-8000-00000000000a"
/-- The UUID of another machine. -/
def uuidB : String := "0b000000-0000-4000-8000-00000000000b"

/-- The ids of the two interfaces: the second is that of the Node. -/
def pairIds (j : Nat) : Option SystemId := if j = 0 then some (.uuid uuidB) else some (.uuid uuidA)

/-- An interface of another machine, and one of the machine. -/
def pairInterfaces : List PowerInterface :=
  [{ name := some "bmc-b", driver := "redfish" }, { name := some "bmc-a", driver := "redfish" }]

/-- Reconciles every 30 s; the Node is there from reconcile `first` on. -/
def wrongFirst (first n : Nat) : MachineInput where
  mn := { name := "m1", spec := { nodeName := "m1", powerInterfaces := pairInterfaces } }
  cluster :=
    { nodes := if first ≤ n then [{ name := "m1", nodeInfo := some { systemUuid := uuidA } }] else []
      nodes_distinct := by split <;> decide }
  built := fun j => .ok { powerState := .ok .on, systemId := .ok (pairIds j) }
  now := seconds (30 * n)
  lookupAt := seconds (30 * n)
  storeAt := seconds (30 * n)

theorem sameMachine_wrongFirst (first : Nat) :
    SameMachine (wrongFirst first) pairInterfaces ("m1", 0) pairIds where
  interfaces := fun _ => rfl
  key := fun _ => rfl
  ids := by
    intro n j driver id hb hid
    cases hb
    cases hid
    rfl

/-- With the Node there from the start the second interface is used, from cached
results, and it is the right one. -/
theorem not_through_mismatch_pair :
    Effect.contact .status 1 ∈ ((machineAt (wrongFirst 0) 1).cycle (wrongFirst 0 1)).effects ∧
    ¬ Mismatches (wrongFirst 0) pairIds 1 1 := by
  have hcontact : Effect.contact .status 1
      ∈ ((machineAt (wrongFirst 0) 1).cycle (wrongFirst 0 1)).effects := by decide +kernel
  have hcompared : Compared (wrongFirst 0) pairIds 1 := by
    intro k hk _ _ j _ _
    have hk0 : k = 0 := by omega
    rw [hk0]
    exact ⟨rfl, rfl⟩
  exact ⟨hcontact, not_through_mismatch _ _ _ _ (sameMachine_wrongFirst 0) 1 1 hcompared .status
    _ _ rfl rfl hcontact⟩

/-- **The first results were stored while the Node was missing**: nothing could
be compared, and 30 s later the interface of another machine is asked for the
power state. -/
theorem through_mismatch :
    SameMachine (wrongFirst 1) pairInterfaces ("m1", 0) pairIds ∧
    Effect.contact .status 0 ∈ ((machineAt (wrongFirst 1) 1).cycle (wrongFirst 1 1)).effects ∧
    Mismatches (wrongFirst 1) pairIds 1 0 := by
  refine ⟨sameMachine_wrongFirst 1, by decide +kernel, ?_⟩
  unfold Mismatches
  decide +kernel

end HardwareAutoscaler
