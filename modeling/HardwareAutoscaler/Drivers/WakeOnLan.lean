/-
  HardwareAutoscaler.Drivers.WakeOnLan
  ────────────────────────────────────
  THE WAKE-ON-LAN DRIVER (`src/drivers/wol.rs`).

  A machine is woken by a packet from the operator's node, from pods on other
  nodes, or from both.  A relay pod runs the `wake` subcommand with the
  machine's address and port as texts.

  Key lemmas:
    • `pickRelays_least` — which nodes relay: the first by name of those that
      qualify, whatever the order of the listing,
    • `relayPod_accepted` — when the API takes a relay pod,
    • `wakeCommand_relayPod` — a relay pod sends what the operator would,
    • `powerOn_reports` — `power_on` succeeds if and only if a packet left or a
      relay pod was started,
    • `powerOn_wakes_its_machine` — what it sends wakes its own machine only.
-/
import HardwareAutoscaler.Drivers.Inband
import HardwareAutoscaler.MagicPacket

namespace HardwareAutoscaler.WakeOnLan

open Std (TreeMap)
open Lib (Exchange Session)
open Lib.Session (says_session says_pure says_throw says_ask)
open Inband (KubeError kubeError DnsSubdomain ShortPodName)
open Wake

/-! ## §1. The configuration. -/

/-- Which nodes relay the magic packet. -/
structure RelayConfig where
  /-- Only nodes whose value for this label equals the target Node's value. -/
  sameTopologyAs : Option String := none
  /-- Only nodes carrying all of these labels. -/
  nodeSelector : TreeMap String String := ∅
  /-- At most this many relays per wake. -/
  maxNodes : UInt32 := 3

/-- Configuration of the driver. -/
structure WakeOnLanConfig where
  macAddress : String
  broadcastAddress : Option String := none
  port : UInt16 := 9
  /-- Also send from the operator's own node. -/
  sendFromOperator : Bool := true
  /-- Send from neighbouring nodes as well, via short-lived relay pods. -/
  relay : Option RelayConfig := none
  shutdownImage : Option String := none

/-- `DriverInit`, what the driver keeps of it. -/
structure DriverInit where
  nodeName : String
  shutdownImage : String
  relayImage : String

/-- A driver, with what `build` has checked. -/
structure WakeOnLanDriver where
  config : WakeOnLanConfig
  mac : Vector UInt8 6
  nodeName : String
  shutdownImage : String
  relayImage : String
  mac_read : parseMac config.macAddress = some mac
  broadcast_read : ∀ b ∈ config.broadcastAddress, (parseIpv4 b).isSome = true
  sends : config.sendFromOperator = true ∨ config.relay.isSome = true

/-- `build`; `debug` writes a text as `{:?}` does. -/
def build (debug : String → String) (config : WakeOnLanConfig) (init : DriverInit) :
    Except String WakeOnLanDriver :=
  match hmac : parseMac config.macAddress with
  | none => .error (configError s!"invalid MAC address {debug config.macAddress}")
  | some mac =>
    -- the address is read here, and read again where the packets are sent
    if hb : ∀ b ∈ config.broadcastAddress, (parseIpv4 b).isSome = true then
      if hs : config.sendFromOperator = true ∨ config.relay.isSome = true then
        .ok
          { config, mac, nodeName := init.nodeName
            shutdownImage := config.shutdownImage.getD init.shutdownImage
            relayImage := init.relayImage, mac_read := hmac, broadcast_read := hb, sends := hs }
      else .error (configError "sendFromOperator is false and no relay is configured")
    else
      let b := config.broadcastAddress.getD ""
      .error (configError s!"invalid broadcastAddress {debug b}")

/-- The address of a network card. -/
def aCard : Vector UInt8 6 := #v[0xaa, 0xbb, 0xcc, 0xdd, 0xee, 0x07]

/-- A machine that is woken through relays. -/
def aWakeOnLan : WakeOnLanDriver where
  config := { macAddress := formatMac ':' false aCard, relay := some {} }
  mac := aCard
  nodeName := "gpu-1"
  shutdownImage := "alpine"
  relayImage := "wake"
  mac_read := parseMac_of_text (macText_formatMac rfl false aCard)
  broadcast_read _ h := by cases h
  sends := Or.inl rfl

/-! ## §2. The choice of relays. -/

/-- Ready, not the target, not powered off by us, matching the selector. -/
def qualifies (target : String) (cfg : RelayConfig) (topology : Option (String × String))
    (n : Node) : Bool :=
  n.name != target && nodeReady n && !n.annotations.contains poweredOffAnnotation
    && cfg.nodeSelector.toList.all (fun (k, v) => n.labels[k]? == some v)
    && topology.all (fun (key, value) => n.labels[key]? == some value)

/-- Picks the nodes that relay a wake for `target`. -/
def pickRelays (target : String) (targetLabels : TreeMap String String) (nodes : List Node)
    (cfg : RelayConfig) : List String :=
  let names := fun topology =>
    (sortBy compare ((nodes.filter (qualifies target cfg topology)).map (·.name))).take
      (max cfg.maxNodes 1).toNat
  match cfg.sameTopologyAs with
  | none => names none
  | some key =>
    -- a topology key the target does not carry would silently fan out everywhere
    match targetLabels[key]? with
    | none => []
    | some value => names (some (key, value))

/-! ## §3. Relay pods. -/

/-- The component label of relay pods. -/
def relayComponent : String := "wake-relay"
/-- The label with the Node that a relay pod is to wake. -/
def targetLabel : String := "hardware-autoscaler.safewords.com/target"

/-- A relay pod: of `metadata` and `spec`, what differs from pod to pod. -/
structure RelayPod where
  name : String
  labels : List (String × String)
  nodeName : String
  image : String
  args : List String
  deriving DecidableEq, Repr

/-- `{:08x}`. -/
def hex8 (n : UInt32) : List Char := (Nat.toDigits 16 n.toNat).leftpad 8 '0'

/-- `relay_pod`; `hash` is that of `DefaultHasher`. Names are ASCII: `truncate`
counts bytes. -/
def relayPod (hash : List String → UInt64) (d : WakeOnLanDriver) (relayNode : String) : RelayPod :=
  let stem := "kha-wake-".toList ++ d.nodeName.toList.map (fun c => if c = '.' then '-' else c)
  { name := String.ofList ((stem.take 45).rdropWhile (· == '-') ++
      '-' :: hex8 (hash [d.nodeName, relayNode]).toUInt32)
    labels := [("app.kubernetes.io/name", "kube-hardware-autoscaler"),
      ("app.kubernetes.io/component", relayComponent), (targetLabel, d.nodeName)]
    nodeName := relayNode
    image := d.relayImage
    args := ["wake", "--mac", d.config.macAddress, "--port", toString d.config.port.toNat] ++
      (d.config.broadcastAddress.map (fun b => ["--broadcast", b])).getD [] }

/-! ## §4. The operations. -/

/-- What the driver asks for outside of it. -/
inductive WolCall where
  /-- The calls for a Node, and for the pods of `inband` or the deletion of a pod. -/
  | inband (c : Inband.ApiCall)
  | listNodes
  /-- The names of the pods with these labels. -/
  | listPods (labels : String)
  | createPod (pod : RelayPod)
  | udp (c : UdpCall)

/-- What the driver is answered. -/
def WolCall.Answer : WolCall → Type
  | .inband c => Inband.Answer c
  | .listNodes => Except KubeError (List Node)
  | .listPods _ => Except KubeError (List String)
  | .createPod _ => Except KubeError Unit
  | .udp c => UdpCall.Answer c

/-- A run of the driver. -/
abbrev WolSession (α : Type) := Session Unit String WolCall WolCall.Answer α

section Operations

variable {α : Type}

/-- Calls about pods on a host, as calls of the driver. -/
def ofInband (x : Inband.Async α) : WolSession α :=
  (Session.ofCalls x).through WolCall.inband (fun _ r => r)

/-- Calls of the operator's own socket, as calls of the driver. -/
def ofUdp (x : UdpSession α) : WolSession α := x.through WolCall.udp (fun _ r => r)

/-- `?` on what the API answers. -/
def orKube (r : Except KubeError α) : WolSession α :=
  match r with
  | .ok a => pure a
  | .error e => throw (kubeError e)

/-- The Node, or none. -/
def getNode (name : String) : WolSession (Option Node) := do
  let answer : Except KubeError (Option Node) ← Session.ask (WolCall.inband (.getNode name))
  orKube answer

/-- The same as that of `inband`. -/
def deletePod (name : String) : WolSession Unit := ofInband (Inband.deletePod name)

/-- Deletes pods one by one; the first error ends it. -/
def deletePods : List String → WolSession Unit
  | [] => pure ()
  | name :: rest => do
    deletePod name
    deletePods rest

variable (hash : List String → UInt64) (d : WakeOnLanDriver)

/-- The relays of whose pods the creation succeeded. -/
def startRelays : List String → WolSession (List String)
  | [] => pure []
  | relay :: rest => do
    let answer : Except KubeError Unit ← Session.ask (WolCall.createPod (relayPod hash d relay))
    let started ← startRelays rest
    match answer with
    | .ok _ => pure (relay :: started)
    | .error _ => pure started

/-- Why no Node relays. -/
def noRelayError (cfg : RelayConfig) (targetLabels : TreeMap String String) : String :=
  match cfg.sameTopologyAs with
  | some key =>
    if !targetLabels.contains key then s!"Node {d.nodeName} has no {key} label to select relays by"
    else "no Ready node qualifies as a Wake-on-LAN relay"
  | none => "no Ready node qualifies as a Wake-on-LAN relay"

/-- Starts relay pods on neighbouring nodes. Returns the relay node names. -/
def wakeViaRelays (cfg : RelayConfig) : WolSession (List String) := do
  let target ← getNode d.nodeName
  let targetLabels := (target.map (·.labels)).getD ∅
  let listed : Except KubeError (List Node) ← Session.ask WolCall.listNodes
  let all ← orKube listed
  let relays := pickRelays d.nodeName targetLabels all cfg
  if relays.isEmpty then throw (interfaceError (noRelayError d cfg targetLabels)) else
  -- relays from earlier wakes of this machine
  let found : Except KubeError (List String) ← Session.ask (WolCall.listPods
    s!"{targetLabel}={d.nodeName},app.kubernetes.io/component={relayComponent}")
  let old ← orKube found
  deletePods old
  let started ← startRelays hash d relays
  if started.isEmpty then throw (interfaceError "no Wake-on-LAN relay pod could be started") else
  pure started

/-- `power_state`: a machine with a Ready Node is on, any other off. -/
def powerState : WolSession PowerState := do
  let node ← getNode d.nodeName
  pure (if node.any nodeReady then .on else .off)

/-- Whether the operator sent the packet; its errors. -/
def fromOperator : WolSession (Bool × List String) :=
  if d.config.sendFromOperator then do
    let ts ← ofUdp (targets d.config.broadcastAddress d.config.port)
    let sent ← Session.attempt (ofUdp (send d.mac ts 3))
    match sent with
    | .ok _ => pure (true, [])
    | .error e => pure (false, [s!"operator: {e}"])
  else pure (false, [])

/-- Whether relays were started; their errors. -/
def fromRelays : WolSession (Bool × List String) :=
  match d.config.relay with
  | some relay => do
    let relays ← Session.attempt (wakeViaRelays hash d relay)
    match relays with
    | .ok _ => pure (true, [])
    | .error e => pure (false, [s!"relays: {e}"])
  | none => pure (false, [])

/-- `power_on`: the packet is sent from the operator's node and by relay pods, as
configured; it fails if neither sent one. -/
def powerOn : WolSession Unit := do
  -- no stale shutdown pod survives into the next boot
  ofInband (Inband.cancel d.nodeName)
  let (sent, errors) ← fromOperator d
  let (relayed, relayErrors) ← fromRelays hash d
  if sent || relayed then pure ()
  else throw (interfaceError ("; ".intercalate (errors ++ relayErrors)))

/-- At `now` in seconds. There is no out-of-band power off to force. -/
def powerOff (_force : Bool) (now : Int) : WolSession Unit :=
  ofInband (Inband.run d.nodeName d.shutdownImage .powerOff now)

end Operations

/-! ## §5. Which nodes relay. -/

/-- **A node that may relay** a wake for `target`. -/
structure MayRelay (target : String) (targetLabels : TreeMap String String) (cfg : RelayConfig)
    (n : Node) : Prop where
  other : n.name ≠ target
  ready : nodeReady n = true
  kept_on : n.annotations.contains poweredOffAnnotation = false
  selected : ∀ k v : String, cfg.nodeSelector[k]? = some v → n.labels[k]? = some v
  /-- It is where the target is, if the configuration names a topology. -/
  near : ∀ key : String, cfg.sameTopologyAs = some key →
    ∃ value : String, targetLabels[key]? = some value ∧ n.labels[key]? = some value

section Relays

variable {target : String} {targetLabels : TreeMap String String} {cfg : RelayConfig} {n : Node}

/-- What a Node is tested for. -/
theorem qualifies_iff {topology : Option (String × String)} :
    qualifies target cfg topology n = true ↔ n.name ≠ target ∧ nodeReady n = true ∧
      n.annotations.contains poweredOffAnnotation = false ∧
      (∀ k v : String, cfg.nodeSelector[k]? = some v → n.labels[k]? = some v) ∧
      ∀ key value, topology = some (key, value) → n.labels[key]? = some value := by
  unfold qualifies
  simp only [Bool.and_eq_true, bne_iff_ne, Bool.not_eq_true', List.all_eq_true, Prod.forall,
    Std.TreeMap.mem_toList_iff_getElem?_eq_some, beq_iff_eq, Option.all_eq_true, and_assoc]

/-- What `pick_relays` asks of a node. -/
def mayRelay (target : String) (targetLabels : TreeMap String String) (cfg : RelayConfig)
    (n : Node) : Bool :=
  match cfg.sameTopologyAs with
  | none => qualifies target cfg none n
  | some key =>
    match targetLabels[key]? with
    | none => false
    | some value => qualifies target cfg (some (key, value)) n

/-- The test is whether the Node may relay. -/
theorem mayRelay_iff : mayRelay target targetLabels cfg n = true ↔
    MayRelay target targetLabels cfg n := by
  unfold mayRelay
  -- with a topology key the value is compared; a target without it has no relay at all
  split
  · rename_i hnone
    rw [qualifies_iff]
    constructor
    · rintro ⟨hother, hready, hon, hsel, _⟩
      exact ⟨hother, hready, hon, hsel, fun key h => by rw [hnone] at h; cases h⟩
    · intro h
      exact ⟨h.other, h.ready, h.kept_on, h.selected, fun key value h => by cases h⟩
  · rename_i key hkey
    split
    · rename_i hnone
      constructor
      · intro h
        cases h
      · intro h
        obtain ⟨value, hvalue, _⟩ := h.near key hkey
        rw [hnone] at hvalue
        cases hvalue
    · rename_i value hvalue
      rw [qualifies_iff]
      constructor
      · rintro ⟨hother, hready, hon, hsel, hnear⟩
        refine ⟨hother, hready, hon, hsel, fun key' h => ?_⟩
        rw [hkey] at h
        cases h
        exact ⟨value, hvalue, hnear key value rfl⟩
      · intro h
        refine ⟨h.other, h.ready, h.kept_on, h.selected, fun key' value' he => ?_⟩
        cases he
        obtain ⟨value', hvalue', hn⟩ := h.near key hkey
        rw [hvalue] at hvalue'
        cases hvalue'
        exact hn

instance : DecidablePred (MayRelay target targetLabels cfg) :=
  fun _ => decidable_of_iff _ mayRelay_iff

/-- **The relays** are the first by name of those that may relay. -/
theorem pickRelays_eq (nodes : List Node) : pickRelays target targetLabels nodes cfg
    = (sortBy compare ((nodes.filter (mayRelay target targetLabels cfg)).map (·.name))).take
        (max cfg.maxNodes 1).toNat := by
  unfold pickRelays mayRelay
  split
  · rfl
  · split
    · rw [List.filter_eq_nil_iff.mpr (fun _ _ h => by cases h)]
      exact (List.take_nil).symm
    · rfl

/-- A relay is a Node that may relay. -/
theorem mayRelay_of_pick {x : String} {nodes : List Node}
    (h : x ∈ pickRelays target targetLabels nodes cfg) :
    ∃ n ∈ nodes, MayRelay target targetLabels cfg n ∧ n.name = x := by
  rw [pickRelays_eq] at h
  obtain ⟨n, hn, rfl⟩ := List.mem_map.mp (mem_sortBy.mp (List.mem_of_mem_take h))
  obtain ⟨hmem, hmay⟩ := List.mem_filter.mp hn
  exact ⟨n, hmem, mayRelay_iff.mp hmay, rfl⟩

/-- **The relays of a wake** are the first by name of the nodes that may relay:
as many of them as are asked for, in order, and the same for every order in
which the nodes are listed. -/
theorem pickRelays_least (target : String) (targetLabels : TreeMap String String)
    (cfg : RelayConfig) (nodes : List Node) :
    (∀ x, x ∈ pickRelays target targetLabels nodes cfg ↔
      (∃ n ∈ nodes, MayRelay target targetLabels cfg n ∧ n.name = x) ∧
        nodes.countP (fun n => MayRelay target targetLabels cfg n ∧ compare n.name x = .lt)
          < max cfg.maxNodes.toNat 1) ∧
    (pickRelays target targetLabels nodes cfg).Pairwise (fun a b => (compare a b).isLE = true) ∧
    (pickRelays target targetLabels nodes cfg).length = min (max cfg.maxNodes.toNat 1)
      (nodes.countP (fun n => MayRelay target targetLabels cfg n)) ∧
    ∀ nodes', nodes.Perm nodes' →
      pickRelays target targetLabels nodes' cfg = pickRelays target targetLabels nodes cfg := by
  -- `max_nodes` of 0 counts as 1
  have hmax : (max cfg.maxNodes 1).toNat = max cfg.maxNodes.toNat 1 := by
    have hle : cfg.maxNodes ≤ 1 ↔ cfg.maxNodes.toNat ≤ 1 := UInt32.le_iff_toNat_le
    show (if cfg.maxNodes ≤ 1 then (1 : UInt32) else cfg.maxNodes).toNat = _
    rw [Nat.max_def]
    by_cases h : cfg.maxNodes ≤ 1
    · rw [if_pos h, if_pos (hle.mp h)]
      rfl
    · rw [if_neg h, if_neg (mt hle.mpr h)]
  -- counting among the Nodes that may relay is counting with both conditions
  have hcount : ∀ (p : Node → Bool), (nodes.filter (mayRelay target targetLabels cfg)).countP p
      = nodes.countP (fun n => MayRelay target targetLabels cfg n ∧ p n = true) := by
    intro p
    rw [List.countP_filter]
    refine List.countP_congr (fun n _ => ?_)
    rw [Bool.and_eq_true, decide_eq_true_iff, mayRelay_iff, and_comm]
  refine ⟨fun x => ?_, ?_, ?_, fun nodes' hperm => ?_⟩
  · rw [pickRelays_eq, mem_take_iff (sortBy_pairwise _), mem_sortBy, hmax,
      (sortBy_perm _ _).countP_eq, List.countP_map, hcount, List.mem_map]
    simp only [List.mem_filter, mayRelay_iff, Function.comp_apply, beq_iff_eq, and_assoc]
  · rw [pickRelays_eq]
    exact (sortBy_pairwise _).sublist (List.take_sublist _ _)
  · rw [pickRelays_eq, List.length_take, hmax, (sortBy_perm _ _).length_eq, List.length_map,
      ← List.countP_eq_length_filter]
    refine congrArg _ (List.countP_congr (fun n _ => ?_))
    rw [mayRelay_iff, decide_eq_true_iff]
  · rw [pickRelays_eq, pickRelays_eq]
    refine congrArg _ (sortBy_eq_of_perm ((hperm.filter _).map _) (fun a _ b _ h => ?_)).symm
    exact Std.LawfulEqCmp.eq_of_compare h

end Relays

/-! ## §6. Relay pods that are accepted. -/

/-- What a label may have for its value. -/
def LabelValue (s : String) : Prop :=
  s.toList.length ≤ 63 ∧
    s.toList.all (fun c => c.isAlphanum || c == '-' || c == '_' || c == '.') = true ∧
      s.toList.head?.all Char.isAlphanum = true ∧ s.toList.getLast?.all Char.isAlphanum = true

/-- **The API takes the name and the labels** of a pod. -/
def Accepted (pod : RelayPod) : Prop := DnsSubdomain pod.name ∧ ∀ l ∈ pod.labels, LabelValue l.2

section Accepted

variable {hash : List String → UInt64} {d : WakeOnLanDriver} {relay : String}

/-- Lower-case letters and digits are alphanumeric. -/
theorem isAlphanum_of_lowerAlnum {c : Char} (h : Inband.lowerAlnum c = true) :
    c.isAlphanum = true := by
  unfold Inband.lowerAlnum at h
  unfold Char.isAlphanum Char.isAlpha
  rcases (Bool.or_eq_true _ _).mp h with h | h <;> simp [h]

/-- Hexadecimal digits are lower-case letters and digits. -/
theorem digitChar_lowerAlnum : ∀ d < 16, Inband.lowerAlnum (Nat.digitChar d) = true := by decide

/-- Eight hexadecimal digits. -/
theorem hex8_length (n : UInt32) : (hex8 n).length = 8 := by
  unfold hex8
  rw [List.length_leftpad]
  exact Nat.max_eq_left ((Nat.length_toDigits_le_iff (by omega) (by omega)).mpr n.toNat_lt)

/-- A hash has lower-case letters and digits alone. -/
theorem hex8_chars (n : UInt32) : ∀ c ∈ hex8 n, Inband.lowerAlnum c = true := by
  intro c hc
  rcases List.mem_append.mp hc with hc | hc
  · rw [List.eq_of_mem_replicate hc]
    rfl
  · obtain ⟨k, hk, rfl⟩ := Lib.mem_toDigits (by omega) _ hc
    exact digitChar_lowerAlnum k hk

/-- The name of a relay pod is one part of a name, of 54 characters at most. -/
theorem relayPod_name (hnode : DnsSubdomain d.nodeName) :
    DnsSubdomain (relayPod hash d relay).name ∧
      (relayPod hash d relay).name.toList.length ≤ 54 := by
  -- the stem is cut after it has been written, so its first character survives the cut
  have hstem : ∃ rest, ("kha-wake-".toList ++ d.nodeName.toList.map
      (fun c => if c = '.' then '-' else c)).take 45 = 'k' :: rest := ⟨_, rfl⟩
  obtain ⟨rest, hrest⟩ := hstem
  have hname : (relayPod hash d relay).name.toList = 'k' :: (rest.rdropWhile (· == '-') ++
      '-' :: hex8 (hash [d.nodeName, relay]).toUInt32) := by
    unfold relayPod
    rw [String.toList_ofList, hrest, Lib.rdropWhile_cons rfl]
    rfl
  -- 45 characters at most, a dash and eight of the hash
  have hlen : (relayPod hash d relay).name.toList.length ≤ 54 := by
    have htake := List.length_take_le 45 ("kha-wake-".toList ++ d.nodeName.toList.map
      (fun c => if c = '.' then '-' else c))
    have hdrop := (List.rdropWhile_prefix (· == '-') rest).length_le
    rw [hrest, List.length_cons] at htake
    rw [hname, List.length_cons, List.length_append, List.length_cons, hex8_length]
    omega
  -- dots of the Node name are written as dashes, everything else in it is a label's
  have hchars : ∀ c ∈ 'k' :: rest, Inband.lowerAlnum c = true ∨ c = '-' := by
    intro c hc
    rw [← hrest] at hc
    rcases List.mem_append.mp (List.mem_of_mem_take hc) with hc | hc
    · have hall : ("kha-wake-".toList).all (fun c => Inband.lowerAlnum c || c == '-') = true := rfl
      exact ((Bool.or_eq_true _ _).mp (List.all_eq_true.mp hall c hc)).imp_right eq_of_beq
    · obtain ⟨x, hx, rfl⟩ := List.mem_map.mp hc
      split
      · exact Or.inr rfl
      · rename_i hdot
        exact (hnode.chars x hx).imp_right (fun h => h.resolve_right hdot)
  -- it starts with the stem's `k` and ends with the hash, which has no dash
  have hlabel : Inband.DnsLabel (relayPod hash d relay).name.toList := by
    rw [hname]
    refine Inband.dnsLabel_iff.mpr ⟨List.cons_ne_nil _ _, fun c hc => ?_, fun c hc => ?_,
      fun c hc => ?_⟩
    · rcases List.mem_cons.mp hc with rfl | hc
      · exact Or.inl rfl
      rcases List.mem_append.mp hc with hc | hc
      · exact hchars c (List.mem_cons_of_mem _ ((List.rdropWhile_prefix _ _).subset hc))
      · rcases List.mem_cons.mp hc with rfl | hc
        · exact Or.inr rfl
        · exact Or.inl (hex8_chars _ c hc)
    · cases hc
      rfl
    · have hne : hex8 (hash [d.nodeName, relay]).toUInt32 ≠ [] := by
        intro h
        have hzero := congrArg List.length h
        rw [hex8_length] at hzero
        cases hzero
      rw [← List.cons_append, List.append_cons, List.getLast?_append_of_ne_nil _ hne] at hc
      exact hex8_chars _ c (List.mem_of_getLast? hc)
  exact ⟨.of_label hlabel (by omega), hlen⟩

/-- The name of a Node is short enough for a label, or it is no label value. -/
theorem labelValue_iff {s : String} (h : DnsSubdomain s) : LabelValue s ↔ s.toList.length ≤ 63 := by
  have hgroups : Lib.Groups (· == '.') (fun l (_ : List Char) => Inband.DnsLabel l)
      s.toList (s.toList.splitOn '.') :=
    Lib.groups_iff.mpr (List.forall₂_same.mpr (fun l hl => h.2 l hl))
  have hhead := hgroups.head (P := fun c => Inband.lowerAlnum c = true) (by
    intro g b hg
    obtain ⟨hne, _, hg, _⟩ := Inband.dnsLabel_iff.mp hg
    obtain ⟨c, cs, rfl⟩ := List.exists_cons_of_ne_nil hne
    exact ⟨c, cs, rfl, hg c rfl⟩)
  have hlast := hgroups.getLast (P := fun c => Inband.lowerAlnum c = true) (by
    intro g b hg
    obtain ⟨hne, _, _, hg⟩ := Inband.dnsLabel_iff.mp hg
    have hsome := List.getLast?_eq_some_getLast hne
    exact ⟨_, hsome, hg _ hsome⟩)
  refine ⟨And.left, fun hlen => ⟨hlen, ?_, ?_, ?_⟩⟩
  · refine List.all_eq_true.mpr (fun c hc => ?_)
    rcases h.chars c hc with hc | rfl | rfl
    · rw [isAlphanum_of_lowerAlnum hc]
      rfl
    · rfl
    · rfl
  · obtain ⟨x, xs, hs, hx⟩ := hhead
    rw [hs]
    exact isAlphanum_of_lowerAlnum hx
  · obtain ⟨x, hs, hx⟩ := hlast
    rw [hs]
    exact isAlphanum_of_lowerAlnum hx

/-- **A relay pod is accepted** if and only if the name of the machine's Node
fits in a label. -/
theorem relayPod_accepted (hnode : DnsSubdomain d.nodeName) :
    Accepted (relayPod hash d relay) ↔ d.nodeName.toList.length ≤ 63 := by
  rw [← labelValue_iff hnode]
  constructor
  · intro h
    exact h.2 (targetLabel, d.nodeName)
      (List.mem_cons_of_mem _ (List.mem_cons_of_mem _ List.mem_cons_self))
  · intro h
    refine ⟨relayPod_name hnode |>.1, ?_⟩
    have hname : LabelValue "kube-hardware-autoscaler" := ⟨by decide, rfl, rfl, rfl⟩
    have hcomponent : LabelValue relayComponent := ⟨by decide, rfl, rfl, rfl⟩
    exact List.forall_mem_cons.mpr ⟨hname, List.forall_mem_cons.mpr
      ⟨hcomponent, List.forall_mem_singleton.mpr h⟩⟩

/-- A Node with a name of two parts, which is longer than a label may be. -/
def longNamed : WakeOnLanDriver :=
  { aWakeOnLan with
    nodeName := String.ofList (List.replicate 40 'a' ++ '.' :: List.replicate 40 'b') }

/-- `gpu-1` gets its relays, and the Node with the long name gets none. -/
theorem gpu_accepted : Accepted (relayPod (fun _ => 0) aWakeOnLan "a-1") ∧
    ¬ Accepted (relayPod (fun _ => 0) longNamed "a-1") := by
  have hlong : DnsSubdomain longNamed.nodeName := by decide +kernel
  refine ⟨(relayPod_accepted (by decide)).mpr (by decide), fun h => ?_⟩
  exact absurd ((relayPod_accepted hlong).mp h) (by decide +kernel)

end Accepted

/-! ## §7. What a relay sends. -/

section Sends

variable {clap : List String → Option WakeArgs} {hash : List String → UInt64}
  {d : WakeOnLanDriver} {relay : String}

/-- **A relay pod runs what the operator would**: its arguments are read back as
the address, the port and the broadcast address of the configuration. -/
theorem wakeCommand_relayPod (hclap : ReadsOptions clap) :
    wakeCommand clap (relayPod hash d relay).args = (do
      let ts ← targets d.config.broadcastAddress d.config.port
      let _ ← send d.mac ts 3
      pure ()) := by
  obtain ⟨hport, hdash⟩ := port_read d.config.port
  have hmac := parseMac_not_dashed d.mac_read
  have hread : clap (relayPod hash d relay).args
      = some ⟨d.config.macAddress, d.config.port, d.config.broadcastAddress⟩ := by
    unfold relayPod
    cases hb : d.config.broadcastAddress with
    | none => exact hclap.port _ _ _ hmac hdash hport
    | some b =>
      obtain ⟨ip, hip⟩ := Option.isSome_iff_exists.mp (d.broadcast_read b hb)
      exact hclap.broadcast _ _ _ b hmac hdash (parseIpv4_not_dashed hip) hport
  unfold wakeCommand
  rw [hread]
  simp only
  rw [d.mac_read]

/-- A packet of the machine's, to the port and the address of the configuration. -/
def ForMachine (d : WakeOnLanDriver) (x : List UInt8 × SocketAddr) : Prop :=
  x.1 = magicPacket d.mac ∧ x.2.port = d.config.port ∧
    ∀ b ∈ d.config.broadcastAddress, parseIpv4 b = some x.2.ip

/-- A run of a relay pod: its packets are the machine's, and it succeeds if and
only if one leaves. -/
theorem relay_run (hclap : ReadsOptions clap) {s s' : Unit} {dlg : List (Exchange UdpCall.Answer)}
    {r : Except String Unit} (h : (wakeCommand clap (relayPod hash d relay).args).Says s dlg r s') :
    (∀ x ∈ dlg.filterMap tried, ForMachine d x) ∧ (r = .ok () ↔ dlg.filterMap sent ≠ []) := by
  rw [wakeCommand_relayPod hclap] at h
  rcases says_session h with ⟨e, htargets, _⟩ | ⟨d₁, d₂, ts, s₁, rfl, htargets, hrest⟩
  · obtain ⟨ts, hts⟩ := (targets_run htargets).2.2.1 d.broadcast_read
    cases hts
  obtain ⟨htried, hsent, _, hts⟩ := targets_run htargets
  rw [List.filterMap_append, List.filterMap_append, htried, hsent, List.nil_append, List.nil_append]
  have hall : ∀ {d₃ : List (Exchange UdpCall.Answer)} {q : Except String Nat} {t t' : Unit},
      (send d.mac ts 3).Says t d₃ q t' → ∀ x ∈ d₃.filterMap tried, ForMachine d x := by
    intro d₃ q t t' hsend x hx
    obtain ⟨hpacket, hmem⟩ := send_tried hsend x hx
    obtain ⟨hport, hip⟩ := hts ts rfl x.2 hmem
    exact ⟨hpacket, hport, hip⟩
  rcases says_session hrest with ⟨e, hsend, hr⟩ | ⟨d₃, d₄, n, s₂, rfl, hsend, hend⟩
  · refine ⟨hall hsend, ?_⟩
    rw [← send_isOk hsend, hr]
    exact iff_of_false (fun he => by cases he) (fun he => by obtain ⟨n, hn⟩ := he; cases hn)
  · obtain ⟨rfl, hr, _⟩ := says_pure hend
    rw [List.append_nil, ← send_isOk hsend, hr]
    exact ⟨hall hsend, iff_of_true rfl ⟨n, rfl⟩⟩

end Sends

/-! ## §8. What `power_on` sends. -/

/-- A packet that the operator gives to its socket. -/
def udpTried : Exchange WolCall.Answer → Option (List UInt8 × SocketAddr)
  | ⟨.udp c, answer⟩ => tried ⟨c, answer⟩
  | _ => none

/-- A packet that leaves the operator's node. -/
def udpSent : Exchange WolCall.Answer → Option (List UInt8 × SocketAddr)
  | ⟨.udp c, answer⟩ => sent ⟨c, answer⟩
  | _ => none

/-- A relay pod that is asked for. -/
def podCreated : Exchange WolCall.Answer → Option RelayPod
  | ⟨.createPod pod, _⟩ => some pod
  | _ => none

/-- A relay pod that the API creates. -/
def podStarted : Exchange WolCall.Answer → Option RelayPod
  | ⟨.createPod pod, answer⟩ =>
    match (answer : Except KubeError Unit) with
    | .ok _ => some pod
    | .error _ => none
  | _ => none

/-- Sends no packet and creates no relay. -/
def Quiet : WolCall → Prop
  | .udp _ | .createPod _ => False
  | _ => True

/-- The packets given to the operator's socket, those that leave, the relay pods
asked for, and those created. -/
structure Counts (dlg : List (Exchange WolCall.Answer)) (given left : List (List UInt8 × SocketAddr))
    (created started : List RelayPod) : Prop where
  given : dlg.filterMap udpTried = given
  left : dlg.filterMap udpSent = left
  created : dlg.filterMap podCreated = created
  started : dlg.filterMap podStarted = started

section PowerOn

variable {hash : List String → UInt64} {d : WakeOnLanDriver} {s s' : Unit}
  {dlg : List (Exchange WolCall.Answer)}

/-- One dialogue after another. -/
theorem Counts.append {dlg₁ dlg₂ : List (Exchange WolCall.Answer)}
    {given₁ given₂ left₁ left₂ : List (List UInt8 × SocketAddr)}
    {created₁ created₂ started₁ started₂ : List RelayPod}
    (h₁ : Counts dlg₁ given₁ left₁ created₁ started₁)
    (h₂ : Counts dlg₂ given₂ left₂ created₂ started₂) :
    Counts (dlg₁ ++ dlg₂) (given₁ ++ given₂) (left₁ ++ left₂) (created₁ ++ created₂)
      (started₁ ++ started₂) := by
  refine ⟨?_, ?_, ?_, ?_⟩
  · rw [List.filterMap_append, h₁.given, h₂.given]
  · rw [List.filterMap_append, h₁.left, h₂.left]
  · rw [List.filterMap_append, h₁.created, h₂.created]
  · rw [List.filterMap_append, h₁.started, h₂.started]

/-- Where no packet and no pod is asked for, none is counted. -/
theorem counts_quiet (h : ∀ e ∈ dlg, Quiet e.1) : Counts dlg [] [] [] [] := by
  have hnone : ∀ {β : Type} (f : Exchange WolCall.Answer → Option β),
      (∀ c a, Quiet c → f ⟨c, a⟩ = none) → dlg.filterMap f = [] := by
    intro β f hf
    exact List.filterMap_eq_nil_iff.mpr (fun e he => hf e.1 e.2 (h e he))
  refine ⟨hnone _ ?_, hnone _ ?_, hnone _ ?_, hnone _ ?_⟩ <;>
    (intro c a hc; cases c <;> first | rfl | exact hc.elim)

/-- Calls about pods on a host send no packet. -/
theorem counts_inband {α : Type} {x : Inband.Async α} {r : Except String α}
    (h : (ofInband x).Says s dlg r s') : Counts dlg [] [] [] [] :=
  counts_quiet (Lib.says_every (Lib.every_through (fun _ => trivial) _) h)

/-- What is sent through the operator's socket. -/
theorem ofUdp_run {α : Type} {x : UdpSession α} {r : Except String α}
    (h : (ofUdp x).Says s dlg r s') : ∃ d₀, x.Says s d₀ r s' ∧
      Counts dlg (d₀.filterMap tried) (d₀.filterMap sent) [] [] := by
  obtain ⟨d₀, hd₀, hmade⟩ := Lib.says_through h
  have hdlg : dlg = d₀.map (fun e => ⟨.udp e.1, e.2⟩) := by
    clear hd₀ h
    induction hmade with
    | nil => rfl
    | cons hmade _ ih =>
      obtain ⟨a, rfl, rfl⟩ := hmade
      rw [ih, List.map_cons]
  refine ⟨d₀, hd₀, ?_, ?_, ?_, ?_⟩
  · rw [hdlg, List.filterMap_map]
    rfl
  · rw [hdlg, List.filterMap_map]
    rfl
  · rw [hdlg, List.filterMap_map]
    exact List.filterMap_eq_nil_iff.mpr (fun _ _ => rfl)
  · rw [hdlg, List.filterMap_map]
    exact List.filterMap_eq_nil_iff.mpr (fun _ _ => rfl)

/-- An answer of the API is no dialogue. -/
theorem orKube_run {α : Type} {x : Except KubeError α} {r : Except String α}
    (h : (orKube x).Says s dlg r s') :
    dlg = [] ∧ ((∃ e, r = .error e) ∨ ∃ a, x = .ok a ∧ r = .ok a) := by
  cases x with
  | ok a =>
    obtain ⟨hd, hr, _⟩ := says_pure h
    exact ⟨hd, Or.inr ⟨a, rfl, hr⟩⟩
  | error e =>
    obtain ⟨hd, hr, _⟩ := says_throw h
    exact ⟨hd, Or.inl ⟨_, hr⟩⟩

/-- A call of the API, of which a failure ends the program. -/
theorem askKube_run {α β : Type} {c : WolCall} (hc : WolCall.Answer c = Except KubeError α)
    {k : α → WolSession β} {r : Except String β}
    (h : (Session.ask c >>= fun a => orKube (cast hc a) >>= k : WolSession β).Says s dlg r s') :
    ∃ a, (∃ e, r = .error e ∧ dlg = [⟨c, a⟩]) ∨
      ∃ x dlg' t, cast hc a = .ok x ∧ dlg = ⟨c, a⟩ :: dlg' ∧ (k x).Says t dlg' r s' := by
  rcases says_session h with ⟨e, hask, _⟩ | ⟨d₁, d₂, answer, s₁, rfl, hask, hrest⟩
  · obtain ⟨a, _, ha, _⟩ := says_ask hask
    cases ha
  · obtain ⟨a, rfl, ha, _⟩ := says_ask hask
    cases ha
    refine ⟨answer, ?_⟩
    rcases says_session hrest with ⟨e, hfail, hr⟩ | ⟨d₃, d₄, x, s₂, rfl, hok, hk⟩
    · obtain ⟨rfl, _⟩ := orKube_run hfail
      exact Or.inl ⟨e, hr, rfl⟩
    · obtain ⟨rfl, ⟨e, he⟩ | ⟨b, hb, hx⟩⟩ := orKube_run hok
      · cases he
      · cases hx
        exact Or.inr ⟨x, d₄, s₂, hb, rfl, hk⟩

/-- The Node is asked for once. -/
theorem getNode_run {name : String} {r : Except String (Option Node)}
    (h : (getNode name).Says s dlg r s') : ∃ a : Except KubeError (Option Node),
      dlg = [⟨.inband (.getNode name), a⟩] ∧
        ((∃ e, r = .error e) ∨ ∃ n, a = .ok n ∧ r = .ok n) := by
  rcases says_session h with ⟨e, hask, _⟩ | ⟨d₁, d₂, answer, s₁, rfl, hask, hrest⟩
  · obtain ⟨a, _, ha, _⟩ := says_ask hask
    cases ha
  · obtain ⟨a, rfl, ha, _⟩ := says_ask hask
    cases ha
    obtain ⟨rfl, hr⟩ := orKube_run hrest
    exact ⟨answer, rfl, hr⟩

/-- Deleting pods sends no packet. -/
theorem counts_deletePods {names : List String} {r : Except String Unit}
    (h : (deletePods names).Says s dlg r s') : Counts dlg [] [] [] [] := by
  have hquiet : ∀ names, Session.Every Quiet (deletePods names) := by
    intro names
    induction names with
    | nil => exact fun _ => trivial
    | cons name rest ih =>
      exact Lib.Session.every_session (fun s => Lib.every_through (fun _ => trivial) _)
        (fun _ => ih)
  exact counts_quiet (Lib.says_every (hquiet names s) h)

/-- **The relays** are all asked for; returned are those that are created. -/
theorem startRelays_run {relays : List String} {r : Except String (List String)}
    (h : (startRelays hash d relays).Says s dlg r s') : ∃ started, r = .ok started ∧
      Counts dlg [] [] (relays.map (relayPod hash d)) (started.map (relayPod hash d)) := by
  induction relays generalizing s dlg r with
  | nil =>
    obtain ⟨rfl, hr, _⟩ := says_pure h
    exact ⟨[], hr, rfl, rfl, rfl, rfl⟩
  | cons relay rest ih =>
    rcases says_session h with ⟨e, hask, _⟩ | ⟨d₁, d₂, answer, s₁, rfl, hask, hrest⟩
    · obtain ⟨a, _, ha, _⟩ := says_ask hask
      cases ha
    obtain ⟨a, rfl, ha, _⟩ := says_ask hask
    cases ha
    rcases says_session hrest with ⟨e, hfail, _⟩ | ⟨d₃, d₄, started, s₂, rfl, hstart, hend⟩
    · obtain ⟨started, hstarted, _⟩ := ih hfail
      cases hstarted
    obtain ⟨started', hr, hcounts⟩ := ih hstart
    cases hr
    -- a relay that could not be created is left out, and the rest are tried
    cases answer with
    | ok u =>
      obtain ⟨rfl, hr, _⟩ := says_pure hend
      rw [List.append_nil]
      exact ⟨relay :: started, hr, hcounts.given, hcounts.left,
        congrArg (relayPod hash d relay :: ·) hcounts.created,
        congrArg (relayPod hash d relay :: ·) hcounts.started⟩
    | error e =>
      obtain ⟨rfl, hr, _⟩ := says_pure hend
      rw [List.append_nil]
      exact ⟨started, hr, hcounts.given, hcounts.left,
        congrArg (relayPod hash d relay :: ·) hcounts.created, hcounts.started⟩

/-- A relay that was picked from what the API told. -/
def Picked (d : WakeOnLanDriver) (cfg : RelayConfig) (dlg : List (Exchange WolCall.Answer))
    (relay : String) : Prop :=
  ∃ (target : Option Node) (nodes : List Node),
    (⟨.inband (.getNode d.nodeName), Except.ok target⟩ : Exchange WolCall.Answer) ∈ dlg ∧
      (⟨.listNodes, Except.ok nodes⟩ : Exchange WolCall.Answer) ∈ dlg ∧
        relay ∈ pickRelays d.nodeName ((target.map (·.labels)).getD ∅) nodes cfg

/-- A relay picked stays so in a longer dialogue. -/
theorem Picked.mono {cfg : RelayConfig} {dlg' : List (Exchange WolCall.Answer)} {relay : String}
    (h : Picked d cfg dlg relay) (hsub : dlg ⊆ dlg') : Picked d cfg dlg' relay := by
  obtain ⟨target, nodes, htarget, hnodes, hrelay⟩ := h
  exact ⟨target, nodes, hsub htarget, hsub hnodes, hrelay⟩

/-- **A wake through relays** succeeds if and only if a relay is created; those
that are asked for are picked. -/
theorem wakeViaRelays_run {cfg : RelayConfig} {r : Except String (List String)}
    (h : (wakeViaRelays hash d cfg).Says s dlg r s') :
    ∃ relays started : List String,
      Counts dlg [] [] (relays.map (relayPod hash d)) (started.map (relayPod hash d)) ∧
        (∀ relay ∈ relays, Picked d cfg dlg relay) ∧
          ((∃ names, r = .ok names) ↔ started ≠ []) := by
  -- what fails before the first relay is chosen leaves none created and none started
  have hfailed : ∀ {e} {dlg : List (Exchange WolCall.Answer)}, r = .error e →
      Counts dlg [] [] [] [] → ∃ relays started : List String,
        Counts dlg [] [] (relays.map (relayPod hash d)) (started.map (relayPod hash d)) ∧
          (∀ relay ∈ relays, Picked d cfg dlg relay) ∧
            ((∃ names, r = .ok names) ↔ started ≠ []) := by
    intro e dlg hr hcounts
    refine ⟨[], [], hcounts, ?_, ?_, ?_⟩
    · intro relay hrelay
      cases hrelay
    · rintro ⟨names, hnames⟩
      rw [hr] at hnames
      cases hnames
    · intro hne
      exact absurd rfl hne
  -- the target's Node comes first: its labels and nothing else decide where relays may stand
  rcases says_session h with ⟨e, hnode, hr⟩ | ⟨d₁, d₂, target, s₁, rfl, hnode, hrest⟩
  · obtain ⟨a, rfl, _⟩ := getNode_run hnode
    exact hfailed hr ⟨rfl, rfl, rfl, rfl⟩
  obtain ⟨_, rfl, ⟨e, he⟩ | ⟨n, rfl, hn⟩⟩ := getNode_run hnode
  · cases he
  cases hn
  -- then the Nodes to choose from
  obtain ⟨b, ⟨e, hr, rfl⟩ | ⟨nodes, d₃, s₂, hnodes, rfl, hpick⟩⟩ := askKube_run rfl hrest
  · exact hfailed hr ⟨rfl, rfl, rfl, rfl⟩
  simp only at hpick
  split at hpick
  · obtain ⟨rfl, hr, _⟩ := says_throw hpick
    exact hfailed hr ⟨rfl, rfl, rfl, rfl⟩
  -- then the relays an earlier wake left behind, which are deleted before any is created
  obtain ⟨c, ⟨e, hr, rfl⟩ | ⟨old, d₄, s₃, _, rfl, hold⟩⟩ := askKube_run rfl hpick
  · exact hfailed hr ⟨rfl, rfl, rfl, rfl⟩
  have hbefore : ∀ {l given left created started}, Counts l given left created started →
      Counts ([⟨.inband (.getNode d.nodeName), Except.ok target⟩] ++
        ⟨.listNodes, b⟩ :: ⟨.listPods _, c⟩ :: l) given left created started := by
    intro l given left created started hl
    exact ⟨hl.given, hl.left, hl.created, hl.started⟩
  rcases says_session hold with ⟨e, hdel, hr⟩ | ⟨d₅, d₆, _, s₄, rfl, hdel, hstart⟩
  · exact hfailed hr (hbefore (counts_deletePods hdel))
  -- starting them never fails as a whole: it returns those that started
  rcases says_session hstart with ⟨e, hfail, _⟩ | ⟨d₇, d₈, started, s₅, rfl, hstarted, hend⟩
  · obtain ⟨_, hr, _⟩ := startRelays_run hfail
    cases hr
  obtain ⟨_, hr, hcounts⟩ := startRelays_run hstarted
  cases hr
  have hb : b = Except.ok nodes := hnodes
  have hpicked : ∀ relay ∈ pickRelays d.nodeName ((target.map (·.labels)).getD ∅) nodes cfg,
      Picked d cfg ([⟨.inband (.getNode d.nodeName), Except.ok target⟩] ++
        ⟨.listNodes, b⟩ :: ⟨.listPods _, c⟩ :: (d₅ ++ (d₇ ++ d₈))) relay := by
    intro relay hrelay
    rw [hb]
    exact ⟨target, nodes, List.mem_cons_self, List.mem_cons_of_mem _ List.mem_cons_self, hrelay⟩
  -- the last step only looks at whether any did
  have hall : d₈ = [] ∧ ((∃ names, r = .ok names) ↔ started ≠ []) := by
    split at hend
    · rename_i hempty
      obtain ⟨hd, hr, _⟩ := says_throw hend
      refine ⟨hd, ?_, fun hne => absurd (List.isEmpty_iff.mp hempty) hne⟩
      rintro ⟨names, hnames⟩
      rw [hr] at hnames
      cases hnames
    · rename_i hne
      obtain ⟨hd, hr, _⟩ := says_pure hend
      exact ⟨hd, fun _ he => hne (List.isEmpty_iff.mpr he), fun _ => ⟨_, hr⟩⟩
  obtain ⟨rfl, hiff⟩ := hall
  refine ⟨_, started, hbefore ?_, hpicked, hiff⟩
  rw [List.append_nil]
  exact (counts_deletePods hdel).append hcounts

/-- **What the operator sends itself**: packets of the machine's; it counts as
sent if and only if one leaves. -/
theorem fromOperator_run {r : Except String (Bool × List String)}
    (h : (fromOperator d).Says s dlg r s') : ∃ b errors given left, r = .ok (b, errors) ∧
      Counts dlg given left [] [] ∧ (∀ x ∈ given, ForMachine d x) ∧ (b = true ↔ left ≠ []) := by
  unfold fromOperator at h
  split at h
  · -- the destinations are computed first; with the broadcast address read this does not fail
    rcases says_session h with ⟨e, htargets, _⟩ | ⟨d₁, d₂, ts, s₁, rfl, htargets, hrest⟩
    · obtain ⟨d₀, htargets, _⟩ := ofUdp_run htargets
      obtain ⟨ts, hts⟩ := (targets_run htargets).2.2.1 d.broadcast_read
      cases hts
    obtain ⟨d₀, htargets, hcounts₀⟩ := ofUdp_run htargets
    obtain ⟨hgiven, hleft, _, hts⟩ := targets_run htargets
    rw [hgiven, hleft] at hcounts₀
    rcases says_session hrest with ⟨e, hfail, _⟩ | ⟨d₃, d₄, q, s₂, rfl, hattempt, hend⟩
    · obtain ⟨q, hq, _⟩ := Lib.Session.says_attempt hfail
      cases hq
    obtain ⟨q', hq, hudp⟩ := Lib.Session.says_attempt hattempt
    cases hq
    obtain ⟨d₅, hsend, hcounts⟩ := ofUdp_run hudp
    -- what was tried went to one of these destinations
    have hmachine : ∀ x ∈ d₅.filterMap tried, ForMachine d x := by
      intro x hx
      obtain ⟨hpacket, hmem⟩ := send_tried hsend x hx
      obtain ⟨hport, hip⟩ := hts ts rfl x.2 hmem
      exact ⟨hpacket, hport, hip⟩
    have hok := send_isOk hsend
    -- an error of sending is recorded, not returned
    cases q with
    | ok n =>
      obtain ⟨rfl, hr, _⟩ := says_pure hend
      rw [List.append_nil]
      exact ⟨true, _, _, _, hr, hcounts₀.append hcounts, hmachine,
        iff_of_true rfl (hok.mp ⟨n, rfl⟩)⟩
    | error e =>
      obtain ⟨rfl, hr, _⟩ := says_pure hend
      rw [List.append_nil]
      refine ⟨false, _, _, _, hr, hcounts₀.append hcounts, hmachine, iff_of_false ?_ ?_⟩
      · exact Bool.false_ne_true
      · intro hne
        obtain ⟨n, hn⟩ := hok.mpr hne
        cases hn
  · obtain ⟨rfl, hr, _⟩ := says_pure h
    refine ⟨false, _, [], [], hr, ⟨rfl, rfl, rfl, rfl⟩, ?_, ?_⟩
    · intro x hx
      cases hx
    · exact iff_of_false Bool.false_ne_true (fun hne => hne rfl)

/-- **What relays are asked to send**; it counts as sent if and only if one is
created. -/
theorem fromRelays_run {r : Except String (Bool × List String)}
    (h : (fromRelays hash d).Says s dlg r s') : ∃ b errors, r = .ok (b, errors) ∧
      ∃ relays started : List String,
        Counts dlg [] [] (relays.map (relayPod hash d)) (started.map (relayPod hash d)) ∧
          (∀ relay ∈ relays, ∃ cfg ∈ d.config.relay, Picked d cfg dlg relay) ∧
            (b = true ↔ started ≠ []) := by
  unfold fromRelays at h
  split at h
  · rename_i cfg hcfg
    rcases says_session h with ⟨e, hfail, _⟩ | ⟨d₁, d₂, q, s₁, rfl, hattempt, hend⟩
    · obtain ⟨q, hq, _⟩ := Lib.Session.says_attempt hfail
      cases hq
    obtain ⟨q', hq, hwake⟩ := Lib.Session.says_attempt hattempt
    cases hq
    obtain ⟨relays, started, hcounts, hpicked, hok⟩ := wakeViaRelays_run hwake
    have hpicked : ∀ relay ∈ relays, ∃ cfg ∈ d.config.relay, Picked d cfg d₁ relay :=
      fun relay hrelay => ⟨cfg, hcfg, hpicked relay hrelay⟩
    -- an error of the relays is recorded, not returned
    cases q with
    | ok names =>
      obtain ⟨rfl, hr, _⟩ := says_pure hend
      rw [List.append_nil]
      exact ⟨true, _, hr, relays, started, hcounts, hpicked, iff_of_true rfl (hok.mp ⟨_, rfl⟩)⟩
    | error e =>
      obtain ⟨rfl, hr, _⟩ := says_pure hend
      rw [List.append_nil]
      refine ⟨false, _, hr, relays, started, hcounts, hpicked, iff_of_false ?_ ?_⟩
      · exact Bool.false_ne_true
      · intro hne
        obtain ⟨n, hn⟩ := hok.mpr hne
        cases hn
  · obtain ⟨rfl, hr, _⟩ := says_pure h
    refine ⟨false, _, hr, [], [], ⟨rfl, rfl, rfl, rfl⟩, ?_, ?_⟩
    · intro relay hrelay
      cases hrelay
    · exact iff_of_false Bool.false_ne_true (fun hne => hne rfl)

/-- **A wake**: what is sent, by whom, and when it succeeds. -/
theorem powerOn_run {r : Except String Unit} (h : (powerOn hash d).Says s dlg r s') :
    ∃ given left, ∃ relays started : List String,
      Counts dlg given left (relays.map (relayPod hash d)) (started.map (relayPod hash d)) ∧
        (∀ x ∈ given, ForMachine d x) ∧
          (∀ relay ∈ relays, ∃ cfg ∈ d.config.relay, Picked d cfg dlg relay) ∧
            (r = .ok () ↔ left ≠ [] ∨ started ≠ []) := by
  -- the suspend pod is called off before anything is sent
  rcases says_session h with ⟨e, hcancel, hr⟩ | ⟨d₁, d₂, _, s₁, rfl, hcancel, hrest⟩
  · refine ⟨[], [], [], [], counts_inband hcancel, ?_, ?_, ?_⟩
    · intro x hx
      cases hx
    · intro relay hrelay
      cases hrelay
    · rw [hr]
      exact iff_of_false (fun he => by cases he) (fun he => he.elim (· rfl) (· rfl))
  -- neither the operator's own packets nor the relays fail as a whole: they return their errors
  rcases says_session hrest with ⟨e, hfail, _⟩ | ⟨d₃, d₄, x, s₂, rfl, hoperator, hrelays⟩
  · obtain ⟨_, _, _, _, hr, _⟩ := fromOperator_run hfail
    cases hr
  obtain ⟨sent, errors, given, left, hx, hcounts, hgiven, hsent⟩ := fromOperator_run hoperator
  cases hx
  rcases says_session hrelays with ⟨e, hfail, _⟩ | ⟨d₅, d₆, y, s₃, rfl, hrelay, hend⟩
  · obtain ⟨_, _, hr, _⟩ := fromRelays_run hfail
    cases hr
  obtain ⟨relayed, errors', hy, relays, started, hcounts', hpicked, hrelayed⟩ :=
    fromRelays_run hrelay
  cases hy
  -- the result is Ok when one of the two got through
  have hall : d₆ = [] ∧ (r = .ok () ↔ left ≠ [] ∨ started ≠ []) := by
    rw [← hsent, ← hrelayed, ← Bool.or_eq_true]
    dsimp only at hend
    split at hend
    · rename_i hor
      obtain ⟨hd, hr, _⟩ := says_pure hend
      exact ⟨hd, iff_of_true hr hor⟩
    · rename_i hor
      obtain ⟨hd, hr, _⟩ := says_throw hend
      rw [hr]
      exact ⟨hd, iff_of_false (fun he => by cases he) hor⟩
  obtain ⟨rfl, hiff⟩ := hall
  refine ⟨given, left, relays, started, ?_, hgiven, ?_, hiff⟩
  · have hsum := (counts_inband hcancel).append (hcounts.append hcounts')
    rw [List.nil_append, List.nil_append, List.nil_append, List.nil_append, List.nil_append,
      List.nil_append, List.append_nil, List.append_nil] at hsum
    rw [List.append_nil]
    exact hsum
  · intro relay hrelay
    obtain ⟨cfg, hcfg, hpicked⟩ := hpicked relay hrelay
    refine ⟨cfg, hcfg, hpicked.mono ?_⟩
    intro e he
    exact List.mem_append_right _ (List.mem_append_right _ (List.mem_append_left _ he))

/-- A Node that is Ready. -/
def aNeighbour : Node where
  name := "a-1"
  conditions := [{ type_ := "Ready", status := "True" }]

/-- The operator's node has no network, and a neighbour relays. -/
def aWake : List (Exchange WolCall.Answer) :=
  [⟨.inband (.deletePod (Inband.podName "gpu-1")), Except.ok ()⟩,
    ⟨.udp .interfaces, Except.ok []⟩, ⟨.udp .bind, Except.error "refused"⟩,
    ⟨.inband (.getNode "gpu-1"), Except.ok none⟩, ⟨.listNodes, Except.ok [aNeighbour]⟩,
    ⟨.listPods ("hardware-autoscaler.safewords.com/target=gpu-1," ++
      "app.kubernetes.io/component=wake-relay"), Except.ok []⟩,
    ⟨.createPod (relayPod (fun _ => 0) aWakeOnLan "a-1"), Except.ok ()⟩]

/-- The driver's run. -/
theorem aWake_run : (powerOn (fun _ => 0) aWakeOnLan).Says () aWake (.ok ()) () :=
  .call (.call (.call (.call (.call (.call (.call (.done _)))))))

/-- **`power_on` succeeds** if and only if a packet left the operator's node or a
relay pod was created. -/
theorem powerOn_reports {r : Except String Unit} (h : (powerOn hash d).Says s dlg r s') :
    r = .ok () ↔ dlg.filterMap udpSent ≠ [] ∨ dlg.filterMap podStarted ≠ [] := by
  obtain ⟨given, left, relays, started, hcounts, _, _, hiff⟩ := powerOn_run h
  rw [hcounts.left, hcounts.started, hiff]
  simp only [ne_eq, List.map_eq_nil_iff]

/-- The machine is woken by a relay pod. -/
theorem wake_reported : (.ok () : Except String Unit) = .ok () ↔
    aWake.filterMap udpSent ≠ [] ∨ aWake.filterMap podStarted ≠ [] :=
  powerOn_reports aWake_run

/-- **A wake is for one machine.** The packets that the operator gives to its
socket, and those that any run of a relay pod gives to its own, wake the card of
the machine and no other.  The relays are nodes of the listing that the API gave, that
may relay for the target with the labels that the API gave it; the run of a relay
pod succeeds if and only if a packet left. -/
theorem powerOn_wakes_its_machine {clap : List String → Option WakeArgs}
    (hclap : ReadsOptions clap) {r : Except String Unit}
    (h : (powerOn hash d).Says s dlg r s') :
    (∀ x ∈ dlg.filterMap udpTried, ∀ mac, WakesOn mac x.1 ↔ mac = d.mac) ∧
    ∀ pod ∈ dlg.filterMap podCreated,
      (∃ target nodes cfg,
        (⟨.inband (.getNode d.nodeName), Except.ok target⟩ : Exchange WolCall.Answer) ∈ dlg ∧
        (⟨.listNodes, Except.ok nodes⟩ : Exchange WolCall.Answer) ∈ dlg ∧
        cfg ∈ d.config.relay ∧ ∃ n ∈ nodes,
          MayRelay d.nodeName ((target.map (·.labels)).getD ∅) cfg n ∧ pod.nodeName = n.name) ∧
      ∀ {t t' : Unit} {run : List (Exchange UdpCall.Answer)} {q : Except String Unit},
        (wakeCommand clap pod.args).Says t run q t' →
          (∀ x ∈ run.filterMap tried, (∀ mac, WakesOn mac x.1 ↔ mac = d.mac) ∧
            x.2.port = d.config.port) ∧ (q = .ok () ↔ run.filterMap sent ≠ []) := by
  obtain ⟨given, left, relays, started, hcounts, hgiven, hpicked, _⟩ := powerOn_run h
  rw [hcounts.given, hcounts.created]
  have hwakes : ∀ {x}, ForMachine d x → ∀ mac, WakesOn mac x.1 ↔ mac = d.mac := by
    intro x hx mac
    rw [hx.1]
    exact wakesOn_magicPacket
  refine ⟨fun x hx => hwakes (hgiven x hx), fun pod hpod => ?_⟩
  obtain ⟨relay, hrelay, rfl⟩ := List.mem_map.mp hpod
  refine ⟨?_, fun hrun => ?_⟩
  · obtain ⟨cfg, hcfg, target, nodes, htarget, hnodes, hmem⟩ := hpicked relay hrelay
    obtain ⟨n, hn, hmay, hname⟩ := mayRelay_of_pick hmem
    exact ⟨target, nodes, cfg, htarget, hnodes, hcfg, n, hn, hmay, hname.symm⟩
  · obtain ⟨htried, hok⟩ := relay_run hclap hrun
    exact ⟨fun x hx => ⟨hwakes (htried x hx), (htried x hx).2.1⟩, hok⟩

/-- The relays are to be in the zone of the target. -/
def inItsZone : WakeOnLanDriver :=
  { aWakeOnLan with
    config := { aWakeOnLan.config with relay := some { sameTopologyAs := some "zone" } }
    mac_read := aWakeOnLan.mac_read
    broadcast_read := aWakeOnLan.broadcast_read
    sends := Or.inl rfl }

/-- A Node that is Ready, in a zone. -/
def inZone (name zone : String) : Node where
  name := name
  labels := (∅ : TreeMap String String).insert "zone" zone
  conditions := [{ type_ := "Ready", status := "True" }]

/-- The node before it in the list is in another zone. -/
def zonedWake : List (Exchange WolCall.Answer) :=
  [⟨.inband (.deletePod (Inband.podName "gpu-1")), Except.ok ()⟩,
    ⟨.udp .interfaces, Except.ok []⟩, ⟨.udp .bind, Except.error "refused"⟩,
    ⟨.inband (.getNode "gpu-1"), Except.ok (some (inZone "gpu-1" "a"))⟩,
    ⟨.listNodes, Except.ok [inZone "a-0" "b", inZone "a-1" "a"]⟩,
    ⟨.listPods ("hardware-autoscaler.safewords.com/target=gpu-1," ++
      "app.kubernetes.io/component=wake-relay"), Except.ok []⟩,
    ⟨.createPod (relayPod (fun _ => 0) inItsZone "a-1"), Except.ok ()⟩]

/-- The driver's run. -/
theorem zonedWake_run : (powerOn (fun _ => 0) inItsZone).Says () zonedWake (.ok ()) () :=
  .call (.call (.call (.call (.call (.call (.call (.done _)))))))

/-- The relay is in the zone of the machine, and what it sends wakes its card. -/
theorem relay_wakes_gpu :
    (∀ x ∈ zonedWake.filterMap udpTried, ∀ mac, WakesOn mac x.1 ↔ mac = aCard) ∧
    (∃ target nodes cfg,
      (⟨.inband (.getNode "gpu-1"), Except.ok target⟩ : Exchange WolCall.Answer) ∈ zonedWake ∧
      (⟨.listNodes, Except.ok nodes⟩ : Exchange WolCall.Answer) ∈ zonedWake ∧
      cfg ∈ inItsZone.config.relay ∧ ∃ n ∈ nodes,
        MayRelay "gpu-1" ((target.map (·.labels)).getD ∅) cfg n ∧ "a-1" = n.name) ∧
    ∀ t t' run q, (wakeCommand wakeOptions (relayPod (fun _ => 0) inItsZone "a-1").args).Says
      t run q t' → (∀ x ∈ run.filterMap tried, (∀ mac, WakesOn mac x.1 ↔ mac = aCard) ∧
        x.2.port = 9) ∧ (q = .ok () ↔ run.filterMap sent ≠ []) := by
  obtain ⟨htried, hpods⟩ := powerOn_wakes_its_machine wakeOptions_reads zonedWake_run
  obtain ⟨hrelay, hruns⟩ := hpods _ List.mem_cons_self
  exact ⟨htried, hrelay, fun _ _ _ _ hrun => hruns hrun⟩

end PowerOn

end HardwareAutoscaler.WakeOnLan
