/-
  HardwareAutoscaler.MagicPacket
  ──────────────────────────────
  WAKE-ON-LAN PACKETS (`src/wake.rs`, the `wake` subcommand of `src/main.rs`):
  what is sent, where to, and what counts as sent.

  Key lemmas:
    • `wakesOn_magicPacket` — the packet of an address wakes the card that has
      the address, and no other,
    • `mem_interfaceBroadcasts` — the addresses sent to when none is given,
    • `send_run` — a run of `send`: each target is tried in each round, and the
      packets that are counted are the packets that left.
-/
import HardwareAutoscaler.Lib.Dialogue
import HardwareAutoscaler.Scaling.Ranking
import HardwareAutoscaler.Wake

namespace HardwareAutoscaler.Wake

open Lib (Exchange Session fromStrRadix readDigits toDigit)
open Lib.Session (says_session says_pure says_throw says_ask)

/-! ## §1. The packet. -/

/-- `magic_packet`: six bytes of ones, and the address sixteen times. -/
def magicPacket (mac : Vector UInt8 6) : List UInt8 :=
  List.replicate 6 0xFF ++ (List.replicate 16 mac.toList).flatten

/-- A card with the address `mac` wakes when a packet has, anywhere, six bytes
of ones and then its address sixteen times. -/
def WakesOn (mac : Vector UInt8 6) (packet : List UInt8) : Prop :=
  ∃ before after, packet = before ++ (magicPacket mac ++ after)

/-- A packet has 102 bytes. -/
theorem magicPacket_length (mac : Vector UInt8 6) : (magicPacket mac).length = 102 := by
  unfold magicPacket
  rw [List.length_append, List.length_replicate, List.length_flatten, List.map_replicate,
    List.sum_replicate, Vector.length_toList]
  rfl

/-- The packets of two cards differ. -/
theorem magicPacket_injective {mac mac' : Vector UInt8 6} (h : magicPacket mac = magicPacket mac') :
    mac = mac' := by
  unfold magicPacket at h
  have hflat := List.append_cancel_left h
  rw [List.replicate_succ, List.replicate_succ, List.flatten_cons, List.flatten_cons] at hflat
  have hhead := List.append_inj_left hflat (by rw [Vector.length_toList, Vector.length_toList])
  exact Vector.toList_inj.mp hhead

/-- **The card that is woken** is the one the packet is for. -/
theorem wakesOn_magicPacket {mac mac' : Vector UInt8 6} :
    WakesOn mac (magicPacket mac') ↔ mac = mac' := by
  constructor
  · rintro ⟨before, after, h⟩
    have hlen := congrArg List.length h
    rw [List.length_append, List.length_append, magicPacket_length, magicPacket_length] at hlen
    have hbefore : before = [] := List.eq_nil_of_length_eq_zero (by omega)
    have hafter : after = [] := List.eq_nil_of_length_eq_zero (by omega)
    rw [hbefore, hafter, List.nil_append, List.append_nil] at h
    exact (magicPacket_injective h).symm
  · rintro rfl
    exact ⟨[], [], (List.append_nil _).symm⟩

/-! ## §2. Addresses. -/

/-- An IPv4 address. -/
abbrev Ipv4Addr := Vector UInt8 4

/-- `Ipv4Addr::BROADCAST`. -/
def limitedBroadcast : Ipv4Addr := #v[255, 255, 255, 255]

/-- One number of an address: one to three digits, of which a first 0 is alone. -/
def readByte (g : List Char) : Option UInt8 :=
  if g.length ≤ 3 ∧ (g.head? = some '0' → g.length = 1) ∧ g ≠ [] then
    (readDigits 10 256 0 g).map UInt8.ofNat
  else none

/-- `Ipv4Addr::from_str`. -/
def parseIpv4 (s : String) : Option Ipv4Addr := do
  let bytes ← (s.toList.splitOn '.').mapM readByte
  if h : bytes.length = 4 then some ⟨bytes.toArray, h⟩ else none

/-- The text starts with a dash, as an option does. -/
def Dashed (s : String) : Prop := ∃ cs, s.toList = '-' :: cs

theorem not_dashed {s : String} {radix : Nat}
    (h : ∃ c cs, s.toList = c :: cs ∧ (c = '+' ∨ (toDigit radix c).isSome = true)) :
    ¬ Dashed s := by
  rintro ⟨cs', hcs'⟩
  obtain ⟨c, cs, hcs, hc⟩ := h
  rw [hcs] at hcs'
  cases hcs'
  rcases hc with hc | hc
  · cases hc
  · cases hc

/-- An address is no option. -/
theorem parseMac_not_dashed {s : String} {mac : Vector UInt8 6} (h : parseMac s = some mac) :
    ¬ Dashed s := by
  refine @not_dashed s 16 ((parseMac_eq_some.mp h).head ?_)
  rintro g b (⟨c, l, m, n, rfl, hc, _, _⟩ | ⟨l, rfl, _⟩)
  · exact ⟨c, [l], rfl, Or.inr (by rw [hc]; rfl)⟩
  · exact ⟨'+', [l], rfl, Or.inl rfl⟩

theorem readByte_head {g : List Char} {b : UInt8} (h : readByte g = some b) :
    ∃ c cs, g = c :: cs ∧ (c = '+' ∨ (toDigit 10 c).isSome = true) := by
  unfold readByte at h
  split at h
  · rename_i hg
    obtain ⟨n, hn, _⟩ := Option.map_eq_some_iff.mp h
    obtain ⟨c, cs, rfl⟩ := List.exists_cons_of_ne_nil hg.2.2
    obtain ⟨d, hd, _⟩ := Option.bind_eq_some_iff.mp hn
    exact ⟨c, cs, rfl, Or.inr (Option.isSome_of_eq_some hd)⟩
  · cases h

/-- An address is no option. -/
theorem parseIpv4_not_dashed {s : String} {ip : Ipv4Addr} (h : parseIpv4 s = some ip) :
    ¬ Dashed s := by
  obtain ⟨bytes, hbytes, _⟩ := Option.bind_eq_some_iff.mp h
  have hgroups : Lib.Groups (· == '.') (fun g b => readByte g = some b) s.toList bytes :=
    Lib.groups_iff.mpr (Lib.mapM_eq_some_iff.mp hbytes)
  exact @not_dashed s 10 (hgroups.head (fun g b => readByte_head))

/-- A port that is written. -/
theorem port_read (port : UInt16) :
    fromStrRadix 10 65536 (toString port.toNat).toList = some port.toNat ∧
      ¬ Dashed (toString port.toNat) := by
  have hnum : Lib.Numeral 10 (toString port.toNat).toList port.toNat := by
    show Lib.Numeral 10 (Nat.repr port.toNat).toList port.toNat
    rw [Nat.repr_eq_ofList_toDigits, String.toList_ofList]
    exact Lib.numeral_toDigits (by omega) (by omega) _
  refine ⟨(Lib.fromStrRadix_iff (by omega) (by omega)).mpr ⟨Or.inl hnum, port.toNat_lt⟩, ?_⟩
  rintro ⟨cs, hcs⟩
  exact hnum.not_mem (c := '-') rfl (by rw [hcs]; exact List.mem_cons_self)

/-- An address with a port. -/
structure SocketAddr where
  ip : Ipv4Addr
  port : UInt16
  deriving DecidableEq

/-- `if_addrs::Interface`. -/
structure Interface where
  isLoopback : Bool
  isOperUp : Bool
  /-- The broadcast address, if its address is an IPv4 address that has one. -/
  broadcast : Option Ipv4Addr
  deriving DecidableEq

/-! ## §3. Sending. -/

/-- What is asked for outside of the program. -/
inductive UdpCall where
  /-- `if_addrs::get_if_addrs`. -/
  | interfaces
  | bind
  | setBroadcast
  | sendTo (packet : List UInt8) (target : SocketAddr)
  | sleep (ms : Nat)

/-- What the socket answers. -/
def UdpCall.Answer : UdpCall → Type
  | .interfaces => Except String (List Interface)
  | .bind | .setBroadcast | .sendTo _ _ => Except String Unit
  | .sleep _ => Unit

/-- A run that uses the socket. -/
abbrev UdpSession (α : Type) := Session Unit String UdpCall UdpCall.Answer α

/-- `?`. -/
def orFail {α : Type} : Except String α → UdpSession α
  | .ok a => pure a
  | .error e => throw e

/-- Broadcast addresses of this host's interfaces that are up, IPv4, not
loopback and broadcast-capable, plus the limited broadcast 255.255.255.255. -/
def interfaceBroadcasts (found : Except String (List Interface)) : List Ipv4Addr :=
  let ifaces := match found with
    | .ok ifaces => ifaces
    | .error _ => []
  sortBy compare
    (limitedBroadcast ::
      (ifaces.filter (fun i => !i.isLoopback && i.isOperUp)).filterMap (·.broadcast)).dedup

/-- **The addresses sent to** when none is configured: each once. -/
theorem mem_interfaceBroadcasts (found : Except String (List Interface)) :
    (interfaceBroadcasts found).Nodup ∧ ∀ ip, ip ∈ interfaceBroadcasts found ↔
      ip = limitedBroadcast ∨ ∃ ifaces, found = .ok ifaces ∧
        ∃ i ∈ ifaces, i.isLoopback = false ∧ i.isOperUp = true ∧ i.broadcast = some ip := by
  unfold interfaceBroadcasts
  refine ⟨(sortBy_perm _ _).nodup_iff.mpr (List.nodup_dedup _), fun ip => ?_⟩
  rw [mem_sortBy, List.mem_dedup, List.mem_cons]
  refine or_congr_right ?_
  cases found with
  | ok ifaces => simp [List.mem_filterMap, List.mem_filter, and_assoc]
  | error e => simp

/-- Where to send: the explicit broadcast address if configured, otherwise
every interface's broadcast address. -/
def targets (explicit : Option String) (port : UInt16) : UdpSession (List SocketAddr) :=
  match explicit with
  | some addr =>
    match parseIpv4 addr with
    | some ip => pure [⟨ip, port⟩]
    | none => throw s!"invalid broadcast address {addr}"
  | none => do
    let found : Except String (List Interface) ← Session.ask UdpCall.interfaces
    pure ((interfaceBroadcasts found).map (fun ip => ⟨ip, port⟩))

/-- One round: `ok` and `last_err` after it. -/
def sendEach (packet : List UInt8) : List SocketAddr → Nat → Option String →
    UdpSession (Nat × Option String)
  | [], ok, lastErr => pure (ok, lastErr)
  | target :: rest, ok, lastErr => do
    let answer : Except String Unit ← Session.ask (UdpCall.sendTo packet target)
    match answer with
    | .ok _ => sendEach packet rest (ok + 1) lastErr
    | .error e => sendEach packet rest ok (some e)

/-- `n` rounds, with a pause after each. -/
def sendRounds (packet : List UInt8) (ts : List SocketAddr) : Nat → Nat → Option String →
    UdpSession (Nat × Option String)
  | 0, ok, lastErr => pure (ok, lastErr)
  | n + 1, ok, lastErr => do
    let (ok, lastErr) ← sendEach packet ts ok lastErr
    let _ : Unit ← Session.ask (UdpCall.sleep 100)
    sendRounds packet ts n ok lastErr

/-- Sends the magic packet for `mac` to every target, `repeats` times. Returns
the number of successful sends; fails only if none succeeded. -/
def send (mac : Vector UInt8 6) (ts : List SocketAddr) (repeats : Nat) : UdpSession Nat := do
  let bound : Except String Unit ← Session.ask UdpCall.bind
  orFail bound
  let set : Except String Unit ← Session.ask UdpCall.setBroadcast
  orFail set
  let (ok, lastErr) ← sendRounds (magicPacket mac) ts (max repeats 1) 0 none
  if ok = 0 then throw (lastErr.getD "no broadcast targets") else pure ok

/-! ## §4. What was sent. -/

/-- The packet that is given to the socket. -/
def tried : Exchange UdpCall.Answer → Option (List UInt8 × SocketAddr)
  | ⟨.sendTo packet target, _⟩ => some (packet, target)
  | _ => none

/-- The packet that leaves. -/
def sent : Exchange UdpCall.Answer → Option (List UInt8 × SocketAddr)
  | ⟨.sendTo packet target, answer⟩ =>
    match (answer : Except String Unit) with
    | .ok _ => some (packet, target)
    | .error _ => none
  | _ => none

section Sent

variable {s s' : Unit} {d : List (Exchange UdpCall.Answer)} {packet : List UInt8}
  {ts : List SocketAddr} {ok : Nat} {lastErr : Option String}

/-- **A round**: every target once, and the count goes up by what leaves. -/
theorem sendEach_run {r : Except String (Nat × Option String)}
    (h : (sendEach packet ts ok lastErr).Says s d r s') :
    ∃ e', r = .ok (ok + (d.filterMap sent).length, e') ∧
      d.filterMap tried = ts.map (fun t => (packet, t)) := by
  induction ts generalizing s d ok lastErr with
  | nil =>
    obtain ⟨rfl, hr, _⟩ := says_pure h
    exact ⟨lastErr, hr, rfl⟩
  | cons t ts ih =>
    rcases says_session h with ⟨e, hask, _⟩ | ⟨d₁, d₂, answer, s₁, rfl, hask, hrest⟩
    · obtain ⟨a, _, ha, _⟩ := says_ask hask
      cases ha
    · obtain ⟨a, rfl, ha, _⟩ := says_ask hask
      cases ha
      -- one packet is tried, and counted when it left
      cases answer with
      | ok u =>
        obtain ⟨e', hr, htried⟩ := ih hrest
        refine ⟨e', ?_, ?_⟩
        · rw [hr]
          show Except.ok (ok + 1 + (d₂.filterMap sent).length, e')
            = .ok (ok + ((packet, t) :: d₂.filterMap sent).length, e')
          rw [List.length_cons, Nat.add_assoc, Nat.add_comm 1]
        · show (packet, t) :: d₂.filterMap tried = _
          rw [htried]
          rfl
      | error err =>
        obtain ⟨e', hr, htried⟩ := ih hrest
        refine ⟨e', hr, ?_⟩
        show (packet, t) :: d₂.filterMap tried = _
        rw [htried]
        rfl

/-- **The rounds**: every target once in each, and the count goes up by what leaves. -/
theorem sendRounds_run {n : Nat} {r : Except String (Nat × Option String)}
    (h : (sendRounds packet ts n ok lastErr).Says s d r s') :
    ∃ e', r = .ok (ok + (d.filterMap sent).length, e') ∧
      d.filterMap tried = (List.replicate n (ts.map (fun t => (packet, t)))).flatten := by
  induction n generalizing s d ok lastErr with
  | zero =>
    obtain ⟨rfl, hr, _⟩ := says_pure h
    exact ⟨lastErr, hr, rfl⟩
  | succ n ih =>
    rcases says_session h with ⟨e, hround, _⟩ | ⟨d₁, d₂, acc, s₁, rfl, hround, hrest⟩
    · obtain ⟨e', hr, _⟩ := sendEach_run hround
      cases hr
    · obtain ⟨e₁, hr₁, htried₁⟩ := sendEach_run hround
      cases hr₁
      rcases says_session hrest with ⟨e, hsleep, _⟩ | ⟨d₃, d₄, u, s₂, rfl, hsleep, hrounds⟩
      · obtain ⟨a, _, ha, _⟩ := says_ask hsleep
        cases ha
      · obtain ⟨a, rfl, _, _⟩ := says_ask hsleep
        obtain ⟨e', hr, htried⟩ := ih hrounds
        refine ⟨e', ?_, ?_⟩
        · rw [hr, List.filterMap_append, List.length_append, Nat.add_assoc]
          rfl
        · rw [List.filterMap_append, htried₁, List.replicate_succ, List.flatten_cons]
          exact congrArg _ htried

theorem orFail_run {α : Type} {x r : Except String α} (h : (orFail x).Says s d r s') :
    d = [] ∧ r = x := by
  cases x with
  | ok a =>
    obtain ⟨hd, hr, _⟩ := says_pure h
    exact ⟨hd, hr⟩
  | error e =>
    obtain ⟨hd, hr, _⟩ := says_throw h
    exact ⟨hd, hr⟩

/-- A call that ends the program when it fails. -/
theorem askOrFail_run {α β : Type} {c : UdpCall} (hc : UdpCall.Answer c = Except String α)
    {k : α → UdpSession β} {r : Except String β}
    (h : (Session.ask c >>= fun a => orFail (cast hc a) >>= k : UdpSession β).Says s d r s') :
    ∃ a, (∃ e, cast hc a = .error e ∧ r = .error e ∧ d = [⟨c, a⟩]) ∨
      ∃ x d' t, cast hc a = .ok x ∧ d = ⟨c, a⟩ :: d' ∧ (k x).Says t d' r s' := by
  rcases says_session h with ⟨e, hask, _⟩ | ⟨d₁, d₂, answer, s₁, rfl, hask, hrest⟩
  · obtain ⟨a, _, ha, _⟩ := says_ask hask
    cases ha
  · obtain ⟨a, rfl, ha, _⟩ := says_ask hask
    cases ha
    refine ⟨answer, ?_⟩
    rcases says_session hrest with ⟨e, hfail, hr⟩ | ⟨d₃, d₄, x, s₂, rfl, hok, hk⟩
    · obtain ⟨rfl, he⟩ := orFail_run hfail
      exact Or.inl ⟨e, he.symm, hr, rfl⟩
    · obtain ⟨rfl, hx⟩ := orFail_run hok
      exact Or.inr ⟨x, d₄, s₂, hx.symm, rfl, hk⟩

/-- **A run of `send`** gives the socket nothing, or every target `repeats`
times; what it returns is the number of packets that left, and it fails only if
none did. -/
theorem send_run {mac : Vector UInt8 6} {repeats : Nat} {r : Except String Nat}
    (h : (send mac ts repeats).Says s d r s') :
    (d.filterMap tried = [] ∨ d.filterMap tried
      = (List.replicate (max repeats 1) (ts.map (fun t => (magicPacket mac, t)))).flatten) ∧
    ((∃ n, r = .ok n ∧ n = (d.filterMap sent).length ∧ 0 < n) ∨
      ∃ e, r = .error e ∧ d.filterMap sent = []) := by
  unfold send at h
  -- nothing is tried unless the socket is bound and set to broadcast
  obtain ⟨a, ⟨e, _, hr, rfl⟩ | ⟨_, d₁, s₁, _, rfl, hset⟩⟩ :=
    askOrFail_run rfl h
  · exact ⟨Or.inl rfl, Or.inr ⟨e, hr, rfl⟩⟩
  obtain ⟨b, ⟨e, _, hr, rfl⟩ | ⟨_, d₂, s₂, _, rfl, hsend⟩⟩ :=
    askOrFail_run rfl hset
  · exact ⟨Or.inl rfl, Or.inr ⟨e, hr, rfl⟩⟩
  rcases says_session hsend with ⟨e, hrounds, _⟩ | ⟨d₃, d₄, acc, s₃, rfl, hrounds, hend⟩
  · obtain ⟨e', hr, _⟩ := sendRounds_run hrounds
    cases hr
  obtain ⟨e', hacc, htried⟩ := sendRounds_run hrounds
  cases hacc
  -- these two calls send nothing themselves
  have hnone : ∀ {x : Exchange UdpCall.Answer → Option (List UInt8 × SocketAddr)},
      x ⟨.bind, a⟩ = none → x ⟨.setBroadcast, b⟩ = none →
        (⟨.bind, a⟩ :: ⟨.setBroadcast, b⟩ :: (d₃ ++ d₄)).filterMap x = (d₃ ++ d₄).filterMap x := by
    intro x ha hb
    rw [List.filterMap_cons_none ha, List.filterMap_cons_none hb]
  rw [hnone rfl rfl, hnone rfl rfl]
  dsimp only at hend
  rw [Nat.zero_add] at hend
  split at hend
  · rename_i hzero
    obtain ⟨rfl, hr, _⟩ := says_throw hend
    rw [List.append_nil]
    exact ⟨Or.inr htried, Or.inr ⟨_, hr, List.eq_nil_of_length_eq_zero hzero⟩⟩
  · rename_i hpos
    obtain ⟨rfl, hr, _⟩ := says_pure hend
    rw [List.append_nil]
    exact ⟨Or.inr htried, Or.inl ⟨_, hr, rfl, Nat.pos_of_ne_zero hpos⟩⟩

end Sent

/-! ## §5. The `wake` subcommand. -/

/-- `Command::Wake`. -/
structure WakeArgs where
  mac : String
  port : UInt16 := 9
  broadcast : Option String := none

/-- `kube-hardware-autoscaler`, called with `args`, which `clap` reads. -/
def wakeCommand (clap : List String → Option WakeArgs) (args : List String) : UdpSession Unit :=
  match clap args with
  | none => throw "usage"
  | some a =>
    match parseMac a.mac with
    | none => throw "invalid --mac"
    | some macBytes => do
      let ts ← targets a.broadcast a.port
      let _ ← send macBytes ts 3
      pure ()

/-- What is relied on: an option is set by its name and the value after it,
unless the value starts with a dash. -/
structure ReadsOptions (clap : List String → Option WakeArgs) : Prop where
  port : ∀ mac p (port : UInt16), ¬ Dashed mac → ¬ Dashed p →
    fromStrRadix 10 65536 p.toList = some port.toNat →
      clap ["wake", "--mac", mac, "--port", p] = some ⟨mac, port, none⟩
  broadcast : ∀ mac p (port : UInt16) b, ¬ Dashed mac → ¬ Dashed p → ¬ Dashed b →
    fromStrRadix 10 65536 p.toList = some port.toNat →
      clap ["wake", "--mac", mac, "--port", p, "--broadcast", b] = some ⟨mac, port, some b⟩

/-- The options after the subcommand, each at most once. -/
def optionsFrom : List String → Option String → Option UInt16 → Option String → Option WakeArgs
  | [], some mac, port, broadcast => some ⟨mac, port.getD 9, broadcast⟩
  | name :: value :: rest, mac, port, broadcast =>
    if value.toList.head? = some '-' then none
    else if name = "--mac" ∧ mac = none then optionsFrom rest (some value) port broadcast
    else if name = "--port" ∧ port = none then
      (fromStrRadix 10 65536 value.toList).bind (fun p =>
        optionsFrom rest mac (some (UInt16.ofNat p)) broadcast)
    else if name = "--broadcast" ∧ broadcast = none then optionsFrom rest mac port (some value)
    else none
  | _, _, _, _ => none

/-- The options of `wake`, as they are written. -/
def wakeOptions (args : List String) : Option WakeArgs :=
  if args.head? = some "wake" then optionsFrom args.tail none none none else none

theorem not_dashed_head {s : String} (h : ¬ Dashed s) : s.toList.head? ≠ some '-' := by
  intro he
  obtain ⟨cs, hcs⟩ := List.head?_eq_some_iff.mp he
  exact h ⟨cs, hcs⟩

/-- The options are read back. -/
theorem wakeOptions_reads : ReadsOptions wakeOptions := by
  refine ⟨fun mac p port hmac hp hport => ?_, fun mac p port b hmac hp hb hport => ?_⟩
  · simp [wakeOptions, optionsFrom, not_dashed_head hmac, not_dashed_head hp, hport]
  · simp [wakeOptions, optionsFrom, not_dashed_head hmac, not_dashed_head hp, not_dashed_head hb,
      hport]

section Runs

variable {s s' : Unit} {d : List (Exchange UdpCall.Answer)} {explicit : Option String}
  {port : UInt16}

/-- **The targets** have the port, and the address if one is configured; nothing
is sent yet. -/
theorem targets_run {r : Except String (List SocketAddr)}
    (h : (targets explicit port).Says s d r s') :
    d.filterMap tried = [] ∧ d.filterMap sent = [] ∧
      ((∀ b ∈ explicit, (parseIpv4 b).isSome = true) → ∃ ts, r = .ok ts) ∧
      ∀ ts, r = .ok ts → ∀ t ∈ ts, t.port = port ∧ ∀ b ∈ explicit, parseIpv4 b = some t.ip := by
  unfold targets at h
  cases explicit with
  | none =>
    -- without an address the local networks are asked for
    rcases says_session h with ⟨e, hask, _⟩ | ⟨d₁, d₂, answer, s₁, rfl, hask, hend⟩
    · obtain ⟨a, _, ha, _⟩ := says_ask hask
      cases ha
    · obtain ⟨a, rfl, _, _⟩ := says_ask hask
      obtain ⟨rfl, hr, _⟩ := says_pure hend
      refine ⟨rfl, rfl, fun _ => ⟨_, hr⟩, fun ts hts t ht => ?_⟩
      rw [hr] at hts
      cases hts
      obtain ⟨ip, _, rfl⟩ := List.mem_map.mp ht
      exact ⟨rfl, fun b hb => by cases hb⟩
  | some addr =>
    simp only at h
    split at h
    · -- an address given is the only target
      rename_i ip hip
      obtain ⟨rfl, hr, _⟩ := says_pure h
      refine ⟨rfl, rfl, fun _ => ⟨_, hr⟩, fun ts hts t ht => ?_⟩
      rw [hr] at hts
      cases hts
      rw [List.mem_singleton.mp ht]
      refine ⟨rfl, fun b hb => ?_⟩
      cases hb
      exact hip
    · rename_i hnone
      obtain ⟨rfl, hr, _⟩ := says_throw h
      refine ⟨rfl, rfl, fun hread => ?_, fun ts hts => ?_⟩
      · have hsome := hread addr rfl
        rw [hnone] at hsome
        cases hsome
      · rw [hr] at hts
        cases hts

/-- What is given to the socket is for the card, and goes to the targets. -/
theorem send_tried {mac : Vector UInt8 6} {ts : List SocketAddr} {repeats : Nat}
    {r : Except String Nat} (h : (send mac ts repeats).Says s d r s') :
    ∀ x ∈ d.filterMap tried, x.1 = magicPacket mac ∧ x.2 ∈ ts := by
  intro x hx
  rcases (send_run h).1 with hnone | hall
  · rw [hnone] at hx
    cases hx
  · rw [hall] at hx
    obtain ⟨l, hl, hx⟩ := List.mem_flatten.mp hx
    rw [List.eq_of_mem_replicate hl] at hx
    obtain ⟨t, ht, rfl⟩ := List.mem_map.mp hx
    exact ⟨rfl, ht⟩

/-- It succeeds if and only if a packet leaves. -/
theorem send_isOk {mac : Vector UInt8 6} {ts : List SocketAddr} {repeats : Nat}
    {r : Except String Nat} (h : (send mac ts repeats).Says s d r s') :
    (∃ n, r = .ok n) ↔ d.filterMap sent ≠ [] := by
  rcases (send_run h).2 with ⟨n, hr, hn, hpos⟩ | ⟨e, hr, hnone⟩
  · rw [hn] at hpos
    exact ⟨fun _ => List.ne_nil_of_length_pos hpos, fun _ => ⟨n, hr⟩⟩
  · constructor
    · rintro ⟨n, hn⟩
      rw [hr] at hn
      cases hn
    · intro hne
      exact absurd hnone hne

end Runs

end HardwareAutoscaler.Wake
