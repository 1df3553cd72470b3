/-
  HardwareAutoscaler.Drivers.JetKvm
  ─────────────────────────────────
  BROKER URLS (`src/drivers/jetkvm.rs`, `parse_broker`).

  A host is cut from its port at the last colon, also when the host has colons
  of its own and no brackets; the port is read with a plus sign, if any.

    • `parseBroker` — the code,
    • `BrokerText` — the URLs of a broker, and what they say,
    • `Misread` — the other URLs that are accepted,
    • `parseBroker_ok` — what the code accepts,
    • `parseBroker_iff` — the URLs from which the code reads what they say;
      every URL of a broker is accepted.
-/
import HardwareAutoscaler.Lib.Text
import HardwareAutoscaler.Drivers.Chain

namespace HardwareAutoscaler

open Lib (Numeral fromStrRadix splitOnce rsplitOnce)

/-! ## §1. The code. -/

/-- The schemes, whether they mean TLS, and their ports. -/
def brokerSchemes : List (String × Bool × UInt16) :=
  [("mqtts://", true, 8883), ("ssl://", true, 8883), ("mqtt://", false, 1883),
    ("tcp://", false, 1883)]

/-- `strip_prefix` with each scheme: what follows it. -/
def stripScheme (url : List Char) : Option (Bool × List Char × UInt16) :=
  brokerSchemes.findSome? (fun scheme =>
    (url.dropPrefix? scheme.1.toList).map (fun rest => (scheme.2.1, rest, scheme.2.2)))

/-- `str::parse::<u16>`. -/
def parsePort (p : List Char) : Option UInt16 := (fromStrRadix 10 65536 p).map UInt16.ofNat

/-- Host and port of `[addr]`, or of `[addr]:port`. -/
def parseBracketed (bracketed : List Char) (defaultPort : UInt16) :
    Option (List Char × UInt16) :=
  match splitOnce ']' bracketed with
  | none => none
  | some (h, after) =>
    match after.dropPrefix? [':'] with
    | some p => (parsePort p).map (fun port => (h, port))
    | none => if after.isEmpty then some (h, defaultPort) else none

/-- Host and port; `none` for a bad port. -/
def parseAuthority (rest : List Char) (defaultPort : UInt16) : Option (List Char × UInt16) :=
  match rest.dropPrefix? ['['] with
  | some bracketed => parseBracketed bracketed defaultPort
  | none =>
    match rsplitOnce ':' rest with
    | some (h, p) => (parsePort p).map (fun port => (h, port))
    | none => some (rest, defaultPort)

/-- `parse_broker`: host, port and whether TLS is used. -/
def parseBroker (url : String) : Except String (String × UInt16 × Bool) :=
  match stripScheme url.toList with
  | none => .error (configError s!"broker must be an mqtt:// or mqtts:// URL: {url}")
  | some (tls, rest, defaultPort) =>
    match parseAuthority (rest.rdropWhile (· == '/')) defaultPort with
    | none => .error (configError s!"invalid broker port in {url}")
    | some (host, port) =>
      if host.isEmpty then .error (configError s!"broker URL has no host: {url}")
      else .ok (String.ofList host, port, tls)

/-! ## §2. The URLs of a broker. -/

/-- A port in decimal after a colon, or none for the default one. -/
def PortText (defaultPort : UInt16) (t : List Char) (port : UInt16) : Prop :=
  (t = [] ∧ port = defaultPort) ∨ ∃ ds, t = ':' :: ds ∧ Numeral 10 ds port.toNat

/-- A host as it is written: in brackets, or a name without a colon. What else
is asked of a name is left open; the code asks nothing. -/
def HostText (name : List Char → Prop) (t host : List Char) : Prop :=
  (t = host ∧ ':' ∉ host ∧ host.head? ≠ some '[' ∧ name host) ∨
    (t = '[' :: (host ++ [']']) ∧ ']' ∉ host)

/-- **The URL of a broker**: a scheme, a host, perhaps a port, and slashes. -/
def BrokerText (name : List Char → Prop) (url host : String) (port : UInt16) (tls : Bool) :
    Prop :=
  ∃ scheme defaultPort hostText portText slashes,
    (scheme, tls, defaultPort) ∈ brokerSchemes ∧
      url.toList = scheme.toList ++ (hostText ++ (portText ++ slashes)) ∧
      HostText name hostText host.toList ∧ host.toList ≠ [] ∧
      PortText defaultPort portText port ∧ ∀ c ∈ slashes, c = '/'

/-! ## §3. What the code accepts. -/

/-- What is taken for a port: a numeral, or a plus sign and a numeral. -/
def PortRead (ds : List Char) (port : UInt16) : Prop :=
  Numeral 10 ds port.toNat ∨ ∃ t, ds = '+' :: t ∧ Numeral 10 t port.toNat

/-- What is taken for host and port. The colon before the port is the last one. -/
def AuthorityRead (defaultPort : UInt16) (rest host : List Char) (port : UInt16) : Prop :=
  (∃ t, rest = '[' :: (host ++ ']' :: t) ∧ ']' ∉ host ∧
      ((t = [] ∧ port = defaultPort) ∨ ∃ ds, t = ':' :: ds ∧ PortRead ds port)) ∨
    (rest.head? ≠ some '[' ∧ ((':' ∉ rest ∧ rest = host ∧ port = defaultPort) ∨
      ∃ ds, rest = host ++ ':' :: ds ∧ PortRead ds port))

section Parts

variable {url rest host ds : List Char} {defaultPort port : UInt16} {tls : Bool}

/-- A prefix is dropped if it is one. -/
theorem dropPrefix_iff {p s l : List Char} : s.dropPrefix? p = some l ↔ s = p ++ l := by
  rw [List.dropPrefix?_eq_some_iff]
  constructor
  · rintro ⟨p', hs, hp⟩
    rw [hs, eq_of_beq hp]
  · intro hs
    exact ⟨p, hs, beq_self_eq_true p⟩

theorem dropPrefix_none {c : Char} {s : List Char} :
    s.dropPrefix? [c] = none ↔ s.head? ≠ some c := by
  constructor
  · intro h hc
    obtain ⟨l, rfl⟩ := List.head?_eq_some_iff.mp hc
    rw [dropPrefix_iff.mpr (List.singleton_append (x := c) (l := l)).symm] at h
    cases h
  · intro hc
    cases h : s.dropPrefix? [c] with
    | none => rfl
    | some l =>
      rw [dropPrefix_iff.mp h] at hc
      exact absurd rfl hc

/-- No scheme begins another. -/
theorem scheme_unique : ∀ s ∈ brokerSchemes, ∀ t ∈ brokerSchemes,
    s.1.toList.isPrefixOf t.1.toList = true → s = t := by
  decide

/-- The schemes are told apart. -/
theorem eq_of_schemes {s t : String × Bool × UInt16} {l r : List Char} (hs : s ∈ brokerSchemes)
    (ht : t ∈ brokerSchemes) (h : s.1.toList ++ l = t.1.toList ++ r) : s = t ∧ l = r := by
  have hst : s = t := by
    rcases List.prefix_or_prefix_of_prefix (List.prefix_append s.1.toList l)
      (h ▸ List.prefix_append t.1.toList r) with hp | hp
    · exact scheme_unique s hs t ht (List.isPrefixOf_iff_prefix.mpr hp)
    · exact (scheme_unique t ht s hs (List.isPrefixOf_iff_prefix.mpr hp)).symm
  refine ⟨hst, ?_⟩
  rw [hst] at h
  exact List.append_cancel_left h

/-- **What follows the scheme.** -/
theorem stripScheme_iff : stripScheme url = some (tls, rest, defaultPort) ↔
    ∃ scheme, (scheme, tls, defaultPort) ∈ brokerSchemes ∧ url = scheme.toList ++ rest := by
  unfold stripScheme
  constructor
  · intro h
    obtain ⟨s, hs, hmap⟩ := List.exists_of_findSome?_eq_some h
    obtain ⟨l, hl, heq⟩ := Option.map_eq_some_iff.mp hmap
    cases heq
    exact ⟨s.1, hs, dropPrefix_iff.mp hl⟩
  · rintro ⟨scheme, hmem, hurl⟩
    cases hfind : List.findSome? _ brokerSchemes with
    | none =>
      have hnone := List.findSome?_eq_none_iff.mp hfind _ hmem
      rw [dropPrefix_iff.mpr hurl] at hnone
      cases hnone
    | some r =>
      obtain ⟨s, hs, hmap⟩ := List.exists_of_findSome?_eq_some hfind
      obtain ⟨l, hl, heq⟩ := Option.map_eq_some_iff.mp hmap
      have hl' := dropPrefix_iff.mp hl
      obtain ⟨rfl, rfl⟩ := eq_of_schemes hs hmem (hl'.symm.trans hurl)
      rw [← heq]

/-- A port is a number below 65536. -/
theorem parsePort_iff : parsePort ds = some port ↔ PortRead ds port := by
  unfold parsePort
  rw [Option.map_eq_some_iff]
  constructor
  · rintro ⟨n, hn, rfl⟩
    obtain ⟨hread, hlt⟩ := (Lib.fromStrRadix_iff (by decide) (by decide)).mp hn
    have htoNat : (UInt16.ofNat n).toNat = n := UInt16.toNat_ofNat_of_lt hlt
    unfold PortRead
    rw [htoNat]
    exact hread
  · intro hread
    exact ⟨port.toNat, (Lib.fromStrRadix_iff (by decide) (by decide)).mpr
      ⟨hread, port.toNat_lt⟩, UInt16.ofNat_toNat⟩

/-- A port has no colon in it. -/
theorem PortRead.no_colon (h : PortRead ds port) : ':' ∉ ds := by
  have hdigit : Lib.toDigit 10 ':' = none := rfl
  rcases h with h | ⟨t, rfl, h⟩
  · exact h.not_mem hdigit
  · rw [List.mem_cons, not_or]
    exact ⟨by decide, h.not_mem hdigit⟩

/-- A host in brackets, and its port. -/
theorem parseBracketed_iff {bracketed : List Char} :
    parseBracketed bracketed defaultPort = some (host, port) ↔
      ∃ t, bracketed = host ++ ']' :: t ∧ ']' ∉ host ∧
        ((t = [] ∧ port = defaultPort) ∨ ∃ ds, t = ':' :: ds ∧ PortRead ds port) := by
  unfold parseBracketed
  constructor
  · intro h
    split at h
    · cases h
    · rename_i h' after hsplit
      obtain ⟨hb, hh⟩ := Lib.splitOnce_iff.mp hsplit
      split at h
      · rename_i p hp
        obtain ⟨port', hport, heq⟩ := Option.map_eq_some_iff.mp h
        cases heq
        exact ⟨after, hb, hh, Or.inr ⟨p, dropPrefix_iff.mp hp, parsePort_iff.mp hport⟩⟩
      · split at h
        · rename_i hempty
          cases h
          exact ⟨after, hb, hh, Or.inl ⟨List.isEmpty_iff.mp hempty, rfl⟩⟩
        · cases h
  · rintro ⟨t, hb, hh, hport⟩
    rw [Lib.splitOnce_iff.mpr ⟨hb, hh⟩]
    rcases hport with ⟨rfl, rfl⟩ | ⟨ds, rfl, hread⟩
    · rfl
    · show (match (':' :: ds).dropPrefix? [':'] with | some p => _ | none => _) = _
      rw [dropPrefix_iff.mpr (List.singleton_append (x := ':') (l := ds)).symm]
      show (parsePort ds).map _ = _
      rw [parsePort_iff.mpr hread]
      rfl

/-- **Host and port.** -/
theorem parseAuthority_iff : parseAuthority rest defaultPort = some (host, port) ↔
    AuthorityRead defaultPort rest host port := by
  unfold parseAuthority AuthorityRead
  cases hb : rest.dropPrefix? ['['] with
  | some bracketed =>
    have hrest := dropPrefix_iff.mp hb
    show parseBracketed bracketed defaultPort = _ ↔ _
    rw [parseBracketed_iff]
    constructor
    · rintro ⟨t, rfl, hh, hport⟩
      exact Or.inl ⟨t, hrest, hh, hport⟩
    · rintro (⟨t, ht, hh, hport⟩ | ⟨hhead, _⟩)
      · rw [hrest] at ht
        exact ⟨t, (List.cons.inj ht).2, hh, hport⟩
      · rw [hrest] at hhead
        exact absurd rfl hhead
  | none =>
    have hhead := dropPrefix_none.mp hb
    -- no bracket: the port is what stands after the last colon, if there is one
    show (match rsplitOnce ':' rest with
      | some (h, p) => (parsePort p).map (fun port => (h, port))
      | none => some (rest, defaultPort)) = _ ↔ _
    constructor
    · intro h
      refine Or.inr ⟨hhead, ?_⟩
      split at h
      · rename_i h' p hsplit
        obtain ⟨port', hport, heq⟩ := Option.map_eq_some_iff.mp h
        cases heq
        exact Or.inr ⟨p, (Lib.rsplitOnce_iff.mp hsplit).1, parsePort_iff.mp hport⟩
      · rename_i hsplit
        cases h
        exact Or.inl ⟨Lib.rsplitOnce_eq_none.mp hsplit, rfl, rfl⟩
    · rintro (⟨t, rfl, _⟩ | ⟨_, ⟨hcolon, rfl, rfl⟩ | ⟨ds, hrest, hread⟩⟩)
      · exact absurd rfl hhead
      · rw [Lib.rsplitOnce_eq_none.mpr hcolon]
      · rw [Lib.rsplitOnce_iff.mpr ⟨hrest, hread.no_colon⟩]
        show (parsePort ds).map _ = _
        rw [parsePort_iff.mpr hread]
        rfl

end Parts

section Broker

variable {url host : String} {port : UInt16} {tls : Bool}

/-- A URL is a scheme, then what does not end in a slash, then slashes. -/
def BrokerParts (url : String) (tls : Bool) (defaultPort : UInt16) (rest : List Char) : Prop :=
  ∃ scheme slashes, (scheme, tls, defaultPort) ∈ brokerSchemes ∧
    url.toList = scheme.toList ++ (rest ++ slashes) ∧ (∀ c ∈ slashes, c = '/') ∧
      rest.getLast? ≠ some '/'

/-- Slashes at the end are dropped. -/
theorem trim_slashes {rest slashes : List Char} (hslash : ∀ c ∈ slashes, c = '/')
    (hlast : rest.getLast? ≠ some '/') : (rest ++ slashes).rdropWhile (· == '/') = rest := by
  refine Lib.rdropWhile_append (fun c hc => by rw [hslash c hc]; rfl) ?_
  intro c hc
  exact beq_false_of_ne (fun he => hlast (he ▸ hc))

/-- What is dropped is slashes. -/
theorem exists_trim (s : List Char) : ∃ slashes, s = s.rdropWhile (· == '/') ++ slashes ∧
    (∀ c ∈ slashes, c = '/') ∧ (s.rdropWhile (· == '/')).getLast? ≠ some '/' := by
  refine ⟨s.rtakeWhile (· == '/'), (List.rdropWhile_append_rtakeWhile ..).symm, ?_, ?_⟩
  · intro c hc
    exact eq_of_beq (List.mem_rtakeWhile_imp (p := fun c : Char => c == '/') hc)
  · intro hlast
    have hnot := Lib.rdropWhile_getLast (fun c : Char => c == '/') s _ hlast
    cases hnot

/-- **What the code accepts.** -/
theorem parseBroker_ok : parseBroker url = .ok (host, port, tls) ↔
    ∃ defaultPort rest, BrokerParts url tls defaultPort rest ∧
      AuthorityRead defaultPort rest host.toList port ∧ host.toList ≠ [] := by
  unfold parseBroker
  constructor
  · intro h
    split at h
    · cases h
    · rename_i tls' rest defaultPort hscheme
      obtain ⟨scheme, hmem, hurl⟩ := stripScheme_iff.mp hscheme
      -- the authority must be read, and its host must not be empty
      split at h
      · cases h
      · rename_i host' port' hread
        split at h
        · cases h
        · rename_i hne
          cases h
          obtain ⟨slashes, hrest, hslash, hlast⟩ := exists_trim rest
          refine ⟨defaultPort, _, ⟨scheme, slashes, hmem, hrest ▸ hurl, hslash, hlast⟩, ?_, ?_⟩
          · rw [String.toList_ofList]
            exact parseAuthority_iff.mp hread
          · rw [String.toList_ofList]
            exact fun he => hne (List.isEmpty_iff.mpr he)
  · rintro ⟨defaultPort, rest, ⟨scheme, slashes, hmem, hurl, hslash, hlast⟩, hread, hne⟩
    rw [stripScheme_iff.mpr ⟨scheme, hmem, hurl⟩]
    show (match parseAuthority ((rest ++ slashes).rdropWhile (· == '/')) defaultPort with
      | none => _ | some (host, port) => _) = _
    rw [trim_slashes hslash hlast, parseAuthority_iff.mpr hread]
    show (if host.toList.isEmpty then _ else _) = _
    rw [if_neg (fun he => hne (List.isEmpty_iff.mp he)), String.ofList_toList]

end Broker

/-! ## §4. What the code misreads. -/

/-- Host and port that are accepted, and not the ones of a broker: a name with
a colon in it, or one that is not a host's for another reason, and a port with
a plus sign. -/
def MisreadAuthority (name : List Char → Prop) (rest : List Char) : Prop :=
  (rest ≠ [] ∧ rest.head? ≠ some '[' ∧ ':' ∉ rest ∧ ¬ name rest) ∨
    (∃ x ds port, rest = x ++ ':' :: ds ∧ x ≠ [] ∧ x.head? ≠ some '[' ∧ PortRead ds port ∧
      (':' ∈ x ∨ ¬ name x ∨ ds.head? = some '+')) ∨
    ∃ x ds port, rest = '[' :: (x ++ ']' :: ':' :: ds) ∧ x ≠ [] ∧ ']' ∉ x ∧ PortRead ds port ∧
      ds.head? = some '+'

/-- A URL whose host and port are accepted, and are not those of a broker. -/
def Misread (name : List Char → Prop) (url : String) : Prop :=
  ∃ tls defaultPort rest, BrokerParts url tls defaultPort rest ∧ MisreadAuthority name rest

section Misread

variable {name : List Char → Prop} {url host : String} {rest hostText portText : List Char}
  {defaultPort port : UInt16} {tls tls' : Bool}

theorem PortRead.numeral {ds : List Char} (h : PortRead ds port) (hplus : ds.head? ≠ some '+') :
    Numeral 10 ds port.toNat := by
  rcases h with h | ⟨t, rfl, _⟩
  · exact h
  · exact absurd rfl hplus

/-- The parts of a broker's URL make it. -/
theorem brokerText_of_parts (hparts : BrokerParts url tls defaultPort (hostText ++ portText))
    (hhost : HostText name hostText host.toList) (hne : host.toList ≠ [])
    (hport : PortText defaultPort portText port) : BrokerText name url host port tls := by
  obtain ⟨scheme, slashes, hmem, hurl, hslash, _⟩ := hparts
  rw [List.append_assoc] at hurl
  exact ⟨scheme, defaultPort, hostText, portText, slashes, hmem, hurl, hhost, hne, hport, hslash⟩

/-- A broker's URL has these parts alone. -/
theorem BrokerText.parts (h : BrokerText name url host port tls)
    (hparts : BrokerParts url tls' defaultPort rest) :
    tls = tls' ∧ ∃ hostText portText slashes slashes',
      rest ++ slashes' = hostText ++ (portText ++ slashes) ∧
        HostText name hostText host.toList ∧ PortText defaultPort portText port ∧
          ∀ c ∈ slashes, c = '/' := by
  obtain ⟨scheme, dp, hostText, portText, slashes, hmem, hurl, hhost, _, hport, hslash⟩ := h
  obtain ⟨scheme', slashes', hmem', hurl', _, _⟩ := hparts
  obtain ⟨heq, hrest⟩ := eq_of_schemes hmem hmem' (hurl.symm.trans hurl')
  cases heq
  exact ⟨rfl, hostText, portText, slashes, slashes', hrest.symm, hhost, hport, hslash⟩

/-- Outside the misread ones, what is accepted is what is written. -/
theorem text_of_read (hparts : BrokerParts url tls defaultPort rest)
    (hread : AuthorityRead defaultPort rest host.toList port) (hne : host.toList ≠ [])
    (hok : ¬ MisreadAuthority name rest) : BrokerText name url host port tls := by
  rcases hread with ⟨t, rfl, hclose, hport⟩ | ⟨hhead, ⟨hcolon, hrest, hdef⟩ | ⟨ds, rfl, hds⟩⟩
  · have hsplit : '[' :: (host.toList ++ ']' :: t) = '[' :: (host.toList ++ [']']) ++ t := by
      rw [List.cons_append, List.append_assoc, List.singleton_append]
    refine brokerText_of_parts (hsplit ▸ hparts) (Or.inr ⟨rfl, hclose⟩) hne ?_
    rcases hport with hport | ⟨ds, rfl, hds⟩
    · exact Or.inl hport
    · exact Or.inr ⟨ds, rfl, hds.numeral (fun hplus =>
        hok (Or.inr (Or.inr ⟨_, ds, port, rfl, hne, hclose, hds, hplus⟩)))⟩
  · subst hrest
    have hname : name host.toList :=
      Classical.byContradiction (fun hn => hok (Or.inl ⟨hne, hhead, hcolon, hn⟩))
    rw [← List.append_nil host.toList] at hparts
    exact brokerText_of_parts hparts (Or.inl ⟨rfl, hcolon, hhead, hname⟩) hne (Or.inl ⟨rfl, hdef⟩)
  · have hhead' : host.toList.head? ≠ some '[' := by
      rwa [List.head?_append_of_ne_nil _ hne] at hhead
    have hall : ¬ (':' ∈ host.toList ∨ ¬ name host.toList ∨ ds.head? = some '+') :=
      fun h => hok (Or.inr (Or.inl ⟨_, ds, port, rfl, hne, hhead', hds, h⟩))
    rw [not_or, not_or, not_not] at hall
    exact brokerText_of_parts hparts (Or.inl ⟨rfl, hall.1, hhead', hall.2.1⟩) hne
      (Or.inr ⟨ds, rfl, hds.numeral hall.2.2⟩)

/-- No port that is written begins with a plus sign. -/
theorem portText_not_plus {ds slashes slashes' : List Char} (hplus : ds.head? = some '+')
    (hport : PortText defaultPort portText port) (hslash : ∀ c ∈ slashes, c = '/') :
    ':' :: (ds ++ slashes') ≠ portText ++ slashes := by
  intro heq
  obtain ⟨t, rfl⟩ := List.head?_eq_some_iff.mp hplus
  rcases hport with ⟨rfl, _⟩ | ⟨ds', rfl, hnum⟩
  · rw [List.nil_append] at heq
    have hcolon := hslash ':' (heq ▸ List.mem_cons_self)
    exact absurd hcolon (by decide)
  · cases ds' with
    | nil => exact hnum.1 rfl
    | cons d ds' =>
      have hhead := (List.cons.inj (List.cons.inj heq).2).1
      rw [← hhead] at hnum
      exact Lib.not_numeral_plus hnum

/-- Whether a host is in brackets is seen from its first character. -/
theorem BrokerText.firstChar (h : BrokerText name url host port tls) (hne : host.toList ≠ [])
    (hparts : BrokerParts url tls' defaultPort rest) (hrest : rest ≠ []) :
    ∃ portText slashes slashes', PortText defaultPort portText port ∧ (∀ c ∈ slashes, c = '/') ∧
      ((rest ++ slashes' = host.toList ++ (portText ++ slashes) ∧ rest.head? ≠ some '[' ∧
          ':' ∉ host.toList ∧ name host.toList) ∨
        (rest ++ slashes' = '[' :: (host.toList ++ [']'] ++ (portText ++ slashes)) ∧
          rest.head? = some '[')) := by
  obtain ⟨_, hostText, portText, slashes, slashes', heq, hhost, hport, hslash⟩ := h.parts hparts
  refine ⟨portText, slashes, slashes', hport, hslash, ?_⟩
  have hhead : rest.head? = (hostText ++ (portText ++ slashes)).head? := by
    rw [← heq, List.head?_append_of_ne_nil _ hrest]
  rcases hhost with ⟨rfl, hcolon, hhead', hname⟩ | ⟨rfl, _⟩
  · rw [List.head?_append_of_ne_nil _ hne] at hhead
    exact Or.inl ⟨heq, hhead ▸ hhead', hcolon, hname⟩
  · exact Or.inr ⟨heq, hhead⟩

/-- What is misread is accepted, and is not what is written. -/
theorem not_text_of_misread (hparts : BrokerParts url tls defaultPort rest)
    (hmis : MisreadAuthority name rest) :
    ∃ host port, AuthorityRead defaultPort rest host.toList port ∧ host.toList ≠ [] ∧
      ¬ BrokerText name url host port tls := by
  have hstring : ∀ x : List Char, ∃ host : String, host.toList = x :=
    fun x => ⟨String.ofList x, String.toList_ofList⟩
  rcases hmis with ⟨hne, hhead, hcolon, hname⟩ | ⟨x, ds, port, rfl, hne, hhead, hds, hwhy⟩ |
    ⟨x, ds, port, rfl, hne, hclose, hds, hplus⟩
  · -- a name without a port
    obtain ⟨host, rfl⟩ := hstring rest
    refine ⟨host, defaultPort, Or.inr ⟨hhead, Or.inl ⟨hcolon, rfl, rfl⟩⟩, hne, fun htext => ?_⟩
    obtain ⟨_, _, _, _, _, ⟨_, _, _, hname'⟩ | ⟨_, hhead'⟩⟩ := htext.firstChar hne hparts hne
    · exact hname hname'
    · exact hhead hhead'
  · -- a name with a port
    obtain ⟨host, rfl⟩ := hstring x
    have hhead' : (host.toList ++ ':' :: ds).head? ≠ some '[' := by
      rwa [List.head?_append_of_ne_nil _ hne]
    refine ⟨host, port, Or.inr ⟨hhead', Or.inr ⟨ds, rfl, hds⟩⟩, hne, fun htext => ?_⟩
    obtain ⟨portText, slashes, slashes', hport, hslash, ⟨heq, _, hcolon, hname⟩ | ⟨_, hbracket⟩⟩ :=
      htext.firstChar hne hparts (List.append_ne_nil_of_left_ne_nil hne _)
    · rcases hwhy with hc | hn | hplus
      · exact hcolon hc
      · exact hn hname
      · rw [List.append_assoc, List.cons_append] at heq
        exact portText_not_plus hplus hport hslash (List.append_cancel_left heq)
    · exact hhead' hbracket
  · -- an address in brackets
    obtain ⟨host, rfl⟩ := hstring x
    refine ⟨host, port, Or.inl ⟨_, rfl, hclose, Or.inr ⟨ds, rfl, hds⟩⟩, hne, fun htext => ?_⟩
    obtain ⟨portText, slashes, slashes', hport, hslash, ⟨_, hhead, _⟩ | ⟨heq, _⟩⟩ :=
      htext.firstChar hne hparts (List.cons_ne_nil _ _)
    · exact hhead rfl
    · rw [List.cons_append, List.append_assoc, List.append_assoc, List.cons_append,
        List.singleton_append] at heq
      have hcancel := (List.cons.inj heq).2
      exact portText_not_plus hplus hport hslash
        (List.cons.inj (List.append_cancel_left hcancel)).2

/-- A host without slashes, and perhaps a port, ends in no slash. -/
theorem getLast_of_text (hhost : HostText (fun h => '/' ∉ h) hostText host.toList)
    (hport : PortText defaultPort portText port) :
    (hostText ++ portText).getLast? ≠ some '/' := by
  have hslash : Lib.toDigit 10 '/' = none := rfl
  intro hlast
  rcases hport with ⟨rfl, _⟩ | ⟨ds, rfl, hnum⟩
  · rw [List.append_nil] at hlast
    rcases hhost with ⟨rfl, _, _, hname⟩ | ⟨rfl, _⟩
    · exact hname (List.mem_of_getLast? hlast)
    · rw [← List.cons_append, List.getLast?_concat] at hlast
      cases hlast
  · rw [List.append_cons, List.getLast?_append_of_ne_nil _ hnum.1] at hlast
    exact hnum.not_mem hslash (List.mem_of_getLast? hlast)

/-- What is written is read. -/
theorem read_of_text (hhost : HostText name hostText host.toList) (hne : host.toList ≠ [])
    (hport : PortText defaultPort portText port) :
    AuthorityRead defaultPort (hostText ++ portText) host.toList port := by
  rcases hhost with ⟨rfl, hcolon, hhead, _⟩ | ⟨rfl, hclose⟩
  · refine Or.inr ⟨?_, ?_⟩
    · rwa [List.head?_append_of_ne_nil _ hne]
    · rcases hport with ⟨rfl, hdef⟩ | ⟨ds, rfl, hnum⟩
      · exact Or.inl ⟨by rwa [List.append_nil], List.append_nil _, hdef⟩
      · exact Or.inr ⟨ds, rfl, Or.inl hnum⟩
  · refine Or.inl ⟨portText, ?_, hclose, ?_⟩
    · rw [List.cons_append, List.append_assoc, List.singleton_append]
    · rcases hport with hdef | ⟨ds, rfl, hnum⟩
      · exact Or.inl hdef
      · exact Or.inr ⟨ds, rfl, Or.inl hnum⟩

end Misread

/-- **What is read from the URL of a broker.** The host and the port are the
ones written exactly if the URL is none of the misread ones, whatever else one
asks of a name; and what is written without a slash in a name is accepted. -/
theorem parseBroker_iff (name : List Char → Prop) (url : String) :
    ((∀ host port tls, parseBroker url = .ok (host, port, tls) →
        BrokerText name url host port tls) ↔ ¬ Misread name url) ∧
      ∀ host port tls, BrokerText (fun h => '/' ∉ h) url host port tls →
        parseBroker url = .ok (host, port, tls) := by
  refine ⟨⟨?_, ?_⟩, ?_⟩
  · rintro hall ⟨tls, defaultPort, rest, hparts, hmis⟩
    obtain ⟨host, port, hread, hne, hnot⟩ := not_text_of_misread hparts hmis
    exact hnot (hall host port tls (parseBroker_ok.mpr ⟨defaultPort, rest, hparts, hread, hne⟩))
  · intro hok host port tls h
    obtain ⟨defaultPort, rest, hparts, hread, hne⟩ := parseBroker_ok.mp h
    exact text_of_read hparts hread hne
      (fun hmis => hok ⟨tls, defaultPort, rest, hparts, hmis⟩)
  · rintro host port tls ⟨scheme, defaultPort, hostText, portText, slashes, hmem, hurl, hhost,
      hne, hport, hslash⟩
    rw [← List.append_assoc hostText] at hurl
    exact parseBroker_ok.mpr ⟨defaultPort, hostText ++ portText,
      ⟨scheme, slashes, hmem, hurl, hslash, getLast_of_text hhost hport⟩,
      read_of_text hhost hne hport, hne⟩

/-- An address without brackets is cut at its last colon, and a plus sign
before a port is read over. -/
theorem unbracketed_address_split :
    parseBroker "mqtt://fd00::1" = .ok ("fd00:", 1, false) ∧
      ¬ BrokerText (fun _ => True) "mqtt://fd00::1" "fd00:" 1 false ∧
    parseBroker "mqtt://h:+80" = .ok ("h", 80, false) ∧
      ¬ BrokerText (fun _ => True) "mqtt://h:+80" "h" 80 false := by
  have hparts : ∀ {url : String} {rest : List Char}, url.toList = "mqtt://".toList ++ rest →
      rest.getLast? ≠ some '/' → BrokerParts url false 1883 rest := by
    intro url rest hurl hlast
    refine ⟨"mqtt://", [], by decide, ?_, ?_, hlast⟩
    · rw [hurl, List.append_nil]
    · exact fun _ hc => absurd hc List.not_mem_nil
  refine ⟨by decide, ?_, by decide, ?_⟩
  · intro htext
    obtain ⟨_, _, _, _, _, ⟨_, _, hcolon, _⟩ | ⟨_, hhead⟩⟩ := htext.firstChar (by decide)
      (hparts (show _ = _ ++ "fd00::1".toList from rfl) (by decide)) (by decide)
    · exact absurd hcolon (by decide)
    · exact absurd hhead (by decide)
  · intro htext
    obtain ⟨portText, slashes, slashes', hport, hslash, ⟨heq, _⟩ | ⟨_, hhead⟩⟩ :=
      htext.firstChar (by decide) (hparts (show _ = _ ++ "h:+80".toList from rfl) (by decide))
        (by decide)
    · exact portText_not_plus (show "+80".toList.head? = some '+' from rfl) hport hslash
        (List.cons.inj heq).2
    · exact absurd hhead (by decide)

end HardwareAutoscaler
