/-
  HardwareAutoscaler.Wake
  ───────────────────────
  WAKE-ON-LAN ADDRESSES (`src/wake.rs`): which texts are read as a MAC
  address.

  A group has to be two bytes long, and is read by `u8::from_str_radix`, which
  takes a plus sign for the first of them.

    • `parseMac` — the code,
    • `MacText` — six groups of two hexadecimal digits,
    • `SignedMac` — six groups, one or more of them a plus sign and a digit,
    • `parseMac_iff` — the texts on which the code tells MAC addresses from
      the others; every address is read back from its text.
-/
import HardwareAutoscaler.Lib.Text
import Mathlib.Algebra.Order.Ring.Int

namespace HardwareAutoscaler

open Lib (Groups Numeral toDigit fromStrRadix)

/-! ## §1. The code. -/

/-- `str::len`, in bytes. -/
def byteLen (s : List Char) : Nat := (s.map Char.utf8Size).sum

/-- What separates two groups. -/
def isMacSeparator (c : Char) : Bool := c == ':' || c == '-'

/-- One group. -/
def parseOctet (p : List Char) : Option UInt8 :=
  if byteLen p ≠ 2 then none else (fromStrRadix 16 256 p).map UInt8.ofNat

/-- Six bytes, as an array. -/
def sixBytes (bytes : List UInt8) : Option (Vector UInt8 6) :=
  if h : bytes.length = 6 then some ⟨bytes.toArray, h⟩ else none

/-- `parse_mac`: six octets with separators. -/
def parseMac (s : String) : Option (Vector UInt8 6) :=
  let parts := s.toList.splitOnP isMacSeparator
  if parts.length ≠ 6 then none else (parts.mapM parseOctet).bind sixBytes

/-! ## §2. The texts of an address. -/

/-- Two hexadecimal digits. -/
def HexPair (g : List Char) (b : UInt8) : Prop :=
  ∃ h l m n, g = [h, l] ∧ toDigit 16 h = some m ∧ toDigit 16 l = some n ∧ b.toNat = 16 * m + n

/-- A plus sign and a hexadecimal digit. -/
def SignedDigit (g : List Char) (b : UInt8) : Prop :=
  ∃ l, g = ['+', l] ∧ toDigit 16 l = some b.toNat

/-- **A MAC address**: six groups of two hexadecimal digits. -/
def MacText (s : String) (mac : Vector UInt8 6) : Prop :=
  Groups isMacSeparator HexPair s.toList mac.toList

/-- **Six groups with a sign**: each is two hexadecimal digits or a plus sign
and one, and a plus sign there is. -/
def SignedMac (s : String) : Prop :=
  ∃ mac : Vector UInt8 6,
    Groups isMacSeparator (fun g b => HexPair g b ∨ SignedDigit g b) s.toList mac.toList ∧
      '+' ∈ s.toList

/-- A hexadecimal digit. -/
def hexChar (upper : Bool) (n : Nat) : Char :=
  if upper then (Nat.digitChar n).toUpper else Nat.digitChar n

/-- `format!("{:02x}")` or `"{:02X}"` of each byte, with `sep` between two. -/
def formatMac (sep : Char) (upper : Bool) (mac : Vector UInt8 6) : String :=
  String.ofList ([sep].intercalate
    (mac.toList.map (fun b => [hexChar upper (b.toNat / 16), hexChar upper (b.toNat % 16)])))

/-! ## §3. One group. -/

variable {g : List Char} {b : UInt8}

theorem utf8Size_of_digit {c : Char} {d : Nat} (h : toDigit 16 c = some d) : c.utf8Size = 1 := by
  obtain ⟨_, hrange⟩ := Lib.toDigit_some h
  rw [Char.utf8Size_eq_one_iff, UInt32.le_iff_toNat_le]
  show c.toNat ≤ 127
  omega

/-- A numeral of two digits, or of one. -/
theorem numeral_two {h l : Char} {n : Nat} : Numeral 16 [h, l] n ↔
    ∃ x y, toDigit 16 h = some x ∧ toDigit 16 l = some y ∧ n = 16 * x + y := by
  constructor
  · rintro ⟨_, ds, hds, hn⟩
    cases hds with
    | cons hx hrest =>
      cases hrest with
      | cons hy hnil =>
        cases hnil
        rename_i x y
        refine ⟨x, y, hx, hy, ?_⟩
        rw [← hn]
        show (0 * 16 + x) * 16 + y = _
        omega
  · rintro ⟨x, y, hx, hy, hn⟩
    refine ⟨List.cons_ne_nil _ _, [x, y], .cons hx (.cons hy .nil), ?_⟩
    rw [hn]
    show (0 * 16 + x) * 16 + y = _
    omega

theorem numeral_one {l : Char} {n : Nat} : Numeral 16 [l] n ↔ toDigit 16 l = some n := by
  constructor
  · rintro ⟨_, ds, hds, hn⟩
    cases hds with
    | cons hx hnil =>
      cases hnil
      rename_i x
      rw [← hn]
      show _ = some (0 * 16 + x)
      rw [Nat.zero_mul, Nat.zero_add]
      exact hx
  · intro hl
    refine ⟨List.cons_ne_nil _ _, [n], .cons hl .nil, ?_⟩
    show 0 * 16 + n = n
    omega

theorem byteLen_cons (c : Char) (s : List Char) : byteLen (c :: s) = c.utf8Size + byteLen s := rfl

/-- A numeral has as many bytes as digits. -/
theorem byteLen_digits {s : List Char} {ds : List Nat}
    (h : List.Forall₂ (fun c d => toDigit 16 c = some d) s ds) : byteLen s = s.length := by
  induction h with
  | nil => rfl
  | cons hd _ ih =>
    rw [byteLen_cons, ih, utf8Size_of_digit hd, List.length_cons]
    omega

theorem byteLen_numeral {s : List Char} {n : Nat} (h : Numeral 16 s n) : byteLen s = s.length := by
  obtain ⟨_, ds, hds, _⟩ := h
  exact byteLen_digits hds

theorem utf8Size_plus : '+'.utf8Size = 1 := by decide

theorem parseOctet_eq_some {n : Nat} (hlen : byteLen g = 2)
    (hread : fromStrRadix 16 256 g = some n) (hn : n = b.toNat) : parseOctet g = some b := by
  unfold parseOctet
  rw [if_neg (not_not.mpr hlen), hread, hn]
  exact congrArg some (UInt8.ofNat_toNat)

/-- **A group that is read** is two hexadecimal digits, or a plus sign and one. -/
theorem parseOctet_iff : parseOctet g = some b ↔ HexPair g b ∨ SignedDigit g b := by
  have hread : ∀ n, fromStrRadix 16 256 g = some n ↔
      (Numeral 16 g n ∨ ∃ t, g = '+' :: t ∧ Numeral 16 t n) ∧ n < 256 :=
    fun n => Lib.fromStrRadix_iff (by omega) (by omega)
  constructor
  · intro h
    unfold parseOctet at h
    split at h
    · cases h
    · rename_i hlen
      have hlen : byteLen g = 2 := not_not.mp hlen
      obtain ⟨n, hn, hb⟩ := Option.map_eq_some_iff.mp h
      obtain ⟨hnum, hlt⟩ := (hread n).mp hn
      have hbn : b.toNat = n := by
        rw [← hb, UInt8.toNat_ofNat']
        exact Nat.mod_eq_of_lt hlt
      -- two digits, or a sign and one digit: `from_str_radix` takes a leading `+`
      rcases hnum with hnum | ⟨t, ht, hnum⟩
      · have htwo : g.length = 2 := by rw [← byteLen_numeral hnum, hlen]
        obtain ⟨x, y, hxy⟩ := List.length_eq_two.mp htwo
        rw [hxy] at hnum
        obtain ⟨m, k, hm, hk, hsum⟩ := numeral_two.mp hnum
        exact Or.inl ⟨x, y, m, k, hxy, hm, hk, by rw [hbn, hsum]⟩
      · have hone : t.length = 1 := by
          rw [ht, byteLen_cons, utf8Size_plus, byteLen_numeral hnum] at hlen
          omega
        obtain ⟨l, hl⟩ := List.length_eq_one_iff.mp hone
        rw [hl] at ht hnum
        exact Or.inr ⟨l, ht, by rw [hbn]; exact numeral_one.mp hnum⟩
  · rintro (⟨x, y, m, k, hg, hm, hk, hsum⟩ | ⟨l, hg, hl⟩)
    · have hnum : Numeral 16 g b.toNat := by
        rw [hg]
        exact numeral_two.mpr ⟨m, k, hm, hk, hsum⟩
      have hlen : byteLen g = 2 := by rw [byteLen_numeral hnum, hg]; rfl
      exact parseOctet_eq_some hlen ((hread _).mpr ⟨Or.inl hnum, b.toNat_lt⟩) rfl
    · have hlen : byteLen g = 2 := by
        rw [hg, byteLen_cons, utf8Size_plus, byteLen_numeral (numeral_one.mpr hl)]
        rfl
      exact parseOctet_eq_some hlen
        ((hread _).mpr ⟨Or.inr ⟨[l], hg, numeral_one.mpr hl⟩, b.toNat_lt⟩) rfl

/-! ## §4. A whole address. -/

variable {s : String} {mac : Vector UInt8 6}

theorem sixBytes_iff {bytes : List UInt8} : sixBytes bytes = some mac ↔ bytes = mac.toList := by
  unfold sixBytes
  constructor
  · intro h
    split at h
    · cases h
      rfl
    · cases h
  · intro h
    rw [dif_pos (by rw [h, Vector.length_toList])]
    subst h
    rfl

/-- **What the code reads**: six groups, each of two hexadecimal digits or of a
plus sign and one. -/
theorem parseMac_eq_some : parseMac s = some mac ↔
    Groups isMacSeparator (fun g b => HexPair g b ∨ SignedDigit g b) s.toList mac.toList := by
  rw [Lib.groups_iff]
  have hgroup : ∀ g b, parseOctet g = some b ↔ HexPair g b ∨ SignedDigit g b :=
    fun g b => parseOctet_iff
  unfold parseMac
  simp only
  constructor
  · intro h
    split at h
    · cases h
    · obtain ⟨bytes, hbytes, hsix⟩ := Option.bind_eq_some_iff.mp h
      rw [sixBytes_iff] at hsix
      rw [← hsix]
      exact (Lib.mapM_eq_some_iff.mp hbytes).imp (fun g b => (hgroup g b).mp)
  · intro h
    have hlen : (s.toList.splitOnP isMacSeparator).length = 6 := by
      rw [h.length_eq, Vector.length_toList]
    rw [if_neg (not_not.mpr hlen)]
    have hbytes := Lib.mapM_eq_some_iff.mpr (h.imp (fun g b => (hgroup g b).mpr))
    rw [hbytes]
    exact sixBytes_iff.mpr rfl

theorem parseMac_of_text (h : MacText s mac) : parseMac s = some mac :=
  parseMac_eq_some.mpr (h.mono (fun _ _ => Or.inl))

/-- There is no plus sign in a MAC address. -/
theorem not_plus_of_groups {cs : List Char} {bs : List UInt8}
    (h : Groups isMacSeparator HexPair cs bs) : '+' ∉ cs := by
  have hpair : ∀ {g : List Char} {b : UInt8}, HexPair g b → '+' ∉ g := by
    rintro g b ⟨x, y, m, n, hg, hx, hy, _⟩ hmem
    rw [hg] at hmem
    rcases List.mem_cons.mp hmem with rfl | hmem
    · cases hx
    · rw [← List.mem_singleton.mp hmem] at hy
      cases hy
  induction h with
  | last hg _ => exact hpair hg
  | cons hg _ hx _ ih =>
    rw [List.mem_append, List.mem_cons, not_or, not_or]
    refine ⟨hpair hg, ?_, ih⟩
    intro he
    rw [← he] at hx
    cases hx

/-- Without a plus sign every group is two hexadecimal digits. -/
theorem groups_of_not_plus {cs : List Char} {bs : List UInt8}
    (h : Groups isMacSeparator (fun g b => HexPair g b ∨ SignedDigit g b) cs bs)
    (hplus : '+' ∉ cs) : Groups isMacSeparator HexPair cs bs := by
  induction h with
  | last hg hsep =>
    rcases hg with hg | ⟨l, hg, _⟩
    · exact .last hg hsep
    · rw [hg] at hplus
      exact absurd List.mem_cons_self hplus
  | cons hg hsep hx _ ih =>
    rw [List.mem_append, List.mem_cons, not_or, not_or] at hplus
    rcases hg with hg | ⟨l, hg, _⟩
    · exact .cons hg hsep hx (ih hplus.2.2)
    · rw [hg] at hplus
      exact absurd List.mem_cons_self hplus.1

/-- A written digit is read back, and is no separator. -/
theorem toDigit_hexChar (upper : Bool) : ∀ n < 16, toDigit 16 (hexChar upper n) = some n ∧
    isMacSeparator (hexChar upper n) = false := by
  cases upper <;> decide

/-- **An address that is written** is the text of the address. -/
theorem macText_formatMac {sep : Char} (hsep : isMacSeparator sep = true) (upper : Bool)
    (mac : Vector UInt8 6) : MacText (formatMac sep upper mac) mac := by
  have hne : mac.toList.map (fun b =>
      [hexChar upper (b.toNat / 16), hexChar upper (b.toNat % 16)]) ≠ [] := by
    intro hnil
    have hlen := congrArg List.length hnil
    rw [List.length_map, Vector.length_toList] at hlen
    cases hlen
  unfold MacText formatMac
  rw [String.toList_ofList]
  apply Lib.groups_intercalate hsep hne
  rw [List.forall₂_map_left_iff]
  apply List.forall₂_same.mpr
  intro b _
  have hlt := b.toNat_lt
  obtain ⟨hhi, hhisep⟩ := toDigit_hexChar upper (b.toNat / 16) (by omega)
  obtain ⟨hlo, hlosep⟩ := toDigit_hexChar upper (b.toNat % 16) (by omega)
  refine ⟨⟨_, _, _, _, rfl, hhi, hlo, by omega⟩, ?_⟩
  intro c hc
  rcases List.mem_cons.mp hc with rfl | hc
  · exact hhisep
  · rw [List.mem_singleton.mp hc]
    exact hlosep

/-- **MAC addresses are told from other texts** unless a group is a plus sign
and a digit; every address is read back from its text in either style. -/
theorem parseMac_iff (s : String) :
    ((∀ mac, parseMac s = some mac ↔ MacText s mac) ↔ ¬ SignedMac s) ∧
      ∀ upper mac, parseMac (formatMac ':' upper mac) = some mac ∧
        parseMac (formatMac '-' upper mac) = some mac := by
  refine ⟨⟨?_, ?_⟩, ?_⟩
  · rintro h ⟨mac, hgroups, hplus⟩
    have htext := (h mac).mp (parseMac_eq_some.mpr hgroups)
    exact not_plus_of_groups htext hplus
  · intro hsigned mac
    constructor
    · intro h
      have hgroups := parseMac_eq_some.mp h
      exact groups_of_not_plus hgroups (fun hplus => hsigned ⟨mac, hgroups, hplus⟩)
    · exact parseMac_of_text
  · intro upper mac
    exact ⟨parseMac_of_text (macText_formatMac rfl upper mac),
      parseMac_of_text (macText_formatMac rfl upper mac)⟩

/-- **A plus sign is taken for a digit.** -/
theorem signed_accepted : parseMac "+1:22:33:44:55:66" = some #v[0x01, 0x22, 0x33, 0x44, 0x55, 0x66] ∧
    ¬ MacText "+1:22:33:44:55:66" #v[0x01, 0x22, 0x33, 0x44, 0x55, 0x66] := by
  refine ⟨by decide +kernel, ?_⟩
  intro htext
  exact not_plus_of_groups htext (by decide)

end HardwareAutoscaler
