/-
  HardwareAutoscaler.Drivers.Ping
  ───────────────────────────────
  ICMP ECHO PACKETS (`src/drivers/ping.rs`): the internet checksum, echo
  requests, and which packets are taken for the reply.

    • `checksum`, `echoRequest`, `isReply` — the code, on `u16` and `u32`,
    • `wordSum_eq` — the sum of a packet's words does not overflow,
    • `fold_toNat`, `fold_ends` — the folding loop, which ends in two rounds,
    • `SumsUp`, `checksum_verifies` — every packet with its checksum, every
      request and its replies.
-/
import Mathlib.Data.Nat.Bitwise
import HardwareAutoscaler.Lib.OnesComplement

namespace HardwareAutoscaler.Ping

open Lib (carry folded)

/-! ## §1. The code. -/

/-- `u16::from_be_bytes`. -/
def fromBeBytes (hi lo : UInt8) : UInt16 := hi.toUInt16 * 256 + lo.toUInt16

/-- `u16::to_be_bytes`. -/
def toBeBytes (n : UInt16) : List UInt8 := [(n / 256).toUInt8, n.toUInt8]

/-- The words of a packet, the last one padded. -/
def words : List UInt8 → List UInt32
  | [] => []
  | [hi] => [(fromBeBytes hi 0).toUInt32]
  | hi :: lo :: rest => (fromBeBytes hi lo).toUInt32 :: words rest

/-- The sum of the words, which wraps. -/
def wordSum (data : List UInt8) : UInt32 := (words data).foldl (· + ·) 0

/-- One round of the folding loop. -/
def foldStep (sum : UInt32) : UInt32 := (sum &&& (0xffff : UInt32)) + (sum >>> 16)

theorem high_toNat (sum : UInt32) : (sum >>> 16).toNat = sum.toNat / 65536 := by
  rw [UInt32.toNat_shiftRight]
  exact Nat.shiftRight_eq_div_pow _ 16

theorem high_eq_zero {sum : UInt32} : sum >>> 16 = 0 ↔ sum.toNat < 65536 := by
  rw [← UInt32.toNat_inj, high_toNat]
  show sum.toNat / 65536 = 0 ↔ _
  omega

/-- A round does not overflow. -/
theorem foldStep_toNat (sum : UInt32) : (foldStep sum).toNat = carry 65536 sum.toNat := by
  have hlow : (sum &&& (0xffff : UInt32)).toNat = sum.toNat % 65536 := by
    rw [UInt32.toNat_and]
    exact Nat.and_two_pow_sub_one_eq_mod _ 16
  have hlt := sum.toNat_lt
  unfold foldStep carry
  rw [UInt32.toNat_add, hlow, high_toNat]
  exact Nat.mod_eq_of_lt (by omega)

/-- The folding loop. -/
def fold (sum : UInt32) : UInt32 :=
  if sum >>> 16 = 0 then sum else fold (foldStep sum)
termination_by sum.toNat
decreasing_by
  rename_i h
  rw [foldStep_toNat]
  rw [high_eq_zero] at h
  exact Lib.carry_lt (by omega) (by omega)

/-- RFC 1071 internet checksum. -/
def checksum (data : List UInt8) : UInt16 := ~~~ (fold (wordSum data)).toUInt16

/-- `p[2..4].copy_from_slice(&c.to_be_bytes())`. -/
def setChecksum (p : List UInt8) (c : UInt16) : List UInt8 :=
  p.take 2 ++ toBeBytes c ++ p.drop 4

/-- The payload of a request. -/
def payload : List UInt8 := "kube-hardware-autoscaler".toList.map Char.toUInt8

/-- `echo_request`: an ICMP echo request with its checksum. -/
def echoRequest (id seq : UInt16) : List UInt8 :=
  let p := [8, 0, 0, 0] ++ toBeBytes id ++ toBeBytes seq ++ payload
  setChecksum p (checksum p)

/-- Whether `icmp` (ICMP payload, without IP header) is an echo reply for
`seq`. -/
def isReply (icmp : List UInt8) (seq : UInt16) : Bool :=
  8 ≤ icmp.length && icmp.getD 0 0 == 0 && fromBeBytes (icmp.getD 6 0) (icmp.getD 7 0) == seq

/-! ## §2. The sum. -/

/-- The sum of the words of a packet, as a number. -/
def wordTotal : List UInt8 → Nat
  | [] => 0
  | [hi] => hi.toNat * 256
  | hi :: lo :: rest => hi.toNat * 256 + lo.toNat + wordTotal rest

theorem fromBeBytes_toNat (hi lo : UInt8) :
    (fromBeBytes hi lo).toNat = hi.toNat * 256 + lo.toNat := by
  have hhi := hi.toNat_lt
  have hlo := lo.toNat_lt
  unfold fromBeBytes
  rw [UInt16.toNat_add, UInt16.toNat_mul, UInt8.toNat_toUInt16, UInt8.toNat_toUInt16]
  show (hi.toNat * 256 % 65536 + lo.toNat) % 65536 = _
  omega

theorem toBeBytes_toNat (n : UInt16) :
    (n / 256).toUInt8.toNat = n.toNat / 256 ∧ n.toUInt8.toNat = n.toNat % 256 := by
  have hlt := n.toNat_lt
  refine ⟨?_, UInt16.toNat_toUInt8 n⟩
  rw [UInt16.toNat_toUInt8, UInt16.toNat_div]
  show n.toNat / 256 % 256 = _
  omega

/-- Bytes written and read again. -/
theorem fromBeBytes_toBeBytes (n : UInt16) :
    fromBeBytes (n / 256).toUInt8 n.toUInt8 = n := by
  obtain ⟨hhi, hlo⟩ := toBeBytes_toNat n
  rw [← UInt16.toNat_inj, fromBeBytes_toNat, hhi, hlo]
  omega

variable {data p : List UInt8}

theorem foldl_words (data : List UInt8) : ∀ start : UInt32,
    start.toNat + wordTotal data < 2 ^ 32 →
      ((words data).foldl (· + ·) start).toNat = start.toNat + wordTotal data := by
  induction data using words.induct with
  | case1 => intro start _; rfl
  | case2 hi =>
    intro start h
    have hword : (fromBeBytes hi 0).toUInt32.toNat = hi.toNat * 256 := by
      rw [UInt16.toNat_toUInt32, fromBeBytes_toNat]
      exact Nat.add_zero _
    show (start + (fromBeBytes hi 0).toUInt32).toNat = _
    rw [UInt32.toNat_add, hword]
    exact Nat.mod_eq_of_lt h
  | case3 hi lo rest ih =>
    intro start h
    have htotal : wordTotal (hi :: lo :: rest) = hi.toNat * 256 + lo.toNat + wordTotal rest := rfl
    rw [htotal] at h ⊢
    have hfit : start.toNat + (hi.toNat * 256 + lo.toNat) < 2 ^ 32 := by
      refine Nat.lt_of_le_of_lt ?_ h
      omega
    have hword : (start + (fromBeBytes hi lo).toUInt32).toNat
        = start.toNat + (hi.toNat * 256 + lo.toNat) := by
      rw [UInt32.toNat_add, UInt16.toNat_toUInt32, fromBeBytes_toNat]
      exact Nat.mod_eq_of_lt hfit
    show ((words rest).foldl _ (start + (fromBeBytes hi lo).toUInt32)).toNat = _
    rw [ih _ (by rw [hword, Nat.add_assoc]; exact h), hword]
    omega

theorem wordTotal_le (data : List UInt8) : 2 * wordTotal data ≤ 65535 * (data.length + 1) := by
  induction data using words.induct with
  | case1 => decide
  | case2 hi =>
    have hhi := hi.toNat_lt
    show 2 * (hi.toNat * 256) ≤ 65535 * 2
    omega
  | case3 hi lo rest ih =>
    have hhi := hi.toNat_lt
    have hlo := lo.toNat_lt
    show 2 * (hi.toNat * 256 + lo.toNat + wordTotal rest) ≤ 65535 * (rest.length + 1 + 1 + 1)
    omega

/-- **The sum of up to 65535 bytes** does not overflow. -/
theorem wordSum_eq (h : data.length ≤ 65535) : (wordSum data).toNat = wordTotal data := by
  have hle := wordTotal_le data
  have hsum := foldl_words data 0 (by show 0 + _ < _; omega)
  exact hsum.trans (Nat.zero_add _)

/-! ## §3. The folding loop. -/

theorem fold_toNat (sum : UInt32) : (fold sum).toNat = folded 65536 sum.toNat := by
  induction sum using fold.induct with
  | case1 sum h =>
    rw [fold, if_pos h, Lib.folded_of_lt (high_eq_zero.mp h)]
  | case2 sum h ih =>
    have hge : 65536 ≤ sum.toNat := Nat.le_of_not_lt (fun hlt => h (high_eq_zero.mpr hlt))
    rw [fold, if_neg h, ih, foldStep_toNat, ← Lib.folded_of_ge (by omega) hge]

theorem fold_done (sum : UInt32) : fold sum >>> 16 = 0 := by
  rw [high_eq_zero, fold_toNat]
  exact Lib.folded_lt (by omega)

/-- **The loop ends** after at most two rounds. -/
theorem fold_ends (sum : UInt32) : ∃ k ≤ 2, fold sum = foldStep^[k] sum := by
  by_cases h₀ : sum >>> 16 = 0
  · exact ⟨0, by omega, by rw [fold, if_pos h₀]; rfl⟩
  · by_cases h₁ : foldStep sum >>> 16 = 0
    · refine ⟨1, by omega, ?_⟩
      rw [fold, if_neg h₀, fold, if_pos h₁]
      rfl
    · have h₂ : foldStep (foldStep sum) >>> 16 = 0 := by
        rw [high_eq_zero, foldStep_toNat, foldStep_toNat]
        exact Lib.carry_carry_lt (by omega) sum.toNat_lt
      refine ⟨2, by omega, ?_⟩
      rw [fold, if_neg h₀, fold, if_neg h₁, fold, if_pos h₂]
      rfl

/-- The checksum of a packet whose sum does not overflow. -/
theorem checksum_toNat (h : data.length ≤ 65535) :
    (checksum data).toNat = 65535 - folded 65536 (wordTotal data) := by
  have hlt : folded 65536 (wordTotal data) < 65536 := Lib.folded_lt (by omega)
  have hfold : (fold (wordSum data)).toUInt16.toNat = folded 65536 (wordTotal data) := by
    rw [UInt32.toNat_toUInt16, fold_toNat, wordSum_eq h]
    exact Nat.mod_eq_of_lt hlt
  unfold checksum
  rw [UInt16.toNat_not, hfold]
  rfl

/-! ## §4. Packets with their checksum. -/

/-- **The sum of a packet** is exact, the folding loop ends, and the checksum is
the complement of what it leaves. -/
structure SumsUp (data : List UInt8) : Prop where
  exact : (wordSum data).toNat = wordTotal data
  ends : ∃ k ≤ 2, fold (wordSum data) = foldStep^[k] (wordSum data)
  done : fold (wordSum data) >>> 16 = 0
  complement : (checksum data).toNat + folded 65536 (wordTotal data) = 65535

theorem sumsUp (h : data.length ≤ 65535) : SumsUp data where
  exact := wordSum_eq h
  ends := fold_ends _
  done := fold_done _
  complement := by
    have hlt : folded 65536 (wordTotal data) < 65536 := Lib.folded_lt (by omega)
    rw [checksum_toNat h]
    omega

theorem exists_of_header (h₂ : p[2]? = some 0) (h₃ : p[3]? = some 0) :
    ∃ a b rest, p = a :: b :: 0 :: 0 :: rest := by
  match p with
  | a :: b :: c :: d :: rest =>
    cases h₂
    cases h₃
    exact ⟨a, b, rest, rfl⟩

/-- A checksum written into a packet adds to its sum. -/
theorem wordTotal_setChecksum (a b : UInt8) (rest : List UInt8) (c : UInt16) :
    wordTotal (setChecksum (a :: b :: 0 :: 0 :: rest) c)
      = wordTotal (a :: b :: 0 :: 0 :: rest) + c.toNat := by
  obtain ⟨hhi, hlo⟩ := toBeBytes_toNat c
  show a.toNat * 256 + b.toNat + ((c / 256).toUInt8.toNat * 256 + c.toUInt8.toNat
    + wordTotal rest) = a.toNat * 256 + b.toNat + (0 * 256 + 0 + wordTotal rest) + c.toNat
  rw [hhi, hlo]
  omega

/-- **A packet with its checksum** has checksum 0. -/
theorem checksum_setChecksum (hlen : p.length ≤ 65535) (h₂ : p[2]? = some 0)
    (h₃ : p[3]? = some 0) :
    (setChecksum p (checksum p)).length = p.length ∧
      checksum (setChecksum p (checksum p)) = 0 := by
  obtain ⟨a, b, rest, rfl⟩ := exists_of_header h₂ h₃
  have hlength : (setChecksum (a :: b :: 0 :: 0 :: rest)
      (checksum (a :: b :: 0 :: 0 :: rest))).length = (a :: b :: 0 :: 0 :: rest).length := rfl
  refine ⟨hlength, ?_⟩
  rw [← UInt16.toNat_inj, checksum_toNat (by rw [hlength]; exact hlen), wordTotal_setChecksum,
    checksum_toNat hlen, Lib.folded_add_complement (b := 65536) (by omega)]
  rfl

/-- The reply to a packet: type 0, and some checksum of its own. -/
def echoReply (request : List UInt8) (c : UInt16) : List UInt8 :=
  setChecksum (request.set 0 0) c

/-- A reply is told by its sequence number alone. -/
theorem isReply_echoReply (id seq c seq' : UInt16) :
    isReply (echoReply (echoRequest id seq) c) seq' = true ↔ seq' = seq := by
  have hlength : (echoReply (echoRequest id seq) c).length = 32 := rfl
  have htype : (echoReply (echoRequest id seq) c).getD 0 0 = 0 := rfl
  have hseq : fromBeBytes ((echoReply (echoRequest id seq) c).getD 6 0)
      ((echoReply (echoRequest id seq) c).getD 7 0) = seq := fromBeBytes_toBeBytes seq
  unfold isReply
  rw [hlength, htype, hseq]
  simp only [Nat.reduceLeDiff, decide_true, beq_self_eq_true, Bool.and_self, Bool.true_and,
    beq_iff_eq]
  exact eq_comm

/-- A request is not taken for a reply. -/
theorem isReply_echoRequest (id seq seq' : UInt16) : isReply (echoRequest id seq) seq' = false := by
  have htype : (echoRequest id seq).getD 0 0 = 8 := rfl
  unfold isReply
  rw [htype]
  simp

/-- **The checksum of a packet**: written into the packet it makes it verify;
so does every request, whose replies are accepted for its sequence number and
for no other. -/
theorem checksum_verifies (p : List UInt8) (hlen : p.length ≤ 65535) (h₂ : p[2]? = some 0)
    (h₃ : p[3]? = some 0) (id seq : UInt16) :
    SumsUp p ∧ SumsUp (setChecksum p (checksum p)) ∧
      checksum (setChecksum p (checksum p)) = 0 ∧ checksum (echoRequest id seq) = 0 ∧
      ∀ c seq', isReply (echoReply (echoRequest id seq) c) seq' = true ↔ seq' = seq := by
  obtain ⟨hlength, hzero⟩ := checksum_setChecksum hlen h₂ h₃
  have hrequest : checksum (echoRequest id seq) = 0 := by
    have hshort : ([8, 0, 0, 0] ++ toBeBytes id ++ toBeBytes seq ++ payload).length ≤ 65535 := by
      show 32 ≤ 65535
      omega
    exact (checksum_setChecksum hshort rfl rfl).2
  exact ⟨sumsUp hlen, sumsUp (by rw [hlength]; exact hlen), hzero, hrequest,
    fun c seq' => isReply_echoReply id seq c seq'⟩

/-- An echo request whose sum is carried, 0x207FE. -/
def carrying : List UInt8 := [8, 0, 0, 0, 0xFF, 0xFF, 0xFF, 0xFF]

/-- The packet of zeros, and a packet whose sum is carried. -/
theorem carrying_verifies :
    checksum (setChecksum [0, 0, 0, 0] (checksum [0, 0, 0, 0])) = 0 ∧
    65536 ≤ wordTotal carrying ∧ checksum carrying = 0xF7FF ∧
    checksum (setChecksum carrying (checksum carrying)) = 0 :=
  ⟨(checksum_verifies [0, 0, 0, 0] (by decide) rfl rfl 0 0).2.2.1, by decide, by decide +kernel,
    (checksum_verifies carrying (by decide) rfl rfl 0 0).2.2.1⟩

end HardwareAutoscaler.Ping
