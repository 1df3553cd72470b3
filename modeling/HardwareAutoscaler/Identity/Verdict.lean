/-
  HardwareAutoscaler.Identity.Verdict
  ───────────────────────────────────
  WHAT AN IDENTITY CHECK FINDS, IN TERMS OF 128-BIT VALUES.

  A Node's UUID is 16 bytes that are neither all zero nor all FF.  An
  interface reports it as text, in which only the hex digits count, or as 16
  raw bytes in one of five orders.

    • `SystemUuid`, `SpelledBy` — the value, and the texts that spell it,
    • `EncodedAs`, `ReportedBy` — how an interface may report it,
    • `hex_injective`, `exists_hex` — bytes and their digits,
    • `check_verdict` — the verdict, for every UUID and every report.
-/
import HardwareAutoscaler.Identity
import Mathlib.Tactic.Linarith

namespace HardwareAutoscaler

/-! ## §1. Digits. -/

theorem hexDigit_injective {a b : Nat} (ha : a < 16) (hb : b < 16)
    (h : hexDigit a = hexDigit b) : a = b := by
  have hall : ∀ a b : Fin 16, hexDigit a = hexDigit b → a = b := by decide
  exact congrArg Fin.val (hall ⟨a, ha⟩ ⟨b, hb⟩ h)

/-- A hex digit in lower case is the digit of a number below 16. -/
theorem exists_hexDigit {c : Char} (h : isAsciiHexDigit c = true) :
    ∃ k, k < 16 ∧ hexDigit k = c.toLower := by
  have hall : ∀ n : Fin 103, isAsciiHexDigit (Char.ofNat n) = true →
      ∃ k : Fin 16, hexDigit k = (Char.ofNat n).toLower := by decide
  have hlt : c.toNat < 103 := by
    unfold isAsciiHexDigit Char.isDigit at h
    simp only [Bool.or_eq_true, Bool.and_eq_true, decide_eq_true_eq, ge_iff_le, Char.le_def,
      UInt32.le_iff_toNat_le] at h
    have hf : ('f' : Char).val.toNat = 102 := rfl
    have hF : ('F' : Char).val.toNat = 70 := rfl
    have h9 : ('9' : Char).val.toNat = 57 := rfl
    show c.val.toNat < 103
    omega
  obtain ⟨k, hk⟩ := hall ⟨c.toNat, hlt⟩ (by rw [Char.ofNat_toNat]; exact h)
  rw [Char.ofNat_toNat] at hk
  exact ⟨k, k.isLt, hk⟩

theorem hex_cons (x : UInt8) (b : List UInt8) :
    hex (x :: b) = hexDigit (x.toNat / 16) :: hexDigit (x.toNat % 16) :: hex b := rfl

@[simp] theorem length_hex (b : List UInt8) : (hex b).length = 2 * b.length := by
  induction b with
  | nil => rfl
  | cons x b ih =>
    rw [hex_cons, List.length_cons, List.length_cons, List.length_cons, ih]
    omega

theorem byte_halves (x : UInt8) : x.toNat / 16 < 16 ∧ x.toNat % 16 < 16 := by
  have hx := x.toNat_lt
  omega

/-- **Bytes are told apart by their digits.** -/
theorem hex_injective {b : List UInt8} : ∀ {b' : List UInt8}, hex b = hex b' → b = b' := by
  induction b with
  | nil =>
    intro b' h
    cases b' with
    | nil => rfl
    | cons x b' => cases h
  | cons x b ih =>
    intro b' h
    cases b' with
    | nil => cases h
    | cons y b' =>
      rw [hex_cons, hex_cons, List.cons.injEq, List.cons.injEq] at h
      obtain ⟨hhigh, hlow, hrest⟩ := h
      have hhigh := hexDigit_injective (byte_halves x).1 (byte_halves y).1 hhigh
      have hlow := hexDigit_injective (byte_halves x).2 (byte_halves y).2 hlow
      have hxy : x = y := UInt8.toNat_inj.mp (by omega)
      rw [hxy, ih hrest]

/-- Digits in pairs are those of some bytes. -/
theorem exists_hex (n : Nat) : ∀ {h : List Char}, h.length = 2 * n →
    (∀ c ∈ h, ∃ k, k < 16 ∧ hexDigit k = c) → ∃ b : List UInt8, b.length = n ∧ hex b = h := by
  induction n with
  | zero =>
    intro h hlen _
    rw [List.length_eq_zero_iff.mp hlen]
    exact ⟨[], rfl, rfl⟩
  | succ n ih =>
    intro h hlen hdigits
    rcases h with _ | ⟨c, _ | ⟨d, rest⟩⟩
    · simp at hlen
    · simp at hlen
      omega
    · simp only [List.forall_mem_cons] at hdigits
      obtain ⟨⟨i, hi, hc⟩, ⟨j, hj, hd⟩, hrest⟩ := hdigits
      obtain ⟨b, hb, hhex⟩ := ih (by simp at hlen; omega) hrest
      have hbyte : (UInt8.ofNat (16 * i + j)).toNat = 16 * i + j := by
        rw [UInt8.toNat_ofNat']
        omega
      refine ⟨UInt8.ofNat (16 * i + j) :: b, by simp [hb], ?_⟩
      rw [hex_cons, hbyte, show (16 * i + j) / 16 = i from by omega,
        show (16 * i + j) % 16 = j from by omega, hc, hd, hhex]

/-! ## §2. Placeholders. -/

/-- Some byte is not zero, and some is not FF. -/
def NotPlaceholder (b : List UInt8) : Prop := (∃ x ∈ b, x ≠ 0) ∧ ∃ x ∈ b, x ≠ 255

instance (b : List UInt8) : Decidable (NotPlaceholder b) :=
  inferInstanceAs (Decidable ((∃ x ∈ b, x ≠ 0) ∧ ∃ x ∈ b, x ≠ 255))

/-- The digits are all the same when both halves of every byte are. -/
theorem hex_all_eq (b : List UInt8) {d : Nat} (hd : d < 16) :
    (hex b).all (· == hexDigit d) = true ↔ ∀ x ∈ b, x = UInt8.ofNat (17 * d) := by
  have hbyte : (UInt8.ofNat (17 * d)).toNat = 17 * d := by
    rw [UInt8.toNat_ofNat']
    omega
  induction b with
  | nil => simp [hex]
  | cons x b ih =>
    rw [hex_cons, List.all_cons, List.all_cons, Bool.and_eq_true, Bool.and_eq_true,
      List.forall_mem_cons, beq_iff_eq, beq_iff_eq, ← and_assoc]
    refine and_congr ?_ ih
    constructor
    · intro h
      have hhigh := hexDigit_injective (byte_halves x).1 hd h.1
      have hlow := hexDigit_injective (byte_halves x).2 hd h.2
      apply UInt8.toNat_inj.mp
      omega
    · intro h
      rw [h, hbyte, show 17 * d / 16 = d from by omega, show 17 * d % 16 = d from by omega]
      exact ⟨rfl, rfl⟩

theorem isPlaceholder_hex (b : List UInt8) : isPlaceholder (hex b) = false ↔ NotPlaceholder b := by
  have hzero := hex_all_eq b (d := 0) (by decide)
  have hff := hex_all_eq b (d := 15) (by decide)
  rw [show hexDigit 0 = '0' from rfl, show UInt8.ofNat (17 * 0) = 0 from rfl] at hzero
  rw [show hexDigit 15 = 'f' from rfl, show UInt8.ofNat (17 * 15) = 255 from rfl] at hff
  unfold isPlaceholder NotPlaceholder
  rw [Bool.or_eq_false_iff, ← Bool.not_eq_true, ← Bool.not_eq_true, hzero, hff]
  simp only [not_forall, exists_prop, ne_eq]

/-- The bytes alone decide, not their order. -/
theorem notPlaceholder_perm {b b' : List UInt8} (h : b.Perm b') :
    NotPlaceholder b ↔ NotPlaceholder b' := by
  unfold NotPlaceholder
  simp only [h.mem_iff]

/-! ## §3. Byte orders. -/

theorem swapFields_perm (b : List UInt8) : (swapFields b).Perm b := by
  have hsplit : b.take 4 ++ (b.drop 4).take 2 ++ (b.drop 6).take 2 ++ b.drop 8 = b := by
    rw [List.append_assoc, List.append_assoc,
      show b.drop 8 = (b.drop 6).drop 2 from by rw [List.drop_drop],
      List.take_append_drop, show b.drop 6 = (b.drop 4).drop 2 from by rw [List.drop_drop],
      List.take_append_drop, List.take_append_drop]
  unfold swapFields
  conv => rhs; rw [← hsplit]
  exact (((b.take 4).reverse_perm.append ((b.drop 4).take 2).reverse_perm).append
    ((b.drop 6).take 2).reverse_perm).append_right _

/-- Swapping the fields twice changes nothing. -/
theorem swapFields_swapFields {b : List UInt8} (h : 8 ≤ b.length) :
    swapFields (swapFields b) = b := by
  rcases b with _ | ⟨x₀, _ | ⟨x₁, _ | ⟨x₂, _ | ⟨x₃, _ | ⟨x₄, _ | ⟨x₅, _ | ⟨x₆, _ | ⟨x₇, rest⟩⟩⟩⟩⟩⟩⟩⟩
  case cons.cons.cons.cons.cons.cons.cons.cons => simp [swapFields]
  all_goals
    simp at h

/-- The raw bytes are the value in one of the five orders: as it is, reversed,
its first three fields swapped, reversed and then swapped, swapped and then
reversed. -/
def EncodedAs (u g : List UInt8) : Prop :=
  g = u ∨ g = u.reverse ∨ g = swapFields u ∨ g = swapFields u.reverse ∨ g = (swapFields u).reverse

instance (u g : List UInt8) : Decidable (EncodedAs u g) :=
  inferInstanceAs (Decidable (g = u ∨ g = u.reverse ∨ g = swapFields u ∨
    g = swapFields u.reverse ∨ g = (swapFields u).reverse))

/-- **Each order is undone by a candidate**: swapping and reversing by
themselves, one after the other by the other after the one. -/
theorem mem_candidates_iff {u : List UInt8} {g : Vector UInt8 16} (hu : u.length = 16) :
    (∃ cs, candidates (.rawGuid g) = some cs ∧ hex u ∈ cs) ↔ EncodedAs u g.toList := by
  have hg : 8 ≤ g.toList.length := by simp
  have hswap : ∀ {b b' : List UInt8}, 8 ≤ b.length → 8 ≤ b'.length →
      (b = swapFields b' ↔ b' = swapFields b) := by
    intro b b' hb hb'
    constructor
    · intro h
      rw [h, swapFields_swapFields hb']
    · intro h
      rw [h, swapFields_swapFields hb]
  have hreverse : ∀ {b b' : List UInt8}, b = b'.reverse ↔ b' = b.reverse := by
    intro b b'
    constructor
    · intro h
      rw [h, List.reverse_reverse]
    · intro h
      rw [h, List.reverse_reverse]
  have hinj : ∀ b, hex u = hex b ↔ u = b := fun b => ⟨hex_injective, congrArg hex⟩
  have hcs : (∃ cs, candidates (.rawGuid g) = some cs ∧ hex u ∈ cs) ↔
      u = g.toList ∨ u = g.toList.reverse ∨ u = swapFields g.toList ∨
        u = swapFields g.toList.reverse ∨ u = (swapFields g.toList).reverse := by
    unfold candidates
    simp only [Option.some.injEq, exists_eq_left', List.mem_cons, List.not_mem_nil, or_false, hinj]
  rw [hcs]
  unfold EncodedAs
  refine or_congr ⟨Eq.symm, Eq.symm⟩ (or_congr hreverse (or_congr (hswap (by omega) hg) ?_))
  -- the two compositions undo one another
  rw [or_comm]
  refine or_congr ?_ ?_
  · rw [hreverse, ← hswap (by simp; omega) hg]
    exact eq_comm
  · rw [hswap (by omega) (by simp), hreverse]
    exact eq_comm

/-! ## §4. UUIDs. -/

/-- The text has the hex digits `h`, ignoring case and whatever else is in it. -/
def Spells (text : String) (h : List Char) : Prop :=
  (text.toList.filter isAsciiHexDigit).map Char.toLower = h

/-- A 128-bit system UUID that is no placeholder. -/
structure SystemUuid where
  bytes : Vector UInt8 16
  set : NotPlaceholder bytes.toList

namespace SystemUuid

variable (u : SystemUuid)

/-- The text spells the UUID, in any case and with any dashes. -/
def SpelledBy (text : String) : Prop := Spells text (hex u.bytes.toList)

/-- The interface reports the UUID. -/
def ReportedBy : SystemId → Prop
  | .uuid text => u.SpelledBy text
  | .rawGuid g => EncodedAs u.bytes.toList g.toList

/-- A report is a full 128-bit value that is no placeholder. -/
def IsFull : SystemId → Prop
  | .uuid text => ∃ v : SystemUuid, v.SpelledBy text
  | .rawGuid g => NotPlaceholder g.toList

end SystemUuid

theorem normalize_eq_some {text : String} {h : List Char} :
    normalize text = some h ↔ Spells text h ∧ h.length = 32 := by
  unfold normalize Spells
  simp only
  split
  · rename_i hlen
    constructor
    · intro he
      cases he
      exact ⟨rfl, hlen⟩
    · intro he
      rw [he.1]
  · rename_i hlen
    constructor
    · intro he
      cases he
    · intro he
      rw [he.1] at hlen
      exact absurd he.2 hlen

variable {u : SystemUuid}

theorem SystemUuid.SpelledBy.normalize {text : String} (h : u.SpelledBy text) :
    normalize text = some (hex u.bytes.toList) :=
  normalize_eq_some.mpr ⟨h, by simp⟩

/-- **A text of 32 hex digits that are no placeholder** spells a UUID. -/
theorem exists_spelledBy {text : String} : (∃ v : SystemUuid, v.SpelledBy text) ↔
    ∃ h, normalize text = some h ∧ isPlaceholder h = false := by
  constructor
  · rintro ⟨v, hv⟩
    exact ⟨_, hv.normalize, (isPlaceholder_hex _).mpr v.set⟩
  · rintro ⟨h, hnorm, hset⟩
    obtain ⟨hspells, hlen⟩ := normalize_eq_some.mp hnorm
    have hdigits : ∀ c ∈ h, ∃ k, k < 16 ∧ hexDigit k = c := by
      intro c hc
      rw [← hspells] at hc
      obtain ⟨d, hd, rfl⟩ := List.mem_map.mp hc
      exact exists_hexDigit (List.mem_filter.mp hd).2
    obtain ⟨b, hb, hhex⟩ := exists_hex 16 hlen hdigits
    have hlist : (Vector.mk b.toArray (by simpa using hb) : Vector UInt8 16).toList = b := by
      simp [Vector.toList]
    refine ⟨⟨Vector.mk b.toArray (by simpa using hb), ?_⟩, ?_⟩
    · rw [hlist, ← isPlaceholder_hex, hhex]
      exact hset
    · show Spells text (hex (Vector.mk b.toArray _ : Vector UInt8 16).toList)
      rw [hlist, hhex]
      exact hspells

/-! ## §5. The verdict. -/

/-- A raw report counts as not set in every order, or in none. -/
theorem candidates_placeholder (g : Vector UInt8 16) {cs : List (List Char)}
    (h : candidates (.rawGuid g) = some cs) :
    cs.all isPlaceholder = false ↔ NotPlaceholder g.toList := by
  unfold candidates at h
  simp only [Option.some.injEq] at h
  subst h
  have heq : ∀ {b : List UInt8}, b.Perm g.toList →
      isPlaceholder (hex b) = isPlaceholder (hex g.toList) := by
    intro b hb
    rw [Bool.eq_iff_iff, ← not_iff_not, Bool.not_eq_true, Bool.not_eq_true, isPlaceholder_hex,
      isPlaceholder_hex, notPlaceholder_perm hb]
  simp only [List.all_cons, List.all_nil, Bool.and_true, heq (List.reverse_perm _),
    heq (swapFields_perm _), heq ((swapFields_perm _).trans (List.reverse_perm _)),
    heq ((List.reverse_perm _).trans (swapFields_perm _)), Bool.and_self]
  exact isPlaceholder_hex _

theorem candidates_uuid (text : String) :
    candidates (.uuid text) = (normalize text).map (fun h => [h]) := rfl

/-- What an interface may mean is full if and only if it is no placeholder. -/
theorem isFull_iff (r : SystemId) : SystemUuid.IsFull r ↔
    ∃ cs, candidates r = some cs ∧ cs.all isPlaceholder = false := by
  cases r with
  | uuid text =>
    show (∃ v : SystemUuid, v.SpelledBy text) ↔ _
    rw [exists_spelledBy, candidates_uuid]
    constructor
    · rintro ⟨h, hn, hset⟩
      exact ⟨[h], by rw [hn]; rfl, by simp [hset]⟩
    · rintro ⟨cs, hcs, hall⟩
      obtain ⟨h, hn, rfl⟩ := Option.map_eq_some_iff.mp hcs
      exact ⟨h, hn, by simpa using hall⟩
  | rawGuid g =>
    constructor
    · intro h
      exact ⟨_, rfl, (candidates_placeholder g rfl).mpr h⟩
    · rintro ⟨cs, hcs, hall⟩
      exact (candidates_placeholder g hcs).mp hall

/-- The Node's UUID is among what the interface may mean if and only if the
interface reports it. -/
theorem reportedBy_iff (r : SystemId) : u.ReportedBy r ↔
    ∃ cs, candidates r = some cs ∧ hex u.bytes.toList ∈ cs := by
  cases r with
  | uuid text =>
    show u.SpelledBy text ↔ _
    constructor
    · intro h
      refine ⟨[hex u.bytes.toList], ?_, List.mem_singleton_self _⟩
      rw [candidates_uuid, h.normalize]
      rfl
    · rintro ⟨cs, hcs, hmem⟩
      rw [candidates_uuid] at hcs
      obtain ⟨h, hn, rfl⟩ := Option.map_eq_some_iff.mp hcs
      rw [List.mem_singleton] at hmem
      rw [← hmem] at hn
      exact (normalize_eq_some.mp hn).1
  | rawGuid g => exact (mem_candidates_iff (by simp)).symm

/-- The three cases of a check against a Node with a UUID. -/
theorem check_cases {node : String} (hnode : u.SpelledBy node) (r : SystemId) :
    (¬ SystemUuid.IsFull r ∧ check (some r) (some node) = .unverifiable) ∨
    (u.ReportedBy r ∧ check (some r) (some node) = .match) ∨
    (SystemUuid.IsFull r ∧ ¬ u.ReportedBy r ∧ check (some r) (some node)
      = .mismatch r.display (String.ofList (hex u.bytes.toList))) := by
  have hbind : (some node).bind normalize = some (hex u.bytes.toList) := hnode.normalize
  rw [isFull_iff, reportedBy_iff]
  unfold check
  rw [hbind]
  simp only [(isPlaceholder_hex _).mpr u.set, Bool.false_eq_true, if_false]
  cases hcs : candidates r with
  | none =>
    left
    simp
  | some cs =>
    simp only [Option.some.injEq, exists_eq_left']
    by_cases hall : cs.all isPlaceholder = true
    · left
      rw [if_pos hall, hall]
      simp
    · rw [if_neg hall]
      right
      by_cases hmem : cs.contains (hex u.bytes.toList) = true
      · left
        rw [if_pos hmem]
        exact ⟨List.contains_iff_mem.mp hmem, rfl⟩
      · right
        rw [if_neg hmem]
        exact ⟨Bool.eq_false_of_not_eq_true hall, fun h => hmem (List.contains_iff_mem.mpr h), rfl⟩

/-- What an interface reports of the Node's UUID is full. -/
theorem isFull_of_reportedBy {r : SystemId} (h : u.ReportedBy r) : SystemUuid.IsFull r := by
  cases r with
  | uuid text => exact ⟨u, h⟩
  | rawGuid g =>
    have hperm : g.toList.Perm u.bytes.toList := by
      rcases h with h | h | h | h | h
      · rw [h]
      · rw [h]
        exact List.reverse_perm _
      · rw [h]
        exact swapFields_perm _
      · rw [h]
        exact (swapFields_perm _).trans (List.reverse_perm _)
      · rw [h]
        exact (List.reverse_perm _).trans (swapFields_perm _)
    exact (notPlaceholder_perm hperm).mpr u.set

/-- Without a UUID of the Node there is no verdict. -/
theorem check_unset {reported : Option SystemId} {nodeUuid : Option String}
    (h : ∀ node, nodeUuid = some node → ¬ ∃ u : SystemUuid, u.SpelledBy node) :
    check reported nodeUuid = .unverifiable := by
  cases hbind : nodeUuid.bind normalize with
  | none => exact check_missing hbind
  | some expected =>
    obtain ⟨node, hnode, hnorm⟩ := Option.bind_eq_some_iff.mp hbind
    have hplaceholder : isPlaceholder expected = true := by
      by_contra hset
      exact h node hnode (exists_spelledBy.mpr ⟨expected, hnorm, Bool.eq_false_of_not_eq_true hset⟩)
    unfold check
    rw [hbind]
    cases reported with
    | none => rfl
    | some r => simp only [hplaceholder, if_true]

/-- **The verdict of an identity check**, for every UUID of the Node in every
spelling, and for every report.  A Node without a UUID has no verdict. -/
theorem check_verdict (reported : Option SystemId) (nodeUuid : Option String) :
    (∀ (u : SystemUuid) (node : String), nodeUuid = some node → u.SpelledBy node →
      (check reported nodeUuid = .match ↔ ∃ r, reported = some r ∧ u.ReportedBy r) ∧
      ((check reported nodeUuid).isMismatch = true ↔
        ∃ r, reported = some r ∧ SystemUuid.IsFull r ∧ ¬ u.ReportedBy r) ∧
      (check reported nodeUuid = .unverifiable ↔
        ∀ r, reported = some r → ¬ SystemUuid.IsFull r)) ∧
    ((∀ node, nodeUuid = some node → ¬ ∃ u : SystemUuid, u.SpelledBy node) →
      check reported nodeUuid = .unverifiable) := by
  refine ⟨?_, check_unset⟩
  intro u node hsome hnode
  subst hsome
  cases reported with
  | none =>
    have hcheck : check none (some node) = .unverifiable := rfl
    rw [hcheck]
    simp [IdentityCheck.isMismatch]
  | some r =>
    simp only [Option.some.injEq, exists_eq_left', forall_eq']
    rcases check_cases hnode r with
      ⟨hfull, hcheck⟩ | ⟨hreported, hcheck⟩ | ⟨hfull, hreported, hcheck⟩
    · rw [hcheck]
      have hnot : ¬ u.ReportedBy r := fun h => hfull (isFull_of_reportedBy h)
      simp [IdentityCheck.isMismatch, hfull, hnot]
    · rw [hcheck]
      simp [IdentityCheck.isMismatch, hreported, isFull_of_reportedBy hreported]
    · rw [hcheck]
      simp [IdentityCheck.isMismatch, hreported, hfull]

/-- A Dell-style system UUID. -/
def dellUuid : SystemUuid where
  bytes := #v[0x4c, 0x4c, 0x45, 0x44, 0x00, 0x36, 0x4a, 0x10, 0x80, 0x58, 0xb4, 0xc0, 0x4f, 0x4e,
    0x46, 0x32]
  set := by decide

/-- Its raw bytes, reversed and then with swapped fields, match its text. -/
theorem check_verdict_dell :
    dellUuid.SpelledBy "4C4C4544-0036-4A10-8058-B4C04F4E4632" ∧
    check (some (.rawGuid #v[0x4f, 0x4e, 0x46, 0x32, 0xb4, 0xc0, 0x80, 0x58, 0x10, 0x4a, 0x36, 0x00,
      0x44, 0x45, 0x4c, 0x4c])) (some "4C4C4544-0036-4A10-8058-B4C04F4E4632") = .match := by
  have hspelled : dellUuid.SpelledBy "4C4C4544-0036-4A10-8058-B4C04F4E4632" := by
    show _ = _
    decide
  refine ⟨hspelled, ((check_verdict _ _).1 dellUuid _ rfl hspelled).1.mpr ⟨_, rfl, ?_⟩⟩
  show EncodedAs _ _
  decide

end HardwareAutoscaler
