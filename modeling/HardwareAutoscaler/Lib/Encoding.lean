/-
  HardwareAutoscaler.Lib.Encoding
  ───────────────────────────────
  BASE64 AND PERCENT ENCODING — program independent.

  Bytes are written as texts of a few characters: in groups of six bits
  (RFC 4648, with padding), or one by one as `%` and two digits (RFC 3986).

    • `base64`, `base64Decode` — `base64Decode_base64`: what is read back,
    • `percentEncode`, `percentDecode` — `percentDecode_percentEncode`,
    • `unreserved_percentEncode` — which characters are written.
-/
import Mathlib.Data.List.Basic

namespace HardwareAutoscaler.Lib

/-! ## §1. Base64. -/

/-- The character of six bits. -/
def base64Digit (n : Nat) : Char :=
  if n < 26 then Char.ofNat (65 + n)
  else if n < 52 then Char.ofNat (97 + (n - 26))
  else if n < 62 then Char.ofNat (48 + (n - 52))
  else if n = 62 then '+' else '/'

/-- The six bits a character stands for. -/
def base64Value (c : Char) : Option Nat :=
  let n := c.toNat
  if 65 ≤ n ∧ n < 91 then some (n - 65)
  else if 97 ≤ n ∧ n < 123 then some (n - 97 + 26)
  else if 48 ≤ n ∧ n < 58 then some (n - 48 + 52)
  else if c = '+' then some 62
  else if c = '/' then some 63
  else none

/-- The standard alphabet, padded. -/
def base64 : List UInt8 → List Char
  | [] => []
  | [a] => [base64Digit (a.toNat / 4), base64Digit (a.toNat % 4 * 16), '=', '=']
  | [a, b] =>
    [base64Digit (a.toNat / 4), base64Digit (a.toNat % 4 * 16 + b.toNat / 16),
      base64Digit (b.toNat % 16 * 4), '=']
  | a :: b :: c :: rest =>
    base64Digit (a.toNat / 4) :: base64Digit (a.toNat % 4 * 16 + b.toNat / 16)
      :: base64Digit (b.toNat % 16 * 4 + c.toNat / 64) :: base64Digit (c.toNat % 64)
      :: base64 rest

/-- Four characters at a time; padding ends the text. -/
def base64Decode : List Char → Option (List UInt8)
  | [] => some []
  | w :: x :: y :: z :: rest => do
    let a ← base64Value w
    let b ← base64Value x
    let first := UInt8.ofNat (a * 4 + b / 16)
    if y = '=' then
      if z = '=' ∧ rest = [] ∧ b % 16 = 0 then some [first] else none
    else
      let c ← base64Value y
      let second := UInt8.ofNat (b % 16 * 16 + c / 4)
      if z = '=' then
        if rest = [] ∧ c % 4 = 0 then some [first, second] else none
      else
        let d ← base64Value z
        let more ← base64Decode rest
        some (first :: second :: UInt8.ofNat (c % 4 * 64 + d) :: more)
  | _ => none

theorem base64Value_digit : ∀ n < 64, base64Value (base64Digit n) = some n := by decide

theorem base64Digit_ne_pad : ∀ n < 64, base64Digit n ≠ '=' := by decide

/-- The bytes of six-bit groups: nothing is lost at the borders. -/
theorem ofNat_parts {n : Nat} {a : UInt8} (h : n = a.toNat) : UInt8.ofNat n = a := by
  rw [h, UInt8.ofNat_toNat]

/-- **What is written in base64 is read back.** -/
theorem base64Decode_base64 (bytes : List UInt8) : base64Decode (base64 bytes) = some bytes := by
  -- three bytes at a time, and one or two at the end
  induction bytes using base64.induct with
  | case1 => rfl
  | case2 a =>
    have ha := a.toNat_lt
    simp only [base64, base64Decode, base64Value_digit _ (show a.toNat / 4 < 64 by omega),
      base64Value_digit _ (show a.toNat % 4 * 16 < 64 by omega), Option.bind_eq_bind,
      Option.bind_some]
    rw [if_pos trivial, if_pos ⟨trivial, trivial, by omega⟩, ofNat_parts (a := a) (by omega)]
  | case3 a b =>
    have ha := a.toNat_lt
    have hb := b.toNat_lt
    have hy : b.toNat % 16 * 4 < 64 := by omega
    simp only [base64, base64Decode, base64Value_digit _ (show a.toNat / 4 < 64 by omega),
      base64Value_digit _ (show a.toNat % 4 * 16 + b.toNat / 16 < 64 by omega),
      base64Value_digit _ hy, Option.bind_eq_bind, Option.bind_some]
    rw [if_neg (base64Digit_ne_pad _ hy), if_pos trivial, if_pos ⟨trivial, by omega⟩,
      ofNat_parts (a := a) (by omega), ofNat_parts (a := b) (by omega)]
  | case4 a b c rest ih =>
    have ha := a.toNat_lt
    have hb := b.toNat_lt
    have hc := c.toNat_lt
    have hy : b.toNat % 16 * 4 + c.toNat / 64 < 64 := by omega
    have hz : c.toNat % 64 < 64 := by omega
    simp only [base64, base64Decode, base64Value_digit _ (show a.toNat / 4 < 64 by omega),
      base64Value_digit _ (show a.toNat % 4 * 16 + b.toNat / 16 < 64 by omega),
      base64Value_digit _ hy, base64Value_digit _ hz, Option.bind_eq_bind, Option.bind_some, ih]
    rw [if_neg (base64Digit_ne_pad _ hy), if_neg (base64Digit_ne_pad _ hz),
      ofNat_parts (a := a) (by omega), ofNat_parts (a := b) (by omega),
      ofNat_parts (a := c) (by omega)]

theorem base64Digit_ascii : ∀ n < 64, (base64Digit n).toNat < 128 := by decide

/-- Only ASCII characters are written. -/
theorem base64_ascii (bytes : List UInt8) : ∀ c ∈ base64 bytes, c.toNat < 128 := by
  have hpad : '='.toNat < 128 := by decide
  induction bytes using base64.induct with
  | case1 => exact fun c hc => by cases hc
  | case2 a =>
    have ha := a.toNat_lt
    simp only [base64, List.forall_mem_cons]
    exact ⟨base64Digit_ascii _ (by omega), base64Digit_ascii _ (by omega), hpad, hpad,
      fun c hc => by cases hc⟩
  | case3 a b =>
    have ha := a.toNat_lt
    have hb := b.toNat_lt
    simp only [base64, List.forall_mem_cons]
    exact ⟨base64Digit_ascii _ (by omega), base64Digit_ascii _ (by omega),
      base64Digit_ascii _ (by omega), hpad, fun c hc => by cases hc⟩
  | case4 a b c rest ih =>
    have ha := a.toNat_lt
    have hb := b.toNat_lt
    have hc := c.toNat_lt
    simp only [base64, List.forall_mem_cons]
    exact ⟨base64Digit_ascii _ (by omega), base64Digit_ascii _ (by omega),
      base64Digit_ascii _ (by omega), base64Digit_ascii _ (by omega), ih⟩

/-! ## §2. Percent encoding. -/

/-- RFC 3986: letters, digits, `-`, `_`, `.` and `~`. -/
def isUnreserved (c : Char) : Bool :=
  c.isAlphanum || c == '-' || c == '_' || c == '.' || c == '~'

/-- An upper-case hexadecimal digit. -/
def upperHexDigit (n : Nat) : Char := Char.ofNat (if n < 10 then 48 + n else 55 + n)

/-- The value of an upper-case hexadecimal digit. -/
def upperHexValue (c : Char) : Option Nat :=
  let n := c.toNat
  if 48 ≤ n ∧ n < 58 then some (n - 48) else if 65 ≤ n ∧ n < 71 then some (n - 55) else none

/-- A byte as a character of its own, or as `%` and two digits. -/
def percentByte (b : UInt8) : List Char :=
  let c := Char.ofNat b.toNat
  if isUnreserved c then [c]
  else ['%', upperHexDigit (b.toNat / 16), upperHexDigit (b.toNat % 16)]

/-- Bytes, percent-encoded. -/
def percentEncode (bytes : List UInt8) : List Char := bytes.flatMap percentByte

/-- The bytes of a percent-encoded text. -/
def percentDecode : List Char → Option (List UInt8)
  | [] => some []
  | '%' :: hi :: lo :: rest => do
    let h ← upperHexValue hi
    let l ← upperHexValue lo
    let more ← percentDecode rest
    some (UInt8.ofNat (h * 16 + l) :: more)
  | c :: rest => do
    let more ← percentDecode rest
    if c.toNat < 256 then some (UInt8.ofNat c.toNat :: more) else none

theorem upperHexValue_digit : ∀ n < 16, upperHexValue (upperHexDigit n) = some n := by decide

theorem isUnreserved_upperHexDigit : ∀ n < 16, isUnreserved (upperHexDigit n) = true := by decide

theorem not_unreserved_percent : isUnreserved '%' = false := by decide

theorem toNat_ofNat_byte {n : Nat} (h : n < 256) : (Char.ofNat n).toNat = n := by
  have hv : n.isValidChar := Or.inl (by omega)
  rw [Char.ofNat, dif_pos hv]
  rfl

/-- One byte in front. -/
theorem percentDecode_percentByte (b : UInt8) (rest : List Char) :
    percentDecode (percentByte b ++ rest)
      = (percentDecode rest).bind (fun more => some (b :: more)) := by
  have hb := b.toNat_lt
  unfold percentByte
  dsimp only
  split
  · rename_i h
    -- the character is not `%`, so it stands for itself
    have hne : Char.ofNat b.toNat ≠ '%' := by
      intro heq
      rw [heq, not_unreserved_percent] at h
      cases h
    rw [List.singleton_append, percentDecode]
    · rw [toNat_ofNat_byte hb, UInt8.ofNat_toNat]
      simp only [show b.toNat < 256 from hb, if_true]
      rfl
    · exact fun _ _ _ heq _ => hne heq
  · rw [List.cons_append, List.cons_append, List.cons_append, List.nil_append, percentDecode,
      upperHexValue_digit _ (by omega), upperHexValue_digit _ (by omega)]
    simp only [Option.bind_eq_bind, Option.bind_some]
    rw [ofNat_parts (a := b) (by omega)]

/-- **What is percent-encoded is read back.** -/
theorem percentDecode_percentEncode (bytes : List UInt8) :
    percentDecode (percentEncode bytes) = some bytes := by
  induction bytes with
  | nil => rfl
  | cons b bytes ih =>
    rw [percentEncode, List.flatMap_cons, percentDecode_percentByte]
    rw [percentEncode] at ih
    rw [ih]
    rfl

/-- Only unreserved characters and `%` are written. -/
theorem unreserved_percentEncode (bytes : List UInt8) :
    ∀ c ∈ percentEncode bytes, isUnreserved c = true ∨ c = '%' := by
  intro c hc
  obtain ⟨b, -, hcb⟩ := List.mem_flatMap.mp hc
  have hb := b.toNat_lt
  unfold percentByte at hcb
  dsimp only at hcb
  split at hcb
  · rename_i h
    rw [List.mem_singleton.mp hcb]
    exact Or.inl h
  · simp only [List.mem_cons, List.not_mem_nil, or_false] at hcb
    rcases hcb with rfl | rfl | rfl
    · exact Or.inr rfl
    · exact Or.inl (isUnreserved_upperHexDigit _ (by omega))
    · exact Or.inl (isUnreserved_upperHexDigit _ (by omega))

end HardwareAutoscaler.Lib
