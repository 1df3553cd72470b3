/-
  HardwareAutoscaler.Identity
  ───────────────────────────
  MACHINE IDENTITY (`src/identity.rs`): whether a management interface
  controls the machine of the Node, by comparing the system UUID it reports
  with the Node's.

    • `check` — the comparison,
    • `check_missing` — without an identity on one side there is no verdict.
-/
import HardwareAutoscaler.Crd

namespace HardwareAutoscaler

/-! ## §1. Identities. -/

/-- Identity reported by a management interface. -/
inductive SystemId where
  /-- A textual UUID. -/
  | uuid (s : String)
  /-- The 16 raw bytes of IPMI "Get System GUID". -/
  | rawGuid (b : Vector UInt8 16)
  deriving DecidableEq

/-- A digit of `{:02x}`. -/
def hexDigit (n : Nat) : Char :=
  if n < 10 then Char.ofNat ('0'.toNat + n) else Char.ofNat ('a'.toNat + (n - 10))

/-- Bytes as lower-case hexadecimal digits. -/
def hex (b : List UInt8) : List Char :=
  b.flatMap (fun x => [hexDigit (x.toNat / 16), hexDigit (x.toNat % 16)])

/-- An id as it is shown. -/
def SystemId.display : SystemId → String
  | .uuid s => s
  | .rawGuid b => String.ofList (hex b.toList)

/-- `is_ascii_hexdigit`. -/
def isAsciiHexDigit (c : Char) : Bool :=
  c.isDigit || ('a' ≤ c && c ≤ 'f') || ('A' ≤ c && c ≤ 'F')

/-- Lower-case hex digits only; `none` unless it is a 128-bit value. -/
def normalize (uuid : String) : Option (List Char) :=
  let h := (uuid.toList.filter isAsciiHexDigit).map Char.toLower
  if h.length = 32 then some h else none

/-- Swaps the first three UUID fields between big- and little-endian. -/
def swapFields (b : List UInt8) : List UInt8 :=
  (b.take 4).reverse ++ ((b.drop 4).take 2).reverse ++ ((b.drop 6).take 2).reverse ++ b.drop 8

/-- All-zero or all-FF UUIDs mean "not set" and prove nothing. -/
def isPlaceholder (h : List Char) : Bool := h.all (· == '0') || h.all (· == 'f')

/-! ## §2. The comparison. -/

/-- What comparing ids tells about an interface. -/
inductive IdentityCheck where
  /-- The interface reports the Node's UUID. -/
  | match
  /-- The interface reports a different machine. -/
  | mismatch (reported expected : String)
  /-- No usable identity on one side. -/
  | unverifiable
  deriving DecidableEq, Repr

/-- The interface reports a different machine. -/
def IdentityCheck.isMismatch : IdentityCheck → Bool
  | .mismatch _ _ => true
  | _ => false

/-- The hex digits an interface may mean: a textual UUID normalized, a raw
GUID under every byte order BMCs use. -/
def candidates (reported : SystemId) : Option (List (List Char)) :=
  match reported with
  | .uuid s => (normalize s).map (fun h => [h])
  | .rawGuid b =>
    let b := b.toList
    some [hex b, hex b.reverse, hex (swapFields b), hex (swapFields b.reverse),
      hex (swapFields b).reverse]

/-- `check`: compares the id an interface reports with the Node's. -/
def check (reported : Option SystemId) (nodeUuid : Option String) : IdentityCheck :=
  match reported, nodeUuid.bind normalize with
  | some reported, some expected =>
    if isPlaceholder expected then .unverifiable
    else match candidates reported with
    | none => .unverifiable
    | some cs =>
      if cs.all isPlaceholder then .unverifiable
      else if cs.contains expected then .match
      else .mismatch reported.display (String.ofList expected)
  | _, _ => .unverifiable

/-- Without a usable Node UUID no interface is found to be a different
machine. -/
theorem check_missing {reported : Option SystemId} {nodeUuid : Option String}
    (h : nodeUuid.bind normalize = none) : check reported nodeUuid = .unverifiable := by
  unfold check
  rw [h]
  cases reported <;> rfl

end HardwareAutoscaler
