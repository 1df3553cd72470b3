/-
  HardwareAutoscaler.Lib.Binary64
  ───────────────────────────────
  IEEE 754 BINARY64 OVER THE RATIONALS — program independent.

  A finite binary64 value is the rational it denotes; every operation is the
  exact rational operation followed by `F64.ofRat`, the rounding to the
  nearest binary64 with ties to even (subnormals and overflow included).
  The sign of zero is not kept.

    • `F64.ofRat`, `F64.ofInt` — rounding, and the `as f64` cast,
    • `F64.mul`, `F64.div`, `F64.max`, `F64.ge` — the operations used,
    • `F64.ceilToI64` — `x.ceil() as i64` (saturating, NaN to 0),
    • `F64.fixed0` — the format `{:.0}`; `F64.display` — the format `{}`
      (the shortest decimal that reads back as the same value).
-/
import Mathlib.Data.Rat.Floor

namespace HardwareAutoscaler.Lib

/-! ## §1. Rounding. -/

/-- A binary64 value; `fin q` is the finite value `q`. -/
inductive F64 where
  | nan
  | inf (neg : Bool)
  | fin (q : ℚ)
  deriving DecidableEq, Repr

/-- The nearest integer, ties to even. -/
def roundHalfEven (q : ℚ) : ℤ :=
  let f := q.floor
  let r := q - f
  if r < 1 / 2 then f
  else if 1 / 2 < r then f + 1
  else if f % 2 = 0 then f else f + 1

/-- `b ^ e` for an integer exponent. -/
def powInt (b : Nat) : ℤ → ℚ
  | .ofNat n => ((b ^ n : Nat) : ℚ)
  | .negSucc n => 1 / ((b ^ (n + 1) : Nat) : ℚ)

/-- `⌊log₂ q⌋` for a positive `q`. -/
def floorLog2 (q : ℚ) : ℤ :=
  let a : ℤ := (Nat.log2 q.num.toNat : ℤ) - (Nat.log2 q.den : ℤ)
  if powInt 2 a ≤ q then a else a - 1

/-- Round to the nearest binary64, ties to even. -/
def F64.ofRat (q : ℚ) : F64 :=
  if q = 0 then .fin 0
  else
    let e := max (floorLog2 |q| - 52) (-1074)
    let v := (roundHalfEven (q / powInt 2 e) : ℚ) * powInt 2 e
    if powInt 2 1024 ≤ |v| then .inf (q < 0) else .fin v

/-- `n as f64`. -/
def F64.ofInt (n : ℤ) : F64 := .ofRat n

/-! ## §2. Arithmetic and comparison. -/

/-- Whether the value is below zero. -/
def F64.isNeg : F64 → Bool
  | .nan => false
  | .inf neg => neg
  | .fin q => q < 0

/-- Multiplication, rounded. -/
def F64.mul : F64 → F64 → F64
  | .fin a, .fin b => .ofRat (a * b)
  | .nan, _ => .nan
  | _, .nan => .nan
  | .inf s, b => if b = .fin 0 then .nan else .inf (s != b.isNeg)
  | a, .inf s => if a = .fin 0 then .nan else .inf (s != a.isNeg)

/-- Division, rounded. -/
def F64.div : F64 → F64 → F64
  | .fin a, .fin b =>
    if b = 0 then (if a = 0 then .nan else .inf (a < 0)) else .ofRat (a / b)
  | .inf s, .fin b => .inf (s != decide (b < 0))
  | .fin _, .inf _ => .fin 0
  | _, _ => .nan

/-- `a >= b`: false as soon as one side is NaN. -/
def F64.ge : F64 → F64 → Bool
  | .nan, _ => false
  | _, .nan => false
  | .fin a, .fin b => b ≤ a
  | .inf s, b => !s || b == .inf true
  | .fin _, .inf s => s

/-- `a.max(b)`: the other argument when one is NaN. -/
def F64.max : F64 → F64 → F64
  | .nan, b => b
  | a, .nan => a
  | a, b => if a.ge b then a else b

/-- `x.ceil() as i64`: saturating, and 0 for NaN. -/
def F64.ceilToI64 : F64 → ℤ
  | .nan => 0
  | .inf true => -(2 ^ 63)
  | .inf false => 2 ^ 63 - 1
  | .fin q => Max.max (-(2 ^ 63)) (Min.min q.ceil (2 ^ 63 - 1))

/-! ## §3. Rendering. -/

/-- The text of a value that is not finite. -/
def F64.special : F64 → String
  | .nan => "NaN"
  | .inf true => "-inf"
  | .inf false => "inf"
  | .fin _ => ""

/-- The format `{:.0}`: the nearest integer, ties to even. -/
def F64.fixed0 : F64 → String
  | .fin q => (if q < 0 then "-" else "") ++ toString (roundHalfEven |q|).toNat
  | x => x.special

/-- `⌊log₁₀ q⌋ + 1` for a positive `q`, searched downward from `fuel`. -/
def decimalExponent (q : ℚ) (e : ℤ) : Nat → ℤ
  | 0 => e
  | fuel + 1 => if powInt 10 (e - 1) ≤ q then e else decimalExponent q (e - 1) fuel

/-- `digits · 10^e` written without an exponent. -/
def decimalString (digits : Nat) (e : ℤ) : String :=
  match e with
  | .ofNat n => toString (digits * 10 ^ n)
  | .negSucc n =>
    let k := n + 1
    let frac := toString (digits % 10 ^ k)
    toString (digits / 10 ^ k) ++ "."
      ++ String.ofList (List.replicate (k - frac.length) '0') ++ frac

/-- The shortest decimal with at least `17 - fuel` digits that rounds to `q`. -/
def shortestDecimal (q : ℚ) (e : ℤ) : Nat → String
  | 0 => decimalString (roundHalfEven (q / powInt 10 (e - 17))).toNat (e - 17)
  | fuel + 1 =>
    let k := 17 - (fuel + 1 : Nat)
    let d := roundHalfEven (q / powInt 10 (e - k))
    if F64.ofRat (d * powInt 10 (e - k)) = .fin q then
      decimalString d.toNat (e - k)
    else shortestDecimal q e fuel

/-- The format `{}`. -/
def F64.display : F64 → String
  | .fin q =>
    if q = 0 then "0"
    else (if q < 0 then "-" else "")
      ++ shortestDecimal |q| (decimalExponent |q| 310 640) 16
  | x => x.special

example : (F64.div (.ofInt 4000) (.ofInt 1000)).display = "4" := by decide +kernel
example : (F64.div (.ofInt 1) (.ofInt 10)).display = "0.1" := by decide +kernel
example : (F64.ofRat (5 / 2)).fixed0 = "2" := by decide +kernel

end HardwareAutoscaler.Lib
