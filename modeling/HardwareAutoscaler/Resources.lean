/-
  HardwareAutoscaler.Resources
  ────────────────────────────
  RESOURCE QUANTITIES AND ACCOUNTING (`src/resources.rs`).

  `ResourceAmounts` holds `i64`s; `add` and `minus` wrap, as they do in a
  release build.  What the planner needs of them is `fits_iff` together with
  `int64_sub_le`: taking a request that fits from a free capacity is exact
  or errs towards less room.

    • `parseQuantity` — Kubernetes quantities, through binary64,
    • `podRequests`, `podExtendedRequests` — what a pod asks for,
    • `ResourceAmounts.fits` / `minus` / `utilizationPercent`.
-/
import HardwareAutoscaler.Crd
import HardwareAutoscaler.Lib.Binary64

namespace HardwareAutoscaler

open Std (TreeMap)
open Lib (F64 powInt)

/-! ## §1. Quantities. -/

/-- `char::is_whitespace`: the Unicode property `White_Space`. -/
def isWhiteSpace (c : Char) : Bool :=
  let n := c.toNat
  (9 ≤ n && n ≤ 13) || n == 0x20 || n == 0x85 || n == 0xA0 || n == 0x1680
    || (0x2000 ≤ n && n ≤ 0x200A) || n == 0x2028 || n == 0x2029 || n == 0x202F
    || n == 0x205F || n == 0x3000

/-- `str::trim`. -/
def trim (s : List Char) : List Char :=
  ((s.dropWhile isWhiteSpace).reverse.dropWhile isWhiteSpace).reverse

/-- The value of a digit string. -/
def digitsValue (ds : List Char) : Nat :=
  ds.foldl (fun n c => 10 * n + (c.toNat - '0'.toNat)) 0

/-- `[+-]digits` as an integer: the exponent of a float literal. -/
def parseExponent (s : List Char) : Option Int :=
  let (neg, ds) := match s with
    | '-' :: t => (true, t)
    | '+' :: t => (false, t)
    | t => (false, t)
  if ds.isEmpty || !ds.all Char.isDigit then none
  else some (if neg then -(digitsValue ds : Int) else digitsValue ds)

/-- `digits[.digits][e[+-]digits]` with a digit before or after the point. -/
def parseUnsignedDecimal (s : List Char) : Option ℚ :=
  let whole := s.takeWhile Char.isDigit
  let rest := s.dropWhile Char.isDigit
  let (frac, rest) := match rest with
    | '.' :: t => (t.takeWhile Char.isDigit, t.dropWhile Char.isDigit)
    | t => ([], t)
  if whole.isEmpty && frac.isEmpty then none
  else
    let mantissa : ℚ := digitsValue (whole ++ frac) * powInt 10 (-(frac.length : Int))
    match rest with
    | [] => some mantissa
    | c :: t =>
      if c = 'e' || c = 'E' then (parseExponent t).map (fun e => mantissa * powInt 10 e)
      else none

/-- `str::parse::<f64>`. -/
def parseF64 (s : List Char) : Option F64 :=
  let (neg, body) := match s with
    | '-' :: t => (true, t)
    | '+' :: t => (false, t)
    | t => (false, t)
  let word := body.map Char.toLower
  if word = "inf".toList || word = "infinity".toList then some (.inf neg)
  else if word = "nan".toList then some .nan
  else (parseUnsignedDecimal body).map (fun q => .ofRat (if neg then -q else q))

/-- The suffixes of `parse_quantity` with their multipliers, in its order. -/
def quantitySuffixes : List (String × F64) :=
  [("Ki", .ofInt 1024), ("Mi", .ofInt 1048576), ("Gi", .ofInt 1073741824),
   ("Ti", .ofInt 1099511627776), ("Pi", .ofInt 1125899906842624),
   ("Ei", .ofInt 1152921504606846976), ("n", .ofRat (powInt 10 (-9))),
   ("u", .ofRat (powInt 10 (-6))), ("m", .ofRat (powInt 10 (-3))),
   ("k", .ofInt 1000), ("M", .ofInt 1000000), ("G", .ofInt 1000000000),
   ("T", .ofInt (10 ^ 12)), ("P", .ofInt (10 ^ 15)), ("E", .ofInt (10 ^ 18))]

/-- `strip_suffix`. -/
def stripSuffix (s suffix : List Char) : Option (List Char) :=
  if suffix.isSuffixOf s then some (s.take (s.length - suffix.length)) else none

/-- Parses a Kubernetes quantity into a value scaled by `scale` (1000 for CPU
millicores, 1 for bytes); `none` for garbage. -/
def parseQuantity (q : String) (scale : F64) : Option Int64 :=
  let q := trim q.toList
  if q.isEmpty then none
  else
    let (number, multiplier) :=
      (quantitySuffixes.findSome? (fun (s, m) =>
        (stripSuffix q s.toList).map (fun n => (n, m)))).getD (q, .ofInt 1)
    (parseF64 number).map (fun value =>
      Int64.ofInt ((value.mul multiplier).mul scale).ceilToI64)

/-- The quantity of a key, 0 if there is none. -/
def getQuantity (map : Quantities) (key : String) (scale : F64) : Int64 :=
  (map[key]?.bind (parseQuantity · scale)).getD 0

/-- `amounts`: CPU, memory and pods. -/
def amounts (map : Quantities) : ResourceAmounts where
  cpuMillis := getQuantity map "cpu" (.ofInt 1000)
  memoryBytes := getQuantity map "memory" (.ofInt 1)
  pods := getQuantity map "pods" (.ofInt 1)

/-- Whether `name` is an extended resource: domain-prefixed and outside
`kubernetes.io/`. -/
def isExtendedResource (name : String) : Bool :=
  let n := name.toList
  n.contains '/' && !"kubernetes.io/".toList.isPrefixOf n
    && !"requests.".toList.isPrefixOf n

/-- Quantities of extended resources. -/
def extended (map : Quantities) : TreeMap String Int64 :=
  (map.toList.filter (isExtendedResource ·.1)).foldl
    (fun acc (k, q) => match parseQuantity q (.ofInt 1) with
      | some v => acc.insert k v
      | none => acc) ∅

/-- A node's allocatable extended resources. -/
def nodeExtended (node : Node) : TreeMap String Int64 :=
  (node.allocatable.map extended).getD ∅

/-- One container's extended requests: its limits, overridden by its requests. -/
def containerExtended (c : Container) : TreeMap String Int64 :=
  (extended c.requests).toList.foldl (fun acc (k, v) => acc.insert k v) (extended c.limits)

/-- A pod's extended resource requests:
max(sum(containers), max(init containers)), the positive ones. -/
def podExtendedRequests (pod : Pod) : TreeMap String Int64 :=
  let sum := pod.containers.foldl (fun acc c =>
    (containerExtended c).toList.foldl (fun acc (k, v) =>
      acc.insert k (acc[k]?.getD 0 + v)) acc) (∅ : TreeMap String Int64)
  let sum := pod.initContainers.foldl (fun acc c =>
    (containerExtended c).toList.foldl (fun acc (k, v) =>
      acc.insert k (max (acc[k]?.getD 0) v)) acc) sum
  sum.filter (fun _ v => 0 < v)

/-- Allocatable resources of a node (falls back to capacity). -/
def nodeAllocatable (node : Node) : ResourceAmounts :=
  ((node.allocatable <|> node.capacity).map amounts).getD {}

/-- Effective resource request of a pod as seen by the scheduler:
max(sum(containers), max(init containers)) + overhead, as one pod. -/
def podRequests (pod : Pod) : ResourceAmounts :=
  -- containers run side by side, so their requests add up
  let sum := pod.containers.foldl (fun (acc : ResourceAmounts) c =>
    let r := amounts c.requests
    { acc with
      cpuMillis := acc.cpuMillis + r.cpuMillis
      memoryBytes := acc.memoryBytes + r.memoryBytes }) {}
  -- init containers run one by one before them: each only raises the sum
  let sum := pod.initContainers.foldl (fun (acc : ResourceAmounts) c =>
    let r := amounts c.requests
    { acc with
      cpuMillis := max acc.cpuMillis r.cpuMillis
      memoryBytes := max acc.memoryBytes r.memoryBytes }) sum
  let o := amounts pod.overhead
  { cpuMillis := sum.cpuMillis + o.cpuMillis
    memoryBytes := sum.memoryBytes + o.memoryBytes
    pods := 1 }

/-! ## §2. Amounts. -/

namespace ResourceAmounts

/-- `add`, in 64 bits. -/
def add (a o : ResourceAmounts) : ResourceAmounts where
  cpuMillis := a.cpuMillis + o.cpuMillis
  memoryBytes := a.memoryBytes + o.memoryBytes
  pods := a.pods + o.pods

/-- Whether `req` fits in `free` (treated as free capacity). -/
def fits (free req : ResourceAmounts) : Bool :=
  req.cpuMillis ≤ free.cpuMillis && req.memoryBytes ≤ free.memoryBytes
    && req.pods ≤ free.pods

/-- `minus`, in 64 bits. -/
def minus (a o : ResourceAmounts) : ResourceAmounts where
  cpuMillis := a.cpuMillis - o.cpuMillis
  memoryBytes := a.memoryBytes - o.memoryBytes
  pods := a.pods - o.pods

/-- max(cpu, memory) utilization of `used` against `a`, as a percentage. -/
def utilizationPercent (a used : ResourceAmounts) : F64 :=
  let ratio := fun (u t : Int64) =>
    if 0 < t then (F64.ofInt u.toInt).div (F64.ofInt t.toInt) else .fin 0
  (F64.ofInt 100).mul
    ((ratio used.cpuMillis a.cpuMillis).max (ratio used.memoryBytes a.memoryBytes))

theorem fits_iff {free req : ResourceAmounts} :
    free.fits req = true ↔ req.cpuMillis.toInt ≤ free.cpuMillis.toInt
      ∧ req.memoryBytes.toInt ≤ free.memoryBytes.toInt
      ∧ req.pods.toInt ≤ free.pods.toInt := by
  simp only [fits, Bool.and_eq_true, decide_eq_true_eq, Int64.le_iff_toInt_le, and_assoc]

end ResourceAmounts

/-- Subtracting an amount no larger leaves at most the exact difference. -/
theorem int64_sub_le {a b : Int64} (h : b.toInt ≤ a.toInt) :
    (a - b).toInt ≤ a.toInt - b.toInt := by
  rw [Int64.toInt_sub]
  have ha := a.toInt_lt
  have hb := b.le_toInt
  rcases Int.lt_or_le (a.toInt - b.toInt) (2 ^ 63) with hlt | hge
  · rw [Int.bmod_eq_of_le (by omega) (by omega)]
  · have := Int.bmod_lt (x := a.toInt - b.toInt) (m := 2 ^ 64) (by omega)
    omega

/-- Subtracting an amount between zero and it is exact. -/
theorem int64_sub_eq {a b : Int64} (hb : 0 ≤ b.toInt) (h : b.toInt ≤ a.toInt) :
    (a - b).toInt = a.toInt - b.toInt := by
  rw [Int64.toInt_sub]
  have ha := a.toInt_lt
  exact Int.bmod_eq_of_le (by omega) (by omega)

end HardwareAutoscaler
