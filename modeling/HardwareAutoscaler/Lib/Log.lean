/-
  HardwareAutoscaler.Lib.Log
  ──────────────────────────
  LOGS THAT LOOK BACK AT THEIR LAST ENTRY — program independent.

  What is appended to a log for an input depends on the last entry alone:
  `keep last b` is the entry for `b` after `last`, if any.  Such a log may be
  cut to its last `k` entries, `k > 0`, whenever one likes: what is appended
  later does not change.

    • `entries` — the inputs that are recorded, with their entries,
    • `lastN` — the last `k` entries,
    • `appendAll_lastN` — appending to a cut log,
    • `bounded_eq_lastN` — a log that is cut after every batch of inputs.
-/
import HardwareAutoscaler.Lib.Run

namespace HardwareAutoscaler.Lib

variable {α β : Type*} (keep : Option α → β → Option α)

/-! ## §1. What is appended. -/

/-- The inputs that are recorded after `last`, with their entries. -/
def entries : Option α → List β → List (β × α)
  | _, [] => []
  | last, b :: bs =>
    match keep last b with
    | none => entries last bs
    | some a => (b, a) :: entries (some a) bs

/-- The log after all of `bs`. -/
def appendAll (log : List α) (bs : List β) : List α :=
  log ++ (entries keep log.getLast? bs).map Prod.snd

variable {keep} {log : List α} {last : Option α} {b : β} {bs cs : List β}

theorem entries_cons_none (h : keep last b = none) :
    entries keep last (b :: bs) = entries keep last bs := by
  rw [entries, h]

theorem entries_cons_some {a : α} (h : keep last b = some a) :
    entries keep last (b :: bs) = (b, a) :: entries keep (some a) bs := by
  rw [entries, h]

theorem appendAll_nil : appendAll keep log [] = log := List.append_nil _

theorem appendAll_cons_none (h : keep log.getLast? b = none) :
    appendAll keep log (b :: bs) = appendAll keep log bs := by
  unfold appendAll
  rw [entries_cons_none h]

theorem appendAll_cons_some {a : α} (h : keep log.getLast? b = some a) :
    appendAll keep log (b :: bs) = appendAll keep (log ++ [a]) bs := by
  unfold appendAll
  rw [entries_cons_some h, List.map_cons, List.getLast?_concat, List.append_assoc,
    List.singleton_append]

/-- Two batches one after the other. -/
theorem appendAll_append (cs : List β) : ∀ log : List α,
    appendAll keep log (bs ++ cs) = appendAll keep (appendAll keep log bs) cs := by
  induction bs with
  | nil =>
    intro log
    rw [appendAll_nil, List.nil_append]
  | cons b bs ih =>
    intro log
    rw [List.cons_append]
    cases h : keep log.getLast? b with
    | none => rw [appendAll_cons_none h, appendAll_cons_none h, ih]
    | some a => rw [appendAll_cons_some h, appendAll_cons_some h, ih]

/-- An input that is recorded after every entry is never left out. -/
theorem entries_filter {p : β → Bool} (hp : ∀ last b, p b = true → (keep last b).isSome = true) :
    ∀ last, ((entries keep last bs).map Prod.fst).filter p = bs.filter p := by
  induction bs with
  | nil => intro last; rfl
  | cons b bs ih =>
    intro last
    cases h : keep last b with
    | none =>
      have hb : p b = false := by
        by_contra hb
        have hsome := hp last b (by simpa using hb)
        rw [h] at hsome
        cases hsome
      rw [entries_cons_none h, ih, List.filter_cons_of_neg (by rw [hb]; decide)]
    | some a => rw [entries_cons_some h, List.map_cons, List.filter_cons, List.filter_cons, ih]

/-! ## §2. Cutting the log. -/

/-- The last `k` entries, or all of them. -/
def lastN (k : Nat) (log : List α) : List α := log.drop (log.length - k)

variable {k : Nat}

theorem length_lastN : (lastN k log).length = min k log.length := by
  unfold lastN
  rw [List.length_drop]
  omega

/-- The last entry stays. -/
theorem getLast?_lastN (hk : 0 < k) : (lastN k log).getLast? = log.getLast? := by
  unfold lastN
  rw [List.getLast?_drop]
  split
  · rename_i hle
    have hlen : log.length = 0 := by omega
    rw [List.length_eq_zero_iff.mp hlen]
    rfl
  · rfl

/-- Cutting first and cutting last is cutting last. -/
theorem lastN_lastN_append (new : List α) :
    lastN k (lastN k log ++ new) = lastN k (log ++ new) := by
  have hcut : log.length - k + ((lastN k log ++ new).length - k) = (log ++ new).length - k := by
    rw [List.length_append, List.length_append, length_lastN]
    omega
  have hsplit : lastN k log ++ new = (log ++ new).drop (log.length - k) := by
    rw [List.drop_append_of_le_length (Nat.sub_le _ _)]
    rfl
  calc lastN k (lastN k log ++ new)
      = ((log ++ new).drop (log.length - k)).drop ((lastN k log ++ new).length - k) := by
        rw [← hsplit]
        rfl
    _ = (log ++ new).drop (log.length - k + ((lastN k log ++ new).length - k)) :=
        List.drop_drop
    _ = lastN k (log ++ new) := by
        rw [hcut]
        rfl

/-- **Appending to a cut log** appends the same entries. -/
theorem appendAll_lastN (hk : 0 < k) :
    lastN k (appendAll keep (lastN k log) bs) = lastN k (appendAll keep log bs) := by
  unfold appendAll
  rw [getLast?_lastN hk, lastN_lastN_append]

/-! ## §3. Batch after batch. -/

/-- A log cut to its last `k` entries after every batch. -/
def boundedLog (keep : Option α → β → Option α) (k : Nat) (inp : Nat → List β) (n : Nat) :
    List α :=
  stateAt (fun log bs => lastN k (appendAll keep log bs)) [] inp n

/-- The log that is never cut. -/
def fullLog (keep : Option α → β → Option α) (inp : Nat → List β) (n : Nat) : List α :=
  stateAt (appendAll keep) [] inp n

/-- **A bounded log is the tail of the full one.** -/
theorem bounded_eq_lastN (hk : 0 < k) (inp : Nat → List β) (n : Nat) :
    boundedLog keep k inp n = lastN k (fullLog keep inp n) := by
  induction n with
  | zero => exact List.drop_nil.symm
  | succ n ih =>
    show lastN k (appendAll keep (boundedLog keep k inp n) (inp n)) = _
    rw [ih, appendAll_lastN hk]
    rfl

/-- The full log is what all batches together append. -/
theorem fullLog_eq (inp : Nat → List β) (n : Nat) :
    fullLog keep inp n = appendAll keep [] ((List.range n).flatMap inp) := by
  induction n with
  | zero => rfl
  | succ n ih =>
    show appendAll keep (fullLog keep inp n) (inp n) = _
    rw [ih, ← appendAll_append, List.range_succ, List.flatMap_append, List.flatMap_singleton]

end HardwareAutoscaler.Lib
