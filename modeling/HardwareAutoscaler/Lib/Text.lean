/-
  HardwareAutoscaler.Lib.Text
  ───────────────────────────
  TEXTS AS LISTS OF CHARACTERS — program independent.

  Splitting a text at its separators, cutting it at the first or the last of
  them, and reading numerals the way integer parsers do, which take a sign.

    • `Groups`, `groups_iff` — a text made of separated groups,
    • `toDigit`, `Numeral` — digits, and what they spell,
    • `fromStrRadix_iff` — the numbers below a bound that are read,
    • `numeral_toDigits` — a number that is written,
    • `splitOnce_iff`, `rsplitOnce_iff` — a text cut at a separator,
    • `rdropWhile_eq_iff` — texts that are equal when their ends are trimmed.
-/
import Mathlib.Data.List.Forall2
import Mathlib.Data.List.DropRight

namespace HardwareAutoscaler.Lib

/-! ## §1. Separated groups. -/

section Groups

variable {α β : Type*} {sep : α → Bool} {G H : List α → β → Prop}

/-- A text of groups, each with its meaning, and a separator between two. -/
inductive Groups (sep : α → Bool) (G : List α → β → Prop) : List α → List β → Prop
  | last {g : List α} {b : β} : G g b → (∀ x ∈ g, sep x = false) → Groups sep G g [b]
  | cons {g rest : List α} {x : α} {b : β} {bs : List β} : G g b →
      (∀ y ∈ g, sep y = false) → sep x = true → Groups sep G rest bs →
      Groups sep G (g ++ x :: rest) (b :: bs)

theorem Groups.mono {s : List α} {bs : List β} (h : Groups sep G s bs)
    (hGH : ∀ g b, G g b → H g b) : Groups sep H s bs := by
  induction h with
  | last hg hsep => exact .last (hGH _ _ hg) hsep
  | cons hg hsep hx _ ih => exact .cons (hGH _ _ hg) hsep hx ih

/-- How the groups start, the text starts. -/
theorem Groups.head {P : α → Prop} {s : List α} {bs : List β} (h : Groups sep G s bs)
    (hG : ∀ g b, G g b → ∃ c cs, g = c :: cs ∧ P c) : ∃ c cs, s = c :: cs ∧ P c := by
  cases h with
  | last hg _ => exact hG _ _ hg
  | cons hg _ _ _ =>
    obtain ⟨c, cs, rfl, hc⟩ := hG _ _ hg
    exact ⟨c, _, List.cons_append, hc⟩

/-- And as they end, it ends. -/
theorem Groups.getLast {P : α → Prop} {s : List α} {bs : List β} (h : Groups sep G s bs)
    (hG : ∀ g b, G g b → ∃ c, g.getLast? = some c ∧ P c) : ∃ c, s.getLast? = some c ∧ P c := by
  induction h with
  | last hg _ => exact hG _ _ hg
  | cons _ _ _ _ ih =>
    obtain ⟨c, hc, hP⟩ := ih
    refine ⟨c, ?_, hP⟩
    rw [List.getLast?_append, List.getLast?_cons, hc]
    rfl

/-- A text before its first separator, and after it. -/
theorem exists_first (sep : α → Bool) (s : List α) :
    (∀ x ∈ s, sep x = false) ∨
      ∃ g x rest, s = g ++ x :: rest ∧ (∀ y ∈ g, sep y = false) ∧ sep x = true := by
  induction s with
  | nil => exact Or.inl (fun x hx => by cases hx)
  | cons x s ih =>
    cases hx : sep x with
    | true => exact Or.inr ⟨[], x, s, rfl, (fun y hy => by cases hy), hx⟩
    | false =>
      rcases ih with hnone | ⟨g, y, rest, hs, hg, hy⟩
      · exact Or.inl (List.forall_mem_cons.mpr ⟨hx, hnone⟩)
      · refine Or.inr ⟨x :: g, y, rest, ?_, List.forall_mem_cons.mpr ⟨hx, hg⟩, hy⟩
        rw [hs, List.cons_append]

/-- **The groups of a text** are the pieces it splits into. -/
theorem groups_iff {s : List α} {bs : List β} :
    Groups sep G s bs ↔ List.Forall₂ G (s.splitOnP sep) bs := by
  constructor
  · intro h
    induction h with
    | last hg hsep =>
      rw [List.splitOnP_eq_singleton hsep]
      exact .cons hg .nil
    | cons hg hsep hx _ ih =>
      rw [List.splitOnP_append_cons_of_forall_mem hsep _ hx]
      exact .cons hg ih
  · intro h
    induction hn : s.length using Nat.strongRecOn generalizing s bs with
    | ind n ih =>
      rcases exists_first sep s with hnone | ⟨g, x, rest, hs, hg, hx⟩
      · rw [List.splitOnP_eq_singleton hnone] at h
        cases h with
        | cons hgb hrest =>
          cases hrest
          exact .last hgb hnone
      · rw [hs, List.splitOnP_append_cons_of_forall_mem hg _ hx] at h
        cases h with
        | cons hgb hrest =>
          have hlen : rest.length < n := by
            rw [← hn, hs, List.length_append, List.length_cons]
            omega
          rw [hs]
          exact .cons hgb hg hx (ih _ hlen hrest rfl)

/-- Groups put together with one separator. -/
theorem groups_intercalate {x : α} (hx : sep x = true) {gs : List (List α)} {bs : List β}
    (hne : gs ≠ []) (h : List.Forall₂ (fun g b => G g b ∧ ∀ y ∈ g, sep y = false) gs bs) :
    Groups sep G ([x].intercalate gs) bs := by
  induction h with
  | nil => exact absurd rfl hne
  | cons hg hrest ih =>
    rename_i g b gs bs
    cases hrest with
    | nil =>
      rw [List.intercalate_singleton]
      exact .last hg.1 hg.2
    | cons hg' hrest' =>
      rw [List.intercalate_cons_cons, List.append_assoc, List.singleton_append]
      exact .cons hg.1 hg.2 hx (ih (List.cons_ne_nil _ _))

end Groups

/-- A list read element by element. -/
theorem mapM_eq_some_iff {α β : Type*} {f : α → Option β} {l : List α} {r : List β} :
    l.mapM f = some r ↔ List.Forall₂ (fun a b => f a = some b) l r := by
  induction l generalizing r with
  | nil =>
    rw [List.mapM_nil]
    constructor
    · intro h
      cases h
      exact .nil
    · intro h
      cases h
      rfl
  | cons a l ih =>
    rw [List.mapM_cons]
    simp only [Option.bind_eq_bind, Option.bind_eq_some_iff, Option.pure_def]
    constructor
    · rintro ⟨b, hb, bs, hbs, heq⟩
      cases heq
      exact .cons hb (ih.mp hbs)
    · intro h
      cases h with
      | cons hb hbs => exact ⟨_, hb, _, ih.mpr hbs, rfl⟩

/-! ## §2. Numerals. -/

/-- `char::to_digit`. -/
def toDigit (radix : Nat) (c : Char) : Option Nat :=
  let n := c.toNat
  let d := if 48 ≤ n ∧ n ≤ 57 then some (n - 48)
    else if 97 ≤ n ∧ n ≤ 122 then some (n - 87)
    else if 65 ≤ n ∧ n ≤ 90 then some (n - 55)
    else none
  d.filter (· < radix)

/-- `n`, and then the digits `ds`. -/
def ofDigits (radix n : Nat) (ds : List Nat) : Nat := ds.foldl (fun n d => n * radix + d) n

/-- **A numeral**: one digit or more, and the number they spell. -/
def Numeral (radix : Nat) (s : List Char) (n : Nat) : Prop :=
  s ≠ [] ∧ ∃ ds, List.Forall₂ (fun c d => toDigit radix c = some d) s ds ∧ ofDigits radix 0 ds = n

/-- The digits are read one by one while the number stays below `bound`. -/
def readDigits (radix bound : Nat) : Nat → List Char → Option Nat
  | n, [] => some n
  | n, c :: cs => (toDigit radix c).bind (fun d =>
    if n * radix + d < bound then readDigits radix bound (n * radix + d) cs else none)

/-- `from_str_radix` of an unsigned type with `bound` values: a plus sign, if
any, and the digits. -/
def fromStrRadix (radix bound : Nat) : List Char → Option Nat
  | [] => none
  | c :: cs =>
    if c = '+' then if cs.isEmpty then none else readDigits radix bound 0 cs
    else readDigits radix bound 0 (c :: cs)

section Numerals

variable {radix bound n m : Nat} {s : List Char}

theorem le_ofDigits (hr : 1 ≤ radix) (ds : List Nat) : ∀ n, n ≤ ofDigits radix n ds := by
  induction ds with
  | nil => intro n; exact Nat.le_refl n
  | cons d ds ih =>
    intro n
    have hmul : n * 1 ≤ n * radix := Nat.mul_le_mul_left n hr
    have hrest := ih (n * radix + d)
    show n ≤ ofDigits radix (n * radix + d) ds
    omega

theorem readDigits_iff (hr : 1 ≤ radix) : ∀ {n : Nat} {s : List Char}, n < bound →
    (readDigits radix bound n s = some m ↔
      (∃ ds, List.Forall₂ (fun c d => toDigit radix c = some d) s ds ∧ ofDigits radix n ds = m) ∧
        m < bound) := by
  intro n s
  induction s generalizing n with
  | nil =>
    intro hn
    constructor
    · intro h
      cases h
      exact ⟨⟨[], .nil, rfl⟩, hn⟩
    · rintro ⟨⟨ds, hds, hm⟩, _⟩
      cases hds
      exact congrArg some hm
  | cons c cs ih =>
    intro hn
    show (toDigit radix c).bind _ = some m ↔ _
    rw [Option.bind_eq_some_iff]
    constructor
    · rintro ⟨d, hd, h⟩
      split at h
      · rename_i hlt
        obtain ⟨⟨ds, hds, hm⟩, hbound⟩ := (ih hlt).mp h
        exact ⟨⟨d :: ds, .cons hd hds, hm⟩, hbound⟩
      · cases h
    · rintro ⟨⟨ds, hds, hm⟩, hbound⟩
      cases hds with
      | cons hd hrest =>
        rename_i d ds
        -- no prefix is larger than the whole number
        have hle := le_ofDigits hr ds (n * radix + d)
        have hm' : ofDigits radix (n * radix + d) ds = m := hm
        have hlt : n * radix + d < bound := by omega
        exact ⟨d, hd, by rw [if_pos hlt]; exact (ih hlt).mpr ⟨⟨ds, hrest, hm'⟩, hbound⟩⟩

theorem numeral_iff (hr : 1 ≤ radix) (hb : 0 < bound) (hs : s ≠ []) :
    readDigits radix bound 0 s = some n ↔ Numeral radix s n ∧ n < bound := by
  rw [readDigits_iff hr hb]
  exact and_congr_left (fun _ => (and_iff_right hs).symm)

/-- A digit is an ASCII letter or digit. -/
theorem toDigit_some {c : Char} {d : Nat} (h : toDigit radix c = some d) :
    d < radix ∧ ((48 ≤ c.toNat ∧ c.toNat ≤ 57) ∨ (97 ≤ c.toNat ∧ c.toNat ≤ 122) ∨
      (65 ≤ c.toNat ∧ c.toNat ≤ 90)) := by
  unfold toDigit at h
  obtain ⟨hd, hlt⟩ := Option.filter_eq_some_iff.mp h
  refine ⟨of_decide_eq_true hlt, ?_⟩
  split at hd
  · rename_i hn
    exact Or.inl hn
  · split at hd
    · rename_i hn
      exact Or.inr (Or.inl hn)
    · split at hd
      · rename_i hn
        exact Or.inr (Or.inr hn)
      · cases hd

theorem fromStrRadix_cons {c : Char} {cs : List Char} : fromStrRadix radix bound (c :: cs)
    = if c = '+' then if cs.isEmpty then none else readDigits radix bound 0 cs
      else readDigits radix bound 0 (c :: cs) := rfl

theorem toDigit_plus : toDigit radix '+' = none := rfl

theorem not_numeral_plus : ¬ Numeral radix ('+' :: s) n := by
  rintro ⟨_, ds, hds, _⟩
  cases hds with
  | cons hd _ =>
    rw [toDigit_plus] at hd
    cases hd

/-- A numeral has digits only. -/
theorem Numeral.not_mem {c : Char} (h : Numeral radix s n) (hc : toDigit radix c = none) :
    c ∉ s := by
  obtain ⟨ds, hds⟩ : ∃ ds, List.Forall₂ (fun c d => toDigit radix c = some d) s ds :=
    h.2.imp (fun _ hds => hds.1)
  clear h
  induction hds with
  | nil => exact List.not_mem_nil
  | cons hd _ ih =>
    rw [List.mem_cons, not_or]
    refine ⟨?_, ih⟩
    rintro rfl
    rw [hc] at hd
    cases hd

/-- **What an integer parser accepts**: a numeral below the bound, with a plus
sign before it or without. -/
theorem fromStrRadix_iff (hr : 1 ≤ radix) (hb : 0 < bound) :
    fromStrRadix radix bound s = some n ↔
      (Numeral radix s n ∨ ∃ t, s = '+' :: t ∧ Numeral radix t n) ∧ n < bound := by
  cases s with
  | nil =>
    constructor
    · intro h
      cases h
    · rintro ⟨⟨hne, _⟩ | ⟨t, ht, _⟩, _⟩
      · exact absurd rfl hne
      · cases ht
  | cons c cs =>
    -- a leading `+` is dropped, but alone it is no number
    rw [fromStrRadix_cons]
    by_cases hc : c = '+'
    · rw [if_pos hc, hc]
      cases cs with
      | nil =>
        constructor
        · intro h
          cases h
        · rintro ⟨hnum | ⟨t, ht, hne, _⟩, _⟩
          · exact absurd hnum not_numeral_plus
          · cases ht
            exact absurd rfl hne
      | cons d ds =>
        have hread := numeral_iff (n := n) hr hb (List.cons_ne_nil d ds)
        rw [if_neg (by simp), hread]
        constructor
        · rintro ⟨hnum, hlt⟩
          exact ⟨Or.inr ⟨_, rfl, hnum⟩, hlt⟩
        · rintro ⟨hnum | ⟨t, ht, hnum⟩, hlt⟩
          · exact absurd hnum not_numeral_plus
          · cases ht
            exact ⟨hnum, hlt⟩
    · rw [if_neg hc, numeral_iff hr hb (List.cons_ne_nil c cs)]
      constructor
      · rintro ⟨hnum, hlt⟩
        exact ⟨Or.inl hnum, hlt⟩
      · rintro ⟨hnum | ⟨t, ht, _⟩, hlt⟩
        · exact ⟨hnum, hlt⟩
        · cases ht
          exact absurd rfl hc

/-- A written digit is read back. -/
theorem toDigit_digitChar : ∀ r ≤ 16, ∀ d < r, toDigit r (Nat.digitChar d) = some d := by decide

theorem mem_toDigits {c : Char} (hlo : 2 ≤ radix) : ∀ n, c ∈ Nat.toDigits radix n →
    ∃ d < radix, c = Nat.digitChar d := by
  intro n
  induction n using Nat.strong_induction_on with
  | _ n ih =>
    intro hc
    rcases Nat.lt_or_ge n radix with hn | hn
    · rw [Nat.toDigits_of_lt_base hn] at hc
      exact ⟨n, hn, List.mem_singleton.mp hc⟩
    · rw [Nat.toDigits_of_base_le (by omega) hn] at hc
      rcases List.mem_append.mp hc with hc | hc
      · exact ih _ (Nat.div_lt_self (by omega) (by omega)) hc
      · exact ⟨n % radix, Nat.mod_lt _ (by omega), List.mem_singleton.mp hc⟩

/-- **A number that is written** is a numeral of itself. -/
theorem numeral_toDigits (hlo : 2 ≤ radix) (hhi : radix ≤ 16) (n : Nat) :
    Numeral radix (Nat.toDigits radix n) n := by
  induction n using Nat.strong_induction_on with
  | _ n ih =>
    rcases Nat.lt_or_ge n radix with hn | hn
    · rw [Nat.toDigits_of_lt_base hn]
      refine ⟨List.cons_ne_nil _ _, [n], .cons (toDigit_digitChar _ hhi _ hn) .nil, ?_⟩
      show 0 * radix + n = n
      omega
    · have hlt : n / radix < n := Nat.div_lt_self (by omega) (by omega)
      have hmod : n % radix < radix := Nat.mod_lt _ (by omega)
      obtain ⟨_, ds, hds, hvalue⟩ := ih _ hlt
      rw [Nat.toDigits_of_base_le (by omega) hn]
      refine ⟨List.append_ne_nil_of_right_ne_nil _ (List.cons_ne_nil _ _), ds ++ [n % radix],
        List.rel_append hds (.cons (toDigit_digitChar _ hhi _ hmod) .nil), ?_⟩
      show (ds ++ [n % radix]).foldl _ 0 = n
      rw [List.foldl_append]
      show ofDigits radix 0 ds * radix + n % radix = n
      rw [hvalue, Nat.mul_comm]
      exact Nat.div_add_mod n radix

end Numerals

/-! ## §3. Cuts. -/

section Cuts

variable {α : Type*} [DecidableEq α] {c : α} {s a b : List α}

/-- `split_once`: what stands before the first `c`, and after it. -/
def splitOnce (c : α) : List α → Option (List α × List α)
  | [] => none
  | x :: xs => if x = c then some ([], xs)
    else (splitOnce c xs).map (fun r => (x :: r.1, r.2))

/-- `rsplit_once`: what stands before the last `c`, and after it. -/
def rsplitOnce (c : α) (s : List α) : Option (List α × List α) :=
  (splitOnce c s.reverse).map (fun r => (r.2.reverse, r.1.reverse))

theorem splitOnce_iff : splitOnce c s = some (a, b) ↔ s = a ++ c :: b ∧ c ∉ a := by
  induction s generalizing a with
  | nil =>
    constructor
    · intro h
      cases h
    · rintro ⟨h, _⟩
      cases a <;> cases h
  | cons x xs ih =>
    unfold splitOnce
    by_cases hx : x = c
    · rw [if_pos hx]
      constructor
      · intro h
        cases h
        exact ⟨by rw [hx]; rfl, List.not_mem_nil⟩
      · rintro ⟨h, hc⟩
        cases a with
        | nil =>
          cases h
          rfl
        | cons y ys =>
          cases h
          exact absurd (hx ▸ List.mem_cons_self) hc
    · -- not the character sought: it is the first of the part before it
      rw [if_neg hx, Option.map_eq_some_iff]
      constructor
      · rintro ⟨⟨a', b'⟩, h, heq⟩
        cases heq
        obtain ⟨hs, hc⟩ := ih.mp h
        refine ⟨by rw [hs]; rfl, ?_⟩
        rw [List.mem_cons, not_or]
        exact ⟨fun he => hx he.symm, hc⟩
      · rintro ⟨h, hc⟩
        cases a with
        | nil =>
          cases h
          exact absurd rfl hx
        | cons y ys =>
          cases h
          exact ⟨(ys, b), ih.mpr ⟨rfl, fun hm => hc (List.mem_cons_of_mem _ hm)⟩, rfl⟩

theorem splitOnce_eq_none : splitOnce c s = none ↔ c ∉ s := by
  constructor
  · intro h hc
    obtain ⟨a, b, hs, ha⟩ := List.eq_append_cons_of_mem hc
    rw [splitOnce_iff.mpr ⟨hs, ha⟩] at h
    cases h
  · intro hc
    cases h : splitOnce c s with
    | none => rfl
    | some r =>
      obtain ⟨a, b⟩ := r
      rw [(splitOnce_iff.mp h).1] at hc
      exact absurd (List.mem_append_right _ List.mem_cons_self) hc

theorem rsplitOnce_iff : rsplitOnce c s = some (a, b) ↔ s = a ++ c :: b ∧ c ∉ b := by
  unfold rsplitOnce
  rw [Option.map_eq_some_iff]
  constructor
  · rintro ⟨⟨a', b'⟩, h, heq⟩
    cases heq
    obtain ⟨hs, hc⟩ := splitOnce_iff.mp h
    refine ⟨?_, by rwa [List.mem_reverse]⟩
    have hrev := congrArg List.reverse hs
    rwa [List.reverse_reverse, List.reverse_append, List.reverse_cons, List.append_assoc,
      List.singleton_append] at hrev
  · rintro ⟨hs, hc⟩
    refine ⟨(b.reverse, a.reverse), splitOnce_iff.mpr ⟨?_, by rwa [List.mem_reverse]⟩, ?_⟩
    · rw [hs, List.reverse_append, List.reverse_cons, List.append_assoc, List.singleton_append]
    · rw [List.reverse_reverse, List.reverse_reverse]

theorem rsplitOnce_eq_none : rsplitOnce c s = none ↔ c ∉ s := by
  unfold rsplitOnce
  rw [Option.map_eq_none_iff, splitOnce_eq_none, List.mem_reverse]

omit [DecidableEq α] in
/-- What is trimmed at the end of a text, when the rest does not end so. -/
theorem rdropWhile_append {p : α → Bool} {t : List α} (ht : ∀ x ∈ t, p x = true)
    (hs : ∀ x, s.getLast? = some x → p x = false) : (s ++ t).rdropWhile p = s := by
  have htrev : ∀ x ∈ t.reverse, p x = true := fun x hx => ht x (List.mem_reverse.mp hx)
  unfold List.rdropWhile
  rw [List.reverse_append, List.dropWhile_append_of_pos htrev]
  cases hrev : s.reverse with
  | nil => rw [List.reverse_eq_nil_iff.mp hrev]; rfl
  | cons x xs =>
    have hlast : s.getLast? = some x := by
      rw [List.getLast?_eq_head?_reverse, hrev]
      rfl
    rw [List.dropWhile_cons_of_neg (by rw [hs x hlast]; decide), ← hrev, List.reverse_reverse]

end Cuts

/-! ## §4. Trimmed ends. -/

section Trims

variable {α : Type*} [DecidableEq α] {c : α} {s t : List α}

omit [DecidableEq α] in
theorem rdropWhile_getLast (p : α → Bool) (s : List α) :
    ∀ x, (s.rdropWhile p).getLast? = some x → p x = false := by
  intro x hx
  have hnot := List.rdropWhile_last_not p s (List.ne_nil_of_mem (List.mem_of_getLast? hx))
  rw [List.getLast_of_getLast?_eq_some hx] at hnot
  exact Bool.eq_false_iff.mpr hnot

omit [DecidableEq α] in
/-- What does not start with what is trimmed still starts as it did. -/
theorem rdropWhile_cons {p : α → Bool} {a : α} (ha : p a = false) (l : List α) :
    (a :: l).rdropWhile p = a :: l.rdropWhile p := by
  induction l using List.reverseRecOn with
  | nil => exact List.rdropWhile_singleton p a |>.trans (by rw [ha]; rfl)
  | append_singleton l x ih =>
    rw [← List.cons_append, List.rdropWhile_concat, List.rdropWhile_concat, ih]
    split <;> rfl

omit [DecidableEq α] in
/-- At each place, a trimmed text has what the text has but for what is trimmed. -/
theorem getElem?_rdropWhile (p : α → Bool) (s : List α) (i : Nat) :
    ((s.rdropWhile p)[i]?).filter (fun x => !p x) = (s[i]?).filter (fun x => !p x) := by
  have hs := List.rdropWhile_append_rtakeWhile (p := p) (l := s)
  have hget : s[i]? = ((s.rdropWhile p) ++ s.rtakeWhile p)[i]? := by rw [hs]
  rw [hget]
  rcases Nat.lt_or_ge i (s.rdropWhile p).length with hi | hi
  · rw [List.getElem?_append_left hi]
  · rw [List.getElem?_append_right hi, List.getElem?_eq_none hi]
    cases ht : (s.rtakeWhile p)[i - (s.rdropWhile p).length]? with
    | none => rfl
    | some x =>
      have hx : p x = true := List.mem_rtakeWhile_imp (List.mem_of_getElem? ht)
      exact (Option.filter_eq_none_iff.mpr (fun y hy => by cases hy; simp [hx])).symm

/-- A text that does not end in `c` is read off from what it has besides `c`. -/
theorem getElem?_of_filter (hlast : s.getLast? ≠ some c)
    (h : ∀ i : Nat, (s[i]?).filter (· != c) = (t[i]?).filter (· != c)) {i : Nat} {x : α}
    (hi : s[i]? = some x) : t[i]? = some x := by
  have hkeep : ∀ {j : Nat} {y : α}, s[j]? = some y → y ≠ c → t[j]? = some y := by
    intro j y hj hy
    have hfilter : (s[j]?).filter (· != c) = some y := by
      rw [hj]
      exact Option.filter_some_pos (by rwa [bne_iff_ne])
    rw [h j] at hfilter
    exact (Option.filter_eq_some_iff.mp hfilter).1
  by_cases hx : x = c
  · -- the last place has something else, so `t` reaches at least as far
    obtain ⟨hlen, _⟩ := List.getElem?_eq_some_iff.mp hi
    have hne : s ≠ [] := List.ne_nil_of_length_pos (by omega)
    obtain ⟨y, hy⟩ : ∃ y, s.getLast? = some y := ⟨_, List.getLast?_eq_some_getLast hne⟩
    have hyc : y ≠ c := fun he => hlast (he ▸ hy)
    rw [List.getLast?_eq_getElem?] at hy
    obtain ⟨hlen', _⟩ := List.getElem?_eq_some_iff.mp (hkeep hy hyc)
    have hit : i < t.length := by omega
    have hnone : (t[i]?).filter (· != c) = none := by
      rw [← h i, hi, hx]
      exact Option.filter_some_neg (by simp)
    rw [List.getElem?_eq_getElem hit] at hnone ⊢
    have heq := Option.filter_eq_none_iff.mp hnone _ rfl
    rw [bne_iff_ne, not_not] at heq
    rw [heq, hx]
  · exact hkeep hi hx

/-- **Texts that are equal without the `c` at their ends**: at each place they
have the same, where `c` and the end of a text count as nothing. -/
theorem rdropWhile_eq_iff : s.rdropWhile (· == c) = t.rdropWhile (· == c) ↔
    ∀ i : Nat, (s[i]?).filter (· != c) = (t[i]?).filter (· != c) := by
  have hlast : ∀ u : List α, (u.rdropWhile (· == c)).getLast? ≠ some c := by
    intro u hu
    have hc := rdropWhile_getLast (· == c) u c hu
    rw [beq_self_eq_true] at hc
    cases hc
  constructor
  · intro h i
    have hs := getElem?_rdropWhile (· == c) s i
    have ht := getElem?_rdropWhile (· == c) t i
    rw [h] at hs
    exact hs.symm.trans ht
  · intro h
    have htrim : ∀ i, ((s.rdropWhile (· == c))[i]?).filter (· != c)
        = ((t.rdropWhile (· == c))[i]?).filter (· != c) := fun i =>
      (getElem?_rdropWhile (· == c) s i).trans ((h i).trans (getElem?_rdropWhile _ t i).symm)
    refine List.ext_getElem? (fun i => Option.ext (fun x => ⟨fun hx => ?_, fun hx => ?_⟩))
    · exact getElem?_of_filter (hlast s) htrim hx
    · exact getElem?_of_filter (hlast t) (fun j => (htrim j).symm) hx

end Trims

end HardwareAutoscaler.Lib
