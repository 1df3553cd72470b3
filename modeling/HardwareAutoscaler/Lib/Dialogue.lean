/-
  HardwareAutoscaler.Lib.Dialogue
  ───────────────────────────────
  WHAT A PROGRAM ASKS AND WHAT IT IS TOLD — program independent.

  A program that makes calls is known by its dialogues: the calls of a run, in
  their order, with the answers it got.

    • `Says` — a run of a program: its dialogue and its result,
    • `says_bind`, `says_bind_except` — the rule of a sequence; `says_every` — of
      a rule of calls,
    • `said_begins`, `said_started` — what each of several programs says that run
      side by side,
    • `Session` — programs that may fail and keep a state of their own, also
      when they fail,
    • `says_session` — the rule of a sequence of those,
    • `through` — a program that makes its calls through another's.
-/
import HardwareAutoscaler.Lib.Calls

namespace HardwareAutoscaler.Lib

variable {C : Type} {R : C → Type} {α β ε σ : Type}

/-! ## §1. Dialogues. -/

/-- A call and its answer. -/
abbrev Exchange (R : C → Type) := (c : C) × R c

/-- The program makes these calls, is answered so, and ends with this. -/
inductive Says : Calls C R α → List (Exchange R) → α → Prop
  | done (a : α) : Says (.done a) [] a
  | call {c : C} {next : R c → Calls C R α} {r : R c} {rest : List (Exchange R)} {a : α}
      (h : Says (next r) rest a) : Says (.call c next) (⟨c, r⟩ :: rest) a

theorem says_done {a b : α} {d : List (Exchange R)} (h : Says (.done a : Calls C R α) d b) :
    d = [] ∧ b = a := by
  cases h
  exact ⟨rfl, rfl⟩

theorem says_call {c : C} {next : R c → Calls C R α} {d : List (Exchange R)} {a : α}
    (h : Says (.call c next) d a) : ∃ r rest, d = ⟨c, r⟩ :: rest ∧ Says (next r) rest a := by
  cases h with
  | call h => exact ⟨_, _, rfl, h⟩

/-- **The rule of a sequence**: the dialogue of the first, then that of the second. -/
theorem says_bind {x : Calls C R α} {f : α → Calls C R β} {b : β} : ∀ {d : List (Exchange R)},
    Says (x >>= f) d b ↔ ∃ d₁ d₂ a, d = d₁ ++ d₂ ∧ Says x d₁ a ∧ Says (f a) d₂ b := by
  induction x with
  | done a =>
    intro d
    constructor
    · intro h
      exact ⟨[], d, a, rfl, .done a, h⟩
    · rintro ⟨d₁, d₂, a', rfl, h₁, h₂⟩
      obtain ⟨rfl, rfl⟩ := says_done h₁
      exact h₂
  | call c next ih =>
    intro d
    constructor
    · intro h
      obtain ⟨r, rest, rfl, hrest⟩ := says_call h
      obtain ⟨d₁, d₂, a, rfl, h₁, h₂⟩ := (ih r).mp hrest
      exact ⟨⟨c, r⟩ :: d₁, d₂, a, rfl, .call h₁, h₂⟩
    · rintro ⟨d₁, d₂, a, rfl, h₁, h₂⟩
      obtain ⟨r, rest, rfl, hrest⟩ := says_call h₁
      exact .call ((ih r).mpr ⟨rest, d₂, a, rfl, hrest, h₂⟩)

/-- The same for programs that may fail: the first fails, or both are run. -/
theorem says_bind_except {x : ExceptT ε (Calls C R) α} {f : α → ExceptT ε (Calls C R) β}
    {d : List (Exchange R)} {r : Except ε β} (h : Says (x >>= f).run d r) :
    (∃ e, Says x.run d (.error e) ∧ r = .error e) ∨
      ∃ d₁ d₂ a, d = d₁ ++ d₂ ∧ Says x.run d₁ (.ok a) ∧ Says (f a).run d₂ r := by
  obtain ⟨d₁, d₂, r₁, rfl, h₁, h₂⟩ := says_bind.mp h
  cases r₁ with
  | error e =>
    obtain ⟨rfl, rfl⟩ := says_done h₂
    exact Or.inl ⟨e, by rw [List.append_nil]; exact h₁, rfl⟩
  | ok a => exact Or.inr ⟨d₁, d₂, a, rfl, h₁, h₂⟩

/-- In a dialogue every call obeys the program's rule. -/
theorem says_every {P : C → Prop} {x : Calls C R α} (h : Every P x) {d : List (Exchange R)} {a : α}
    (hs : Says x d a) : ∀ e ∈ d, P e.1 := by
  induction hs with
  | done a => exact fun e he => by cases he
  | call _ ih => exact List.forall_mem_cons.mpr ⟨h.1, ih (h.2 _)⟩

/-! ## §2. Programs that may fail. -/

/-- A program that may fail with an `ε`, and keeps a `σ`. -/
abbrev Session (σ ε : Type) (C : Type) (R : C → Type) := ExceptT ε (StateT σ (Calls C R))

namespace Session

/-- A run of such a program, from one state to another. -/
def Says (x : Session σ ε C R α) (s : σ) (d : List (Exchange R)) (r : Except ε α) (s' : σ) : Prop :=
  Lib.Says (x.run.run s) d (r, s')

/-- Makes one call. -/
def ask (c : C) : Session σ ε C R (R c) :=
  ExceptT.lift (StateT.lift (.call c .done))

/-- Goes on whether `x` fails or not. -/
def attempt (x : Session σ ε C R α) : Session σ ε C R (Except ε α) := ExceptT.lift x.run

variable {s s' : σ} {d : List (Exchange R)}

theorem says_attempt {x : Session σ ε C R α} {r : Except ε (Except ε α)}
    (h : x.attempt.Says s d r s') : ∃ q, r = .ok q ∧ x.Says s d q s' := by
  obtain ⟨d₁, d₂, ⟨q, t⟩, rfl, h₁, h₂⟩ := says_bind.mp h
  obtain ⟨rfl, heq⟩ := says_done h₂
  obtain ⟨rfl, rfl⟩ := Prod.mk.inj heq
  exact ⟨q, rfl, by rw [List.append_nil]; exact h₁⟩

theorem says_pure {a : α} {r : Except ε α} (h : (pure a : Session σ ε C R α).Says s d r s') :
    d = [] ∧ r = .ok a ∧ s' = s := by
  obtain ⟨rfl, heq⟩ := says_done h
  obtain ⟨rfl, rfl⟩ := Prod.mk.inj heq
  exact ⟨rfl, rfl, rfl⟩

theorem says_throw {e : ε} {r : Except ε α}
    (h : (throw e : Session σ ε C R α).Says s d r s') : d = [] ∧ r = .error e ∧ s' = s := by
  obtain ⟨rfl, heq⟩ := says_done h
  obtain ⟨rfl, rfl⟩ := Prod.mk.inj heq
  exact ⟨rfl, rfl, rfl⟩

theorem says_ask {c : C} {r : Except ε (R c)} (h : (ask c : Session σ ε C R (R c)).Says s d r s') :
    ∃ a, d = [⟨c, a⟩] ∧ r = .ok a ∧ s' = s := by
  obtain ⟨a, rest, rfl, hrest⟩ := says_call h
  obtain ⟨rfl, heq⟩ := says_done hrest
  obtain ⟨rfl, rfl⟩ := Prod.mk.inj heq
  exact ⟨a, rfl, rfl, rfl⟩

/-- **The rule of a sequence**: the first fails, or both are run. -/
theorem says_session {x : Session σ ε C R α} {f : α → Session σ ε C R β} {r : Except ε β}
    (h : (x >>= f).Says s d r s') :
    (∃ e, x.Says s d (.error e) s' ∧ r = .error e) ∨
      ∃ d₁ d₂ a t, d = d₁ ++ d₂ ∧ x.Says s d₁ (.ok a) t ∧ (f a).Says t d₂ r s' := by
  obtain ⟨d₁, d₂, ⟨r₁, t⟩, rfl, h₁, h₂⟩ := says_bind.mp h
  cases r₁ with
  | error e =>
    obtain ⟨rfl, heq⟩ := says_done h₂
    obtain ⟨rfl, rfl⟩ := Prod.mk.inj heq
    exact Or.inl ⟨e, by rw [List.append_nil]; exact h₁, rfl⟩
  | ok a => exact Or.inr ⟨d₁, d₂, a, t, rfl, h₁, h₂⟩

/-- Every call that is made obeys `P`, in any state. -/
def Every (P : C → Prop) (x : Session σ ε C R α) : Prop := ∀ s, Lib.Every P (x.run.run s)

variable {P : C → Prop}

theorem every_ask {c : C} (h : P c) : Every P (ask c : Session σ ε C R (R c)) :=
  fun _ => ⟨h, fun _ => trivial⟩

theorem every_session {x : Session σ ε C R α} {f : α → Session σ ε C R β} (hx : Every P x)
    (hf : ∀ a, Every P (f a)) : Every P (x >>= f) := by
  intro s
  refine every_bind (hx s) (fun r => ?_)
  obtain ⟨r, t⟩ := r
  cases r with
  | ok a => exact hf a t
  | error e => exact trivial

end Session

/-! ## §3. Dialogues side by side. -/

section Threads

variable {ο S ω κ : Type} (prog : ο → Calls C R Unit) (exec : (c : C) → S → ω → R c × S)
  (outside : S → κ → S)

/-- The beginning of a dialogue of the program. -/
def Begins (x : Calls C R α) (d : List (Exchange R)) : Prop := ∃ rest a, Says x (d ++ rest) a

theorem begins_nil (hne : ∀ c, Nonempty (R c)) (x : Calls C R α) : Begins x [] := by
  induction x with
  | done a => exact ⟨[], a, .done a⟩
  | call c next ih =>
    obtain ⟨r⟩ := hne c
    obtain ⟨rest, a, h⟩ := ih r
    exact ⟨⟨c, r⟩ :: rest, a, .call h⟩

/-- What the operation at position `i` says in a move. -/
def Running.heard (s : Running ο C R S) (i : Nat) : Move ο κ ω → List (Exchange R)
  | .next j w =>
    match if j = i then s.threads[i]? else none with
    | some (_, .call c _) => [⟨c, (exec c s.state w).1⟩]
    | _ => []
  | _ => []

/-- What the operation at position `i` says in the course of some moves. -/
def Running.said (i : Nat) (s : Running ο C R S) : List (Move ο κ ω) → List (Exchange R)
  | [] => []
  | m :: ms => s.heard exec i m ++ Running.said i (s.step prog exec outside m).1 ms

variable {prog exec outside}

/-- One move of those side by side, at one position. -/
theorem step_heard (s : Running ο C R S) (i : Nat) (m : Move ο κ ω) {t : ο × Calls C R Unit}
    (ht : s.threads[i]? = some t) :
    ∃ p, (s.step prog exec outside m).1.threads[i]? = some (t.1, p) ∧
      ∀ d, Begins p d → Begins t.2 (s.heard exec i m ++ d) := by
  have hsame : ∀ d, Begins t.2 d → Begins t.2 ([] ++ d) := fun d h => h
  have hlt : i < s.threads.length := (List.getElem?_eq_some_iff.mp ht).1
  -- only a move of this thread is heard, and it is heard as the call it makes
  cases m with
  | start o =>
    refine ⟨t.2, ?_, hsame⟩
    rw [Running.step, List.getElem?_append_left hlt]
    exact ht
  | outside e => exact ⟨t.2, ht, hsame⟩
  | next j w =>
    obtain ⟨o, p⟩ := t
    by_cases hj : j = i
    · subst hj
      cases p with
      | done a =>
        refine ⟨.done a, ?_, ?_⟩
        · simp only [Running.step, ht]
        · simp only [Running.heard, ht, if_true]
          exact hsame
      | call c next =>
        refine ⟨next (exec c s.state w).1, ?_, ?_⟩
        · simp only [Running.step, ht, List.getElem?_set_self hlt]
        · simp only [Running.heard, ht, if_true]
          rintro d ⟨rest, a, h⟩
          exact ⟨rest, a, .call h⟩
    · -- another thread's move leaves this one as it was
      refine ⟨p, ?_, ?_⟩
      · cases hother : s.threads[j]? with
        | none =>
          simp only [Running.step, hother]
          exact ht
        | some t' =>
          obtain ⟨o', p'⟩ := t'
          cases p' with
          | done a =>
            simp only [Running.step, hother]
            exact ht
          | call c next =>
            simp only [Running.step, hother]
            rw [List.getElem?_set_ne hj]
            exact ht
      · simp only [Running.heard, if_neg hj]
        exact hsame

/-- **What each operation says is the beginning of a dialogue of its program**, in
any interleaving. -/
theorem said_begins (hne : ∀ c, Nonempty (R c)) (i : Nat) (ms : List (Move ο κ ω)) :
    ∀ s : Running ο C R S, ∀ t, s.threads[i]? = some t →
      Begins t.2 (Running.said prog exec outside i s ms) := by
  induction ms with
  | nil => exact fun _ t _ => begins_nil hne t.2
  | cons m ms ih =>
    intro s t ht
    obtain ⟨p, hp, hbegins⟩ := step_heard s i m ht
    exact hbegins _ (ih _ _ hp)

/-- The same for one that is yet to be started. -/
theorem said_started (hne : ∀ c, Nonempty (R c)) (i : Nat) (ms : List (Move ο κ ω)) :
    ∀ s : Running ο C R S, s.threads[i]? = none →
      Running.said prog exec outside i s ms = [] ∨
        ∃ o, .start o ∈ ms ∧ Begins (prog o) (Running.said prog exec outside i s ms) := by
  -- on the moves; the thread does not exist yet, so only the move that starts it matters
  induction ms with
  | nil => exact fun _ _ => Or.inl rfl
  | cons m ms ih =>
    intro s hs
    have hle : s.threads.length ≤ i := List.getElem?_eq_none_iff.mp hs
    have hquiet : s.heard exec i m = [] := by
      cases m with
      | next j w => simp only [Running.heard, hs, ite_self]
      | start o => rfl
      | outside e => rfl
    rw [Running.said, hquiet, List.nil_append]
    cases hnext : (s.step prog exec outside m).1.threads[i]? with
    | none =>
      rcases ih _ hnext with hnil | ⟨o, ho, hbegins⟩
      · exact Or.inl hnil
      · exact Or.inr ⟨o, List.mem_cons_of_mem _ ho, hbegins⟩
    | some t =>
      have hlt := (List.getElem?_eq_some_iff.mp hnext).1
      -- the first move after which it exists must be its own start
      cases m with
      | start o =>
        simp only [Running.step] at hnext
        have hnew : t = (o, prog o) := by
          rw [List.getElem?_append_right hle] at hnext
          exact List.mem_singleton.mp (List.mem_of_getElem? hnext)
        refine Or.inr ⟨o, List.mem_cons_self, ?_⟩
        have hbegins : Begins t.2 (Running.said prog exec outside i
            (s.step prog exec outside (.start o)).1 ms) := said_begins hne i ms _ t hnext
        rw [hnew] at hbegins
        exact hbegins
      | outside e =>
        rw [show (s.step prog exec outside (.outside e)).1.threads = s.threads from rfl, hs]
          at hnext
        cases hnext
      | next j w =>
        exfalso
        have hlen : (s.step prog exec outside (.next j w)).1.threads.length = s.threads.length := by
          unfold Running.step
          dsimp only
          split
          · exact List.length_set ..
          · rfl
        omega

end Threads

/-! ## §4. Calls made through others. -/

section Through

variable {C' : Type} {R' : C' → Type} {f : C → C'} {g : (c : C) → R' (f c) → R c}

/-- Each call `c` is made as `f c`, and its answer read by `g`. -/
def Calls.through (f : C → C') (g : (c : C) → R' (f c) → R c) : Calls C R α → Calls C' R' α
  | .done a => .done a
  | .call c next => .call (f c) (fun r => (next (g c r)).through f g)

/-- The exchange `e` was made as `e'`. -/
def MadeAs (g : (c : C) → R' (f c) → R c) (e : Exchange R) (e' : Exchange R') : Prop :=
  ∃ r, e' = ⟨f e.1, r⟩ ∧ g e.1 r = e.2

theorem says_through {a : α} : ∀ {x : Calls C R α} {d' : List (Exchange R')},
    Says (x.through f g) d' a → ∃ d, Says x d a ∧ List.Forall₂ (MadeAs g) d d' := by
  intro x
  induction x with
  | done b =>
    intro d' h
    obtain ⟨rfl, rfl⟩ := says_done h
    exact ⟨[], .done _, .nil⟩
  | call c next ih =>
    intro d' h
    obtain ⟨r, rest, rfl, hrest⟩ := says_call h
    obtain ⟨d, hd, hmade⟩ := ih (g c r) hrest
    exact ⟨⟨c, g c r⟩ :: d, .call hd, .cons ⟨r, rfl, rfl⟩ hmade⟩

theorem every_through {P : C' → Prop} (h : ∀ c, P (f c)) (x : Calls C R α) :
    Every P (x.through f g) := by
  induction x with
  | done a => exact trivial
  | call c next ih => exact ⟨h c, fun r => ih (g c r)⟩

/-- A program that may fail, and keeps nothing. -/
def Session.ofCalls (x : ExceptT ε (Calls C R) α) : Session σ ε C R α :=
  fun s => x.run >>= fun r => .done (r, s)

/-- A session, its calls made through those of another. -/
def Session.through (f : C → C') (g : (c : C) → R' (f c) → R c) (x : Session σ ε C R α) :
    Session σ ε C' R' α :=
  fun s => (x.run.run s).through f g

end Through

end HardwareAutoscaler.Lib
