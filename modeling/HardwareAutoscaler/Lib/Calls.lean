/-
  HardwareAutoscaler.Lib.Calls
  ────────────────────────────
  PROGRAMS THAT MAKE CALLS, RUN SIDE BY SIDE — program independent.

  An asynchronous program asks something outside of it, and goes on with the
  answer.  Several of them share what is outside; between two calls of one, the
  others make theirs.

    • `Calls` — a program as the calls it makes,
    • `Every` — a rule that each of its calls obeys, whatever is answered,
    • `every_bind`, `every_bind_except` — the rule of a sequence,
    • `Running`, `Move` — programs side by side, and what may happen next,
    • `run_keeps` — the invariant rule, for any interleaving.
-/
import Mathlib.Data.List.Basic

namespace HardwareAutoscaler.Lib

/-! ## §1. Programs. -/

/-- A program that makes calls `c`, each answered by an `R c`. -/
inductive Calls (C : Type) (R : C → Type) (α : Type) where
  | done (a : α)
  | call (c : C) (next : R c → Calls C R α)

section Programs

variable {C : Type} {R : C → Type} {α β ε : Type} {P : C → Prop}

/-- One program after another. -/
def Calls.bind : Calls C R α → (α → Calls C R β) → Calls C R β
  | .done a, f => f a
  | .call c next, f => .call c (fun r => (next r).bind f)

instance : Monad (Calls C R) where
  pure := .done
  bind := Calls.bind

/-- Every call that is made obeys `P`, whatever was answered before. -/
def Every (P : C → Prop) : Calls C R α → Prop
  | .done _ => True
  | .call c next => P c ∧ ∀ r, Every P (next r)

theorem Every.imp {Q : C → Prop} {x : Calls C R α} (h : Every P x) (hPQ : ∀ c, P c → Q c) :
    Every Q x := by
  induction x with
  | done a => exact trivial
  | call c next ih => exact ⟨hPQ c h.1, fun r => ih r (h.2 r)⟩

theorem every_bind {x : Calls C R α} {f : α → Calls C R β} (hx : Every P x)
    (hf : ∀ a, Every P (f a)) : Every P (x >>= f) := by
  induction x with
  | done a => exact hf a
  | call c next ih => exact ⟨hx.1, fun r => ih r (hx.2 r)⟩

/-- The same for programs that may fail; what fails makes no more calls. -/
theorem every_bind_except {x : ExceptT ε (Calls C R) α} {f : α → ExceptT ε (Calls C R) β}
    (hx : Every P x.run) (hf : ∀ a, Every P (f a).run) : Every P (x >>= f).run := by
  refine every_bind hx (fun r => ?_)
  cases r with
  | ok a => exact hf a
  | error e => exact trivial

theorem every_pure (a : α) : Every P (pure a : ExceptT ε (Calls C R) α).run := trivial

theorem every_throw (e : ε) : Every P (throw e : ExceptT ε (Calls C R) α).run := trivial

end Programs

/-! ## §2. Side by side. -/

section Threads

variable {ο C S ε ω : Type} {R : C → Type}

/-- The state outside, and what is left of each operation that was started. -/
structure Running (ο : Type) (C : Type) (R : C → Type) (S : Type) where
  state : S
  threads : List (ο × Calls C R Unit) := []

/-- What may happen: an operation starts, one makes its next call (with `w`, what
is up to the outside), or something happens that is no operation's doing. -/
inductive Move (ο ε ω : Type) where
  | start (o : ο)
  | next (i : Nat) (w : ω)
  | outside (e : ε)

/-- A call, for whom, and the state it found. -/
structure Made (ο C S : Type) where
  op : ο
  call : C
  state : S

variable (prog : ο → Calls C R Unit) (exec : (c : C) → S → ω → R c × S) (outside : S → ε → S)

/-- **One move**: a thread is started, others do something, or a thread makes its
next call. -/
def Running.step (s : Running ο C R S) : Move ο ε ω → Running ο C R S × List (Made ο C S)
  | .start o => ({ s with threads := s.threads ++ [(o, prog o)] }, [])
  | .outside e => ({ s with state := outside s.state e }, [])
  | .next i w =>
    match s.threads[i]? with
    | some (o, .call c next) =>
      let r := exec c s.state w
      ({ state := r.2, threads := s.threads.set i (o, next r.1) }, [⟨o, c, s.state⟩])
    | _ => (s, [])

/-- What is there after some moves, and the calls that were made. -/
def Running.run (s : Running ο C R S) : List (Move ο ε ω) → Running ο C R S × List (Made ο C S)
  | [] => (s, [])
  | m :: ms =>
    let r := s.step prog exec outside m
    let rest := r.1.run ms
    (rest.1, r.2 ++ rest.2)

/-! ## §3. The invariant rule. -/

/-- The state is sound, and what is left of each operation keeps to its own. -/
def Running.Keeps (Inv : S → Prop) (Own : ο → C → Prop) (s : Running ο C R S) : Prop :=
  Inv s.state ∧ ∀ t ∈ s.threads, Every (Own t.1) t.2

variable {prog exec outside} {Inv : S → Prop} {Own : ο → C → Prop}

theorem step_keeps (hexec : ∀ o c st w, Inv st → Own o c → Inv (exec c st w).2)
    (hout : ∀ st e, Inv st → Inv (outside st e)) {s : Running ο C R S} {m : Move ο ε ω}
    (hm : ∀ o, m = .start o → Every (Own o) (prog o)) (hs : s.Keeps Inv Own) :
    (s.step prog exec outside m).1.Keeps Inv Own ∧
      ∀ made ∈ (s.step prog exec outside m).2, Own made.op made.call ∧ Inv made.state := by
  cases m with
  | start o =>
    refine ⟨⟨hs.1, ?_⟩, fun made hmade => by cases hmade⟩
    exact List.forall_mem_append.mpr ⟨hs.2, List.forall_mem_singleton.mpr (hm o rfl)⟩
  | outside e => exact ⟨⟨hout _ e hs.1, hs.2⟩, fun made hmade => by cases hmade⟩
  | next i w =>
    cases hget : s.threads[i]? with
    | none =>
      simp only [Running.step, hget]
      exact ⟨hs, fun made hmade => by cases hmade⟩
    | some t =>
      have hmem := List.mem_of_getElem? hget
      obtain ⟨o, p⟩ := t
      cases p with
      | done a =>
        simp only [Running.step, hget]
        exact ⟨hs, fun made hmade => by cases hmade⟩
      -- the only case in which the state changes: the thread makes its next call
      | call c next =>
        obtain ⟨hown, hnext⟩ := hs.2 _ hmem
        simp only [Running.step, hget]
        refine ⟨⟨hexec o c _ w hs.1 hown, ?_⟩, List.forall_mem_singleton.mpr ⟨hown, hs.1⟩⟩
        intro t ht
        rcases List.mem_or_eq_of_mem_set ht with ht | rfl
        · exact hs.2 t ht
        · exact hnext _

/-- **The invariant rule.** Operations that keep to their own, whatever they are
answered, do so in any interleaving, and find the invariant at every call. -/
theorem run_keeps (hexec : ∀ o c st w, Inv st → Own o c → Inv (exec c st w).2)
    (hout : ∀ st e, Inv st → Inv (outside st e)) (ms : List (Move ο ε ω)) :
    ∀ s : Running ο C R S, (∀ o, .start o ∈ ms → Every (Own o) (prog o)) → s.Keeps Inv Own →
      ∀ made ∈ (s.run prog exec outside ms).2, Own made.op made.call ∧ Inv made.state := by
  induction ms with
  | nil => intro s _ _ made hmade; cases hmade
  | cons m ms ih =>
    intro s hms hs made hmade
    obtain ⟨hs', hfirst⟩ := step_keeps hexec hout
      (fun o ho => hms o (ho ▸ List.mem_cons_self)) hs
    rcases List.mem_append.mp hmade with h | h
    · exact hfirst made h
    · exact ih _ (fun o ho => hms o (List.mem_cons_of_mem _ ho)) hs' made h

end Threads

end HardwareAutoscaler.Lib
