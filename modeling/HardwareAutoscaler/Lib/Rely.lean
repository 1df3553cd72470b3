/-
  HardwareAutoscaler.Lib.Rely
  ───────────────────────────
  RELYING ON THE OTHERS — program independent.

  Programs that share what is outside of them are proved one at a time.  An
  accord says what anyone may do to the state; a program relies on it between
  its calls, and keeps to it with each of them.

    • `Accord` — what anyone may do, any number of times,
    • `Safe` — a program that keeps to the accord, and how it ends,
    • `Safe.later` — what the others do meanwhile is no matter,
    • `safe_bind`, `safe_bind_except` — the rule of a sequence,
    • `run_safe` — the rule of programs side by side.
-/
import HardwareAutoscaler.Lib.Calls

namespace HardwareAutoscaler.Lib

/-! ## §1. One program. -/

/-- What anyone may do to the state. -/
structure Accord (S : Type) where
  allows : S → S → Prop
  refl : ∀ s, allows s s
  trans : ∀ {s s' s''}, allows s s' → allows s' s'' → allows s s''

section Programs

variable {C S ω α β ε : Type} {R : C → Type} (exec : (c : C) → S → ω → R c × S) (A : Accord S)

/-- Each call of the program is allowed, and it ends with `Q`, whatever the
others do that is allowed and whatever is answered. -/
def Safe (Q : α → S → Prop) : Calls C R α → S → Prop
  | .done a, s => ∀ s', A.allows s s' → Q a s'
  | .call c next, s => ∀ s', A.allows s s' → ∀ w,
      A.allows s' (exec c s' w).2 ∧ Safe Q (next (exec c s' w).1) (exec c s' w).2

variable {exec A} {P Q : α → S → Prop} {x : Calls C R α} {s s' : S}

/-- **What the others do** before a safe program goes on is no matter. -/
theorem Safe.later (h : Safe exec A Q x s) (hs : A.allows s s') : Safe exec A Q x s' := by
  cases x with
  | done a => exact fun t ht => h t (A.trans hs ht)
  | call c next => exact fun t ht => h t (A.trans hs ht)

/-- **The rule of a sequence.** -/
theorem safe_bind {Q : β → S → Prop} {f : α → Calls C R β}
    (hf : ∀ a t, P a t → Safe exec A Q (f a) t) :
    ∀ {s : S}, Safe exec A P x s → Safe exec A Q (x >>= f) s := by
  induction x with
  | done a => exact fun h => hf a _ (h _ (A.refl _))
  | call c next ih =>
    intro s h t ht w
    obtain ⟨hcall, hnext⟩ := h t ht w
    exact ⟨hcall, ih _ hnext⟩

/-- The same for programs that may fail. What is known of a failure stays true. -/
theorem safe_bind_except {P : Except ε α → S → Prop} {Q : Except ε β → S → Prop}
    {x : ExceptT ε (Calls C R) α} {f : α → ExceptT ε (Calls C R) β}
    (hx : Safe exec A P x.run s) (hok : ∀ a t, P (.ok a) t → Safe exec A Q (f a).run t)
    (herr : ∀ e t t', P (.error e) t → A.allows t t' → Q (.error e) t') :
    Safe exec A Q (x >>= f).run s := by
  refine safe_bind (fun r t hr => ?_) hx
  cases r with
  | ok a => exact hok a t hr
  | error e => exact fun t' ht' => herr e t t' hr ht'

end Programs

/-! ## §2. Side by side. -/

section Threads

variable {ο C S ε ω : Type} {R : C → Type} {prog : ο → Calls C R Unit}
  {exec : (c : C) → S → ω → R c × S} {outside : S → ε → S} {A : Accord S}

/-- Each operation is safe in what is left of it. -/
def Running.Safe (exec : (c : C) → S → ω → R c × S) (A : Accord S) (s : Running ο C R S) : Prop :=
  ∀ t ∈ s.threads, Lib.Safe exec A (fun _ _ => True) t.2 s.state

/-- A state that is reached in an allowed way does not matter to the threads. -/
theorem Running.Safe.later {s : Running ο C R S} {st : S} (hs : s.Safe exec A)
    (hst : A.allows s.state st) : Running.Safe exec A { s with state := st } :=
  fun t ht => (hs t ht).later hst

/-- One move is allowed, and leaves each operation safe. -/
theorem step_safe {s : Running ο C R S} {m : Move ο ε ω}
    (hstart : ∀ o, m = .start o → Lib.Safe exec A (fun _ _ => True) (prog o) s.state)
    (hout : ∀ e, m = .outside e → A.allows s.state (outside s.state e)) (hs : s.Safe exec A) :
    A.allows s.state (s.step prog exec outside m).1.state ∧
      (s.step prog exec outside m).1.Safe exec A := by
  cases m with
  | start o =>
    refine ⟨A.refl _, List.forall_mem_append.mpr ⟨hs, ?_⟩⟩
    exact List.forall_mem_singleton.mpr (hstart o rfl)
  | outside e => exact ⟨hout e rfl, hs.later (hout e rfl)⟩
  | next i w =>
    cases hget : s.threads[i]? with
    | none =>
      simp only [Running.step, hget]
      exact ⟨A.refl _, hs⟩
    | some t =>
      have hmem := List.mem_of_getElem? hget
      obtain ⟨o, p⟩ := t
      cases p with
      | done a =>
        simp only [Running.step, hget]
        exact ⟨A.refl _, hs⟩
      | call c next =>
        obtain ⟨hcall, hnext⟩ := hs _ hmem s.state (A.refl _) w
        simp only [Running.step, hget]
        refine ⟨hcall, fun t ht => ?_⟩
        rcases List.mem_or_eq_of_mem_set ht with ht | rfl
        · exact (hs t ht).later hcall
        · exact hnext

/-- **Programs side by side.** Where each operation is safe whenever it starts,
any interleaving is allowed as a whole. -/
theorem run_safe (ms : List (Move ο ε ω)) : ∀ s : Running ο C R S,
    (∀ o, .start o ∈ ms → ∀ st, A.allows s.state st →
      Lib.Safe exec A (fun _ _ => True) (prog o) st) →
    (∀ e, .outside e ∈ ms → ∀ st, A.allows s.state st → A.allows st (outside st e)) →
    s.Safe exec A → A.allows s.state (s.run prog exec outside ms).1.state := by
  induction ms with
  | nil => exact fun s _ _ _ => A.refl _
  | cons m ms ih =>
    intro s hstart hout hs
    obtain ⟨hfirst, hs'⟩ := step_safe (m := m)
      (fun o ho => hstart o (ho ▸ List.mem_cons_self) _ (A.refl _))
      (fun e he => hout e (he ▸ List.mem_cons_self) _ (A.refl _)) hs
    refine A.trans hfirst (ih _ ?_ ?_ hs')
    · exact fun o ho st hst => hstart o (List.mem_cons_of_mem _ ho) st (A.trans hfirst hst)
    · exact fun e he st hst => hout e (List.mem_cons_of_mem _ he) st (A.trans hfirst hst)

end Threads

end HardwareAutoscaler.Lib
