/-
  HardwareAutoscaler.Drivers.Toggle
  ─────────────────────────────────
  A BUTTON THAT TOGGLES, MADE INTO A SETTER.

  Pressing the power button of a machine that is on turns it off.  A driver
  that has only the button (`src/drivers/nanokvm.rs`, `src/drivers/jetkvm.rs`)
  reads the power state first, and presses when it has to.

    • `ReadThenPress` — what one operation does at the machine,
    • `Obeys` — a machine that tells its state and follows its button,
    • `ReadThenPress.cut` — an operation that is cut off,
    • `retries_reach` — repeating an operation never turns the machine away
      from where it should be.
-/
import Mathlib.Data.List.Basic

namespace HardwareAutoscaler

/-! ## §1. One operation. -/

/-- What happens between a driver and the machine. -/
inductive ButtonEvent where
  /-- The driver is told whether the machine is on. -/
  | reading (on : Bool)
  /-- The button is pressed; a press that is not confirmed may be lost. -/
  | pressed (confirmed : Bool)
  deriving DecidableEq, Repr

/-- An operation that wants the machine at `target`, and whether it succeeds:
one press at most, and only after the opposite was read. -/
inductive ReadThenPress (target : Bool) : List ButtonEvent → Bool → Prop
  | unread : ReadThenPress target [] false
  | there : ReadThenPress target [.reading target] true
  | unpressed (on : Bool) : ReadThenPress target [.reading on] false
  | pressed (confirmed succeeds : Bool) (h : succeeds = true → confirmed = true) :
    ReadThenPress target [.reading !target, .pressed confirmed] succeeds

/-- What happens when an operation is cut off: its first events, and what would
have been confirmed may not be. -/
inductive Cut : List ButtonEvent → List ButtonEvent → Prop
  | nil (events : List ButtonEvent) : Cut [] events
  | reading (on : Bool) {events events' : List ButtonEvent} (h : Cut events events') :
    Cut (.reading on :: events) (.reading on :: events')
  | pressed {confirmed confirmed' : Bool} {events events' : List ButtonEvent}
      (hc : confirmed = true → confirmed' = true) (h : Cut events events') :
    Cut (.pressed confirmed :: events) (.pressed confirmed' :: events')

theorem cut_append (events more : List ButtonEvent) : Cut events (events ++ more) := by
  induction events with
  | nil => exact .nil more
  | cons e events ih =>
    cases e with
    | reading on => exact .reading on ih
    | pressed confirmed => exact .pressed id ih

/-- **An operation that is cut off** is one that failed. -/
theorem ReadThenPress.cut {target succeeds : Bool} {events events' : List ButtonEvent}
    (h : ReadThenPress target events' succeeds) (hc : Cut events events') :
    ReadThenPress target events false := by
  have hfails : ∀ confirmed : Bool, false = true → confirmed = true := fun _ hf => by cases hf
  cases hc with
  | nil => exact .unread
  | reading on hc =>
    cases h with
    | there =>
      cases hc
      exact .unpressed _
    | unpressed =>
      cases hc
      exact .unpressed _
    | pressed confirmed' =>
      cases hc with
      | nil => exact .unpressed _
      | pressed _ hc =>
        cases hc
        exact .pressed _ _ (hfails _)
  | pressed _ _ => cases h

/-! ## §2. The machine. -/

/-- A machine that is on or not before, and after: what is read is how it is, a
confirmed press toggles it, one that is not may have been lost. -/
inductive Obeys : Bool → List ButtonEvent → Bool → Prop
  | nil (on : Bool) : Obeys on [] on
  | reading {on on' : Bool} {events : List ButtonEvent} (h : Obeys on events on') :
    Obeys on (.reading on :: events) on'
  | toggled {on on' confirmed : Bool} {events : List ButtonEvent} (h : Obeys (!on) events on') :
    Obeys on (.pressed confirmed :: events) on'
  | lost {on on' : Bool} {events : List ButtonEvent} (h : Obeys on events on') :
    Obeys on (.pressed false :: events) on'

variable {on on' target succeeds : Bool} {events : List ButtonEvent}

theorem obeys_append {more : List ButtonEvent} (h : Obeys on (events ++ more) on') :
    ∃ mid, Obeys on events mid ∧ Obeys mid more on' := by
  induction events generalizing on with
  | nil => exact ⟨on, .nil on, h⟩
  | cons e events ih =>
    cases h with
    | reading h =>
      obtain ⟨mid, hfirst, hrest⟩ := ih h
      exact ⟨mid, .reading hfirst, hrest⟩
    | toggled h =>
      obtain ⟨mid, hfirst, hrest⟩ := ih h
      exact ⟨mid, .toggled hfirst, hrest⟩
    | lost h =>
      obtain ⟨mid, hfirst, hrest⟩ := ih h
      exact ⟨mid, .lost hfirst, hrest⟩

/-- **One operation.** A machine that is where it should be stays there, and one
whose operation succeeds gets there. -/
theorem ReadThenPress.reaches (h : ReadThenPress target events succeeds)
    (hm : Obeys on events on') :
    (on = target → on' = target) ∧ (succeeds = true → on' = target) := by
  cases h with
  | unread =>
    cases hm
    exact ⟨id, fun hs => by cases hs⟩
  | there =>
    cases hm with
    | reading hm =>
      cases hm
      exact ⟨id, fun _ => rfl⟩
  | unpressed =>
    cases hm with
    | reading hm =>
      cases hm
      exact ⟨id, fun hs => by cases hs⟩
  | pressed confirmed _ hconfirmed =>
    cases hm with
    | reading hm =>
      -- it was read not to be there
      have hnot : (!target) ≠ target := by cases target <;> simp
      refine ⟨fun hon => absurd hon hnot, fun hs => ?_⟩
      cases hm with
      | toggled hm =>
        cases hm
        exact Bool.not_not target
      | lost hm => cases hconfirmed hs

/-- **Repeated operations.** Operations that want the same, one after another: if
the machine was there, or one of them succeeded, it is there. -/
theorem retries_reach {attempts : List (List ButtonEvent × Bool)}
    (h : ∀ a ∈ attempts, ReadThenPress target a.1 a.2)
    (hm : Obeys on (attempts.flatMap (·.1)) on')
    (hon : on = target ∨ ∃ a ∈ attempts, a.2 = true) : on' = target := by
  induction attempts generalizing on with
  | nil =>
    cases hm
    rcases hon with hon | ⟨a, ha, -⟩
    · exact hon
    · cases ha
  | cons a attempts ih =>
    rw [List.flatMap_cons] at hm
    obtain ⟨mid, hfirst, hrest⟩ := obeys_append hm
    have hreach := (h a List.mem_cons_self).reaches hfirst
    refine ih (fun b hb => h b (List.mem_cons_of_mem a hb)) hrest ?_
    rcases hon with hon | ⟨b, hb, hok⟩
    · exact Or.inl (hreach.1 hon)
    · rcases List.mem_cons.mp hb with rfl | hb
      · exact Or.inl (hreach.2 hok)
      · exact Or.inr ⟨b, hb, hok⟩

end HardwareAutoscaler
