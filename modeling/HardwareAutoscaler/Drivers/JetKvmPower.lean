/-
  HardwareAutoscaler.Drivers.JetKvmPower
  ──────────────────────────────────────
  A MACHINE BEHIND A JETKVM (`src/drivers/jetkvm.rs`), which is spoken to through
  an MQTT broker.

  An operation subscribes, waits for the retained state, publishes a command if
  one is needed, and waits for the broker to acknowledge it.  What the broker
  sends in between, and how much of it before a deadline passes, is up to it.

    • `parseState`, `commandFor`, `exchange` — the code,
    • `events` — what a dialogue is to the machine,
    • `readThenPress` — one command at most, and only after the state was read,
    • `operate_retries` — retrying never turns the machine off.
-/
import HardwareAutoscaler.Lib.Dialogue
import HardwareAutoscaler.Lib.Json
import HardwareAutoscaler.Drivers.JetKvm
import HardwareAutoscaler.Drivers.Toggle

namespace HardwareAutoscaler.JetKvm

open Lib (Json Exchange Session)
open Lib.Json

/-! ## §1. The driver. -/

/-- What controls the machine: its button and LED, or its supply. -/
inductive JetKvmExtension where
  | atx
  | dc
  deriving DecidableEq, Repr

/-- Configuration of the driver. -/
structure JetKvmConfig where
  broker : String
  baseTopic : String
  extension : JetKvmExtension := .atx
  stateTimeoutMs : UInt64 := 5000

/-- The driver, with its broker read. -/
structure JetKvmDriver where
  config : JetKvmConfig
  host : String
  port : UInt16
  tls : Bool

/-- `build`; `debug` writes a text as `{:?}` does. -/
def build (debug : String → String) (config : JetKvmConfig) : Except String JetKvmDriver := do
  let (host, port, tls) ← parseBroker config.broker
  let base := config.baseTopic.toList.rdropWhile (· == '/')
  if base.isEmpty || base.any (fun c => c == '#' || c == '+') then
    throw (configError s!"invalid baseTopic {debug config.baseTopic}")
  pure { config := { config with baseTopic := String.ofList base }, host, port, tls }

/-- The power state of a payload; `none` also where it is not JSON. -/
def parseState (extension : JetKvmExtension) (payload : Option Json) : Option Bool :=
  payload.bind (fun v =>
    match extension with
    | .atx => asBool (index v "power")
    | .dc => asBool (index v "isOn"))

/-- The operations that use the button. -/
inductive Op where
  | on
  | off (force : Bool)
  deriving DecidableEq, Repr

/-- The command to publish, if any, at the current state. -/
def commandFor (extension : JetKvmExtension) (op : Op) (isOn : Bool) :
    Except String (Option (String × String)) :=
  match extension, op, isOn with
  | _, .on, true | _, .off _, false => .ok none
  | .atx, .on, false => .ok (some ("atx_power_short/set", "PRESS"))
  | .atx, .off false, true => .ok (some ("atx_power_short/set", "PRESS"))
  | .atx, .off true, true => .ok (some ("atx_power_long/set", "PRESS"))
  | .dc, .on, false => .ok (some ("dc_power/set", "ON"))
  | .dc, .off true, true => .ok (some ("dc_power/set", "OFF"))
  | .dc, .off false, true => .error (interfaceError ("JetKVM DC extension cannot shut down " ++
      "gracefully; use another interface for graceful power off"))

/-! ## §2. An exchange. -/

/-- What `poll` returns. -/
inductive Polled where
  /-- A message, with its payload as JSON and as text. -/
  | publish (topic : String) (payload : Option Json) (text : String)
  | pubAck
  | other

/-- What the driver asks of its MQTT connection. -/
inductive JetCall where
  | subscribe (topic : String)
  | poll
  | publish (topic payload : String)
  | disconnect

/-- What it is answered. -/
def JetCall.Answer : JetCall → Type
  | .poll => Except String Polled
  | _ => Except String Unit

/-- A session with the broker. -/
abbrev JetSession (α : Type) := Session Unit String JetCall JetCall.Answer α

/-- The result of something that may fail. -/
def orFail {α : Type} (f : String → String) : Except String α → JetSession α
  | .ok a => pure a
  | .error e => throw (f e)

/-- An error of the MQTT client. -/
def mqttErr (e : String) : String := interfaceError s!"mqtt: {e}"
/-- An error of the connection. -/
def connectionErr (e : String) : String := interfaceError s!"mqtt connection: {e}"

section Driver

variable (d : JetKvmDriver)

/-- Where the device says whether the machine is on. -/
def stateTopic : String :=
  match d.config.extension with
  | .atx => d.config.baseTopic ++ "/atx/state"
  | .dc => d.config.baseTopic ++ "/dc/state"

/-- Where the device says whether it is there. -/
def statusTopic : String := d.config.baseTopic ++ "/status"

/-- Subscribes to a topic; fails with the client. -/
def subscribe (topic : String) : JetSession Unit := do
  let answer : Except String Unit ← Session.ask (JetCall.subscribe topic)
  orFail mqttErr answer

/-- The next event of the connection. -/
def poll : JetSession Polled := do
  let answer : Except String Polled ← Session.ask JetCall.poll
  orFail connectionErr answer

/-- A message that says the JetKVM is not there. -/
def isOffline (payload : Option Json) : Bool :=
  payload.bind (fun v => asBool (index v "online")) == some false

/-- Milliseconds, as `Duration` is written by `{:?}`. -/
def debugMillis (ms : Nat) : String :=
  let fraction := ((toString (ms % 1000 + 1000)).toList.drop 1).rdropWhile (· == '0')
  if ms = 0 then "0ns"
  else if ms < 1000 then s!"{ms}ms"
  else if fraction.isEmpty then s!"{ms / 1000}s"
  else s!"{ms / 1000}.{String.ofList fraction}s"

/-- Waits for the retained state; `n` polls return before the deadline. -/
def waitState : Nat → JetSession Bool
  | 0 =>
    let within := debugMillis d.config.stateTimeoutMs.toNat
    throw (interfaceError (s!"no retained state on {stateTopic d} within {within} " ++
      "(is MQTT enabled on the JetKVM and the extension active?)"))
  | n + 1 => do
    let event ← poll
    match event with
    | .publish topic payload text =>
      -- going offline is told by the last will on the status topic
      if topic == statusTopic d && isOffline payload then
        throw (interfaceError "JetKVM reports itself offline")
      else if topic == stateTopic d then
        match parseState d.config.extension payload with
        | some on => pure on
        | none => throw (interfaceError s!"unexpected payload on {stateTopic d}: {text}")
      else waitState n
    -- anything else on the line is passed over
    | _ => waitState n

/-- Waits for the broker to acknowledge a publish. -/
def waitAck (topic : String) : Nat → JetSession Unit
  | 0 => throw (interfaceError s!"broker did not acknowledge publish to {topic}")
  | n + 1 => do
    let event ← poll
    match event with
    | .pubAck => pure ()
    | _ => waitAck topic n

/-- Publishes to a topic; fails with the client. -/
def publish (topic payload : String) : JetSession Unit := do
  let answer : Except String Unit ← Session.ask (JetCall.publish topic payload)
  orFail mqttErr answer

/-- The state, and the command if one is needed; `n` and `m` polls return before
their deadlines. -/
def act (op : Option Op) (n m : Nat) : JetSession Bool := do
  let isOn ← waitState d n
  match op with
  | none => pure isOn
  | some op =>
    let command ← orFail id (commandFor d.config.extension op isOn)
    match command with
    | none => pure isOn
    | some (suffix, payload) =>
      let topic := s!"{d.config.baseTopic}/{suffix}"
      publish topic payload
      waitAck topic m
      pure isOn

/-- The disconnect, and a last poll; errors are irrelevant. -/
def hangUp : JetSession Unit := do
  let _ ← Session.ask JetCall.disconnect
  let _ ← Session.ask JetCall.poll
  pure ()

/-- Connects, reads the state and acts; returns the state that was read. -/
def exchange (op : Option Op) (n m : Nat) : JetSession Bool := do
  subscribe (stateTopic d)
  subscribe (statusTopic d)
  let result ← Session.attempt (act d op n m)
  hangUp
  orFail id result

/-- `power_state`: what the state topic says. -/
def powerState (n m : Nat) : JetSession PowerState := do
  let on ← exchange d none n m
  pure (if on then .on else .off)

/-- `power_on` and `power_off`. -/
def operate (op : Op) (n m : Nat) : JetSession Unit := do
  let _ ← exchange d (some op) n m
  pure ()

/-! ## §3. What a dialogue is to the machine. -/

/-- Whether a command was sent. -/
def isSent : Exchange JetCall.Answer → Bool
  | ⟨.publish _ _, answer⟩ => Except.isOk (answer : Except String Unit)
  | _ => false

/-- The broker acknowledges what was published. -/
def isAck : Exchange JetCall.Answer → Bool
  | ⟨.poll, answer⟩ =>
    match (answer : Except String Polled) with
    | .ok .pubAck => true
    | _ => false
  | _ => false

/-- The state, where the broker tells it. -/
def readingOf : Exchange JetCall.Answer → Option Bool
  | ⟨.poll, answer⟩ =>
    match (answer : Except String Polled) with
    | .ok (.publish topic payload _) =>
      if topic = stateTopic d then parseState d.config.extension payload else none
    | _ => none
  | _ => none

/-- The commands, and whether an acknowledgement came after. -/
def presses : List (Exchange JetCall.Answer) → List ButtonEvent
  | [] => []
  | e :: rest => if isSent e then .pressed (rest.any isAck) :: presses rest else presses rest

/-- The first state that is told, and the commands before and after it. -/
def events : List (Exchange JetCall.Answer) → List ButtonEvent
  | [] => []
  | e :: rest =>
    if isSent e then .pressed (rest.any isAck) :: events rest
    else
      match readingOf d e with
      | some on => .reading on :: presses rest
      | none => events rest

end Driver

section Dialogues

variable {d : JetKvmDriver} {talk : List (Exchange JetCall.Answer)} {s s' : Unit}

/-- Neither a state nor a command. -/
def Quiet (d : JetKvmDriver) (e : Exchange JetCall.Answer) : Prop :=
  isSent e = false ∧ readingOf d e = none

/-- Where nothing is sent nothing is pressed. -/
theorem presses_unsent (h : ∀ e ∈ talk, isSent e = false) (more : List (Exchange JetCall.Answer)) :
    presses (talk ++ more) = presses more := by
  induction talk with
  | nil => rfl
  | cons e talk ih =>
    obtain ⟨he, hrest⟩ := List.forall_mem_cons.mp h
    rw [List.cons_append, presses, he]
    exact ih hrest

theorem presses_nil (h : ∀ e ∈ talk, isSent e = false) : presses talk = [] := by
  rw [← List.append_nil talk]
  exact presses_unsent h []

/-- A quiet dialogue is nothing to the machine. -/
theorem events_quiet (h : ∀ e ∈ talk, Quiet d e) (more : List (Exchange JetCall.Answer)) :
    events d (talk ++ more) = events d more := by
  induction talk with
  | nil => rfl
  | cons e talk ih =>
    obtain ⟨⟨hsent, hread⟩, hrest⟩ := List.forall_mem_cons.mp h
    rw [List.cons_append, events, hsent, hread]
    exact ih hrest

/-- Where nothing is sent, there is a state at most. -/
theorem events_unsent (h : ∀ e ∈ talk, isSent e = false) :
    events d talk = [] ∨ ∃ on, events d talk = [.reading on] := by
  induction talk with
  | nil => exact Or.inl rfl
  | cons e talk ih =>
    obtain ⟨he, hrest⟩ := List.forall_mem_cons.mp h
    rw [events, he]
    cases readingOf d e with
    | none => exact ih hrest
    | some on => exact Or.inr ⟨on, congrArg (ButtonEvent.reading on :: ·) (presses_nil hrest)⟩

/-- What happens until a dialogue is cut off. -/
theorem presses_cut (talk more : List (Exchange JetCall.Answer)) :
    Cut (presses talk) (presses (talk ++ more)) := by
  induction talk with
  | nil => exact .nil _
  | cons e talk ih =>
    rw [List.cons_append, presses, presses]
    by_cases he : isSent e = true
    · rw [if_pos he, if_pos he]
      exact .pressed (fun hack => by rw [List.any_append, hack, Bool.true_or]) ih
    · rw [if_neg he, if_neg he]
      exact ih

/-- A dialogue cut off is cut off at the machine. -/
theorem events_cut (talk more : List (Exchange JetCall.Answer)) :
    Cut (events d talk) (events d (talk ++ more)) := by
  induction talk with
  | nil => exact .nil _
  | cons e talk ih =>
    rw [List.cons_append, events, events]
    by_cases he : isSent e = true
    · rw [if_pos he, if_pos he]
      exact .pressed (fun hack => by rw [List.any_append, hack, Bool.true_or]) ih
    · rw [if_neg he, if_neg he]
      cases readingOf d e with
      | none => exact ih
      | some on => exact .reading on (presses_cut talk more)

/-- A failure is no dialogue. -/
theorem says_orFail {α : Type} {f : String → String} {x : Except String α} {r : Except String α}
    (h : (orFail f x).Says s talk r s') : talk = [] ∧ r = x.mapError f := by
  cases x with
  | ok a =>
    obtain ⟨rfl, rfl, -⟩ := Session.says_pure h
    exact ⟨rfl, rfl⟩
  | error e =>
    obtain ⟨rfl, rfl, -⟩ := Session.says_throw h
    exact ⟨rfl, rfl⟩

/-- A call whose failure is the program's. -/
theorem says_askOrFail {c : JetCall} {α : Type} {f : String → String}
    (hα : c.Answer = Except String α) {r : Except String α}
    (h : (Session.ask c >>= fun a => orFail f (cast hα a)).Says s talk r s') :
    ∃ a, talk = [⟨c, a⟩] ∧ r = (cast hα a : Except String α).mapError f := by
  rcases Session.says_session h with ⟨e, hask, -⟩ | ⟨d₁, d₂, answer, t, rfl, hask, hrest⟩
  · obtain ⟨a, -, hf, -⟩ := Session.says_ask hask
    cases hf
  · obtain ⟨a, rfl, ha, -⟩ := Session.says_ask hask
    cases ha
    obtain ⟨rfl, rfl⟩ := says_orFail hrest
    exact ⟨answer, rfl, rfl⟩

/-- A poll is one exchange. -/
theorem says_poll {r : Except String Polled} (h : poll.Says s talk r s') :
    ∃ a : Except String Polled, talk = [⟨.poll, a⟩] ∧ r = a.mapError connectionErr :=
  says_askOrFail (c := .poll) rfl h

theorem says_poll_ok {event : Polled} (h : poll.Says s talk (.ok event) s') :
    talk = [⟨.poll, Except.ok event⟩] := by
  obtain ⟨a, rfl, ha⟩ := says_poll h
  cases a with
  | ok event' =>
    cases ha
    rfl
  | error e => cases ha

/-- A subscription is quiet. -/
theorem says_subscribe {topic : String} {r : Except String Unit}
    (h : (subscribe topic).Says s talk r s') : ∀ e ∈ talk, Quiet d e := by
  obtain ⟨a, rfl, -⟩ := says_askOrFail (c := .subscribe topic) rfl h
  exact List.forall_mem_singleton.mpr ⟨rfl, rfl⟩

/-- A publication is one exchange. -/
theorem says_publish {topic payload : String} {r : Except String Unit}
    (h : (publish topic payload).Says s talk r s') : ∃ e, talk = [e] ∧ isSent e = r.isOk := by
  obtain ⟨a, rfl, hr⟩ := says_askOrFail (c := .publish topic payload) rfl h
  refine ⟨_, rfl, ?_⟩
  rw [hr]
  cases (a : Except String Unit) <;> rfl

/-- The two topics differ. -/
theorem status_ne_state : statusTopic d ≠ stateTopic d := by
  unfold statusTopic stateTopic
  cases d.config.extension with
  | atx => simp [String.append_right_inj]
  | dc => simp [String.append_right_inj]

/-- A poll that is not the state is quiet. -/
theorem quiet_poll {a : Except String Polled}
    (h : ∀ payload text, a ≠ .ok (.publish (stateTopic d) payload text)) : Quiet d ⟨.poll, a⟩ := by
  refine ⟨rfl, ?_⟩
  cases a with
  | error e => rfl
  | ok event =>
    cases event with
    | publish topic payload text =>
      refine if_neg (fun ht => ?_)
      rw [ht] at h
      exact h payload text rfl
    | pubAck => rfl
    | other => rfl

/-- **Waiting for the state**: all is quiet until it is told, or to the end. -/
theorem says_waitState {n : Nat} {r : Except String Bool} (h : (waitState d n).Says s talk r s') :
    ((∀ e ∈ talk, Quiet d e) ∧ r.isOk = false) ∨
      ∃ pre e on, talk = pre ++ [e] ∧ (∀ x ∈ pre, Quiet d x) ∧ isSent e = false ∧
        readingOf d e = some on ∧ r = .ok on := by
  induction n generalizing s talk with
  | zero =>
    obtain ⟨rfl, rfl, -⟩ := Session.says_throw h
    exact Or.inl ⟨fun e he => (by cases he), rfl⟩
  | succ n ih =>
    rcases Session.says_session h with ⟨e, hpoll, rfl⟩ | ⟨d₁, d₂, event, t, rfl, hpoll, hrest⟩
    · obtain ⟨a, rfl, ha⟩ := says_poll hpoll
      refine Or.inl ⟨List.forall_mem_singleton.mpr (quiet_poll fun payload text hf => ?_), rfl⟩
      rw [hf] at ha
      cases ha
    · cases says_poll_ok hpoll
      -- going on after a quiet poll
      have hquiet : Quiet d ⟨.poll, Except.ok event⟩ → (waitState d n).Says t d₂ r s' →
          ((∀ e ∈ (⟨.poll, Except.ok event⟩ :: d₂ : List (Exchange JetCall.Answer)), Quiet d e) ∧
            r.isOk = false) ∨
          ∃ pre e on, (⟨.poll, Except.ok event⟩ :: d₂ : List (Exchange JetCall.Answer))
              = pre ++ [e] ∧ (∀ x ∈ pre, Quiet d x) ∧ isSent e = false ∧
            readingOf d e = some on ∧ r = .ok on := by
        intro hq hnext
        rcases ih hnext with ⟨hall, hr⟩ | ⟨pre, e, on, rfl, hpre, hsent, hread, hr⟩
        · exact Or.inl ⟨List.forall_mem_cons.mpr ⟨hq, hall⟩, hr⟩
        · exact Or.inr ⟨_ :: pre, e, on, rfl, List.forall_mem_cons.mpr ⟨hq, hpre⟩, hsent, hread, hr⟩
      cases event with
      | pubAck => exact hquiet (quiet_poll fun _ _ hf => by cases hf) hrest
      | other => exact hquiet (quiet_poll fun _ _ hf => by cases hf) hrest
      | publish topic payload text =>
        by_cases htopic : topic = stateTopic d
        · subst htopic
          have hstatus : ¬ ((stateTopic d == statusTopic d && isOffline payload) = true) := by
            simp [Ne.symm status_ne_state]
          have hread : readingOf d ⟨.poll, Except.ok (.publish (stateTopic d) payload text)⟩
              = parseState d.config.extension payload := if_pos rfl
          simp only [hstatus, beq_self_eq_true, if_true] at hrest
          cases hp : parseState d.config.extension payload with
          | some on =>
            simp only [hp] at hrest
            obtain ⟨rfl, rfl, -⟩ := Session.says_pure hrest
            exact Or.inr ⟨[], _, on, rfl, fun x hx => (by cases hx), rfl, hread.trans hp, rfl⟩
          | none =>
            simp only [hp] at hrest
            obtain ⟨rfl, rfl, -⟩ := Session.says_throw hrest
            exact Or.inl ⟨List.forall_mem_singleton.mpr ⟨rfl, hread.trans hp⟩, rfl⟩
        · have hq : Quiet d ⟨.poll, Except.ok (.publish topic payload text)⟩ :=
            quiet_poll fun _ _ hf => htopic (by cases hf; rfl)
          simp only [beq_iff_eq, htopic, if_false] at hrest
          split at hrest
          · obtain ⟨rfl, rfl, -⟩ := Session.says_throw hrest
            exact Or.inl ⟨List.forall_mem_singleton.mpr hq, rfl⟩
          · exact hquiet hq hrest

/-- Waiting for the acknowledgement sends nothing, and succeeds only when it came. -/
theorem says_waitAck {topic : String} {n : Nat} {r : Except String Unit}
    (h : (waitAck topic n).Says s talk r s') :
    (∀ e ∈ talk, isSent e = false) ∧ (r.isOk = true → talk.any isAck = true) := by
  induction n generalizing s talk with
  | zero =>
    obtain ⟨rfl, rfl, -⟩ := Session.says_throw h
    exact ⟨fun e he => (by cases he), fun hf => (by cases hf)⟩
  | succ n ih =>
    rcases Session.says_session h with ⟨e, hpoll, rfl⟩ | ⟨d₁, d₂, event, t, rfl, hpoll, hrest⟩
    · obtain ⟨a, rfl, -⟩ := says_poll hpoll
      exact ⟨List.forall_mem_singleton.mpr rfl, fun hf => (by cases hf)⟩
    · cases says_poll_ok hpoll
      have hnext : (waitAck topic n).Says t d₂ r s' →
          (∀ e ∈ (⟨.poll, Except.ok event⟩ :: d₂ : List (Exchange JetCall.Answer)),
              isSent e = false) ∧
            (r.isOk = true → (isAck ⟨.poll, Except.ok event⟩ || d₂.any isAck) = true) := by
        intro hw
        obtain ⟨hsent, hack⟩ := ih hw
        exact ⟨List.forall_mem_cons.mpr ⟨rfl, hsent⟩, fun hr => by rw [hack hr, Bool.or_true]⟩
      cases event with
      | pubAck =>
        obtain ⟨rfl, rfl, -⟩ := Session.says_pure hrest
        exact ⟨List.forall_mem_singleton.mpr rfl, fun _ => rfl⟩
      | other => exact hnext hrest
      | publish topic' payload text => exact hnext hrest

/-- Whether the machine should be on then. -/
def Op.target : Op → Bool
  | .on => true
  | .off _ => false

/-- A command is published only to change the state. -/
theorem commandFor_spec {extension : JetKvmExtension} {op : Op} {on : Bool}
    {command : Option (String × String)} (h : commandFor extension op on = .ok command) :
    (command = none ∧ on = op.target) ∨ (command ≠ none ∧ on = !op.target) := by
  cases op with
  | on => cases on <;> cases extension <;> cases h <;> simp [Op.target]
  | off force => cases on <;> cases extension <;> cases force <;> cases h <;> simp [Op.target]

/-- What follows the state in a dialogue: no command, or one. -/
def Acted (op : Op) (on : Bool) (rest : List (Exchange JetCall.Answer)) (succeeds : Bool) : Prop :=
  ((∀ e ∈ rest, isSent e = false) ∧ (succeeds = true → on = op.target)) ∨
    on = (!op.target) ∧ ∃ e more, rest = e :: more ∧ isSent e = true ∧
      (∀ x ∈ more, isSent x = false) ∧ (succeeds = true → more.any isAck = true)

/-- **What an operation does**: it reads the state once and then acts on it. -/
theorem says_act {op : Op} {n m : Nat} {r : Except String Bool}
    (h : (act d (some op) n m).Says s talk r s') :
    ((∀ e ∈ talk, Quiet d e) ∧ r.isOk = false) ∨
      ∃ pre e on rest, talk = pre ++ e :: rest ∧ (∀ x ∈ pre, Quiet d x) ∧ isSent e = false ∧
        readingOf d e = some on ∧ Acted op on rest r.isOk := by
  -- without a state read there is no command
  rcases Session.says_session h with ⟨e, hwait, rfl⟩ | ⟨d₁, d₂, on, t, rfl, hwait, hrest⟩
  · rcases says_waitState hwait with ⟨hall, -⟩ | ⟨_, _, _, -, -, -, -, hf⟩
    · exact Or.inl ⟨hall, rfl⟩
    · cases hf
  · rcases says_waitState hwait with ⟨-, hf⟩ | ⟨pre, e, on', rfl, hpre, hsent, hread, hon⟩
    · cases hf
    cases hon
    refine Or.inr ⟨pre, e, on, d₂, by rw [List.append_assoc]; rfl, hpre, hsent, hread, ?_⟩
    -- a state for which the extension has no command ends it before anything is published
    rcases Session.says_session hrest with ⟨e', hcmd, rfl⟩ | ⟨d₃, d₄, command, t', rfl, hcmd, hnext⟩
    · obtain ⟨rfl, -⟩ := says_orFail hcmd
      exact Or.inl ⟨fun x hx => (by cases hx), fun hf => (by cases hf)⟩
    · obtain ⟨rfl, hcommand⟩ := says_orFail hcmd
      have hfor : commandFor d.config.extension op on = .ok command := by
        cases hc : commandFor d.config.extension op on with
        | ok c =>
          rw [hc] at hcommand
          cases hcommand
          rfl
        | error e =>
          rw [hc] at hcommand
          cases hcommand
      -- no command means the state told is already the one wanted
      cases command with
      | none =>
        obtain ⟨rfl, rfl, -⟩ := Session.says_pure hnext
        refine Or.inl ⟨fun x hx => (by cases hx), fun _ => ?_⟩
        rcases commandFor_spec hfor with ⟨-, hat⟩ | ⟨hne, -⟩
        · exact hat
        · exact absurd rfl hne
      | some command =>
        have hnot : on = !op.target := by
          rcases commandFor_spec hfor with ⟨hnone, -⟩ | ⟨-, hnot⟩
          · cases hnone
          · exact hnot
        obtain ⟨suffix, payload⟩ := command
        -- one publish, and then its acknowledgement
        rcases Session.says_session hnext with ⟨e', hpub, rfl⟩ | ⟨d₅, d₆, u, t'', rfl, hpub, hwaits⟩
        · obtain ⟨x, rfl, hx⟩ := says_publish hpub
          exact Or.inl ⟨List.forall_mem_singleton.mpr hx, fun hf => (by cases hf)⟩
        · obtain ⟨x, rfl, hx⟩ := says_publish hpub
          refine Or.inr ⟨hnot, x, d₆, rfl, hx, ?_⟩
          rcases Session.says_session hwaits with ⟨e', hack, rfl⟩ | ⟨d₇, d₈, u', v, rfl, hack, hend⟩
          · exact ⟨(says_waitAck hack).1, fun hf => (by cases hf)⟩
          · obtain ⟨rfl, rfl, -⟩ := Session.says_pure hend
            rw [List.append_nil]
            exact ⟨(says_waitAck hack).1, fun _ => (says_waitAck hack).2 rfl⟩

/-- Hanging up sends nothing. -/
theorem says_hangUp {r : Except String Unit} (h : hangUp.Says s talk r s') :
    ∀ e ∈ talk, isSent e = false := by
  have hevery : Session.Every (fun c => ∀ topic payload, c ≠ .publish topic payload) hangUp := by
    refine Session.every_session (Session.every_ask fun _ _ hf => by cases hf) (fun _ => ?_)
    exact Session.every_session (Session.every_ask fun _ _ hf => by cases hf) (fun _ _ => trivial)
  intro e he
  have hnot := Lib.says_every (hevery s) h e he
  obtain ⟨c, a⟩ := e
  cases c with
  | publish topic payload => exact absurd rfl (hnot topic payload)
  | _ => rfl

theorem Acted.append {op : Op} {on succeeds : Bool} {rest : List (Exchange JetCall.Answer)}
    (h : Acted op on rest succeeds) (hmore : ∀ e ∈ talk, isSent e = false) :
    Acted op on (rest ++ talk) succeeds := by
  rcases h with ⟨hunsent, hat⟩ | ⟨hnot, e, more, rfl, he, hunsent, hack⟩
  · exact Or.inl ⟨List.forall_mem_append.mpr ⟨hunsent, hmore⟩, hat⟩
  · refine Or.inr ⟨hnot, e, more ++ talk, rfl, he, List.forall_mem_append.mpr ⟨hunsent, hmore⟩, ?_⟩
    intro hs
    rw [List.any_append, hack hs, Bool.true_or]

theorem Acted.imp {op : Op} {on succeeds succeeds' : Bool}
    {rest : List (Exchange JetCall.Answer)} (h : Acted op on rest succeeds)
    (hs : succeeds' = true → succeeds = true) : Acted op on rest succeeds' := by
  rcases h with ⟨hunsent, hat⟩ | ⟨hnot, e, more, hrest, he, hunsent, hack⟩
  · exact Or.inl ⟨hunsent, fun h => hat (hs h)⟩
  · exact Or.inr ⟨hnot, e, more, hrest, he, hunsent, fun h => hack (hs h)⟩

/-- **An exchange**: nothing is sent, or the state is told and then acted upon. -/
theorem says_exchange {op : Op} {n m : Nat} {r : Except String Bool}
    (h : (exchange d (some op) n m).Says s talk r s') :
    ((∀ e ∈ talk, isSent e = false) ∧ r.isOk = false) ∨
      ∃ pre e on rest, talk = pre ++ e :: rest ∧ (∀ x ∈ pre, Quiet d x) ∧ isSent e = false ∧
        readingOf d e = some on ∧ Acted op on rest r.isOk := by
  rcases Session.says_session h with ⟨e, hsub, rfl⟩ | ⟨d₁, d₂, u, t, rfl, hsub, hrest⟩
  · exact Or.inl ⟨fun e he => (says_subscribe (d := d) hsub e he).1, rfl⟩
  have h₁ := says_subscribe (d := d) hsub
  rcases Session.says_session hrest with ⟨e, hsub', rfl⟩ | ⟨d₃, d₄, u', t', rfl, hsub', hact⟩
  · refine Or.inl ⟨List.forall_mem_append.mpr ⟨fun e he => (h₁ e he).1, ?_⟩, rfl⟩
    exact fun e he => (says_subscribe (d := d) hsub' e he).1
  have h₂ := says_subscribe (d := d) hsub'
  rcases Session.says_session hact with ⟨e, htry, -⟩ | ⟨d₅, d₆, q, t'', rfl, htry, hhang⟩
  · obtain ⟨q, hf, -⟩ := Session.says_attempt htry
    cases hf
  obtain ⟨q', hq, htry⟩ := Session.says_attempt htry
  cases hq
  -- the result is that of the attempt, and what follows it sends nothing
  obtain ⟨hafter, hr⟩ : (∀ e ∈ d₆, isSent e = false) ∧ (r.isOk = true → q.isOk = true) := by
    rcases Session.says_session hhang with ⟨e, hup, rfl⟩ | ⟨d₇, d₈, u'', v, rfl, hup, hend⟩
    · exact ⟨says_hangUp hup, fun hf => (by cases hf)⟩
    · obtain ⟨rfl, rfl⟩ := says_orFail hend
      refine ⟨List.forall_mem_append.mpr ⟨says_hangUp hup, fun e he => (by cases he)⟩, ?_⟩
      cases q <;> exact id
  rcases says_act htry with ⟨hall, hfailed⟩ | ⟨pre, e, on, rest, rfl, hpre, hsent, hread, hacted⟩
  · refine Or.inl ⟨?_, Bool.eq_false_iff.mpr fun hok => ?_⟩
    · refine List.forall_mem_append.mpr ⟨fun e he => (h₁ e he).1, ?_⟩
      refine List.forall_mem_append.mpr ⟨fun e he => (h₂ e he).1, ?_⟩
      exact List.forall_mem_append.mpr ⟨fun e he => (hall e he).1, hafter⟩
    · rw [hr hok] at hfailed
      cases hfailed
  · refine Or.inr ⟨d₁ ++ (d₃ ++ pre), e, on, rest ++ d₆, by simp, ?_, hsent, hread,
      (hacted.imp hr).append hafter⟩
    exact List.forall_mem_append.mpr ⟨h₁, List.forall_mem_append.mpr ⟨h₂, hpre⟩⟩

/-- What was acted is a reading, and a press if it was not there. -/
theorem Acted.readThenPress {op : Op} {on succeeds : Bool}
    {pre rest : List (Exchange JetCall.Answer)} {e : Exchange JetCall.Answer}
    (h : Acted op on rest succeeds) (hpre : ∀ x ∈ pre, Quiet d x) (hsent : isSent e = false)
    (hread : readingOf d e = some on) :
    ReadThenPress op.target (events d (pre ++ e :: rest)) succeeds := by
  have hevents : events d (pre ++ e :: rest) = .reading on :: presses rest := by
    rw [events_quiet hpre, events, hsent, hread]
    rfl
  rw [hevents]
  rcases h with ⟨hunsent, hat⟩ | ⟨rfl, x, more, rfl, hx, hunsent, hack⟩
  · rw [presses_nil hunsent]
    cases succeeds with
    | false => exact .unpressed on
    | true =>
      rw [hat rfl]
      exact .there
  · rw [presses, if_pos hx, presses_nil hunsent]
    exact .pressed _ _ hack

end Dialogues

/-- **One command at most.** Whatever the broker answers, and however much of it
before the deadlines: an operation reads the state, and sends one command if it
must. -/
theorem readThenPress {d : JetKvmDriver} {op : Op} {n m : Nat} {s s' : Unit}
    {talk : List (Exchange JetCall.Answer)} {r : Except String Unit}
    (h : (operate d op n m).Says s talk r s') :
    ReadThenPress op.target (events d talk) r.isOk := by
  have hexchange : ∃ q, (exchange d (some op) n m).Says s talk q s' ∧ q.isOk = r.isOk := by
    rcases Session.says_session h with ⟨e, hex, rfl⟩ | ⟨d₁, d₂, on, t, rfl, hex, hrest⟩
    · exact ⟨_, hex, rfl⟩
    · obtain ⟨rfl, rfl, rfl⟩ := Session.says_pure hrest
      exact ⟨_, by rw [List.append_nil]; exact hex, rfl⟩
  obtain ⟨q, hex, hok⟩ := hexchange
  rw [← hok]
  rcases says_exchange hex with ⟨hunsent, hfailed⟩ | ⟨pre, e, on, rest, rfl, hpre, hsent, hread, ha⟩
  · rw [hfailed]
    rcases events_unsent (d := d) hunsent with hno | ⟨on, hon⟩
    · rw [hno]
      exact .unread
    · rw [hon]
      exact .unpressed on
  · exact ha.readThenPress hpre hsent hread

/-- **Retrying is safe.** However often an operation is tried: at a machine that
tells its state and follows its commands, if it was where it should be, or one of
the operations succeeded, it is there in the end. -/
theorem operate_retries {d : JetKvmDriver} {op : Op}
    {tries : List (List (Exchange JetCall.Answer) × Except String Unit)}
    (h : ∀ a ∈ tries, ∃ n m, (operate d op n m).Says () a.1 a.2 ()) {on on' : Bool}
    (hm : Obeys on (tries.flatMap (fun a => events d a.1)) on')
    (hon : on = op.target ∨ ∃ a ∈ tries, a.2.isOk = true) : on' = op.target := by
  have hflat : tries.flatMap (fun a => events d a.1)
      = (tries.map (fun a => (events d a.1, a.2.isOk))).flatMap (·.1) := by
    rw [List.flatMap_map]
  rw [hflat] at hm
  refine retries_reach (fun b hb => ?_) hm (hon.imp_right ?_)
  · obtain ⟨a, ha, rfl⟩ := List.mem_map.mp hb
    obtain ⟨n, m, hsays⟩ := h a ha
    exact readThenPress hsays
  · rintro ⟨a, ha, hok⟩
    exact ⟨_, List.mem_map_of_mem ha, hok⟩

/-- A JetKVM with an ATX board. -/
def aJetKvm : JetKvmDriver where
  config := { broker := "mqtt://broker", baseTopic := "jetkvm/a" }
  host := "broker"
  port := 1883
  tls := false

/-- The machine is off, its button is pressed, and the broker acknowledges it. -/
def powerOnTry : List (Exchange JetCall.Answer) :=
  [⟨.subscribe "jetkvm/a/atx/state", Except.ok ()⟩, ⟨.subscribe "jetkvm/a/status", Except.ok ()⟩,
    ⟨.poll, Except.ok (.publish "jetkvm/a/atx/state" (some (.obj [("power", .bool false)])) "")⟩,
    ⟨.publish "jetkvm/a/atx_power_short/set" "PRESS", Except.ok ()⟩, ⟨.poll, Except.ok .pubAck⟩,
    ⟨.disconnect, Except.ok ()⟩, ⟨.poll, Except.ok .other⟩]

/-- The driver's run. -/
theorem powerOnTry_run : (operate aJetKvm .on 1 1).Says () powerOnTry (.ok ()) () :=
  .call (.call (.call (.call (.call (.call (.call (.done _)))))))

/-- The machine, off before, reads off and comes on by the press. -/
theorem powerOnTry_obeyed : Obeys false (events aJetKvm powerOnTry) true :=
  .reading (.toggled (.nil true))

/-- `power_on` reads off, presses once and succeeds, and the machine is on. -/
theorem operated_on :
    (operate aJetKvm .on 1 1).Says () powerOnTry (.ok ()) () ∧
    Obeys false (events aJetKvm powerOnTry) true ∧ true = Op.on.target :=
  ⟨powerOnTry_run, powerOnTry_obeyed,
    @operate_retries aJetKvm .on [(powerOnTry, .ok ())]
      (List.forall_mem_singleton.mpr ⟨1, 1, powerOnTry_run⟩) false true powerOnTry_obeyed
      (Or.inr ⟨_, List.mem_cons_self, rfl⟩)⟩

end HardwareAutoscaler.JetKvm
