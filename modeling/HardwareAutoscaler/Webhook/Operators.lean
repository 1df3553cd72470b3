/-
  HardwareAutoscaler.Webhook.Operators
  ────────────────────────────────────
  OPERATORS THAT START AT THE SAME TIME.

  Operators share the Secret with the webhook's certificate.  A set that is
  stored is replaced by no one before it is to be renewed, and an operator that
  was too late for its own reads the other's.

    • `Allowed` — what anyone does to the Secret,
    • `safe_ensureTls` — what an operator starts with is what is stored,
    • `servedFirst_operate` — an operator registers only what it serves itself,
    • `operators_agree` — all operators serve one set, it is registered only by
      those that serve it, and none gives up.
-/
import HardwareAutoscaler.Lib.Dialogue
import HardwareAutoscaler.Lib.Rely
import HardwareAutoscaler.Webhook.Certificate

namespace HardwareAutoscaler.Webhook

open Lib (base64Decode base64Decode_base64 Calls Running Move Accord Safe safe_bind
  safe_bind_except run_safe Every every_bind_except every_pure every_throw Exchange Says Begins
  says_bind says_bind_except says_call says_done says_every said_started)
open Inband (KubeError)

/-! ## §1. What anyone does to the Secret. -/

/-- Dates behave between `start` and `horizon`: five years have at least 1825
days, and the end of a certificate is read as it was written. -/
structure Chrono.Fits (z : Chrono) (start horizon : Int) : Prop where
  years : ∀ t t', z.yearsLater t certYears = some t' → t + days 1825 ≤ t'
  texts : ∀ t, start ≤ t → t ≤ horizon →
    z.parseFromRfc3339 (z.toRfc3339 (z.notAfter t)) = some (z.notAfter t)
  /-- No certificate that is issued meanwhile is to be renewed. -/
  short : horizon + days 30 ≤ start + days 1825

section Sharing

variable (z : Chrono) (s : Settings) (start horizon : Int)

/-- The set that is stored. -/
def storedSet (st : World) : Option Tls :=
  (st.secrets s.secret).bind (tlsFromSecret z · s.joined horizon)

/-- What the Secret says does not change with the time. -/
def Steady (secret : Secret) : Prop := ∀ t, start ≤ t → t ≤ horizon →
  tlsFromSecret z secret s.joined t = tlsFromSecret z secret s.joined horizon

/-- The clock is within the run, and what is stored does not fall due in it. -/
structure Sound (st : World) : Prop where
  started : start ≤ st.clock
  inTime : st.clock ≤ horizon
  given : ∀ secret, st.secrets s.secret = some secret →
    secret.resourceVersion ≤ st.version ∧ Steady z s start horizon secret

/-- Who serves has the set that is stored, and who has registered serves. -/
structure Agree (st : World) : Prop where
  served : ∀ tls ∈ st.serving, storedSet z s horizon st = some tls
  registered : ∀ c ∈ st.applied, ∃ tls ∈ st.serving, c.caBundle = tls.caBundle
  kept : ∀ r ∈ st.exits, r ≠ .error (.notStored s.secret)

/-- A set is stored only where there is none, at a version of its own. -/
structure Allowed (st st' : World) : Prop where
  clock : st.clock ≤ st'.clock
  version : st.version ≤ st'.version
  serving : ∀ tls ∈ st.serving, tls ∈ st'.serving
  secret : st'.secrets s.secret = st.secrets s.secret ∨
    storedSet z s horizon st = none ∧ (storedSet z s horizon st').isSome = true ∧
      ∀ secret, st'.secrets s.secret = some secret → st.version < secret.resourceVersion
  sound : Sound z s start horizon st → Sound z s start horizon st'
  agree : Agree z s horizon st → Agree z s horizon st'

variable {z s start horizon} {st st' st'' : World}

/-- The stored set is read from one Secret. -/
theorem storedSet_congr (h : st'.secrets s.secret = st.secrets s.secret) :
    storedSet z s horizon st' = storedSet z s horizon st := by
  unfold storedSet
  rw [h]

theorem Allowed.refl (st : World) : Allowed z s start horizon st st :=
  ⟨le_refl _, le_refl _, fun _ h => h, Or.inl rfl, id, id⟩

/-- One after another. -/
theorem Allowed.trans (h : Allowed z s start horizon st st')
    (h' : Allowed z s start horizon st' st'') : Allowed z s start horizon st st'' := by
  refine ⟨le_trans h.clock h'.clock, le_trans h.version h'.version,
    fun tls ht => h'.serving tls (h.serving tls ht), ?_, h'.sound ∘ h.sound, h'.agree ∘ h.agree⟩
  rcases h'.secret with heq' | ⟨hnone', hsome', hnew'⟩
  · rcases h.secret with heq | ⟨hnone, hsome, hnew⟩
    · exact Or.inl (heq'.trans heq)
    · refine Or.inr ⟨hnone, ?_, fun secret hs => hnew secret (heq' ▸ hs)⟩
      rwa [storedSet_congr heq']
  · rcases h.secret with heq | ⟨-, hsome, -⟩
    · exact Or.inr ⟨storedSet_congr heq ▸ hnone', hsome',
        fun secret hs => lt_of_le_of_lt h.version (hnew' secret hs)⟩
    · rw [hnone'] at hsome
      cases hsome

variable (z s start horizon) in
/-- The accord of the operators. -/
def accord : Accord World where
  allows := Allowed z s start horizon
  refl := Allowed.refl
  trans := Allowed.trans

/-- **A set that is stored stays.** -/
theorem Allowed.stays (h : Allowed z s start horizon st st') {tls : Tls}
    (hst : storedSet z s horizon st = some tls) : storedSet z s horizon st' = some tls := by
  rcases h.secret with heq | ⟨hnone, -, -⟩
  · rwa [storedSet_congr heq]
  · rw [hst] at hnone
    cases hnone

/-- A change besides the Secret. -/
theorem Allowed.of_secrets (hclock : st.clock ≤ st'.clock) (htime : st'.clock ≤ horizon)
    (hversion : st'.version = st.version) (hserving : ∀ tls ∈ st.serving, tls ∈ st'.serving)
    (hsecret : st'.secrets s.secret = st.secrets s.secret)
    (hagree : Agree z s horizon st → Agree z s horizon st') :
    Allowed z s start horizon st st' := by
  refine ⟨hclock, le_of_eq hversion.symm, hserving, Or.inl hsecret, fun hs => ?_, hagree⟩
  refine ⟨le_trans hs.started hclock, htime, fun secret h => ?_⟩
  rw [hversion]
  exact hs.given secret (hsecret ▸ h)

/-! ## §2. Writing the Secret. -/

/-- A set is valid for 1825 days at least. -/
theorem Chrono.Fits.notAfter (hz : z.Fits start horizon) (t : Int) :
    t + days 1825 ≤ z.notAfter t := by
  unfold Chrono.notAfter
  cases h : z.yearsLater t certYears with
  | none => exact le_refl _
  | some t' => exact hz.years t t' h

/-- What is stored after a write of a set that was issued at `t`. -/
theorem written_valid (hz : z.Fits start horizon) {t : Int} (ht : start ≤ t) (ht' : t ≤ horizon)
    (tls : Tls) (version : Nat) {now : Int} (hnow : now ≤ horizon) :
    tlsFromSecret z ⟨version, some (annotationsFor z (z.notAfter t) s.joined), some (dataFor tls)⟩
      s.joined now = some tls := by
  have hend := hz.notAfter t
  have hshort := hz.short
  rw [tlsFromSecret_written (hz.texts t ht ht'), if_pos ⟨rfl, by omega⟩]

/-- **A set is stored where there is none.** -/
theorem allowed_write (hz : z.Fits start horizon) (hs : Sound z s start horizon st)
    (hnone : storedSet z s horizon st = none) {t : Int} (ht : start ≤ t) (ht' : t ≤ horizon)
    (tls : Tls) :
    Allowed z s start horizon st
        (st.write s.secret (annotationsFor z (z.notAfter t) s.joined) (dataFor tls)) ∧
      storedSet z s horizon
        (st.write s.secret (annotationsFor z (z.notAfter t) s.joined) (dataFor tls))
        = some tls := by
  have hsecret : (st.write s.secret (annotationsFor z (z.notAfter t) s.joined)
      (dataFor tls)).secrets s.secret = some ⟨st.version + 1,
        some (annotationsFor z (z.notAfter t) s.joined), some (dataFor tls)⟩ :=
    Function.update_self ..
  have hset : storedSet z s horizon (st.write s.secret
      (annotationsFor z (z.notAfter t) s.joined) (dataFor tls)) = some tls := by
    unfold storedSet
    rw [hsecret]
    exact written_valid hz ht ht' tls _ (le_refl _)
  -- the version is the next one, the set is valid, and it replaces none
  refine ⟨⟨le_refl _, Nat.le_succ _, fun _ h => h, Or.inr ⟨hnone, ?_, ?_⟩, ?_, ?_⟩, hset⟩
  · rw [hset]
    rfl
  · intro secret h
    rw [hsecret, Option.some.injEq] at h
    subst h
    exact Nat.lt_succ_self _
  · intro _
    refine ⟨hs.started, hs.inTime, fun secret h => ?_⟩
    rw [hsecret, Option.some.injEq] at h
    subst h
    refine ⟨le_refl _, fun now _ hnow => ?_⟩
    rw [written_valid hz ht ht' tls _ hnow, written_valid hz ht ht' tls _ (le_refl _)]
  · -- no one serves where no set is stored
    intro ha
    refine ⟨fun served h => ?_, fun c hc => ?_, ha.kept⟩
    · rw [ha.served served h] at hnone
      cases hnone
    · obtain ⟨served, h, -⟩ := ha.registered c hc
      rw [ha.served served h] at hnone
      cases hnone

/-- A write that is allowed, whether it fails or not. -/
theorem allowed_settle {w : Reply} {r : Except KubeError World}
    (h : ∀ st', r = .ok st' → Allowed z s start horizon st st') :
    Allowed z s start horizon st (settle st w r).2 := by
  unfold settle
  split
  · exact h _ rfl
  · exact Allowed.refl st
  · split
    · exact h _ rfl
    · exact Allowed.refl st
  · exact Allowed.refl st

/-- What a write's answer tells of it. -/
theorem settle_ok {w : Reply} {r : Except KubeError World} (h : (settle st w r).1 = .ok ()) :
    r = .ok (settle st w r).2 := by
  unfold settle at h ⊢
  split at h <;> first | rfl | cases h

/-- A conflict leaves the world as it was. -/
theorem settle_conflict {w : Reply} {r : Except KubeError World} {e : KubeError}
    (h : (settle st w r).1 = .error e) (he : isConflict e = true) :
    r = .error e ∧ (settle st w r).2 = st := by
  unfold settle at h ⊢
  split at h
  · cases h
  · exact ⟨congrArg Except.error (Except.error.inj h), rfl⟩
  all_goals
    rename_i f _ _
    rw [← Except.error.inj h, f.noConflict] at he
    cases he

/-! ## §3. One operator. -/

/-- How a part of an operator's life ends: well, with `P`, or with an error
other than giving up. -/
def Ends {α : Type} (z : Chrono) (s : Settings) (start horizon : Int) (P : α → World → Prop)
    (r : Except StartError α) (st : World) : Prop :=
  match r with
  | .ok a => Sound z s start horizon st ∧ P a st
  | .error e => e ≠ .notStored s.secret

variable {α β : Type} {P : α → World → Prop} {Q : β → World → Prop}

/-- What is known stays true, whatever others do. -/
def Stays (z : Chrono) (s : Settings) (start horizon : Int) (p : World → Prop) : Prop :=
  ∀ st st', Allowed z s start horizon st st' → p st → p st'

/-- The rule for a return. -/
theorem ends_pure {a : α} (hpost : Stays z s start horizon (P a))
    (hs : Sound z s start horizon st) (h : P a st) :
    Safe exec (accord z s start horizon) (Ends z s start horizon P) (pure a : Async α).run st :=
  fun _ hst => ⟨hst.sound hs, hpost _ _ hst h⟩

/-- The rule for an error other than `NotStored`. -/
theorem ends_throw {e : StartError} (h : e ≠ .notStored s.secret) :
    Safe exec (accord z s start horizon) (Ends z s start horizon P)
      (throw e : Async α).run st := fun _ _ => h

/-- The rule for one program after another. -/
theorem ends_bind {x : Async α} {f : α → Async β}
    (hx : Safe exec (accord z s start horizon) (Ends z s start horizon P) x.run st)
    (hf : ∀ a t, Sound z s start horizon t → P a t →
      Safe exec (accord z s start horizon) (Ends z s start horizon Q) (f a).run t) :
    Safe exec (accord z s start horizon) (Ends z s start horizon Q) (x >>= f).run st :=
  safe_bind_except hx (fun a t h => hf a t h.1 h.2) (fun _ _ _ h _ => h)

/-- A call that is allowed, and what is known of its answer. -/
theorem ends_ask {c : Call} {P : Answer c → World → Prop}
    (hpost : ∀ a, Stays z s start horizon (P a)) (hs : Sound z s start horizon st)
    (h : ∀ t w, Allowed z s start horizon st t → Sound z s start horizon t →
      Allowed z s start horizon t (exec c t w).2 ∧ P (exec c t w).1 (exec c t w).2) :
    Safe exec (accord z s start horizon) (Ends z s start horizon P) (ask c).run st := by
  intro t ht w
  obtain ⟨hcall, hp⟩ := h t w ht (ht.sound hs)
  exact ⟨hcall, fun t' ht' => ⟨ht'.sound (hcall.sound (ht.sound hs)), hpost _ _ _ ht' hp⟩⟩

/-- The rule for an answer that may be an error. -/
theorem ends_orElse {ε : Type} {f : ε → StartError} {r : Except ε α}
    (hpost : ∀ a, Stays z s start horizon (P a)) (hs : Sound z s start horizon st)
    (hok : ∀ a, r = .ok a → P a st) (herr : ∀ e, f e ≠ .notStored s.secret) :
    Safe exec (accord z s start horizon) (Ends z s start horizon P) (orElse f r).run st := by
  cases r with
  | ok a => exact ends_pure (hpost a) hs (hok a rfl)
  | error e => exact ends_throw (herr e)

theorem stays_true : Stays z s start horizon (fun _ => True) := fun _ _ _ _ => trivial

theorem stays_const (p : Prop) : Stays z s start horizon (fun _ => p) := fun _ _ _ h => h

/-- A call whose answer is all that matters, and that changes nothing. -/
theorem ends_read {c : Call} {p : Answer c → Prop} (hs : Sound z s start horizon st)
    (h : ∀ t w, Allowed z s start horizon st t → Sound z s start horizon t →
      (exec c t w).2 = t ∧ p (exec c t w).1) :
    Safe exec (accord z s start horizon) (Ends z s start horizon (fun a _ => p a)) (ask c).run st :=
  ends_ask (fun a => stays_const (p a)) hs (fun t w ht hst => by
    obtain ⟨heq, hp⟩ := h t w ht hst
    exact ⟨heq.symm ▸ Allowed.refl t, hp⟩)

/-- The Secret at some moment since `st`. -/
def ReadSince (z : Chrono) (s : Settings) (start horizon : Int) (existing : Option Secret)
    (st : World) : Prop :=
  ∃ t, Sound z s start horizon t ∧ t.secrets s.secret = existing ∧ Allowed z s start horizon t st

/-- What was read once stays so. -/
theorem stays_readSince (existing : Option Secret) :
    Stays z s start horizon (ReadSince z s start horizon existing) :=
  fun _ _ h ⟨t, ht, heq, hst⟩ => ⟨t, ht, heq, hst.trans h⟩

/-- What was read, as it is read at the horizon. -/
def setOf (z : Chrono) (s : Settings) (horizon : Int) (existing : Option Secret) : Option Tls :=
  existing.bind (tlsFromSecret z · s.joined horizon)

theorem ReadSince.stored {existing : Option Secret} {tls : Tls}
    (h : ReadSince z s start horizon existing st) (hset : setOf z s horizon existing = some tls) :
    storedSet z s horizon st = some tls := by
  obtain ⟨t, -, rfl, hst⟩ := h
  exact hst.stays hset

/-- The set in the Secret that was read. -/
theorem ends_stored {existing : Option Secret} (hs : Sound z s start horizon st)
    (hread : ReadSince z s start horizon existing st) :
    Safe exec (accord z s start horizon)
      (Ends z s start horizon (fun o t => o = setOf z s horizon existing ∧
        ReadSince z s start horizon existing t)) (stored z s existing).run st := by
  have hstays : ∀ o : Option Tls, Stays z s start horizon (fun t =>
      o = setOf z s horizon existing ∧ ReadSince z s start horizon existing t) :=
    fun o _ _ h hp => ⟨hp.1, stays_readSince existing _ _ h hp.2⟩
  cases existing with
  | none => exact ends_pure (hstays none) hs ⟨rfl, hread⟩
  | some secret =>
    obtain ⟨t₀, ht₀, heq, hst⟩ := hread
    refine ends_bind (P := fun now t => (start ≤ now ∧ now ≤ horizon) ∧
      Allowed z s start horizon t₀ t) ?_ (fun now t hst' hnow => ?_)
    · refine ends_ask (fun now _ _ h hp => ⟨hp.1, hp.2.trans h⟩) hs (fun t w ht hst' => ?_)
      exact ⟨Allowed.refl t, ⟨hst'.started, hst'.inTime⟩, hst.trans ht⟩
    · refine ends_pure (hstays _) hst' ⟨?_, t₀, ht₀, heq, hnow.2⟩
      exact (ht₀.given secret heq).2 now hnow.1.1 hnow.1.2

/-- A set that was issued, and the time it was. -/
theorem ends_issue {p : World → Prop} (hp : Stays z s start horizon p)
    (hs : Sound z s start horizon st) (h : p st) (dnsNames : List String) :
    Safe exec (accord z s start horizon)
      (Ends z s start horizon (fun i t => (∃ now, start ≤ now ∧ now ≤ horizon ∧
        i.2 = z.notAfter now) ∧ p t)) (issue z dnsNames).run st := by
  refine ends_bind (P := fun now t => (start ≤ now ∧ now ≤ horizon) ∧ p t) ?_
    (fun now t ht hnow => ?_)
  · refine ends_ask (fun _ _ _ ha hq => ⟨hq.1, hp _ _ ha hq.2⟩) hs (fun t w ha ht => ?_)
    exact ⟨Allowed.refl t, ⟨ht.started, ht.inTime⟩, hp _ _ ha h⟩
  · refine ends_bind (P := fun _ t => p t) ?_ (fun r t' ht' hr => ?_)
    · refine ends_ask (fun _ => hp) ht (fun t' w ha _ => ?_)
      exact ⟨Allowed.refl t', hp _ _ ha hnow.2⟩
    · refine ends_bind (P := fun _ t => p t) (ends_orElse (fun _ => hp) ht' (fun _ _ => hr)
        (fun e he => by cases he)) (fun tls t'' ht'' hq => ?_)
      refine ends_pure (fun _ _ ha hq => ⟨hq.1, hp _ _ ha hq.2⟩) ht'' ⟨⟨now, ?_⟩, hq⟩
      exact ⟨hnow.1.1, hnow.1.2, rfl⟩

/-- What is known after storing a set: it is stored, or someone else's is. -/
def AfterStore (z : Chrono) (s : Settings) (horizon : Int) (tls : Tls) :
    Except KubeError Unit → World → Prop
  | .ok (), st => storedSet z s horizon st = some tls
  | .error e, st => isConflict e = true → (storedSet z s horizon st).isSome = true

theorem stays_isSome :
    Stays z s start horizon (fun t => (storedSet z s horizon t).isSome = true) := by
  intro st st' h hst
  obtain ⟨tls, htls⟩ := Option.isSome_iff_exists.mp hst
  rw [h.stays htls]
  rfl

/-- What a store has answered stays so. -/
theorem stays_afterStore (tls : Tls) (r : Except KubeError Unit) :
    Stays z s start horizon (AfterStore z s horizon tls r) := by
  cases r with
  | ok u => exact fun _ _ h hst => h.stays hst
  | error e => exact fun _ _ h hst he => stays_isSome _ _ h (hst he)

/-- A write that was tried, and what it would have done. -/
theorem afterStore_settle (hz : z.Fits start horizon) (hs : Sound z s start horizon st)
    {w : Reply} {r : Except KubeError World} {now : Int} (hnow : start ≤ now ∧ now ≤ horizon)
    {tls : Tls}
    (hok : ∀ st', r = .ok st' → storedSet z s horizon st = none ∧ st' =
      st.write s.secret (annotationsFor z (z.notAfter now) s.joined) (dataFor tls))
    (herr : ∀ e, r = .error e → isConflict e = true → (storedSet z s horizon st).isSome = true) :
    Allowed z s start horizon st (settle st w r).2 ∧
      AfterStore z s horizon tls (settle st w r).1 (settle st w r).2 := by
  have hwrite : ∀ st', r = .ok st' → Allowed z s start horizon st st' ∧
      storedSet z s horizon st' = some tls := by
    intro st' hr
    obtain ⟨hnone, rfl⟩ := hok st' hr
    exact allowed_write hz hs hnone hnow.1 hnow.2 tls
  refine ⟨allowed_settle (fun st' hr => (hwrite st' hr).1), ?_⟩
  cases hans : (settle st w r).1 with
  | ok u => exact (hwrite _ (settle_ok hans)).2
  | error e =>
    intro he
    obtain ⟨hr, hst⟩ := settle_conflict hans he
    rw [hst]
    exact herr e hr he

/-- **A set is stored only where the one that was read still is.** -/
theorem ends_store (hz : z.Fits start horizon) {existing : Option Secret}
    (hs : Sound z s start horizon st) (hread : ReadSince z s start horizon existing st)
    (hnone : setOf z s horizon existing = none) {now : Int}
    (hnow : start ≤ now ∧ now ≤ horizon) (tls : Tls) :
    Safe exec (accord z s start horizon) (Ends z s start horizon (AfterStore z s horizon tls))
      (store z s existing tls (z.notAfter now)).run st := by
  obtain ⟨t₀, ht₀, rfl, hst⟩ := hread
  -- what is stored now, if it is not what was read
  have hother : ∀ t, Allowed z s start horizon st t →
      t.secrets s.secret = t₀.secrets s.secret ∨ (storedSet z s horizon t).isSome = true ∧
        ∀ secret, t.secrets s.secret = some secret → t₀.version < secret.resourceVersion :=
    fun t ht => (hst.trans ht).secret.imp_right (fun h => h.2)
  unfold store
  cases hex : t₀.secrets s.secret with
  | none =>
    refine ends_ask (stays_afterStore tls) hs (fun t w ht hts =>
      afterStore_settle hz hts hnow (fun st' hr => ?_) (fun e hr _ => ?_))
    · split at hr
      · cases hr
      · rename_i h
        refine ⟨?_, (Except.ok.inj hr).symm⟩
        unfold storedSet
        rw [h]
        rfl
    · split at hr
      · rename_i secret h
        rcases hother t ht with heq | ⟨hsome, -⟩
        · rw [heq, hex] at h
          cases h
        · exact hsome
      · cases hr
  | some old =>
    refine ends_ask (stays_afterStore tls) hs (fun t w ht hts =>
      afterStore_settle hz hts hnow (fun st' hr => ?_) (fun e hr he => ?_))
    · split at hr
      · cases hr
      · rename_i secret h
        split at hr
        · rename_i hv
          refine ⟨?_, (Except.ok.inj hr).symm⟩
          -- the version that was read is no one else's
          rcases hother t ht with heq | ⟨-, hnew⟩
          · exact (congrArg (setOf z s horizon) heq).trans hnone
          · have hlt := hnew secret h
            have hle := (ht₀.given old hex).1
            omega
        · cases hr
    · split at hr
      · rw [← Except.error.inj hr] at he
        cases he
      · rename_i secret h
        split at hr
        · cases hr
        · rename_i hv
          rcases hother t ht with heq | ⟨hsome, -⟩
          · rw [heq, hex, Option.some.injEq] at h
            exact absurd (congrArg _ h.symm) hv
          · exact hsome

/-- The Secret as it is read now. Where a set was stored before, one is read. -/
theorem ends_getSecret {again : Prop} (hs : Sound z s start horizon st)
    (h : again ∨ (storedSet z s horizon st).isSome = true) :
    Safe exec (accord z s start horizon)
      (Ends z s start horizon (fun existing t => ReadSince z s start horizon existing t ∧
        (setOf z s horizon existing = none → again)))
      (getSecret s).run st := by
  refine ends_bind (P := fun r t => ∀ existing, r = .ok existing →
    -- the answer is what was stored when it was read
    ReadSince z s start horizon existing t ∧ (setOf z s horizon existing = none → again)) ?_
    (fun r t ht hr => ?_)
  · refine ends_ask (fun r _ _ ha hp existing he =>
      ⟨stays_readSince existing _ _ ha (hp existing he).1, (hp existing he).2⟩) hs
      (fun t w ht hts => ⟨Allowed.refl t, fun existing he => ?_⟩)
    have heq : t.secrets s.secret = existing := by
      unfold exec answer at he
      dsimp only at he
      split at he
      · exact Except.ok.inj he
      · cases he
    refine ⟨⟨t, hts, heq, Allowed.refl t⟩, fun hnone => ?_⟩
    rcases h with h | h
    · exact h
    · have hsome : (storedSet z s horizon t).isSome = true := stays_isSome _ _ ht h
      rw [show storedSet z s horizon t = setOf z s horizon existing from heq ▸ rfl, hnone] at hsome
      cases hsome
  · exact ends_orElse (fun existing _ _ ha hp =>
      ⟨stays_readSince existing _ _ ha hp.1, hp.2⟩) ht hr (fun e he => by cases he)

/-- One try. It is the last, or what follows finds a set that is stored. -/
theorem ends_try (hz : z.Fits start horizon) (n : Nat) (hs : Sound z s start horizon st)
    (h : (∀ t, Sound z s start horizon t → (storedSet z s horizon t).isSome = true →
        Safe exec (accord z s start horizon)
          (Ends z s start horizon (fun tls t => storedSet z s horizon t = some tls))
          (ensureTry z s n).run t) ∨
      (storedSet z s horizon st).isSome = true) :
    Safe exec (accord z s start horizon)
      (Ends z s start horizon (fun tls t => storedSet z s horizon t = some tls))
      (ensureTry z s (n + 1)).run st := by
  have hstays : ∀ tls : Tls, Stays z s start horizon
      (fun t => storedSet z s horizon t = some tls) := fun tls _ _ ha hp => ha.stays hp
  rw [ensureTry]
  refine ends_bind (ends_getSecret hs h) (fun existing t ht hexisting => ?_)
  obtain ⟨hread, hagain⟩ := hexisting
  refine ends_bind (ends_stored ht hread) (fun o t ht hstored => ?_)
  obtain ⟨ho, hread⟩ := hstored
  cases o with
  -- a stored set is served, and it stays the stored one
  | some tls => exact ends_pure (hstays tls) ht (hread.stored ho.symm)
  | none =>
    refine ends_bind (ends_issue (stays_readSince existing) ht hread _) (fun i t ht hi => ?_)
    obtain ⟨tls, notAfter⟩ := i
    obtain ⟨⟨now, hnow, hnow', rfl⟩, hread⟩ := hi
    refine ends_bind (ends_store hz ht hread ho.symm ⟨hnow, hnow'⟩ tls) (fun r t ht hr => ?_)
    -- created by another meanwhile: the next try reads theirs
    cases r with
    | ok u => exact ends_pure (hstays tls) ht hr
    | error e =>
      dsimp only
      split
      · rename_i he
        exact hagain ho.symm t ht (hr he)
      · exact ends_throw (fun heq => by cases heq)

/-- **What an operator starts with is what is stored**, and it never gives up:
a second try finds the set that was in its way. -/
theorem safe_ensureTls (hz : z.Fits start horizon) (hs : Sound z s start horizon st) :
    Safe exec (accord z s start horizon)
      (Ends z s start horizon (fun tls t => storedSet z s horizon t = some tls))
      (ensureTls z s).run st :=
  ends_try hz 2 hs (Or.inl (fun _ ht hset => ends_try hz 1 ht (Or.inr hset)))

/-! ## §4. From its start to its end. -/

/-- An operator that serves. -/
theorem stays_serving (tls : Tls) : Stays z s start horizon (tls ∈ ·.serving) :=
  fun _ _ h ht => h.serving tls ht

/-- A write to what is not the Secret. -/
theorem allowed_besides {w : Reply} {st' : World} (hs : Sound z s start horizon st)
    (hsame : st'.clock = st.clock ∧ st'.version = st.version ∧ st'.secrets = st.secrets ∧
      st'.serving = st.serving)
    (hagree : Agree z s horizon st → Agree z s horizon st') :
    Allowed z s start horizon st (settle st w (.ok st')).2 := by
  refine allowed_settle (fun t ht => ?_)
  obtain ⟨hclock, hversion, hsecrets, hserving⟩ := hsame
  rw [← Except.ok.inj ht]
  refine .of_secrets hclock.symm.le (hclock ▸ hs.inTime) hversion (hserving ▸ fun _ h => h) ?_
    hagree
  rw [hsecrets]

theorem Agree.of_same {st' : World} (h : Agree z s horizon st)
    (hsame : st'.secrets = st.secrets ∧ st'.serving = st.serving ∧ st'.exits = st.exits)
    (happlied : ∀ c ∈ st'.applied, c ∈ st.applied ∨
      ∃ tls ∈ st.serving, c.caBundle = tls.caBundle) : Agree z s horizon st' := by
  obtain ⟨hsecrets, hserving, hexits⟩ := hsame
  refine ⟨fun tls ht => ?_, fun c hc => ?_, fun r hr => h.kept r (hexits ▸ hr)⟩
  · rw [storedSet_congr (congrFun hsecrets _)]
    exact h.served tls (hserving ▸ ht)
  · rw [hserving]
    rcases happlied c hc with hc | hc
    · exact h.registered c hc
    · exact hc

/-- It serves what is stored. -/
theorem ends_serve {tls : Tls} (hs : Sound z s start horizon st)
    (hset : storedSet z s horizon st = some tls) (addr : String) :
    Safe exec (accord z s start horizon)
      (Ends z s start horizon (fun r t => r = .ok () → tls ∈ t.serving))
      (ask (.serve addr tls)).run st := by
  refine ends_ask (fun r _ _ ha hp hr => ha.serving tls (hp hr)) hs (fun t w ht hts => ?_)
  have hset' := ht.stays hset
  unfold exec
  dsimp only
  split
  · refine ⟨.of_secrets (le_refl _) hts.inTime rfl (fun _ h => List.mem_append_left _ h) rfl
      (fun ha => ⟨?_, fun c hc => ?_, ha.kept⟩),
      fun _ => List.mem_append_right _ (List.mem_singleton_self tls)⟩
    · intro served h
      rcases List.mem_append.mp h with h | h
      · exact ha.served served h
      · rw [List.mem_singleton.mp h]
        exact hset'
    · obtain ⟨served, h, heq⟩ := ha.registered c hc
      exact ⟨served, List.mem_append_left _ h, heq⟩
  · exact ⟨Allowed.refl t, fun h => by cases h⟩

/-- Reading the owner changes nothing. -/
theorem ends_ownerOf {p : World → Prop} (hp : Stays z s start horizon p) (o : Settings)
    (hs : Sound z s start horizon st) (h : p st) :
    Safe exec (accord z s start horizon) (Ends z s start horizon (fun _ t => p t))
      (ownerOf o).run st := by
  unfold ownerOf
  cases o.ownerClusterRole with
  | none => exact ends_pure hp hs h
  | some role =>
    refine ends_bind (P := fun _ t => p t) ?_ (fun r t ht hr => ?_)
    · exact ends_ask (fun _ => hp) hs (fun t w ha _ => ⟨Allowed.refl t, hp _ _ ha h⟩)
    · split <;> exact ends_pure hp ht hr

/-- It registers only what it serves. -/
theorem ends_register {tls : Tls} (o : Settings) (hs : Sound z s start horizon st)
    (h : tls ∈ st.serving) :
    Safe exec (accord z s start horizon) (Ends z s start horizon (fun _ _ => True))
      (register o tls).run st := by
  unfold register
  refine ends_bind (ends_ownerOf (stays_serving tls) o hs h) (fun owner t ht hserving => ?_)
  refine ends_bind (P := fun _ _ => True) ?_ (fun r t ht _ => ?_)
  · refine ends_ask (fun _ => stays_true) ht (fun t w ha hts => ⟨?_, trivial⟩)
    refine allowed_besides hts ⟨rfl, rfl, rfl, rfl⟩ (fun hagree => hagree.of_same ⟨rfl, rfl, rfl⟩
      (fun c hc => ?_))
    rcases List.mem_append.mp hc with hc | hc
    · exact Or.inl hc
    · rw [List.mem_singleton.mp hc]
      exact Or.inr ⟨tls, ha.serving tls hserving, rfl⟩
  · exact ends_orElse (fun _ => stays_true) ht (fun _ _ => trivial) (fun e he => by cases he)

/-- Unregistering keeps the agreement. -/
theorem ends_unregister (o : Settings) (hs : Sound z s start horizon st) :
    Safe exec (accord z s start horizon) (Ends z s start horizon (fun _ _ => True))
      (unregister o).run st := by
  refine ends_bind (P := fun _ _ => True) ?_
    (fun _ _ ht _ => ends_pure stays_true ht trivial)
  refine ends_ask (fun _ => stays_true) hs (fun t w _ hts => ⟨?_, trivial⟩)
  unfold exec
  dsimp only
  split
  · exact allowed_settle (fun st' h => by cases h)
  · exact allowed_besides hts ⟨rfl, rfl, rfl, rfl⟩
      (fun hagree => hagree.of_same ⟨rfl, rfl, rfl⟩ (fun c hc => Or.inl hc))

/-- **An operator keeps to the accord** from its start to its end. -/
theorem safe_operate (hz : z.Fits start horizon) (hs : Sound z s start horizon st) :
    Safe exec (accord z s start horizon) (fun _ _ => True) (operate z s) st := by
  have hlife : Safe exec (accord z s start horizon) (Ends z s start horizon (fun _ _ => True))
      (life z s).run st := by
    refine ends_bind (safe_ensureTls hz hs) (fun tls t ht hset => ?_)
    refine ends_bind (ends_serve ht hset s.addr) (fun r t ht hr => ?_)
    refine ends_bind (P := fun _ t => tls ∈ t.serving) (ends_orElse (fun _ => stays_serving tls)
      ht (fun u h => hr h) (fun e he => by cases he)) (fun _ t ht hserving => ?_)
    refine ends_bind (ends_register s ht hserving) (fun _ t ht _ => ?_)
    refine ends_bind (P := fun _ _ => True) (ends_read (p := fun _ => True) ht
      (fun _ _ _ _ => ⟨rfl, trivial⟩)) (fun _ t ht _ => ends_unregister s ht)
  refine safe_bind (fun r t hr => ?_) hlife
  intro t' ht w
  refine ⟨?_, fun _ _ => trivial⟩
  -- what the process ends with is written down
  refine ⟨le_refl _, le_refl _, fun _ h => h, Or.inl rfl, fun h => ⟨h.1, h.2, h.3⟩, fun h =>
    ⟨h.served, h.registered, fun r' hr' => ?_⟩⟩
  rcases List.mem_append.mp hr' with h' | h'
  · exact h.kept r' h'
  · rw [List.mem_singleton.mp h']
    cases r with
    | ok u => exact fun he => by cases he
    | error e => exact fun he => hr (Except.error.inj he)

end Sharing

/-! ## §5. What one operator registers. -/

/-- A call that registers nothing. -/
def Call.Quiet (c : Call) : Prop := ∀ config, c ≠ .applyConfiguration config

theorem quiet_ask {c : Call} (h : c.Quiet) : Every Call.Quiet (ask c).run := ⟨h, fun _ => trivial⟩

/-- An answer that may be an error asks nothing. -/
theorem quiet_orElse {ε α : Type} {f : ε → StartError} {r : Except ε α} :
    Every Call.Quiet (orElse f r).run := by
  cases r with
  | ok a => exact every_pure a
  | error e => exact every_throw (f e)

/-- Storing a set neither serves nor registers. -/
theorem quiet_store (z : Chrono) (s : Settings) (existing : Option Secret) (tls : Tls)
    (notAfter : Int) : Every Call.Quiet (store z s existing tls notAfter).run := by
  unfold store
  cases existing with
  | none => exact quiet_ask (fun _ h => by cases h)
  | some old => exact quiet_ask (fun _ h => by cases h)

/-- Settling on a set neither serves nor registers. -/
theorem quiet_ensureTry (z : Chrono) (s : Settings) (n : Nat) :
    Every Call.Quiet (ensureTry z s n).run := by
  induction n with
  | zero => exact every_throw _
  | succ n ih =>
    rw [ensureTry]
    refine every_bind_except ?_ (fun existing => every_bind_except ?_ (fun o => ?_))
    · exact every_bind_except (quiet_ask (fun _ h => by cases h)) (fun _ => quiet_orElse)
    · cases existing with
      | none => exact every_pure none
      | some secret =>
        exact every_bind_except (quiet_ask (fun _ h => by cases h)) (fun _ => every_pure _)
    · cases o with
      | some tls => exact every_pure tls
      | none =>
        refine every_bind_except ?_ (fun i => every_bind_except (quiet_store ..) (fun r => ?_))
        · refine every_bind_except (quiet_ask (fun _ h => by cases h)) (fun _ => ?_)
          refine every_bind_except (quiet_ask (fun _ h => by cases h)) (fun _ => ?_)
          exact every_bind_except quiet_orElse (fun _ => every_pure _)
        · cases r with
          | ok u => exact every_pure i.1
          | error e =>
            dsimp only
            split
            · exact ih
            · exact every_throw _

/-- Asking for the owner neither serves nor registers. -/
theorem quiet_ownerOf (s : Settings) : Every Call.Quiet (ownerOf s).run := by
  unfold ownerOf
  cases s.ownerClusterRole with
  | none => exact every_pure none
  | some role =>
    refine every_bind_except (quiet_ask (fun _ h => by cases h)) (fun r => ?_)
    split <;> exact every_pure _

/-- After `before`, nothing is registered in `d` but the CA of a set that has been
served by then. -/
def ServedFirst (s : Settings) (before d : List (Exchange Answer)) : Prop :=
  ∀ d₁ config a d₂, d = d₁ ++ ⟨.applyConfiguration config, a⟩ :: d₂ →
    ∃ tls, (⟨.serve s.addr tls, .ok ()⟩ : Exchange Answer) ∈ before ++ d₁ ∧
      config.caBundle = tls.caBundle

theorem servedFirst_quiet {s : Settings} {before d : List (Exchange Answer)}
    (h : ∀ e ∈ d, e.1.Quiet) : ServedFirst s before d := by
  rintro d₁ config a d₂ rfl
  exact absurd rfl (h ⟨.applyConfiguration config, a⟩ (by simp) config)

/-- One dialogue after another. -/
theorem servedFirst_append {s : Settings} {before d d' : List (Exchange Answer)}
    (h : ServedFirst s before d) (h' : ServedFirst s (before ++ d) d') :
    ServedFirst s before (d ++ d') := by
  intro d₁ config a d₂ heq
  rcases List.append_eq_append_iff.mp heq with ⟨l, rfl, hrest⟩ | ⟨l, hfirst, hrest⟩
  · obtain ⟨tls, htls, hca⟩ := h' l config a d₂ hrest
    exact ⟨tls, by rwa [← List.append_assoc], hca⟩
  · cases l with
    | nil =>
      rw [List.append_nil] at hfirst
      obtain ⟨tls, htls, hca⟩ := h' [] config a d₂ hrest.symm
      exact ⟨tls, by rw [List.append_nil, hfirst] at htls; exact htls, hca⟩
    | cons e l =>
      obtain ⟨rfl, -⟩ := List.cons.inj hrest
      exact h d₁ config a l hfirst

/-- A call is told by its answer. -/
theorem says_ask {c : Call} {d : List (Exchange Answer)} {r : Except StartError (Answer c)}
    (h : Says (ask c).run d r) : ∃ a, d = [⟨c, a⟩] ∧ r = .ok a := by
  obtain ⟨a, rest, rfl, hdone⟩ := says_call h
  obtain ⟨rfl, rfl⟩ := says_done hdone
  exact ⟨a, rfl, rfl⟩

/-- An answer that may be an error is no dialogue. -/
theorem says_orElse {ε α : Type} {f : ε → StartError} {r : Except ε α}
    {d : List (Exchange Answer)} {q : Except StartError α} (h : Says (orElse f r).run d q) :
    d = [] ∧ ∀ a, q = .ok a → r = .ok a := by
  cases r with
  | ok a =>
    obtain ⟨rfl, rfl⟩ := says_done h
    exact ⟨rfl, fun b hb => by rw [Except.ok.inj hb]⟩
  | error e =>
    obtain ⟨rfl, rfl⟩ := says_done h
    exact ⟨rfl, fun b hb => by cases hb⟩

/-- What follows the registration registers nothing. -/
theorem servedFirst_register {s : Settings} {tls : Tls} {before d : List (Exchange Answer)}
    {r : Except StartError Unit}
    (hserved : (⟨.serve s.addr tls, .ok ()⟩ : Exchange Answer) ∈ before)
    (h : Says (register s tls).run d r) : ServedFirst s before d := by
  unfold register at h
  rcases says_bind_except h with ⟨e, howner, -⟩ | ⟨dOwner, d', owner, rfl, howner, hwrite⟩
  · exact servedFirst_quiet (says_every (quiet_ownerOf s) howner)
  refine servedFirst_append (servedFirst_quiet (says_every (quiet_ownerOf s) howner)) ?_
  have happly : ∀ answer, ServedFirst s (before ++ dOwner)
      [⟨.applyConfiguration (configFor s tls owner), answer⟩] := by
    intro answer d₁ config a d₂ heq
    cases d₁ with
    | nil =>
      cases heq
      exact ⟨tls, by rw [List.append_nil]; exact List.mem_append_left _ hserved, rfl⟩
    | cons e d₁ => exact absurd (List.cons.inj heq).2 (by simp)
  rcases says_bind_except hwrite with ⟨e, hask, -⟩ | ⟨dAsk, rest, answer, rfl, hask, hend⟩
  · obtain ⟨answer, rfl, -⟩ := says_ask hask
    exact happly answer
  · obtain ⟨answer', rfl, -⟩ := says_ask hask
    obtain ⟨rfl, -⟩ := says_orElse hend
    rw [List.append_nil]
    exact happly answer'

/-- **An operator registers only what it serves itself**, whatever it is answered. -/
theorem servedFirst_operate (z : Chrono) (s : Settings) {d : List (Exchange Answer)} {u : Unit}
    (h : Says (operate z s) d u) : ServedFirst s [] d := by
  obtain ⟨d, last, r, rfl, hlife, hexit⟩ := says_bind.mp h
  have hlast : ∀ before, ServedFirst s before last := by
    obtain ⟨_, rest, rfl, hdone⟩ := says_call hexit
    obtain ⟨rfl, -⟩ := says_done hdone
    exact fun _ => servedFirst_quiet (List.forall_mem_singleton.mpr (fun _ h => by cases h))
  refine servedFirst_append ?_ (hlast _)
  -- the set it starts with
  rcases says_bind_except hlife with ⟨e, hensure, -⟩ | ⟨dTls, d₂, tls, rfl, hensure, hserve⟩
  · exact servedFirst_quiet (says_every (quiet_ensureTry z s 3) hensure)
  refine servedFirst_append (servedFirst_quiet (says_every (quiet_ensureTry z s 3) hensure)) ?_
  have hserving : ∀ bound, ServedFirst s ([] ++ dTls) [⟨.serve s.addr tls, bound⟩] :=
    fun _ => servedFirst_quiet (List.forall_mem_singleton.mpr (fun _ h => by cases h))
  rcases says_bind_except hserve with ⟨e, hask, -⟩ | ⟨dAsk, d₃, bound, rfl, hask, hrest⟩
  · obtain ⟨bound, rfl, -⟩ := says_ask hask
    exact hserving bound
  obtain ⟨bound', rfl, hbound⟩ := says_ask hask
  cases hbound
  refine servedFirst_append (hserving bound) ?_
  -- it ends where it cannot serve it
  rcases says_bind_except hrest with ⟨e, hor, -⟩ | ⟨dOr, d₄, u, rfl, hor, hregisters⟩
  · obtain ⟨rfl, -⟩ := says_orElse hor
    exact servedFirst_quiet (fun _ h => by cases h)
  obtain ⟨rfl, hok⟩ := says_orElse hor
  cases hok u rfl
  have hserved : (⟨.serve s.addr tls, .ok ()⟩ : Exchange Answer)
      ∈ [] ++ dTls ++ [⟨.serve s.addr tls, .ok ()⟩] :=
    List.mem_append_right _ (List.mem_singleton_self _)
  rw [List.nil_append] at hserved
  rw [List.nil_append, List.nil_append]
  rcases says_bind_except hregisters with ⟨e, hregister, -⟩ | ⟨dRegister, d₅, _, rfl, hregister, hends⟩
  · exact servedFirst_register hserved hregister
  refine servedFirst_append (servedFirst_register hserved hregister) ?_
  -- the rest only removes the registration
  have hquiet : Every Call.Quiet (ask .shutdownSignal >>= fun _ => unregister s).run :=
    every_bind_except (quiet_ask (fun _ h => by cases h)) (fun _ =>
      every_bind_except (quiet_ask (fun _ h => by cases h)) (fun _ => every_pure ()))
  exact servedFirst_quiet (says_every hquiet hends)

/-! ## §6. Operators side by side. -/

/-- What happens besides, up to a time and without a write of the Secret. -/
def Outside.Spares (s : Settings) (horizon : Int) : Outside → Prop
  | .clock t => t ≤ horizon
  | .secret name _ => name ≠ s.secret
  | _ => True

/-- Others that spare the Secret are allowed. -/
theorem allowed_outside {z : Chrono} {s : Settings} {start horizon : Int} {e : Outside}
    {st : World} (he : e.Spares s horizon) (hs : st.clock ≤ horizon) :
    Allowed z s start horizon st (e.apply st) := by
  cases e with
  | clock t =>
    exact .of_secrets (le_max_left _ _) (max_le hs he) rfl (fun _ h => h) rfl
      (fun h => h.of_same ⟨rfl, rfl, rfl⟩ (fun c hc => Or.inl hc))
  | secret name written =>
    have hsecret : (Outside.apply st (.secret name written)).secrets s.secret
        = st.secrets s.secret := Function.update_of_ne (Ne.symm he) ..
    refine .of_secrets (le_refl _) hs rfl (fun _ h => h) hsecret (fun h => ⟨fun tls ht => ?_,
      h.registered, h.kept⟩)
    rw [storedSet_congr hsecret]
    exact h.served tls ht
  | clusterRole name role =>
    exact .of_secrets (le_refl _) hs rfl (fun _ h => h) rfl
      (fun h => h.of_same ⟨rfl, rfl, rfl⟩ (fun c hc => Or.inl hc))
  | configuration name config =>
    exact .of_secrets (le_refl _) hs rfl (fun _ h => h) rfl
      (fun h => h.of_same ⟨rfl, rfl, rfl⟩ (fun c hc => Or.inl hc))

/-- A world where no operator has started yet. What is stored is not to be
renewed between its time and the horizon, or is already. -/
structure Untouched (z : Chrono) (s : Settings) (horizon : Int) (st : World) : Prop where
  serving : st.serving = []
  applied : st.applied = []
  exits : st.exits = []
  inTime : st.clock ≤ horizon
  given : ∀ secret, st.secrets s.secret = some secret →
    secret.resourceVersion ≤ st.version ∧ Steady z s st.clock horizon secret

/-- The world after operators and others have done some of what they do. -/
def worldAfter (z : Chrono) (st : World) (ms : List (Move Settings Outside Reply)) : World :=
  ((⟨st, []⟩ : Running Settings Call Answer World).run (operate z) exec Outside.apply ms).1.state

/-- What the operator at position `i` has said and was told. -/
def saidBy (z : Chrono) (st : World) (ms : List (Move Settings Outside Reply)) (i : Nat) :
    List (Exchange Answer) :=
  Running.said (operate z) exec Outside.apply i ⟨st, []⟩ ms

theorem answers_nonempty (c : Call) : Nonempty (Answer c) := by
  cases c with
  | now => exact ⟨(0 : Int)⟩
  | generate => exact ⟨Except.error ""⟩
  | serve => exact ⟨Except.error ""⟩
  | getSecret => exact ⟨Except.ok none⟩
  | getClusterRole => exact ⟨Except.ok none⟩
  | shutdownSignal => exact ⟨()⟩
  | exit => exact ⟨()⟩
  | _ => exact ⟨Except.ok ()⟩

/-- In any interleaving each operator registers only what it serves itself. -/
theorem servedFirst_saidBy {z : Chrono} {s : Settings} {st : World}
    {ms : List (Move Settings Outside Reply)} (hsame : ∀ o, .start o ∈ ms → o = s) (i : Nat) :
    ServedFirst s [] (saidBy z st ms i) := by
  have hstarted : saidBy z st ms i = [] ∨
      ∃ o, .start o ∈ ms ∧ Begins (operate z o) (saidBy z st ms i) :=
    said_started answers_nonempty i ms ⟨st, []⟩ rfl
  rcases hstarted with hnil | ⟨o, ho, hsaid⟩
  · rw [hnil]
    exact servedFirst_quiet (fun _ h => by cases h)
  · rw [hsame o ho] at hsaid
    obtain ⟨rest, u, h⟩ := hsaid
    rintro d₁ config a d₂ heq
    refine servedFirst_operate z s h d₁ config a (d₂ ++ rest) ?_
    rw [heq, List.append_assoc, List.cons_append]

/-- **Operators agree.** In any interleaving of operators with the same settings,
where no one else writes the Secret and no set is to be renewed meanwhile: all
sets that are served are one, what is registered has its CA, each operator
registers only what it serves itself, and none ends because it could not store a
set. -/
theorem operators_agree (z : Chrono) (s : Settings) (horizon : Int) (st : World)
    (hz : z.Fits st.clock horizon) (hst : Untouched z s horizon st)
    (ms : List (Move Settings Outside Reply)) (hsame : ∀ o, .start o ∈ ms → o = s)
    (hothers : ∀ e, .outside e ∈ ms → e.Spares s horizon) :
    (∀ tls ∈ (worldAfter z st ms).serving, storedSet z s horizon (worldAfter z st ms) = some tls) ∧
      (∀ c ∈ (worldAfter z st ms).applied, ∃ tls ∈ (worldAfter z st ms).serving,
        base64Decode c.caBundle.toList = some tls.caPem.toUTF8.data.toList) ∧
      (∀ i, ServedFirst s [] (saidBy z st ms i)) ∧
      ∀ r ∈ (worldAfter z st ms).exits, r ≠ .error (.notStored s.secret) := by
  -- nothing is served, applied or exited in the beginning
  have hsound : Sound z s st.clock horizon st := ⟨le_refl _, hst.inTime, hst.given⟩
  have hagree : Agree z s horizon st := by
    refine ⟨fun _ h => ?_, fun _ h => ?_, fun _ h => ?_⟩
    · rw [hst.serving] at h
      cases h
    · rw [hst.applied] at h
      cases h
    · rw [hst.exits] at h
      cases h
  -- every move keeps the accord: those of a replica and those from outside
  have hrun : Allowed z s st.clock horizon st (worldAfter z st ms) := by
    refine run_safe (A := accord z s st.clock horizon) ms ⟨st, []⟩ (fun o ho t ht => ?_)
      (fun e he t ht => ?_) (fun _ h => by cases h)
    · rw [hsame o ho]
      exact safe_operate hz (ht.sound hsound)
    · exact allowed_outside (hothers e he) (ht.sound hsound).inTime
  have hend := hrun.agree hagree
  refine ⟨hend.served, fun c hc => ?_, servedFirst_saidBy hsame, hend.kept⟩
  obtain ⟨tls, htls, heq⟩ := hend.registered c hc
  refine ⟨tls, htls, ?_⟩
  rw [heq]
  unfold Tls.caBundle
  rw [String.toList_ofList, base64Decode_base64]

/-! ## §7. Two that start together. -/

/-- The first of January 2026, and what the calendar says of it. -/
def newYear : Int := seconds 1767225600

/-- Dates of one run, at a new year. -/
def newYearChrono : Chrono where
  yearsLater t _ := some (t + days 1826)
  toRfc3339 t := if t = newYear + days 1826 then "2031-01-01T00:00:00+00:00" else ""
  parseFromRfc3339 text :=
    if text = "2031-01-01T00:00:00+00:00" then some (newYear + days 1826) else none

/-- The settings of an installation. -/
def defaultSettings : Settings where
  addr := "0.0.0.0:9443"
  «namespace» := "kube-system"
  service := "kube-hardware-autoscaler-webhook"
  servicePort := 443
  secret := "kube-hardware-autoscaler-webhook-tls"
  configName := "kube-hardware-autoscaler"
  ownerClusterRole := none

/-- Both find no Secret and issue a set; the second is too late for its own. -/
def twoOperators : List (Move Settings Outside Reply) :=
  [.start defaultSettings, .start defaultSettings, .next 0 {}, .next 1 {}, .next 0 {},
    .next 0 { generated := .ok ⟨"ca-1", "cert-1", "key-1"⟩ }, .next 1 {},
    .next 1 { generated := .ok ⟨"ca-2", "cert-2", "key-2"⟩ }, .next 0 {}, .next 1 {}, .next 1 {},
    .next 1 {}, .next 0 {}, .next 0 {}, .next 1 {}, .next 1 {}]

/-- Two operators that start at once, one of which loses the write. -/
theorem two_operators_agree :
    (worldAfter newYearChrono { clock := newYear } twoOperators).serving
        = [⟨"ca-1", "cert-1", "key-1"⟩, ⟨"ca-1", "cert-1", "key-1"⟩] ∧
      (∀ tls ∈ (worldAfter newYearChrono { clock := newYear } twoOperators).serving,
        storedSet newYearChrono defaultSettings newYear
          (worldAfter newYearChrono { clock := newYear } twoOperators) = some tls) ∧
      (∀ c ∈ (worldAfter newYearChrono { clock := newYear } twoOperators).applied,
        ∃ tls ∈ (worldAfter newYearChrono { clock := newYear } twoOperators).serving,
          base64Decode c.caBundle.toList = some tls.caPem.toUTF8.data.toList) ∧
      (∀ i, ServedFirst defaultSettings []
        (saidBy newYearChrono { clock := newYear } twoOperators i)) ∧
      ∀ r ∈ (worldAfter newYearChrono { clock := newYear } twoOperators).exits,
        r ≠ .error (.notStored defaultSettings.secret) := by
  refine ⟨rfl, operators_agree newYearChrono defaultSettings newYear
    { clock := newYear } ⟨?_, ?_, ?_⟩ ⟨rfl, rfl, rfl, le_refl _, fun _ h => by cases h⟩
    twoOperators (fun o ho => ?_) (fun e he => ?_)⟩
  · intro t t' h
    rw [← Option.some.inj h, show days 1826 = days 1825 + days 1 by decide]
    have hday : 0 ≤ days 1 := by decide
    omega
  · intro t ht ht'
    rw [le_antisymm ht' ht]
    decide
  · have hle : days 30 ≤ days 1825 := by decide
    show newYear + days 30 ≤ newYear + days 1825
    omega
  · simp only [twoOperators, List.mem_cons, Move.start.injEq, reduceCtorEq, List.not_mem_nil,
      or_false, or_self] at ho
    exact ho
  · simp only [twoOperators, List.mem_cons, reduceCtorEq, List.not_mem_nil, or_self] at he

end HardwareAutoscaler.Webhook
