/-
  HardwareAutoscaler.Webhook.Certificate
  ──────────────────────────────────────
  THE WEBHOOK'S CERTIFICATE (`src/webhook.rs`).

  Every operator that starts takes the CA and the serving certificate from a
  Secret, or issues a set and stores it there; then it serves, and registers the
  webhook with that CA.  Several may start at the same time.

    • `tlsFromSecret`, `ensureTls` — the set that is stored, or a new one,
    • `register`, `unregister`, `operate` — an operator's life, as its calls,
    • `exec`, `Outside` — what the calls do, and what others do,
    • `tlsFromSecret_written` — what is stored is read back until it is to be
      renewed.
-/
import HardwareAutoscaler.Lib.Encoding
import HardwareAutoscaler.Drivers.Inband

namespace HardwareAutoscaler.Webhook

open Lib (base64 Calls)
open Inband (KubeError)
open Std (TreeMap)

/-! ## §1. The certificate in its Secret. -/

/-- What is used of `chrono`: dates, nanoseconds since the epoch, and their texts. -/
structure Chrono where
  /-- `t.with_year(t.year() + n)`. -/
  yearsLater (t n : Int) : Option Int
  toRfc3339 (t : Int) : String
  parseFromRfc3339 (text : String) : Option Int

/-- Days, in nanoseconds. -/
def days (n : Int) : Int := seconds (n * 86400)

/-- Settings of the webhook. -/
structure Settings where
  addr : String
  «namespace» : String
  service : String
  servicePort : Int
  secret : String
  configName : String
  ownerClusterRole : Option String
  deriving DecidableEq, Repr

/-- The names the API server may call the webhook by. -/
def Settings.dnsNames (s : Settings) : List String :=
  let base := s!"{s.service}.{s.namespace}.svc"
  [base, s!"{base}.cluster.local"]

/-- The names as they are written into the Secret. -/
def Settings.joined (s : Settings) : String := ",".intercalate s.dnsNames

/-- A certificate with its key and its CA. -/
structure Tls where
  caPem : String
  certPem : String
  keyPem : String
  deriving DecidableEq, Repr

/-- A Secret as it is stored; each write gives it another version. -/
structure Secret where
  resourceVersion : Nat
  annotations : Option (TreeMap String String)
  data : Option (TreeMap String ByteArray)

/-- On the Secret: until when the certificate is valid. -/
def notAfterAnnotation : String := "hardware-autoscaler.safewords.com/not-after"
/-- On the Secret: the names the certificate is for. -/
def dnsNamesAnnotation : String := "hardware-autoscaler.safewords.com/dns-names"

/-- Certificates are issued for this many years. -/
def certYears : Int := 5

/-- An entry of a Secret, if it is there and is text. -/
def textOf (data : TreeMap String ByteArray) (k : String) : Option String :=
  data[k]?.bind String.fromUTF8?

/-- The set a Secret holds for these names, unless it is to be renewed at `now`. -/
def tlsFromSecret (z : Chrono) (secret : Secret) (dnsNames : String) (now : Int) : Option Tls := do
  let annotations ← secret.annotations
  if annotations.get? dnsNamesAnnotation ≠ some dnsNames then none
  else
    let notAfter ← z.parseFromRfc3339 (← annotations.get? notAfterAnnotation)
    if notAfter < now + days 30 then none
    else
      let data ← secret.data
      some ⟨← textOf data "ca.crt", ← textOf data "tls.crt", ← textOf data "tls.key"⟩

/-- When a certificate that is issued now ends. -/
def Chrono.notAfter (z : Chrono) (now : Int) : Int :=
  (z.yearsLater now certYears).getD (now + days (365 * certYears))

/-- The annotations of the Secret of a certificate. -/
def annotationsFor (z : Chrono) (notAfter : Int) (joined : String) : TreeMap String String :=
  ((∅ : TreeMap String String).insert notAfterAnnotation (z.toRfc3339 notAfter)).insert
    dnsNamesAnnotation joined

/-- The data of the Secret of a certificate. -/
def dataFor (tls : Tls) : TreeMap String ByteArray :=
  (((∅ : TreeMap String ByteArray).insert "ca.crt" tls.caPem.toUTF8).insert
    "tls.crt" tls.certPem.toUTF8).insert "tls.key" tls.keyPem.toUTF8

/-! ## §2. The API. -/

/-- What is read of a ClusterRole. -/
structure ClusterRole where
  uid : Option String
  deriving DecidableEq, Repr

/-- A `ValidatingWebhookConfiguration`: its owner, the Service it is at and the
CA to trust there. The bundle is the base64 text of the CA. -/
structure WebhookConfiguration where
  name : String
  /-- A ClusterRole and its uid. -/
  owner : Option (String × String)
  «namespace» : String
  service : String
  port : Int
  path : String
  caBundle : String
  deriving DecidableEq, Repr

/-- The errors of a start, `anyhow::Error`. -/
inductive StartError where
  | kube (e : KubeError)
  | rcgen (e : String)
  | notStored (secret : String)
  | serve (e : String)
  | applying (name : String) (e : KubeError)
  deriving DecidableEq, Repr

/-- The text of an error. -/
def StartError.text : StartError → String
  | .kube e => e.text
  | .rcgen e => e
  | .notStored secret => s!"could not store the webhook certificate in Secret {secret}"
  | .serve e => e
  | .applying name _ => s!"applying ValidatingWebhookConfiguration {name}"

/-- What the webhook asks while it starts. -/
inductive Call where
  | now
  /-- `rcgen`: a CA and a certificate for these names, valid until a time. -/
  | generate (dnsNames : List String) (notAfter : Int)
  | getSecret (name : String)
  | createSecret (name : String) (annotations : TreeMap String String)
      (data : TreeMap String ByteArray)
  | replaceSecret (name : String) (version : Nat) (annotations : TreeMap String String)
      (data : TreeMap String ByteArray)
  | serve (addr : String) (tls : Tls)
  | getClusterRole (name : String)
  | applyConfiguration (config : WebhookConfiguration)
  | deleteConfiguration (name : String)
  /-- Waits for SIGTERM. -/
  | shutdownSignal
  /-- The process ends. -/
  | exit (r : Except StartError Unit)

/-- What it is answered. -/
abbrev Answer : Call → Type
  | .now => Int
  | .generate .. => Except String Tls
  | .getSecret _ => Except KubeError (Option Secret)
  | .createSecret .. => Except KubeError Unit
  | .replaceSecret .. => Except KubeError Unit
  | .serve .. => Except String Unit
  | .getClusterRole _ => Except KubeError (Option ClusterRole)
  | .applyConfiguration _ => Except KubeError Unit
  | .deleteConfiguration _ => Except KubeError Unit
  | .shutdownSignal => Unit
  | .exit _ => Unit

/-- Somebody else has written in between. -/
def isConflict : KubeError → Bool
  | .api code _ => code == 409
  | .other _ => false

/-- An error that is none of the Secret's doing. -/
structure Fault where
  error : KubeError
  noConflict : isConflict error = false

/-- What of an answer is not up to what is stored. -/
structure Reply where
  fault : Option Fault := none
  /-- Whether a write that fails is made nevertheless. -/
  made : Bool := false
  generated : Except String Tls := .error ""
  bound : Except String Unit := .ok ()

/-- What is stored, the time, and what operators have done: the sets they serve,
the configurations they have applied and how they have ended. -/
structure World where
  clock : Int
  secrets : String → Option Secret := fun _ => none
  /-- The last version that was given. -/
  version : Nat := 0
  clusterRoles : String → Option ClusterRole := fun _ => none
  configurations : String → Option WebhookConfiguration := fun _ => none
  serving : List Tls := []
  applied : List WebhookConfiguration := []
  exits : List (Except StartError Unit) := []

/-- A Secret written, at a version of its own. -/
def World.write (st : World) (name : String) (annotations : TreeMap String String)
    (data : TreeMap String ByteArray) : World :=
  { st with
    secrets := Function.update st.secrets name
      (some ⟨st.version + 1, some annotations, some data⟩)
    version := st.version + 1 }

/-- A write's answer, and what is stored then: what the write would do, unless
something else fails. -/
def settle (st : World) (w : Reply) (r : Except KubeError World) : Except KubeError Unit × World :=
  match w.fault, r with
  | none, .ok st' => (.ok (), st')
  | none, .error e => (.error e, st)
  | some f, .ok st' => (.error f.error, if w.made then st' else st)
  | some f, .error _ => (.error f.error, st)

/-- What a read answers, unless something fails. -/
def answer {α : Type} (w : Reply) (a : α) : Except KubeError α :=
  match w.fault with
  | none => .ok a
  | some f => .error f.error

/-- The answer to a call, and the world after it. A Secret is replaced only at
the version that was read. -/
def exec (c : Call) (st : World) (w : Reply) : Answer c × World :=
  match c with
  | .now => (st.clock, st)
  | .generate .. => (w.generated, st)
  | .getSecret name => (answer w (st.secrets name), st)
  | .createSecret name annotations data =>
    settle st w (match st.secrets name with
      | some _ => .error (.api 409 "AlreadyExists")
      | none => .ok (st.write name annotations data))
  | .replaceSecret name version annotations data =>
    settle st w (match st.secrets name with
      | none => .error (.api 404 "NotFound")
      | some old =>
        -- a replace is accepted only on the version it was read at
        if old.resourceVersion = version then .ok (st.write name annotations data)
        else .error (.api 409 "Conflict"))
  | .serve _ tls =>
    match w.bound with
    | .ok () => (.ok (), { st with serving := st.serving ++ [tls] })
    | .error e => (.error e, st)
  | .getClusterRole name => (answer w (st.clusterRoles name), st)
  | .applyConfiguration config =>
    settle st w (.ok { st with
      configurations := Function.update st.configurations config.name (some config)
      applied := st.applied ++ [config] })
  | .deleteConfiguration name =>
    settle st w (match st.configurations name with
      | none => .error (.api 404 "NotFound")
      | some _ =>
        .ok { st with configurations := Function.update st.configurations name none })
  | .shutdownSignal => ((), st)
  | .exit r => ((), { st with exits := st.exits ++ [r] })

/-- What happens besides: time passes, and others write what they like. -/
inductive Outside where
  /-- The clock shows a time. -/
  | clock (t : Int)
  | secret (name : String) (secret : Option Secret)
  | clusterRole (name : String) (role : Option ClusterRole)
  | configuration (name : String) (config : Option WebhookConfiguration)

/-- What others do to the world. -/
def Outside.apply (st : World) : Outside → World
  | .clock t => { st with clock := max st.clock t }
  | .secret name written => { st with secrets := Function.update st.secrets name written }
  | .clusterRole name role =>
    { st with clusterRoles := Function.update st.clusterRoles name role }
  | .configuration name config =>
    { st with configurations := Function.update st.configurations name config }

/-! ## §3. An operator's life. -/

/-- An asynchronous function that may fail. -/
abbrev Async := ExceptT StartError (Calls Call Answer)

/-- One call. -/
def ask (c : Call) : Async (Answer c) := (.call c (fun r => .done (.ok r)) : Calls _ _ _)

/-- `?`, with what the error becomes. -/
def orElse {ε α : Type} (f : ε → StartError) (r : Except ε α) : Async α :=
  match r with
  | .ok a => pure a
  | .error e => throw (f e)

/-- Issues a fresh CA and a serving certificate, and tells when they end. -/
def issue (z : Chrono) (dnsNames : List String) : Async (Tls × Int) := do
  let notAfter := z.notAfter (← ask .now)
  let tls ← orElse .rcgen (← ask (.generate dnsNames notAfter))
  pure (tls, notAfter)

/-- `existing.as_ref().and_then(|sec| tls_from_secret(sec, &joined))`. -/
def stored (z : Chrono) (s : Settings) : Option Secret → Async (Option Tls)
  | none => pure none
  | some secret => do pure (tlsFromSecret z secret s.joined (← ask .now))

/-- Creates the Secret, or replaces the one that was read. -/
def store (z : Chrono) (s : Settings) (existing : Option Secret) (tls : Tls) (notAfter : Int) :
    Async (Except KubeError Unit) :=
  let annotations := annotationsFor z notAfter s.joined
  match existing with
  | some old => ask (.replaceSecret s.secret old.resourceVersion annotations (dataFor tls))
  | none => ask (.createSecret s.secret annotations (dataFor tls))

/-- `api.get_opt(&s.secret).await?`. -/
def getSecret (s : Settings) : Async (Option Secret) := do
  orElse .kube (← ask (.getSecret s.secret))

/-- The tries that are left. When someone else wrote the Secret first, theirs is
read. -/
def ensureTry (z : Chrono) (s : Settings) : Nat → Async Tls
  | 0 => throw (.notStored s.secret)
  | n + 1 => do
    let existing ← getSecret s
    match ← stored z s existing with
    | some tls => pure tls
    | none =>
      let (tls, notAfter) ← issue z s.dnsNames
      match ← store z s existing tls notAfter with
      | .ok () => pure tls
      | .error e => if isConflict e then ensureTry z s n else throw (.kube e)

/-- The set of the Secret when it is valid, otherwise newly issued and stored. -/
def ensureTls (z : Chrono) (s : Settings) : Async Tls := ensureTry z s 3

/-- Where the webhook reviews pools. -/
def path : String := "/validate-nodescalingpool"

/-- The ClusterRole that is to own the configuration, if it can be read. -/
def ownerOf (s : Settings) : Async (Option (String × String)) :=
  match s.ownerClusterRole with
  | none => pure none
  | some role => do
    match ← ask (.getClusterRole role) with
    | .ok (some cr) => pure (some (role, cr.uid.getD ""))
    | _ => pure none

/-- `STANDARD.encode(&tls.ca_pem)`. -/
def Tls.caBundle (tls : Tls) : String := String.ofList (base64 tls.caPem.toUTF8.data.toList)

/-- The configuration that points at this operator. -/
def configFor (s : Settings) (tls : Tls) (owner : Option (String × String)) :
    WebhookConfiguration where
  name := s.configName
  owner := owner
  «namespace» := s.namespace
  service := s.service
  port := s.servicePort
  path := path
  caBundle := tls.caBundle

/-- Registers the webhook, with the CA of its certificate. -/
def register (s : Settings) (tls : Tls) : Async Unit := do
  let owner ← ownerOf s
  orElse (.applying s.configName) (← ask (.applyConfiguration (configFor s tls owner)))

/-- Removes the configuration; a failure is only logged. -/
def unregister (s : Settings) : Async Unit := do
  let _ ← ask (.deleteConfiguration s.configName)

/-- From the start of the webhook to the operator's end. -/
def life (z : Chrono) (s : Settings) : Async Unit := do
  let tls ← ensureTls z s
  orElse .serve (← ask (.serve s.addr tls))
  register s tls
  let _ ← ask .shutdownSignal
  unregister s

/-- The process: its life, and its end. -/
def operate (z : Chrono) (s : Settings) : Calls Call Answer Unit :=
  (life z s).run >>= fun r => .call (.exit r) .done

/-! ## §4. What is written is read back. -/

theorem fromUTF8_toUTF8 (text : String) : String.fromUTF8? text.toUTF8 = some text := by
  unfold String.fromUTF8?
  rw [String.toUTF8_eq_toByteArray, dif_pos text.isValidUTF8]
  rfl

theorem textOf_dataFor (tls : Tls) : textOf (dataFor tls) "ca.crt" = some tls.caPem ∧
    textOf (dataFor tls) "tls.crt" = some tls.certPem ∧
    textOf (dataFor tls) "tls.key" = some tls.keyPem := by
  unfold textOf dataFor
  refine ⟨?_, ?_, ?_⟩
  all_goals
    simp only [TreeMap.getElem?_insert]
    exact fromUTF8_toUTF8 _

theorem annotationsFor_get (z : Chrono) (notAfter : Int) (joined : String) :
    (annotationsFor z notAfter joined).get? dnsNamesAnnotation = some joined ∧
      (annotationsFor z notAfter joined).get? notAfterAnnotation
        = some (z.toRfc3339 notAfter) := by
  unfold annotationsFor
  simp only [TreeMap.get?_eq_getElem?, TreeMap.getElem?_insert]
  exact ⟨rfl, rfl⟩

/-- **What is stored is read back** under the same names, until 30 days before
its end. -/
theorem tlsFromSecret_written {z : Chrono} {notAfter : Int}
    (htext : z.parseFromRfc3339 (z.toRfc3339 notAfter) = some notAfter) (version : Nat)
    (joined dnsNames : String) (tls : Tls) (now : Int) :
    tlsFromSecret z ⟨version, some (annotationsFor z notAfter joined), some (dataFor tls)⟩
        dnsNames now
      = if dnsNames = joined ∧ now + days 30 ≤ notAfter then some tls else none := by
  obtain ⟨hnames, hend⟩ := annotationsFor_get z notAfter joined
  obtain ⟨hca, hcert, hkey⟩ := textOf_dataFor tls
  unfold tlsFromSecret
  simp only [Option.bind_eq_bind, Option.bind_some, hnames, hend, htext, hca, hcert, hkey]
  by_cases hn : dnsNames = joined
  · by_cases ht : now + days 30 ≤ notAfter
    · rw [if_neg (fun h => h (congrArg some hn.symm)), if_neg (by omega), if_pos ⟨hn, ht⟩]
    · rw [if_neg (fun h => h (congrArg some hn.symm)), if_pos (by omega), if_neg (fun h => ht h.2)]
  · rw [if_pos (fun h => hn (Option.some.inj h).symm), if_neg (fun h => hn h.1)]

end HardwareAutoscaler.Webhook
