/-
  HardwareAutoscaler.Drivers.NanoKvm
  ──────────────────────────────────
  A MACHINE BEHIND A NANOKVM (`src/drivers/nanokvm.rs`).

  The driver logs in with the password encrypted, keeps the session's token,
  and logs in again once when it is told that the session is over.  What it has
  of the machine is the power LED and the button, which toggles.

    • `encryptPassword` — `decryptPassword_encryptPassword`: what is sent is
      what can be read back, for every salt,
    • `login`, `token`, `call` — requests, each logging in again once,
    • `isOn`, `press`, `powerOn`, `powerOff`,
    • `readThenPress` — one press at most, whatever is answered,
    • `power_on_retries` — retrying never turns the machine off.
-/
import HardwareAutoscaler.Lib.Dialogue
import HardwareAutoscaler.Lib.Encoding
import HardwareAutoscaler.Lib.Json
import HardwareAutoscaler.Lib.Text
import HardwareAutoscaler.Controller.Machine.Effects
import HardwareAutoscaler.Drivers.Chain
import HardwareAutoscaler.Drivers.Toggle

namespace HardwareAutoscaler.NanoKvm

open Lib (Json Exchange Session base64 base64Decode base64Decode_base64 base64_ascii percentEncode
  percentDecode percentDecode_percentEncode unreserved_percentEncode isUnreserved splitOnce)
open Lib.Json

/-! ## §1. The password. -/

/-- The ciphers, and what prints JSON and statuses. -/
structure Crates where
  md5 : List UInt8 → List UInt8
  md5_length : ∀ bytes, (md5 bytes).length = 16
  /-- AES-256 in CBC mode, padded (PKCS #7): of a key, an IV and a text. -/
  encrypt : List UInt8 → List UInt8 → List UInt8 → List UInt8
  print : Json → String
  status : Nat → String

section Password

variable (crates : Crates)

/-- `s.as_bytes()`. -/
def bytesOf (s : String) : List UInt8 := s.toUTF8.data.toList

/-- The passphrase that is built into the firmware. -/
def nanokvmPassphrase : List UInt8 := bytesOf "nanokvm-sipeed-2024"

/-- The digests, each of the one before and the passphrase, until there are 48
bytes. -/
def keyMaterial (passphrase salt material prev : List UInt8) : List UInt8 :=
  if material.length < 48 then
    let digest := crates.md5 (prev ++ passphrase ++ salt)
    keyMaterial passphrase salt (material ++ digest) digest
  else material
termination_by 48 - material.length
decreasing_by
  rw [List.length_append, crates.md5_length]
  omega

/-- OpenSSL's derivation of a key and an IV. -/
def deriveKeyIv (passphrase salt : List UInt8) : List UInt8 × List UInt8 :=
  let material := keyMaterial crates passphrase salt [] []
  (material.take 32, (material.drop 32).take 16)

/-- The password under a key and an initialisation vector derived from the salt. -/
def encryptRaw (plain salt : List UInt8) : List UInt8 :=
  let keyIv := deriveKeyIv crates nanokvmPassphrase salt
  crates.encrypt keyIv.1 keyIv.2 plain

/-- What OpenSSL writes before the salt. -/
def saltedHeader : List UInt8 := bytesOf "Salted__"

/-- The password, as the web interface of a NanoKVM encrypts it. -/
def encryptPassword (password : String) (salt : Vector UInt8 8) : List Char :=
  let blob := saltedHeader ++ salt.toList ++ encryptRaw crates (bytesOf password) salt.toList
  percentEncode ((base64 blob).map Char.toUInt8)

/-- What can be read of it by who has the passphrase, as OpenSSL does. -/
def decryptPassword (decrypt : List UInt8 → List UInt8 → List UInt8 → Option (List UInt8))
    (sent : List Char) : Option (List UInt8) := do
  let text ← percentDecode sent
  let blob ← base64Decode (text.map (fun b => Char.ofNat b.toNat))
  if blob.take 8 = saltedHeader then
    let keyIv := deriveKeyIv crates nanokvmPassphrase ((blob.drop 8).take 8)
    decrypt keyIv.1 keyIv.2 (blob.drop 16)
  else none

variable {crates}

/-- There are 48 bytes of key material. -/
theorem keyMaterial_length (passphrase salt : List UInt8) :
    (keyMaterial crates passphrase salt [] []).length = 48 := by
  -- three digests
  unfold keyMaterial
  rw [if_pos (by simp)]
  unfold keyMaterial
  rw [if_pos (by simp [crates.md5_length])]
  unfold keyMaterial
  rw [if_pos (by simp [crates.md5_length])]
  unfold keyMaterial
  rw [if_neg (by simp [crates.md5_length])]
  simp [crates.md5_length]

/-- A key of 32 bytes, and an initialisation vector of 16. -/
theorem deriveKeyIv_length (passphrase salt : List UInt8) :
    (deriveKeyIv crates passphrase salt).1.length = 32 ∧
      (deriveKeyIv crates passphrase salt).2.length = 16 := by
  have h := @keyMaterial_length crates passphrase salt
  constructor
  · simp [deriveKeyIv, h]
  · simp [deriveKeyIv, h]

theorem ofNat_toUInt8 {c : Char} (h : c.toNat < 128) : Char.ofNat c.toUInt8.toNat = c := by
  have hnat : c.toUInt8.toNat = c.toNat := by
    show c.toNat % 256 = c.toNat
    omega
  rw [hnat, Char.ofNat_toNat]

theorem saltedHeader_length : saltedHeader.length = 8 := by
  unfold saltedHeader bytesOf
  rw [Array.length_toList]
  exact (by decide : "Salted__".toUTF8.size = 8)

/-- **What is sent is what can be read.** For every password and salt, whoever
has the passphrase reads the password from what is sent, and only unreserved
characters and `%` are sent. -/
theorem decryptPassword_encryptPassword
    {decrypt : List UInt8 → List UInt8 → List UInt8 → Option (List UInt8)}
    (hdecrypt : ∀ key iv plain, key.length = 32 → iv.length = 16 →
      decrypt key iv (crates.encrypt key iv plain) = some plain)
    (password : String) (salt : Vector UInt8 8) :
    decryptPassword crates decrypt (encryptPassword crates password salt)
        = some (bytesOf password) ∧
      ∀ c ∈ encryptPassword crates password salt, isUnreserved c = true ∨ c = '%' := by
  refine ⟨?_, fun c hc => unreserved_percentEncode _ c hc⟩
  have hheader : saltedHeader.length = 8 := saltedHeader_length
  have hsalt : salt.toList.length = 8 := salt.length_toList
  unfold decryptPassword encryptPassword
  dsimp only
  rw [percentDecode_percentEncode, Option.bind_eq_bind, Option.bind_some, List.map_map]
  have hascii : ∀ bytes : List UInt8, (base64 bytes).map
      ((fun b : UInt8 => Char.ofNat b.toNat) ∘ Char.toUInt8) = base64 bytes := by
    intro bytes
    refine (List.map_congr_left (fun c hc => ?_)).trans (List.map_id _)
    exact ofNat_toUInt8 (base64_ascii bytes c hc)
  rw [hascii, base64Decode_base64, Option.bind_some, List.append_assoc,
    List.take_left' hheader, if_pos rfl, List.drop_left' hheader, List.take_left' hsalt]
  have hdrop : ∀ cipher : List UInt8, (saltedHeader ++ (salt.toList ++ cipher)).drop 16 = cipher := by
    intro cipher
    rw [← List.append_assoc]
    exact List.drop_left' (by rw [List.length_append, hheader, hsalt])
  rw [hdrop]
  obtain ⟨hkey, hiv⟩ := @deriveKeyIv_length crates nanokvmPassphrase salt.toList
  exact hdecrypt _ _ _ hkey hiv

/-- `admin`, encrypted with the key of the salt 1, 2, .., 8; and back. -/
def swapAdmin (text : List UInt8) : List UInt8 :=
  let cipher : List UInt8 :=
    [58, 170, 67, 107, 113, 80, 145, 50, 154, 43, 143, 54, 12, 160, 112, 100]
  if text = bytesOf "admin" then cipher
  else if text = cipher then bytesOf "admin"
  else text

theorem swapAdmin_swapAdmin (text : List UInt8) : swapAdmin (swapAdmin text) = text := by
  unfold swapAdmin
  split_ifs <;> simp_all

/-- The salt of the vector. -/
def countedSalt : Vector UInt8 8 := #v[1, 2, 3, 4, 5, 6, 7, 8]

/-- What OpenSSL makes of the passphrase and that salt, digest by digest, and of
`admin`; other texts are not encrypted. -/
def opensslCrates : Crates where
  md5 bytes :=
    let first : List UInt8 :=
      [66, 195, 254, 95, 232, 100, 238, 50, 86, 87, 100, 106, 232, 201, 211, 99]
    let second : List UInt8 :=
      [186, 11, 52, 150, 229, 168, 140, 68, 186, 108, 230, 238, 166, 201, 82, 254]
    let third : List UInt8 :=
      [17, 108, 154, 79, 59, 86, 104, 229, 241, 60, 71, 177, 116, 38, 125, 54]
    let tail := nanokvmPassphrase ++ countedSalt.toList
    if bytes = tail then first
    else if bytes = first ++ tail then second
    else if bytes = second ++ tail then third
    else List.replicate 16 0
  md5_length bytes := by
    dsimp only
    split_ifs <;> rfl
  encrypt _ _ plain := swapAdmin plain
  print _ := ""
  status _ := ""

/-- The password of a new device is read back. -/
theorem admin_read_back :
    decryptPassword opensslCrates (fun _ _ cipher => some (swapAdmin cipher))
        (encryptPassword opensslCrates "admin" countedSalt) = some (bytesOf "admin") ∧
      ∀ c ∈ encryptPassword opensslCrates "admin" countedSalt, isUnreserved c = true ∨ c = '%' :=
  @decryptPassword_encryptPassword opensslCrates (fun _ _ cipher => some (swapAdmin cipher))
    (fun _ _ plain _ _ => congrArg some (swapAdmin_swapAdmin plain)) "admin" countedSalt

end Password

/-! ## §2. Requests. -/

/-- The HTTP methods that are used. -/
inductive Method where
  | get
  | post
  deriving DecidableEq, Repr

/-- An HTTP request. -/
structure Request where
  method : Method
  url : String
  cookie : Option String := none
  body : Option Json := none

/-- An HTTP response. -/
structure Response where
  status : Nat
  /-- Its `Set-Cookie` headers that are text. -/
  setCookie : List String := []
  /-- Its body, if it is JSON. -/
  body : Option Json := none

/-- What the driver asks for outside of it. -/
inductive NanoCall where
  /-- Eight random bytes. -/
  | salt
  | send (req : Request)

/-- What the driver is answered. -/
def NanoCall.Answer : NanoCall → Type
  | .salt => Except String (Vector UInt8 8)
  | .send _ => Except String Response

/-- The driver keeps the token of its session. -/
abbrev NanoSession (α : Type) := Session (Option String) String NanoCall NanoCall.Answer α

/-- The driver, with its configuration. -/
structure NanoKvmDriver where
  base : String
  shortPressMs : UInt32 := 800
  longPressMs : UInt32 := 6000
  username : String
  password : String

/-- `DriverError::Http`. -/
def httpError (e : String) : String := "HTTP error: " ++ e

/-- `is_success` of an HTTP status: 2xx. -/
def isSuccess (status : Nat) : Bool := 200 ≤ status && status < 300

/-- The cookie that carries the session. -/
def tokenCookie : String := "nano-kvm-token"

/-- The token, from the first cookie that has one. -/
def tokenFromSetCookie (cookies : List String) : Option String :=
  cookies.findSome? (fun c =>
    match splitOnce '=' (trim (c.toList.takeWhile (· != ';'))) with
    | some (name, value) =>
      if String.ofList name = tokenCookie && !value.isEmpty then some (String.ofList value)
      else none
    | none => none)

section Driver

variable (crates : Crates) (d : NanoKvmDriver)

/-- The `{code, msg, data}` envelope; returns `data`. -/
def envelope (body : Json) (what : String) : Except String Json :=
  match asInt64 (index body "code") with
  | some 0 => .ok (index body "data")
  | some code =>
    let msg := (Lib.Json.asStr (index body "msg")).getD ""
    .error (interfaceError s!"{what}: NanoKVM returned code {code}: {msg}")
  | none => .error (interfaceError s!"{what}: unexpected response {crates.print body}")

/-- The result of something that may fail. -/
def orFail {α : Type} (f : String → String) : Except String α → NanoSession α
  | .ok a => pure a
  | .error e => throw (f e)

/-- Sends a request; fails with the connection. -/
def send (req : Request) : NanoSession Response := do
  let answer : Except String Response ← Session.ask (NanoCall.send req)
  orFail httpError answer

/-- Logs in, with a salt of its own, and returns the session token, if there is one. -/
def login : NanoSession (Option String) := do
  let random : Except String (Vector UInt8 8) ← Session.ask NanoCall.salt
  let salt ← orFail (fun e => interfaceError s!"random salt: {e}") random
  let resp ← send
    { method := .post
      url := d.base ++ "/api/auth/login"
      body := some (.obj [("username", .str d.username),
        ("password", .str (String.ofList (encryptPassword crates d.password salt)))]) }
  let _ ← orFail id (envelope crates (resp.body.getD .null) "login")
  -- with authentication disabled there is no cookie
  pure (tokenFromSetCookie resp.setCookie)

/-- The session token, from the last login if there was one and it is not to be
refreshed. -/
def token (refresh : Bool) : NanoSession (Option String) := do
  let guard ← get
  if refresh || guard.isNone then
    let fresh ← login crates d
    set fresh
    pure fresh
  else pure guard

/-- A request with the session in its cookie. -/
def request (method : Method) (path : String) (body : Option Json) (token : Option String) :
    Request where
  method := method
  url := d.base ++ path
  cookie := token.map (fun t => s!"{tokenCookie}={t}")
  body := body

/-- What an answer comes to. -/
def answered (path : String) (resp : Response) : Except String Json :=
  let value := resp.body.getD .null
  if !isSuccess resp.status then
    .error (interfaceError
      s!"{path} returned {crates.status resp.status}: {crates.print value}")
  else envelope crates value path

/-- `for attempt in ..`. -/
def callFrom (method : Method) (path : String) (body : Option Json) :
    List Nat → NanoSession Json
  | [] => throw (interfaceError s!"{path}: NanoKVM rejected the session after re-login")
  | attempt :: rest => do
    let t ← token crates d (attempt > 0)
    let resp ← send (request d method path body t)
    if resp.status == 401 && attempt == 0 then callFrom method path body rest
    else orFail id (answered crates path resp)

/-- An authenticated request, logging in again once if the session expired. -/
def call (method : Method) (path : String) (body : Option Json) : NanoSession Json :=
  callFrom crates d method path body [0, 1]

/-- Where the power LED is read and the button pressed. -/
def gpioPath : String := "/api/vm/gpio"

/-- Whether the power LED is on. -/
def isOn : NanoSession Bool := do
  let data ← call crates d .get gpioPath none
  match asBool (index data "pwr") with
  | some on => pure on
  | none => throw (interfaceError s!"unexpected gpio state: {crates.print data}")

/-- Presses the power button. -/
def press (durationMs : UInt32) : NanoSession Unit := do
  let _ ← call crates d .post gpioPath
    (some (.obj [("type", .str "power"), ("duration", .num durationMs.toNat)]))
  pure ()

/-- `power_state`: what the power LED says. -/
def powerState : NanoSession PowerState := do
  let on ← isOn crates d
  pure (if on then .on else .off)

/-- `power_on`: a short press, if the machine is off. -/
def powerOn : NanoSession Unit := do
  let on ← isOn crates d
  if on then pure () else press crates d d.shortPressMs

/-- `power_off`: a short press, or a long one to force it, if the machine is on. -/
def powerOff (force : Bool) : NanoSession Unit := do
  let on ← isOn crates d
  if !on then pure ()
  else press crates d (if force then d.longPressMs else d.shortPressMs)

/-! ## §3. What an exchange is to the machine. -/

/-- What a request to the GPIO is: a reading, if the state is told; a press, but
for one that is turned away for its session. -/
def gpioEvent (method : Method) (answer : Except String Response) : Option ButtonEvent :=
  match method, answer with
  | .get, .ok resp =>
    match answered crates gpioPath resp with
    | .ok data => (asBool (index data "pwr")).map .reading
    | .error _ => none
  | .get, .error _ => none
  | .post, .ok resp =>
    if resp.status = 401 then none else some (.pressed (answered crates gpioPath resp).isOk)
  | .post, .error _ => some (.pressed false)

/-- What an exchange is to the machine: a reading of its LED or a press of its
button. -/
def buttonEvent : Exchange NanoCall.Answer → Option ButtonEvent
  | ⟨.salt, _⟩ => none
  | ⟨.send req, answer⟩ =>
    if req.url = d.base ++ gpioPath then gpioEvent crates req.method answer else none

end Driver

/-! ## §4. Dialogues. -/

section Dialogues

variable {crates : Crates} {d : NanoKvmDriver} {s s' : Option String}
  {talk : List (Exchange NanoCall.Answer)}

/-- A failure is no dialogue. -/
theorem says_orFail {α : Type} {f : String → String} {x : Except String α} {r : Except String α}
    (h : (orFail f x).Says s talk r s') : talk = [] ∧ r = x.mapError f := by
  cases x with
  | ok a =>
    obtain ⟨rfl, rfl, -⟩ := Session.says_pure h
    exact ⟨rfl, rfl⟩
  | error e =>
    obtain ⟨rfl, rfl, -⟩ := Session.says_throw h
    exact ⟨rfl, rfl⟩

/-- A request is one exchange. -/
theorem says_send {req : Request} {r : Except String Response} (h : (send req).Says s talk r s') :
    ∃ answer, talk = [⟨.send req, answer⟩] ∧ r = answer.mapError httpError := by
  rcases Session.says_session h with ⟨e, hask, rfl⟩ | ⟨d₁, d₂, answer, t, rfl, hask, hrest⟩
  · obtain ⟨a, -, hf, -⟩ := Session.says_ask hask
    cases hf
  · obtain ⟨a, rfl, ha, -⟩ := Session.says_ask hask
    cases ha
    obtain ⟨rfl, rfl⟩ := says_orFail hrest
    exact ⟨_, rfl, rfl⟩

/-- The login is no reading and no press. -/
theorem login_url_ne : d.base ++ "/api/auth/login" ≠ d.base ++ gpioPath := by
  rw [ne_eq, String.append_right_inj]
  simp [gpioPath]

/-- A call that is nothing to the machine, whatever is answered. -/
def Aside (crates : Crates) (d : NanoKvmDriver) (c : NanoCall) : Prop :=
  ∀ answer, buttonEvent crates d ⟨c, answer⟩ = none

theorem every_orFail {α : Type} {P : NanoCall → Prop} {f : String → String}
    {x : Except String α} : Session.Every P (orFail f x) := by
  intro s
  cases x <;> exact trivial

theorem every_send {P : NanoCall → Prop} {req : Request} (h : P (.send req)) :
    Session.Every P (send req) :=
  Session.every_session (Session.every_ask h) (fun _ => every_orFail)

/-- A login is nothing to the machine. -/
theorem every_login : Session.Every (Aside crates d) (login crates d) := by
  refine Session.every_session (Session.every_ask fun _ => rfl) (fun random => ?_)
  refine Session.every_session every_orFail (fun salt => ?_)
  refine Session.every_session (every_send fun _ => if_neg login_url_ne) (fun resp => ?_)
  exact Session.every_session every_orFail (fun _ _ => trivial)

/-- Having a token is nothing to the machine. -/
theorem says_token {refresh : Bool} {r : Except String (Option String)}
    (h : (token crates d refresh).Says s talk r s') :
    talk.filterMap (buttonEvent crates d) = [] := by
  have hevery : Session.Every (Aside crates d) (token crates d refresh) := by
    refine Session.every_session (fun _ => trivial) (fun guard => ?_)
    split
    · refine Session.every_session every_login (fun fresh => ?_)
      exact Session.every_session (fun _ => trivial) (fun _ _ => trivial)
    · exact fun _ => trivial
  rw [List.filterMap_eq_nil_iff]
  intro e he
  exact Lib.says_every (hevery s) h e he e.2

/-- The one request of a call that counts. -/
def Asked (crates : Crates) (d : NanoKvmDriver) (method : Method)
    (talk : List (Exchange NanoCall.Answer)) (r : Except String Json) : Prop :=
  ∃ answer, talk.filterMap (buttonEvent crates d) = (gpioEvent crates method answer).toList ∧
    r = (answer.mapError httpError).bind (answered crates gpioPath)

/-- What a request at the power LED or the button is to the machine. -/
theorem events_request (method : Method) (body : Option Json) (t : Option String)
    (answer : Except String Response) (more : List (Exchange NanoCall.Answer)) :
    List.filterMap (buttonEvent crates d)
        (⟨.send (request d method gpioPath body t), answer⟩ :: more)
      = (gpioEvent crates method answer).toList ++ more.filterMap (buttonEvent crates d) := by
  have hevent : buttonEvent crates d ⟨.send (request d method gpioPath body t), answer⟩
      = gpioEvent crates method answer := if_pos rfl
  rw [List.filterMap_cons, hevent]
  cases gpioEvent crates method answer <;> rfl

/-- A request that is turned away for its session is nothing to the machine. -/
theorem gpioEvent_unauthorized {method : Method} {resp : Response} (h : resp.status = 401) :
    gpioEvent crates method (.ok resp) = none := by
  cases method with
  | get => simp [gpioEvent, answered, isSuccess, h]
  | post => exact if_pos h

/-- One attempt: no token, an answer that counts, or the next attempt. -/
theorem says_attempt {method : Method} {body : Option Json} {attempt : Nat} {rest : List Nat}
    {r : Except String Json}
    (h : (callFrom crates d method gpioPath body (attempt :: rest)).Says s talk r s') :
    (talk.filterMap (buttonEvent crates d) = [] ∧ ∃ e, r = .error e) ∨
      Asked crates d method talk r ∨
      ∃ t more, (callFrom crates d method gpioPath body rest).Says t more r s' ∧ attempt = 0 ∧
        talk.filterMap (buttonEvent crates d) = more.filterMap (buttonEvent crates d) := by
  -- the token first, and then the request with it
  rcases Session.says_session h with ⟨e, htoken, rfl⟩ | ⟨d₁, d₂, cookie, t, rfl, htoken, hreq⟩
  · exact Or.inl ⟨says_token htoken, e, rfl⟩
  · unfold Asked
    rw [List.filterMap_append, says_token htoken, List.nil_append]
    rcases Session.says_session hreq with ⟨e, hsend, rfl⟩ | ⟨d₃, d₄, resp, t', rfl, hsend, hrest⟩
    · obtain ⟨answer, rfl, hans⟩ := says_send hsend
      refine Or.inr (Or.inl ⟨answer, ?_, ?_⟩)
      · exact (events_request ..).trans (List.append_nil _)
      · rw [← hans]
        rfl
    · obtain ⟨answer, rfl, hans⟩ := says_send hsend
      have hok : answer = Except.ok resp := by
        cases answer with
        | ok a => cases hans; rfl
        | error e => cases hans
      subst hok
      rw [List.singleton_append, events_request]
      -- refused for its token on the first attempt, it asks once more; otherwise this is the answer
      split at hrest
      · rename_i hretry
        rw [Bool.and_eq_true, beq_iff_eq, beq_iff_eq] at hretry
        refine Or.inr (Or.inr ⟨t', d₄, hrest, hretry.2, ?_⟩)
        rw [gpioEvent_unauthorized hretry.1]
        rfl
      · obtain ⟨rfl, hr⟩ := says_orFail hrest
        refine Or.inr (Or.inl ⟨.ok resp, List.append_nil _, ?_⟩)
        rw [hr]
        show _ = answered crates gpioPath resp
        cases answered crates gpioPath resp <;> rfl

/-- **A call**: no more than one of its requests counts. -/
theorem says_call {method : Method} {body : Option Json} {r : Except String Json}
    (h : (call crates d method gpioPath body).Says s talk r s') :
    (talk.filterMap (buttonEvent crates d) = [] ∧ ∃ e, r = .error e) ∨
      Asked crates d method talk r := by
  rcases says_attempt h with hno | hasked | ⟨t, more, hnext, -, heq⟩
  · exact Or.inl hno
  · exact Or.inr hasked
  · unfold Asked
    rw [heq]
    rcases says_attempt hnext with hno | hasked | ⟨-, -, -, hf, -⟩
    · exact Or.inl hno
    · exact Or.inr hasked
    · cases hf

/-- Reading the LED: one reading, if it succeeds, and it says what was read. -/
theorem says_isOn {r : Except String Bool} (h : (isOn crates d).Says s talk r s') :
    (talk.filterMap (buttonEvent crates d) = [] ∧ ∃ e, r = .error e) ∨
      ∃ on, talk.filterMap (buttonEvent crates d) = [.reading on] ∧ r = .ok on := by
  rcases Session.says_session h with ⟨e, hcall, rfl⟩ | ⟨d₁, d₂, data, t, rfl, hcall, hrest⟩
  · rcases says_call hcall with ⟨hno, -⟩ | ⟨answer, hevents, hr⟩
    · exact Or.inl ⟨hno, e, rfl⟩
    · refine Or.inl ⟨?_, e, rfl⟩
      rw [hevents]
      cases answer with
      | error e' => rfl
      | ok resp =>
        have hr' : answered crates gpioPath resp = .error e := hr.symm
        simp [gpioEvent, hr']
  · rcases says_call hcall with ⟨-, e, hf⟩ | ⟨answer, hevents, hr⟩
    · cases hf
    · cases answer with
      | error e' => cases hr
      | ok resp =>
        have hr' : answered crates gpioPath resp = .ok data := hr.symm
        rw [List.filterMap_append, hevents]
        simp only [gpioEvent, hr']
        split at hrest
        · rename_i on hon
          obtain ⟨rfl, rfl, -⟩ := Session.says_pure hrest
          exact Or.inr ⟨on, by rw [hon]; rfl, rfl⟩
        · rename_i hno
          obtain ⟨rfl, rfl, -⟩ := Session.says_throw hrest
          exact Or.inl ⟨by rw [hno]; rfl, _, rfl⟩

/-- Pressing the button: once, and confirmed if it succeeds. -/
theorem says_press {ms : UInt32} {r : Except String Unit}
    (h : (press crates d ms).Says s talk r s') :
    (talk.filterMap (buttonEvent crates d) = [] ∧ r.isOk = false) ∨
      talk.filterMap (buttonEvent crates d) = [.pressed r.isOk] := by
  rcases Session.says_session h with ⟨e, hcall, rfl⟩ | ⟨d₁, d₂, data, t, rfl, hcall, hrest⟩
  · rcases says_call hcall with ⟨hno, -⟩ | ⟨answer, hevents, hr⟩
    · exact Or.inl ⟨hno, rfl⟩
    · rw [hevents]
      cases answer with
      | error e' => exact Or.inr rfl
      | ok resp =>
        have hr' : answered crates gpioPath resp = .error e := hr.symm
        by_cases hstatus : resp.status = 401
        · exact Or.inl ⟨by rw [gpioEvent_unauthorized hstatus]; rfl, rfl⟩
        · simp [gpioEvent, hstatus, hr', Except.isOk, Except.toBool]
  · obtain ⟨rfl, rfl, -⟩ := Session.says_pure hrest
    rcases says_call hcall with ⟨-, e, hf⟩ | ⟨answer, hevents, hr⟩
    · cases hf
    · rw [List.append_nil, hevents]
      cases answer with
      | error e' => cases hr
      | ok resp =>
        have hr' : answered crates gpioPath resp = .ok data := hr.symm
        have hstatus : resp.status ≠ 401 := by
          intro hs
          simp [answered, isSuccess, hs] at hr'
        simp [gpioEvent, hstatus, hr', Except.isOk, Except.toBool]

/-! ## §5. The operations. -/

/-- The state that is reported is the one that was read, and nothing is pressed. -/
theorem says_powerState {r : Except String PowerState}
    (h : (powerState crates d).Says s talk r s') :
    (talk.filterMap (buttonEvent crates d) = [] ∧ ∃ e, r = .error e) ∨
      ∃ on, talk.filterMap (buttonEvent crates d) = [.reading on] ∧
        r = .ok (if on then .on else .off) := by
  rcases Session.says_session h with ⟨e, hon, rfl⟩ | ⟨d₁, d₂, on, t, rfl, hon, hrest⟩
  · rcases says_isOn hon with ⟨hno, -⟩ | ⟨_, -, hf⟩
    · exact Or.inl ⟨hno, e, rfl⟩
    · cases hf
  · obtain ⟨rfl, rfl, -⟩ := Session.says_pure hrest
    rcases says_isOn hon with ⟨-, e, hf⟩ | ⟨on', hevents, hr⟩
    · cases hf
    · cases hr
      exact Or.inr ⟨on, by rw [List.append_nil, hevents], rfl⟩

/-- Reading the LED, and pressing unless the machine is at `target`. -/
theorem says_readThenPress {target : Bool} {ms : UInt32} {next : Bool → NanoSession Unit}
    (hthere : next target = pure ()) (hnot : next (!target) = press crates d ms)
    {r : Except String Unit} (h : (isOn crates d >>= next).Says s talk r s') :
    ReadThenPress target (talk.filterMap (buttonEvent crates d)) r.isOk := by
  rcases Session.says_session h with ⟨e, hon, rfl⟩ | ⟨d₁, d₂, on, t, rfl, hon, hrest⟩
  · rcases says_isOn hon with ⟨hno, -⟩ | ⟨_, -, hf⟩
    · rw [hno]
      exact .unread
    · cases hf
  · rcases says_isOn hon with ⟨-, e, hf⟩ | ⟨on', hevents, hr⟩
    · cases hf
    · cases hr
      rw [List.filterMap_append, hevents]
      by_cases hat : on = target
      · subst hat
        rw [hthere] at hrest
        obtain ⟨rfl, rfl, -⟩ := Session.says_pure hrest
        exact .there
      · have hon : on = !target := by
          cases on <;> cases target <;> simp_all
        subst hon
        rw [hnot] at hrest
        rcases says_press hrest with ⟨hno, hfailed⟩ | hpress
        · rw [hno, hfailed]
          exact .unpressed _
        · rw [hpress]
          exact .pressed _ _ id

end Dialogues

/-- What can be asked of the driver, besides the state. -/
inductive Operation where
  | on
  | off (force : Bool)
  deriving DecidableEq, Repr

/-- Whether the machine should be on then. -/
def Operation.target : Operation → Bool
  | .on => true
  | .off _ => false

/-- The driver's operation. -/
def operate (crates : Crates) (d : NanoKvmDriver) : Operation → NanoSession Unit
  | .on => powerOn crates d
  | .off force => powerOff crates d force

/-- **One press at most.** Whatever the NanoKVM answers, and whether the session
has expired or not: an operation reads the LED, and presses once if it must. -/
theorem readThenPress {crates : Crates} {d : NanoKvmDriver} {op : Operation} {s s' : Option String}
    {talk : List (Exchange NanoCall.Answer)} {r : Except String Unit}
    (h : (operate crates d op).Says s talk r s') :
    ReadThenPress op.target (talk.filterMap (buttonEvent crates d)) r.isOk := by
  cases op with
  | on => exact says_readThenPress rfl rfl h
  | off force => exact says_readThenPress rfl rfl h

/-- Operations one after another, each with the token the last one left. -/
def Tries (crates : Crates) (d : NanoKvmDriver) (op : Operation) :
    Option String → List (List (Exchange NanoCall.Answer) × Except String Unit) → Prop
  | _, [] => True
  | s, a :: rest => ∃ s', (operate crates d op).Says s a.1 a.2 s' ∧ Tries crates d op s' rest

/-- **Retrying is safe.** However often an operation is tried, with sessions that
expire and answers that are lost: at a machine that tells its state and follows
its button, if it was where it should be, or one of the operations succeeded,
it is there in the end. -/
theorem power_retries {crates : Crates} {d : NanoKvmDriver} {op : Operation} {s : Option String}
    {tries : List (List (Exchange NanoCall.Answer) × Except String Unit)}
    (h : Tries crates d op s tries) {on on' : Bool}
    (hm : Obeys on (tries.flatMap (fun a => a.1.filterMap (buttonEvent crates d))) on')
    (hon : on = op.target ∨ ∃ a ∈ tries, a.2.isOk = true) : on' = op.target := by
  have hall : ∀ a ∈ tries,
      ReadThenPress op.target (a.1.filterMap (buttonEvent crates d)) a.2.isOk := by
    clear hm hon
    induction tries generalizing s with
    | nil => exact fun a ha => by cases ha
    | cons a tries ih =>
      obtain ⟨s', hsays, hrest⟩ := h
      exact List.forall_mem_cons.mpr ⟨readThenPress hsays, ih hrest⟩
  have hflat : tries.flatMap (fun a => a.1.filterMap (buttonEvent crates d))
      = (tries.map (fun a => (a.1.filterMap (buttonEvent crates d), a.2.isOk))).flatMap (·.1) := by
    rw [List.flatMap_map]
  rw [hflat] at hm
  refine retries_reach (fun b hb => ?_) hm (hon.imp_right ?_)
  · obtain ⟨a, ha, rfl⟩ := List.mem_map.mp hb
    exact hall a ha
  · rintro ⟨a, ha, hok⟩
    exact ⟨_, List.mem_map_of_mem ha, hok⟩

/-- A NanoKVM that is asked for its state and to press, in a session that is
still good. -/
def powerOnTry (d : NanoKvmDriver) : List (Exchange NanoCall.Answer) :=
  [⟨.send (request d .get gpioPath none (some "t")),
      Except.ok { status := 200
                  body := some (.obj [("code", .num 0), ("data", .obj [("pwr", .bool false)])]) }⟩,
    ⟨.send (request d .post gpioPath
        (some (.obj [("type", .str "power"), ("duration", .num d.shortPressMs.toNat)])) (some "t")),
      Except.ok { status := 200, body := some (.obj [("code", .num 0)]) }⟩]

/-- A NanoKVM with its first password. -/
def aKvm : NanoKvmDriver := { base := "http://kvm", username := "admin", password := "admin" }

/-- The driver's run. -/
theorem powerOnTry_run : (operate opensslCrates aKvm .on).Says (some "t") (powerOnTry aKvm)
    (.ok ()) (some "t") := .call (.call (.done _))

/-- The machine, off before, reads off and comes on by the press. -/
theorem powerOnTry_obeyed :
    Obeys false ((powerOnTry aKvm).filterMap (buttonEvent opensslCrates aKvm)) true :=
  .reading (.toggled (.nil true))

/-- `power_on` reads off, presses once and succeeds, and the machine is on. -/
theorem powered_on :
    (operate opensslCrates aKvm .on).Says (some "t") (powerOnTry aKvm) (.ok ()) (some "t") ∧
    Obeys false ((powerOnTry aKvm).filterMap (buttonEvent opensslCrates aKvm)) true ∧
    true = Operation.on.target :=
  ⟨powerOnTry_run, powerOnTry_obeyed,
    @power_retries opensslCrates aKvm .on (some "t") [(powerOnTry aKvm, .ok ())]
      ⟨some "t", powerOnTry_run, trivial⟩ false true powerOnTry_obeyed
      (Or.inr ⟨_, List.mem_cons_self, rfl⟩)⟩

end HardwareAutoscaler.NanoKvm
