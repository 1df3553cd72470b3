/-
  HardwareAutoscaler.Drivers.Inband
  ─────────────────────────────────
  PODS THAT RUN COMMANDS ON A HOST (`src/drivers/inband.rs`).

  A node has one pod for host commands and one for sleep probes; they are found
  by their names, which are made of the node's name.  Node names may have dots
  and up to 253 characters, the names made of them have neither.

    • `podName`, `probePodName` — the names,
    • `cancel`, `run`, `probeSleep` — the operations, as the API calls they make,
    • `ToldApart` — names of nodes that do not become one name,
    • `shortName_ne_iff`, `shortName_valid` — what becomes of a node's name,
    • `podNames_apart_iff` — when every operation, in any interleaving, is on
      the node's own pods.
-/
import HardwareAutoscaler.Lib.Text
import HardwareAutoscaler.Lib.Calls
import HardwareAutoscaler.Drivers.Chain
import HardwareAutoscaler.Controller.Machine.Effects

namespace HardwareAutoscaler.Inband

open Lib (Calls Every Running Move Made)

/-! ## §1. The names. -/

/-- `stem` and the node's name with dashes for its dots, cut to 63 characters
and without dashes at the end. Node names are ASCII: `truncate` counts bytes. -/
def shortName (stem node : String) : String :=
  let name := stem.toList ++ node.toList.map (fun c => if c = '.' then '-' else c)
  String.ofList ((name.take 63).rdropWhile (· == '-'))

/-- Name of the (single) host command pod of a node. -/
def podName (node : String) : String := shortName "kha-shutdown-" node

/-- The name of the probe pod of a node. -/
def probePodName (node : String) : String := shortName "kha-probe-" node

/-! ## §2. The pods. -/

/-- What the host is asked to do. -/
inductive Command where
  | powerOff
  | sleep (cmd : HostCommand)
  deriving DecidableEq, Repr

/-- The command as a shell reads it. -/
def Command.shell : Command → String
  | .powerOff => "systemctl poweroff || poweroff"
  | .sleep .suspend => "systemctl suspend || echo mem > /sys/power/state"
  | .sleep .suspendS3 =>
    "echo deep > /sys/power/mem_sleep && (systemctl suspend || echo mem > /sys/power/state)"

/-- A suspend pod that has not run this many seconds after being requested
does nothing. -/
def suspendDeadlineSecs : Int := 120

/-- How a container ended. -/
structure Terminated where
  exitCode : Int
  message : Option String := none
  deriving DecidableEq, Repr

/-- What is read of a pod's status. -/
structure PodStatus where
  phase : Option String := none
  message : Option String := none
  /-- `state.terminated` of each container. -/
  containerStatuses : List (Option Terminated) := []
  deriving DecidableEq, Repr

/-- A pod of the operator: `metadata`, `spec` and `status` flattened. -/
structure HostPod where
  name : String
  component : String
  nodeName : String
  image : String
  env : List (String × String) := []
  status : PodStatus := {}
  deriving DecidableEq, Repr

/-- The pods of the operator's namespace by their names. -/
abbrev Pods := String → Option HostPod

/-! ## §3. The API. -/

/-- `kube::Error`. -/
inductive KubeError where
  | api (code : Nat) (message : String)
  | other (message : String)
  deriving DecidableEq, Repr

/-- The text of an error. -/
def KubeError.text : KubeError → String
  | .api _ message => message
  | .other message => message

/-- What is asked of the API. -/
inductive ApiCall where
  | getNode (name : String)
  | getPod (name : String)
  | createPod (pod : HostPod)
  | deletePod (name : String)

/-- What the API answers. -/
abbrev Answer : ApiCall → Type
  | .getNode _ => Except KubeError (Option Node)
  | .getPod _ => Except KubeError (Option HostPod)
  | .createPod _ => Except KubeError Unit
  | .deletePod _ => Except KubeError Unit

/-- What of an answer is not up to the pods. -/
structure Reply where
  node : Option Node := none
  error : Option KubeError := none
  /-- Whether a write that fails is made nevertheless. -/
  made : Bool := false

/-- The answer to a call, and the pods after it. A name is given once. -/
def exec (c : ApiCall) (pods : Pods) (w : Reply) : Answer c × Pods :=
  match c with
  | .getNode _ => (match w.error with | some e => .error e | none => .ok w.node, pods)
  | .getPod name => (match w.error with | some e => .error e | none => .ok (pods name), pods)
  | .createPod pod =>
    let created := Function.update pods pod.name (some pod)
    match pods pod.name, w.error with
    | some _, _ => (.error (.api 409 "AlreadyExists"), pods)
    | none, none => (.ok (), created)
    -- a call that failed may have been carried out all the same
    | none, some e => (.error e, if w.made then created else pods)
  | .deletePod name =>
    let deleted := Function.update pods name none
    match pods name, w.error with
    | none, none => (.error (.api 404 "NotFound"), pods)
    | some _, none => (.ok (), deleted)
    | _, some e => (.error e, if w.made then deleted else pods)

/-- An asynchronous function that may fail with the text of a `DriverError`. -/
abbrev Async := ExceptT String (Calls ApiCall Answer)

/-- `DriverError::Kube`. -/
def kubeError (e : KubeError) : String := "kubernetes API error: " ++ e.text

/-- What is answered to `c`, as it is. -/
def ask (c : ApiCall) : Async (Answer c) := (.call c (fun r => .done (.ok r)) : Calls _ _ _)

/-- `?` on what the API answers. -/
def orKube {α : Type} (r : Except KubeError α) : Async α :=
  match r with
  | .ok a => pure a
  | .error e => throw (kubeError e)

/-! ## §4. The operations. -/

/-- A pod that is not there counts as deleted. -/
def deletePod (name : String) : Async Unit := do
  match ← ask (.deletePod name) with
  | .error (.api 404 _) => pure ()
  | r => orKube r

/-- Deletes the node's host command pod, if any. -/
def cancel (node : String) : Async Unit := deletePod (podName node)

/-- The pod that runs `cmd`, at `now` in seconds. -/
def commandPod (node image bootId : String) (cmd : Command) (now : Int) : HostPod :=
  let (action, notAfter) := match cmd with
    | .powerOff => ("poweroff", "")
    | .sleep _ => ("suspend", toString (now + suspendDeadlineSecs))
  { name := podName node, component := "shutdown", nodeName := node, image := image
    env := [("EXPECTED_BOOT_ID", bootId), ("NOT_AFTER", notAfter), ("ACTION", action),
      ("HOST_COMMAND", cmd.shell)] }

/-- Replaces any earlier host command pod of the node with one running `cmd`. -/
def run (node image : String) (cmd : Command) (now : Int) : Async Unit := do
  match ← orKube (← ask (.getNode node)) with
  | none => throw (interfaceError s!"node {node} not found")
  | some n =>
    let bootId := (n.nodeInfo.map (·.bootId)).getD ""
    cancel node
    orKube (← ask (.createPod (commandPod node image bootId cmd now)))

/-- `str::lines`; a carriage return before a newline is trimmed with the rest. -/
def lines (s : List Char) : List (List Char) :=
  let pieces := s.splitOn '\n'
  if pieces.getLast? = some [] then pieces.dropLast else pieces

/-- `parse_probe`: the boot id and the sleep modes, from a probe's output. -/
def parseProbe (output : String) : Option (String × String) :=
  match lines output.toList with
  | [] => none
  | first :: rest =>
    let bootId := trim first
    if bootId.isEmpty then none
    else some (String.ofList bootId, String.ofList (trim (rest.headD [])))

example : parseProbe "abc-123\ns2idle [deep]\n" = some ("abc-123", "s2idle [deep]")
    ∧ parseProbe "abc-123\n" = some ("abc-123", "") ∧ parseProbe "" = none := by decide +kernel

/-- What the status of a probe pod says; pending while its container runs. -/
def probeResult (status : PodStatus) : Probe :=
  match status.containerStatuses.findSome? id, status.phase with
  | some t, _ =>
    if t.exitCode = 0 then
      match parseProbe (t.message.getD "") with
      | some (bootId, memSleep) => .done bootId memSleep
      | none => .failed "sleep probe reported nothing"
    else .failed s!"sleep probe exited with {t.exitCode}"
  | none, phase =>
    if phase = some "Failed" then .failed (status.message.getD "sleep probe pod failed")
    else .pending

/-- The pod that probes a node. -/
def probePod (node image : String) : HostPod :=
  { name := probePodName node, component := "sleep-probe", nodeName := node, image := image }

/-- Reports which sleep modes the host's kernel offers: the first call starts a
pod, a later one collects its result and removes it. -/
def probeSleep (node image : String) : Async Probe := do
  match ← orKube (← ask (.getPod (probePodName node))) with
  | none =>
    orKube (← ask (.createPod (probePod node image)))
    pure .pending
  | some pod =>
    let result := probeResult pod.status
    if result = .pending then pure .pending
    else
      deletePod (probePodName node)
      pure result

/-! ## §5. Runs. -/

/-- The operations on a node's pods. -/
inductive Operation where
  | cancel (node : String)
  | run (node image : String) (cmd : Command) (now : Int)
  | probeSleep (node image : String)
  deriving DecidableEq, Repr

/-- The node an operation is for. -/
def Operation.node : Operation → String
  | .cancel node => node
  | .run node _ _ _ => node
  | .probeSleep node _ => node

/-- The calls an operation makes. -/
def Operation.calls : Operation → Calls ApiCall Answer Unit
  | .cancel node => (Inband.cancel node).run >>= fun _ => pure ()
  | .run node image cmd now => (Inband.run node image cmd now).run >>= fun _ => pure ()
  | .probeSleep node image => (Inband.probeSleep node image).run >>= fun _ => pure ()

/-- What befalls a pod without an operation. -/
inductive Outside where
  /-- The kubelet reports its status. -/
  | report (name : String) (status : PodStatus)
  | removed (name : String)

/-- What others do to the pods. -/
def Outside.apply (pods : Pods) : Outside → Pods
  | .report name status =>
    Function.update pods name ((pods name).map (fun pod => { pod with status := status }))
  | .removed name => Function.update pods name none

/-- The calls made when operations run side by side, in a namespace without pods. -/
def callsMade (ms : List (Move Operation Outside Reply)) : List (Made Operation ApiCall Pods) :=
  (Running.run Operation.calls exec Outside.apply { state := fun _ => none } ms).2

/-- The pod that a call reads or deletes. -/
def accessed (made : Made Operation ApiCall Pods) : Option HostPod :=
  match made.call with
  | .getPod name => made.state name
  | .deletePod name => made.state name
  | _ => none

/-! ## §6. Which names become one. -/

/-- The letter or digit at a place; dots, dashes and what is past the end are none. -/
def letterAt (s : String) (i : Nat) : Option Char :=
  (s.toList[i]?).filter (fun c => c != '.' && c != '-')

/-- **Told apart**: within `n` characters, one has a letter or digit where the
other has not the same. -/
def ToldApart (n : Nat) (a b : String) : Prop := ∃ i < n, letterAt a i ≠ letterAt b i

instance (n : Nat) (a b : String) : Decidable (ToldApart n a b) :=
  inferInstanceAs (Decidable (∃ i < n, letterAt a i ≠ letterAt b i))

/-- Names told apart early are told apart. -/
theorem ToldApart.mono {n m : Nat} {a b : String} (hnm : n ≤ m) (h : ToldApart n a b) :
    ToldApart m a b := by
  obtain ⟨i, hi, hne⟩ := h
  exact ⟨i, Nat.lt_of_lt_of_le hi hnm, hne⟩

section Names

variable {stem a b : String}

/-- Dots become dashes, and dashes are as good as nothing at the end. -/
theorem filter_map_dash (o : Option Char) :
    (o.map (fun c => if c = '.' then '-' else c)).filter (· != '-')
      = o.filter (fun c => c != '.' && c != '-') := by
  cases o with
  | none => rfl
  | some c =>
    rw [Option.map_some]
    by_cases hc : c = '.'
    · rw [if_pos hc, hc]
      rfl
    · rw [if_neg hc]
      by_cases hd : c = '-'
      · rw [hd]
        rfl
      · rw [Option.filter_some_pos (by simpa using hd), Option.filter_some_pos (by simp [hc, hd])]

/-- A place of the name that is made, after the stem. -/
theorem letterAt_shortName (hstem : stem.toList.length ≤ 63) (node : String) (i : Nat) :
    (((stem.toList ++ node.toList.map (fun c => if c = '.' then '-' else c)).take 63)[
        stem.toList.length + i]?).filter (· != '-')
      = if i < 63 - stem.toList.length then letterAt node i else none := by
  rw [List.getElem?_take]
  split
  · rename_i hi
    rw [if_pos (show i < 63 - stem.toList.length by omega),
      List.getElem?_append_right (Nat.le_add_right _ _), Nat.add_sub_cancel_left,
      List.getElem?_map, filter_map_dash]
    rfl
  · rename_i hi
    rw [if_neg (show ¬ i < 63 - stem.toList.length by omega)]
    rfl

/-- **When two short names are equal**: letter by letter, as far as they go. -/
theorem shortName_eq_iff (hstem : stem.toList.length ≤ 63) :
    shortName stem a = shortName stem b ↔
      ∀ i < 63 - stem.toList.length, letterAt a i = letterAt b i := by
  have hlists : shortName stem a = shortName stem b ↔ _ = _ := String.ofList_inj
  rw [hlists, Lib.rdropWhile_eq_iff]
  constructor
  · intro h i hi
    have hplace := h (stem.toList.length + i)
    rwa [letterAt_shortName hstem, letterAt_shortName hstem, if_pos hi, if_pos hi] at hplace
  · intro h i
    rcases Nat.lt_or_ge i stem.toList.length with hi | hi
    · -- the stem is the same
      rw [List.getElem?_take, List.getElem?_take, List.getElem?_append_left hi,
        List.getElem?_append_left hi]
    · obtain ⟨j, rfl⟩ := Nat.exists_eq_add_of_le hi
      rw [letterAt_shortName hstem, letterAt_shortName hstem]
      by_cases hj : j < 63 - stem.toList.length
      · rw [if_pos hj, if_pos hj, h j hj]
      · rw [if_neg hj, if_neg hj]

/-- **Two nodes' names stay different** exactly if they are told apart by what
is left of 63 characters. -/
theorem shortName_ne_iff (hstem : stem.toList.length ≤ 63) :
    shortName stem a ≠ shortName stem b ↔ ToldApart (63 - stem.toList.length) a b := by
  rw [ne_eq, shortName_eq_iff hstem, not_forall]
  exact exists_congr (fun i => Classical.not_imp)

/-- Pod names are told apart by the first 50 letters. -/
theorem podName_ne_iff : podName a ≠ podName b ↔ ToldApart 50 a b :=
  shortName_ne_iff (by decide)

/-- Probe pod names are told apart by the first 53 letters. -/
theorem probePodName_ne_iff : probePodName a ≠ probePodName b ↔ ToldApart 53 a b :=
  shortName_ne_iff (by decide)

/-- What of the stem is kept. -/
theorem shortName_stem (node : String) {t u : List Char} {c : Char} {i : Nat}
    (hstem : stem.toList = t ++ c :: u) (hlen : t.length = i) (hi : i < 63) (hc : c ≠ '-') :
    (shortName stem node).toList[i]? = some c := by
  have hplace := Lib.getElem?_rdropWhile (· == '-') ((stem.toList ++
    node.toList.map (fun c => if c = '.' then '-' else c)).take 63) i
  have hget : ((stem.toList ++ node.toList.map (fun c => if c = '.' then '-' else c)).take
      63)[i]? = some c := by
    rw [List.getElem?_take, if_pos hi, hstem, List.append_assoc, ← hlen,
      List.getElem?_append_right (Nat.le_refl _), Nat.sub_self]
    rfl
  rw [hget, Option.filter_some_pos (by simpa using hc)] at hplace
  unfold shortName
  rw [String.toList_ofList]
  exact (Option.filter_eq_some_iff.mp hplace).1

/-- The two kinds of names differ. -/
theorem podName_ne_probePodName : podName a ≠ probePodName b := by
  intro heq
  have hpod := shortName_stem a (show "kha-shutdown-".toList = "kha-".toList ++ 's' ::
    "hutdown-".toList from rfl) rfl (by decide) (by decide)
  have hprobe := shortName_stem b (show "kha-probe-".toList = "kha-".toList ++ 'p' ::
    "robe-".toList from rfl) rfl (by decide) (by decide)
  rw [show shortName "kha-shutdown-" a = shortName "kha-probe-" b from heq, hprobe] at hpod
  cases hpod

end Names

/-! ## §7. Names that are valid. -/

/-- ASCII lower case or digit. -/
def lowerAlnum (c : Char) : Bool := c.isLower || c.isDigit

/-- A part of a DNS name: dashes only inside. -/
def DnsLabel (l : List Char) : Prop :=
  l ≠ [] ∧ l.all (fun c => lowerAlnum c || c == '-') = true ∧ l.head?.all lowerAlnum = true ∧
    l.getLast?.all lowerAlnum = true

instance (l : List Char) : Decidable (DnsLabel l) :=
  inferInstanceAs (Decidable (_ ∧ _ ∧ _ ∧ _))

/-- A label, by its letters and its ends. -/
theorem dnsLabel_iff {l : List Char} : DnsLabel l ↔ l ≠ [] ∧
    (∀ c ∈ l, lowerAlnum c = true ∨ c = '-') ∧ (∀ c ∈ l.head?, lowerAlnum c = true) ∧
      ∀ c ∈ l.getLast?, lowerAlnum c = true := by
  simp only [DnsLabel, List.all_eq_true, Bool.or_eq_true, beq_iff_eq, Option.all_eq_true,
    Option.mem_def]

/-- **A valid name** of a Node or a Pod: a DNS subdomain. -/
def DnsSubdomain (s : String) : Prop :=
  s.toList.length ≤ 253 ∧ ∀ l ∈ s.toList.splitOn '.', DnsLabel l

instance (s : String) : Decidable (DnsSubdomain s) := inferInstanceAs (Decidable (_ ∧ _))

/-- A valid pod name that is a host name too, and ends in a letter or digit. -/
def ShortPodName (s : String) : Prop :=
  DnsSubdomain s ∧ s.toList.length ≤ 63 ∧ ∃ c, s.toList.getLast? = some c ∧ lowerAlnum c = true

section Valid

/-- The characters of a valid name. -/
theorem DnsSubdomain.chars {s : String} (h : DnsSubdomain s) :
    ∀ c ∈ s.toList, lowerAlnum c = true ∨ c = '-' ∨ c = '.' := by
  obtain ⟨ls, hgroups⟩ : ∃ ls, Lib.Groups (· == '.') (fun l (_ : List Char) => DnsLabel l)
      s.toList ls :=
    ⟨_, Lib.groups_iff.mpr (List.forall₂_same.mpr (fun l hl => h.2 l hl))⟩
  clear h
  generalize s.toList = t at hgroups
  induction hgroups with
  | last hlabel _ => exact fun c hc => ((dnsLabel_iff.mp hlabel).2.1 c hc).imp_right Or.inl
  | cons hlabel _ hx _ ih =>
    intro c hc
    rcases List.mem_append.mp hc with hc | hc
    · exact ((dnsLabel_iff.mp hlabel).2.1 c hc).imp_right Or.inl
    · rcases List.mem_cons.mp hc with rfl | hc
      · exact Or.inr (Or.inr (eq_of_beq hx))
      · exact ih c hc

/-- A single part is a valid name. -/
theorem DnsSubdomain.of_label {s : String} (h : DnsLabel s.toList) (hlen : s.toList.length ≤ 253) :
    DnsSubdomain s := by
  have hdots : ∀ c ∈ s.toList, (c == '.') = false := by
    intro c hc
    refine beq_false_of_ne (fun he => ?_)
    rcases (dnsLabel_iff.mp h).2.1 c hc with h | h
    · rw [he] at h
      cases h
    · rw [he] at h
      cases h
  refine ⟨hlen, ?_⟩
  show ∀ l ∈ s.toList.splitOnP (· == '.'), DnsLabel l
  rw [List.splitOnP_eq_singleton hdots]
  exact List.forall_mem_singleton.mpr h

variable {stem node : String}

/-- A short name has 63 letters at most. -/
theorem shortName_length : (shortName stem node).toList.length ≤ 63 := by
  unfold shortName
  rw [String.toList_ofList]
  exact Nat.le_trans (List.rdropWhile_prefix _ _).length_le (List.length_take_le 63 _)

/-- A short name has the letters of a label. -/
theorem shortName_chars (hstem : stem.toList.all (fun c => lowerAlnum c || c == '-') = true)
    (hnode : DnsSubdomain node) :
    ∀ c ∈ (shortName stem node).toList, lowerAlnum c = true ∨ c = '-' := by
  intro c hc
  unfold shortName at hc
  rw [String.toList_ofList] at hc
  have hmem := List.mem_of_mem_take ((List.rdropWhile_prefix _ _).subset hc)
  rcases List.mem_append.mp hmem with h | h
  · exact (Bool.or_eq_true _ _ ▸ List.all_eq_true.mp hstem c h).imp_right eq_of_beq
  · obtain ⟨d, hd, rfl⟩ := List.mem_map.mp h
    split
    · exact Or.inr rfl
    · rename_i hdot
      exact (hnode.chars d hd).imp_right (fun h => h.resolve_right hdot)

/-- A short name does not end in a dash. -/
theorem shortName_getLast : ∀ c ∈ (shortName stem node).toList.getLast?, c ≠ '-' := by
  intro c hc
  unfold shortName at hc
  rw [String.toList_ofList] at hc
  exact ne_of_beq_false (Lib.rdropWhile_getLast (· == '-') _ c hc)

/-- **What is made of a valid name is valid.** -/
theorem shortName_valid {k : Char} {stem' : List Char} (hk : stem.toList = k :: stem')
    (hkalnum : lowerAlnum k = true)
    (hstem : stem.toList.all (fun c => lowerAlnum c || c == '-') = true)
    (hnode : DnsSubdomain node) : ShortPodName (shortName stem node) := by
  have hkdash : k ≠ '-' := by
    rintro rfl
    cases hkalnum
  have hhead : (shortName stem node).toList.head? = some k := by
    rw [List.head?_eq_getElem?]
    exact shortName_stem node (show stem.toList = [] ++ k :: stem' from hk) rfl (by decide) hkdash
  have hne : (shortName stem node).toList ≠ [] := by
    intro he
    rw [he] at hhead
    cases hhead
  have hchars := shortName_chars hstem hnode
  have hlast : ∀ c ∈ (shortName stem node).toList.getLast?, lowerAlnum c = true := fun c hc =>
    (hchars c (List.mem_of_getLast? hc)).resolve_right (shortName_getLast c hc)
  have hlabel : DnsLabel (shortName stem node).toList := by
    refine dnsLabel_iff.mpr ⟨hne, hchars, fun c hc => ?_, hlast⟩
    cases hhead.symm.trans hc
    exact hkalnum
  exact ⟨.of_label hlabel (Nat.le_trans shortName_length (by decide)), shortName_length,
    _, List.getLast?_eq_some_getLast hne, hlast _ (List.getLast?_eq_some_getLast hne)⟩

end Valid

/-! ## §8. Operations on a node's own pods. -/

/-- The names of a node's pods. -/
def OwnName (node name : String) : Prop := name = podName node ∨ name = probePodName node

/-- Every call is about a pod of the node. -/
def OwnCall (node : String) : ApiCall → Prop
  | .getNode _ => True
  | .getPod name => OwnName node name
  | .createPod pod => pod.nodeName = node ∧ OwnName node pod.name
  | .deletePod name => OwnName node name

section Calls

variable {node image name : String}

theorem every_ask {P : ApiCall → Prop} {c : ApiCall} (h : P c) : Every P (ask c).run :=
  ⟨h, fun _ => trivial⟩

theorem every_orKube {α : Type} {P : ApiCall → Prop} (r : Except KubeError α) :
    Every P (orKube r).run := by
  cases r with
  | ok a => exact Lib.every_pure a
  | error e => exact Lib.every_throw _

/-- Deleting asks for the pod named alone. -/
theorem every_deletePod (h : OwnName node name) : Every (OwnCall node) (deletePod name).run := by
  unfold deletePod
  refine Lib.every_bind_except (every_ask h) (fun r => ?_)
  split
  · exact Lib.every_pure ()
  · exact every_orKube _

/-- Cancelling asks for the pods of its node alone. -/
theorem every_cancel : Every (OwnCall node) (cancel node).run := every_deletePod (Or.inl rfl)

/-- Running asks for the pods of its node alone. -/
theorem every_run (cmd : Command) (now : Int) :
    Every (OwnCall node) (run node image cmd now).run := by
  unfold run
  refine Lib.every_bind_except (every_ask trivial) (fun r => ?_)
  refine Lib.every_bind_except (every_orKube r) (fun n => ?_)
  split
  · exact Lib.every_throw _
  · refine Lib.every_bind_except every_cancel (fun _ => ?_)
    refine Lib.every_bind_except (every_ask ⟨rfl, Or.inl rfl⟩) (fun r => ?_)
    exact every_orKube r

/-- Probing asks for the pods of its node alone. -/
theorem every_probeSleep : Every (OwnCall node) (probeSleep node image).run := by
  have hown : OwnName node (probePodName node) := Or.inr rfl
  unfold probeSleep
  refine Lib.every_bind_except (every_ask hown) (fun r => ?_)
  refine Lib.every_bind_except (every_orKube r) (fun pod => ?_)
  split
  · refine Lib.every_bind_except (every_ask ⟨rfl, hown⟩) (fun r => ?_)
    exact Lib.every_bind_except (every_orKube r) (fun _ => Lib.every_pure _)
  · dsimp only
    split
    · exact Lib.every_pure _
    · exact Lib.every_bind_except (every_deletePod hown) (fun _ => Lib.every_pure _)

/-- **Every operation is about the pods of its node**, by their names. -/
theorem every_calls (o : Operation) : Every (OwnCall o.node) o.calls := by
  cases o with
  | cancel node => exact Lib.every_bind every_cancel (fun _ => trivial)
  | run node image cmd now => exact Lib.every_bind (every_run cmd now) (fun _ => trivial)
  | probeSleep node image => exact Lib.every_bind every_probeSleep (fun _ => trivial)

end Calls

/-! ## §9. The pods of a run. -/

/-- Every pod is of one of the nodes, and has a name of its own node's. -/
def PodsNamed (nodes : String → Prop) (pods : Pods) : Prop :=
  ∀ name pod, pods name = some pod → nodes pod.nodeName ∧ OwnName pod.nodeName name

/-- **Own pods**: whatever operations for these nodes run side by side, and
whatever the API answers, none reads or deletes a pod of another node. -/
def OwnPods (nodes : String → Prop) : Prop :=
  ∀ ms, (∀ o, .start o ∈ ms → nodes o.node) →
    ∀ made ∈ callsMade ms, ∀ pod, accessed made = some pod → pod.nodeName = made.op.node

section Pods

-- from here on only what is known of the names counts
attribute [local irreducible] podName probePodName

variable {nodes : String → Prop} {pods : Pods}

/-- A pod written under its own name. -/
theorem PodsNamed.update (h : PodsNamed nodes pods) {name : String} {pod? : Option HostPod}
    (hpod : ∀ pod, pod? = some pod → nodes pod.nodeName ∧ OwnName pod.nodeName name) :
    PodsNamed nodes (Function.update pods name pod?) := by
  intro name' pod hget
  by_cases hname : name' = name
  · rw [hname, Function.update_self] at hget
    exact hname ▸ hpod pod hget
  · rw [Function.update_of_ne hname] at hget
    exact h name' pod hget

/-- A pod deleted. -/
theorem PodsNamed.delete (h : PodsNamed nodes pods) (name : String) :
    PodsNamed nodes (Function.update pods name none) :=
  h.update (fun _ hpod => by cases hpod)

/-- A call about a node's pods keeps the names. -/
theorem exec_named (node : String) (c : ApiCall) (w : Reply) (hnode : nodes node)
    (h : PodsNamed nodes pods) (hc : OwnCall node c) : PodsNamed nodes (exec c pods w).2 := by
  cases c with
  | getNode name => exact h
  | getPod name => exact h
  | createPod pod =>
    have hcreated : PodsNamed nodes (Function.update pods pod.name (some pod)) := by
      refine h.update (fun pod' hpod => ?_)
      cases hpod
      exact hc.1.symm ▸ ⟨hnode, hc.2⟩
    unfold exec
    dsimp only
    split
    · exact h
    · exact hcreated
    · dsimp only
      split
      · exact hcreated
      · exact h
  | deletePod name =>
    have hdeleted := h.delete name
    unfold exec
    dsimp only
    split
    · exact h
    · exact hdeleted
    · dsimp only
      split
      · exact hdeleted
      · exact h

/-- What befalls a pod keeps the names. -/
theorem outside_named (e : Outside) (h : PodsNamed nodes pods) :
    PodsNamed nodes (e.apply pods) := by
  cases e with
  | removed name => exact h.delete name
  | report name status =>
    refine h.update (fun pod hpod => ?_)
    obtain ⟨pod', hget, rfl⟩ := Option.map_eq_some_iff.mp hpod
    exact h name pod' hget

/-- Nodes that are told apart share no pod's name. -/
theorem OwnName.unique {a b name : String} (hapart : a ≠ b → ToldApart 50 a b)
    (ha : OwnName a name) (hb : OwnName b name) : a = b := by
  by_contra hne
  have hpod := podName_ne_iff.mpr (hapart hne)
  have hprobe := probePodName_ne_iff.mpr ((hapart hne).mono (by omega))
  rcases ha with ha | ha <;> rcases hb with hb | hb
  · exact hpod (ha.symm.trans hb)
  · exact podName_ne_probePodName (ha.symm.trans hb)
  · exact podName_ne_probePodName (hb.symm.trans ha)
  · exact hprobe (ha.symm.trans hb)

/-- The pod that a call about a node's pods gets hold of. -/
theorem accessed_name {made : Made Operation ApiCall Pods} {node : String} {pod : HostPod}
    (hcall : OwnCall node made.call) (h : accessed made = some pod) :
    ∃ name, made.state name = some pod ∧ OwnName node name := by
  obtain ⟨op, call, state⟩ := made
  cases call with
  | getNode name => cases h
  | createPod pod => cases h
  | getPod name => exact ⟨name, h, hcall⟩
  | deletePod name => exact ⟨name, h, hcall⟩

/-- The calls of operations for these nodes, side by side. -/
theorem callsMade_named {ms : List (Move Operation Outside Reply)}
    (hms : ∀ o, .start o ∈ ms → nodes o.node) :
    ∀ made ∈ callsMade ms, (nodes made.op.node ∧ OwnCall made.op.node made.call) ∧
      PodsNamed nodes made.state := by
  have hempty : PodsNamed nodes (fun _ => none) := fun name pod hget => by cases hget
  have hprog : ∀ o, .start o ∈ ms → Every (fun c => nodes o.node ∧ OwnCall o.node c) o.calls :=
    fun o ho => (every_calls o).imp (fun c hc => ⟨hms o ho, hc⟩)
  have hexec : ∀ (o : Operation) (c : ApiCall) (st : Pods) (w : Reply), PodsNamed nodes st →
      nodes o.node ∧ OwnCall o.node c → PodsNamed nodes (exec c st w).2 :=
    fun o c st w hst hc => exec_named o.node c w hc.1 hst hc.2
  have hout : ∀ (st : Pods) (e : Outside), PodsNamed nodes st → PodsNamed nodes (e.apply st) :=
    fun st e hst => outside_named e hst
  have hkeep := Lib.run_keeps hexec hout ms { state := fun _ => none } hprog
    ⟨hempty, fun t ht => by cases ht⟩
  exact hkeep

/-- Nodes told apart have pods of their own. -/
theorem ownPods_of_apart (h : ∀ a b, nodes a → nodes b → a ≠ b → ToldApart 50 a b) :
    OwnPods nodes := by
  intro ms hms made hmade pod hpod
  obtain ⟨⟨hnode, hcall⟩, hnamed⟩ := callsMade_named hms made hmade
  obtain ⟨name, hget, hname⟩ := accessed_name hcall hpod
  obtain ⟨hnode', hname'⟩ := hnamed name pod hget
  exact OwnName.unique (h _ _ hnode' hnode) hname' hname

/-- A command is cancelled while another host is told to power off. -/
def cancelBeside (a b : String) : List (Move Operation Outside Reply) :=
  [.start (.cancel b), .start (.run a "" .powerOff 0), .next 1 { node := some { name := a } },
    .next 1 {}, .next 1 {}, .next 0 {}]

/-- The pod of the one is deleted for the other when they share its name. -/
theorem shared_pod_deleted {a b : String} (h : podName a = podName b) :
    ∃ made ∈ callsMade (cancelBeside a b), ∃ pod, accessed made = some pod ∧
      pod.nodeName = a ∧ made.op.node = b := by
  let pod := commandPod a "" "" .powerOff 0
  let made : Made Operation ApiCall Pods :=
    ⟨.cancel b, .deletePod (podName b), (exec (.createPod pod) (fun _ => none) {}).2⟩
  have hcalls : callsMade (cancelBeside a b) =
      [⟨.run a "" .powerOff 0, .getNode a, fun _ => none⟩,
        ⟨.run a "" .powerOff 0, .deletePod (podName a), fun _ => none⟩,
        ⟨.run a "" .powerOff 0, .createPod pod, fun _ => none⟩, made] := rfl
  have hpod : Function.update (fun _ => none) (podName a) (some pod) (podName b) = some pod := by
    rw [h, Function.update_self]
  rw [hcalls]
  exact ⟨made, .tail _ (.tail _ (.tail _ (.head _))), pod, hpod, rfl, rfl⟩

/-- **When nodes have pods of their own.** -/
theorem ownPods_iff : OwnPods nodes ↔ ∀ a b, nodes a → nodes b → a ≠ b → ToldApart 50 a b := by
  refine ⟨fun h a b ha hb hne => ?_, ownPods_of_apart⟩
  rw [← podName_ne_iff]
  intro heq
  obtain ⟨made, hmade, pod, hpod, rfl, rfl⟩ := shared_pod_deleted heq
  refine hne (h _ (fun o ho => ?_) made hmade pod hpod)
  simp only [cancelBeside, List.mem_cons, Move.start.injEq, reduceCtorEq, or_false, List.not_mem_nil]
    at ho
  rcases ho with rfl | rfl
  · exact hb
  · exact ha

end Pods

/-- **Names of pods.** Valid names of nodes give valid names of pods. The names
of different nodes' pods differ, and in any interleaving every operation is on
its own node's pods, exactly if the nodes are told apart by 50 characters. -/
theorem podNames_apart_iff (nodes : String → Prop) (hvalid : ∀ n, nodes n → DnsSubdomain n) :
    (∀ n, nodes n → ShortPodName (podName n) ∧ ShortPodName (probePodName n)) ∧
      ((∀ a b, nodes a → nodes b → a ≠ b →
          podName a ≠ podName b ∧ probePodName a ≠ probePodName b) ∧ OwnPods nodes ↔
        ∀ a b, nodes a → nodes b → a ≠ b → ToldApart 50 a b) := by
  refine ⟨fun n hn => ⟨?_, ?_⟩, ⟨fun h => ownPods_iff.mp h.2, fun h => ⟨?_, ownPods_iff.mpr h⟩⟩⟩
  · exact shortName_valid (show _ = 'k' :: "ha-shutdown-".toList from rfl) (by decide) (by decide)
      (hvalid n hn)
  · exact shortName_valid (show _ = 'k' :: "ha-probe-".toList from rfl) (by decide) (by decide)
      (hvalid n hn)
  · intro a b ha hb hne
    have hapart := h a b ha hb hne
    exact ⟨podName_ne_iff.mpr hapart, probePodName_ne_iff.mpr (hapart.mono (by omega))⟩

/-- Two machines whose names are told apart. -/
theorem apart_ownPods : OwnPods (· ∈ ["node-1", "n2.example.org"]) := by
  refine ((podNames_apart_iff _ ?_).2.mpr ?_).2
  · show ∀ n ∈ ["node-1", "n2.example.org"], DnsSubdomain n
    decide +kernel
  · have hapart : ∀ a ∈ ["node-1", "n2.example.org"], ∀ b ∈ ["node-1", "n2.example.org"],
        a ≠ b → ToldApart 50 a b := by decide +kernel
    exact fun a b ha hb hne => hapart a ha b hb hne

/-- Names that differ in punctuation, or past the 50th character, are one. -/
theorem names_collide :
    (DnsSubdomain "a.b" ∧ DnsSubdomain "a-b" ∧ podName "a.b" = podName "a-b" ∧
        probePodName "a.b" = probePodName "a-b" ∧ ¬ OwnPods (· ∈ ["a.b", "a-b"])) ∧
      DnsSubdomain "compute-01.rack-07.row-03.hall-02.site-a.example-cloud.org" ∧
      DnsSubdomain "compute-01.rack-07.row-03.hall-02.site-a.example-cloud.net" ∧
      podName "compute-01.rack-07.row-03.hall-02.site-a.example-cloud.org"
        = podName "compute-01.rack-07.row-03.hall-02.site-a.example-cloud.net" := by
  have hsame : ∀ {a b : String}, ¬ ToldApart 50 a b → podName a = podName b := fun h =>
    not_ne_iff.mp (fun hne => h (podName_ne_iff.mp hne))
  have hdash : ¬ ToldApart 50 "a.b" "a-b" := by decide +kernel
  refine ⟨⟨by decide +kernel, by decide +kernel, hsame hdash, by decide +kernel, fun hown => ?_⟩,
    by decide +kernel, by decide +kernel, hsame (by decide +kernel)⟩
  exact hdash (ownPods_iff.mp hown "a.b" "a-b" (by decide) (by decide) (by decide))

end HardwareAutoscaler.Inband
