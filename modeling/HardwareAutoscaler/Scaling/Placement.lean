/-
  HardwareAutoscaler.Scaling.Placement
  ────────────────────────────────────
  WHERE THE PENDING PODS GO.

  The packing loop keeps the free room of its bins and forgets which pod took
  what.  `record` runs it with a record of that: the position of the bin each
  pod was put into, and the pods left waiting.

    • `Recorded` / `recorded` — one iteration and what it records,
    • `Sound` / `sound_foldl` — the invariant of the recorded loop,
    • `Decided` / `Sound.decided` — why a machine is opened and why a pod
      waits,
    • `packing_sound` — the packing is sound and loses no pod.
-/
import HardwareAutoscaler.Scaling.Absorbed
import HardwareAutoscaler.Scaling.Ranking
import HardwareAutoscaler.Scaling.Eviction

namespace HardwareAutoscaler

open Std (TreeMap)
open Lib (load IsPacking Room Left)

namespace PoolSnapshot

variable {s : PoolSnapshot}

/-! ## §1. The recorded loop. -/

/-- The packing loop with a record of its placements. -/
structure Packed where
  st : UpState
  /-- The pods placed, each with the position of its bin. -/
  placed : List (PodView × Nat) := []
  waiting : List PodView := []

/-- The position of the bin an iteration from `st` to `st'` puts the pod into:
the first one it fits, or the one that is new. -/
def binTaken (st st' : UpState) (p : PodView) : Option Nat :=
  match st.bins.findIdx? (fun b => podFits p b.1 b.2) with
  | some i => some i
  | none => if st.bins.length < st'.bins.length then some st.bins.length else none

/-- One iteration, recorded. -/
def record (s : PoolSnapshot) (r : Packed) (p : PodView) : Packed :=
  let st' := s.placePod r.st p
  match binTaken r.st st' p with
  | some i => { st := st', placed := (p, i) :: r.placed, waiting := r.waiting }
  | none => { st := st', placed := r.placed, waiting := r.waiting ++ [p] }

/-- The machines that are booting, in the order of the members. -/
def bootingMembers (s : PoolSnapshot) : List Member := s.members.filter (·.state == .booting)

/-- Where the loop starts: the booting machines as bins. -/
def packStart (s : PoolSnapshot) : Packed where
  st := { bins := s.bootingMembers.map binOf, offline := s.rankedUp }

/-- The loop over all relevant pods, recorded. -/
def packed (s : PoolSnapshot) : Packed :=
  (sortBy largestFirst s.relevant).foldl s.record s.packStart

theorem record_st (r : Packed) (p : PodView) : (s.record r p).st = s.placePod r.st p := by
  unfold record
  simp only
  split <;> rfl

/-- The record does not change the loop. -/
theorem foldl_record_st (pods : List PodView) :
    ∀ {r : Packed}, (pods.foldl s.record r).st = pods.foldl s.placePod r.st := by
  induction pods with
  | nil => intro r; rfl
  | cons p pods ih =>
    intro r
    show (pods.foldl s.record (s.record r p)).st = pods.foldl s.placePod (s.placePod r.st p)
    rw [ih, record_st]

/-- **The record changes nothing**: its state is that of `plan`. -/
theorem packed_st (s : PoolSnapshot) : s.packed.st = s.packPending := foldl_record_st _

/-! ## §2. One iteration. -/

theorem takeBin_eq_modify (p : PodView) (bins : List Bin) :
    takeBin p bins = (bins.findIdx? (fun b => podFits p b.1 b.2)).map
      (fun i => bins.modify i (Bin.put p)) := by
  rw [takeBin_eq_takeFirst]
  exact Lib.takeFirst_eq_modify bins

theorem takeBin_eq_none {p : PodView} {bins : List Bin} (h : takeBin p bins = none) :
    ∀ b ∈ bins, podFits p b.1 b.2 = false := by
  rw [takeBin_eq_modify, Option.map_eq_none_iff, List.findIdx?_eq_none_iff] at h
  exact h

/-- What is recorded of an iteration: the pod joins a bin that it fits, it
goes to a new bin, or it waits. -/
inductive Recorded (s : PoolSnapshot) (r : Packed) (p : PodView) (r' : Packed) : Prop where
  | joined (hj : s.Joins r.st p r'.st) (i : Nat) (b : Bin) (hb : r.st.bins[i]? = some b)
      (hfits : podFits p b.1 b.2 = true) (hbins : r'.st.bins = r.st.bins.modify i (Bin.put p))
      (hplaced : r'.placed = (p, i) :: r.placed) (hwaiting : r'.waiting = r.waiting)
  | opened (m : Member) (before after : List Member) (ho : s.Opens r.st p m before after r'.st)
      (hplaced : r'.placed = (p, r.st.bins.length) :: r.placed)
      (hwaiting : r'.waiting = r.waiting)
  | waits (hw : s.Waits r.st p r'.st) (hnone : takeBin p r.st.bins = none)
      (hplaced : r'.placed = r.placed) (hwaiting : r'.waiting = r.waiting ++ [p])

/-- **One iteration and its record.** -/
theorem recorded (s : PoolSnapshot) (hen : s.spec.scaleUp.enabled = true) (r : Packed)
    (p : PodView) : s.Recorded r p (s.record r p) := by
  have hst := record_st (s := s) r p
  -- the three ends of a pod: it waits, joins a bin that is open, or opens one
  rcases placePod_cases (s := s) r.st p with hw | hj | ⟨m, before, after, ho⟩
  · have hnone : takeBin p r.st.bins = none := by
      rcases hw.why with hdis | hwhy
      · rw [hen] at hdis
        cases hdis
      · exact hwhy.1
    have hfind := hnone
    rw [takeBin_eq_modify, Option.map_eq_none_iff] at hfind
    have htaken : binTaken r.st (s.placePod r.st p) p = none := by
      unfold binTaken
      rw [hfind]
      show (if _ then _ else _) = _
      rw [hw.bins, if_neg (Nat.lt_irrefl _)]
    refine .waits (by rw [hst]; exact hw) hnone ?_ ?_
    · unfold record
      simp only [htaken]
    · unfold record
      simp only [htaken]
  · have hbins := hj.bins
    rw [takeBin_eq_modify, Option.map_eq_some_iff] at hbins
    obtain ⟨i, hfind, hmod⟩ := hbins
    obtain ⟨b, hb, hfits⟩ : ∃ b, r.st.bins[i]? = some b ∧ podFits p b.1 b.2 = true := by
      rw [List.findIdx?_eq_some_iff_getElem] at hfind
      obtain ⟨hi, hfits, _⟩ := hfind
      exact ⟨_, List.getElem?_eq_getElem hi, hfits⟩
    have htaken : binTaken r.st (s.placePod r.st p) p = some i := by
      unfold binTaken
      rw [hfind]
    refine .joined (by rw [hst]; exact hj) i b hb hfits (by rw [hst, hmod]) ?_ ?_
    · unfold record
      simp only [htaken]
    · unfold record
      simp only [htaken]
  · have hfind := ho.noBin
    -- the bin opened is the last of those there are now
    rw [takeBin_eq_modify, Option.map_eq_none_iff] at hfind
    have htaken : binTaken r.st (s.placePod r.st p) p = some r.st.bins.length := by
      unfold binTaken
      rw [hfind]
      show (if _ then _ else _) = _
      rw [ho.bins, if_pos (by simp)]
    refine .opened m before after (by rw [hst]; exact ho) ?_ ?_
    · unfold record
      simp only [htaken]
    · unfold record
      simp only [htaken]

/-- A pod left waiting is recorded by its name, with a reason. -/
theorem unplaced_of_waits {st : UpState} {p : PodView} (hw : s.Waits st p (s.placePod st p)) :
    ∃ why, (s.placePod st p).unplaced = st.unplaced ++ [(podName p, why)] := by
  have hcases : (s.placePod st p).unplaced = st.unplaced ∨
      ∃ why, (s.placePod st p).unplaced = st.unplaced ++ [(podName p, why)] := by
    unfold placePod
    split
    · exact Or.inr ⟨_, rfl⟩
    · split
      · exact Or.inl rfl
      · split
        · exact Or.inr ⟨_, rfl⟩
        · split
          · exact Or.inl rfl
          · exact Or.inr ⟨_, rfl⟩
  rcases hcases with hsame | hmore
  · obtain ⟨why, hwhy⟩ := hw.unplaced
    rw [hsame] at hwhy
    have hlen := congrArg List.length hwhy
    simp at hlen
  · exact hmore

/-! ## §3. The invariant. -/

/-- The bins as they are before any pod is put into them: the booting machines
with what is bound to them, and the machines `os` opened, empty. -/
def startBins (s : PoolSnapshot) (os : List Member) : List Bin :=
  s.bootingMembers.map binOf ++ os.map emptyBin

/-- The room a bin starts with. -/
def startRoom (s : PoolSnapshot) (os : List Member) (i : Nat) : Int × Int × Int :=
  ((s.startBins os)[i]?.map (·.2.exact)).getD 0

/-- The pod's selectors, affinity and tolerations admit the machine of bin `i`. -/
def AdmitsAt (s : PoolSnapshot) (os : List Member) (p : PodView) (i : Nat) : Prop :=
  ∃ b, (s.startBins os)[i]? = some b ∧ admits p b.1 = true

/-- The room left in a bin. -/
def roomAt (bins : List Bin) (i : Nat) : Option (Int × Int × Int) := bins[i]?.map (·.2.exact)

/-- **The invariant of the recorded loop**, once it has handled the pods
`done` and opened the machines `os`: each of the pods has a bin or waits, the
bins are those of the booting machines and of `os`, and what lies in them is a
packing within the room they started with. -/
structure Sound (s : PoolSnapshot) (done : List PodView) (r : Packed) (os : List Member) :
    Prop where
  machines : r.st.bins.map (·.1) = (s.startBins os).map (·.1)
  opened : r.st.opened.map (·.1) = os.map (·.name)
  perm : (os ++ r.st.offline).Perm s.rankedUp
  offline : r.st.offline.Sublist s.rankedUp
  complete : (r.placed.map Prod.fst ++ r.waiting).Perm done
  named : r.st.unplaced.map (·.1) = r.waiting.map podName
  packing : IsPacking PodView.exactRequests (s.startRoom os) (s.AdmitsAt os)
    (r.placed.map Prod.fst) r.placed
  room : Room PodView.exactRequests (s.startRoom os) r.placed (roomAt r.st.bins)
  left : (∀ q ∈ done, 0 ≤ q.exactRequests) →
    Left PodView.exactRequests (s.startRoom os) r.placed (roomAt r.st.bins)

/-- The loop starts sound. -/
theorem sound_start (s : PoolSnapshot) : s.Sound [] s.packStart [] := by
  have hstart : Left PodView.exactRequests (s.startRoom []) [] (roomAt s.packStart.st.bins) := by
    intro i f hf
    have hroom : s.startRoom [] i = f := by
      unfold startRoom startBins
      rw [List.map_nil, List.append_nil]
      unfold roomAt at hf
      rw [show (s.bootingMembers.map binOf)[i]?.map (·.2.exact) = some f from hf]
      rfl
    rw [hroom, Lib.load_nil, sub_zero]
  exact {
    machines := by simp [packStart, startBins]
    opened := rfl
    perm := List.Perm.refl _
    offline := List.Sublist.refl _
    complete := List.Perm.refl _
    named := rfl
    packing := IsPacking.nil
    room := fun i f hf => le_of_eq (hstart i f hf)
    left := fun _ => hstart }

section Steps

variable {done : List PodView} {r : Packed} {os : List Member} {p : PodView}

/-- The machine of a bin is the one it started with. -/
theorem Sound.start_of_bin (h : s.Sound done r os) {i : Nat} {b : Bin}
    (hb : r.st.bins[i]? = some b) : ∃ b₀, (s.startBins os)[i]? = some b₀ ∧ b₀.1 = b.1 := by
  have hget := congrArg (fun l : List Member => l[i]?) h.machines
  simp only [List.getElem?_map, hb, Option.map_some] at hget
  exact Option.map_eq_some_iff.mp hget.symm

theorem Sound.length_eq (h : s.Sound done r os) : (s.startBins os).length = r.st.bins.length := by
  have hlen := congrArg List.length h.machines
  rw [List.length_map, List.length_map] at hlen
  exact hlen.symm

/-- A bin that is used is one of those there are. -/
theorem Sound.used_lt (h : s.Sound done r os) {x : PodView × Nat} (hx : x ∈ r.placed) :
    x.2 < (s.startBins os).length := by
  obtain ⟨b, hb, _⟩ := h.packing.accepts x hx
  exact (List.getElem?_eq_some_iff.mp hb).1

/-- Putting a pod into a bin it fits. -/
theorem room_modify {bins : List Bin} {cap : Nat → Int × Int × Int} {a : List (PodView × Nat)}
    (hroom : Room PodView.exactRequests cap a (roomAt bins)) {i : Nat} {b : Bin}
    (hb : bins[i]? = some b) (hfits : b.2.fits p.requests = true) :
    Room PodView.exactRequests cap ((p, i) :: a) (roomAt (bins.modify i (Bin.put p))) := by
  have hk : roomAt bins i = some b.2.exact := by
    unfold roomAt
    rw [hb]
    rfl
  apply hroom.put hk
  · intro f' hf'
    unfold roomAt at hf'
    rw [List.getElem?_modify_eq, hb] at hf'
    cases hf'
    exact ResourceAmounts.minus_exact_le hfits
  · intro j hne
    unfold roomAt
    rw [List.getElem?_modify_ne _ _ hne]

/-- The same, exactly, for requests that are not negative. -/
theorem left_modify {bins : List Bin} {cap : Nat → Int × Int × Int} {a : List (PodView × Nat)}
    (hleft : Left PodView.exactRequests cap a (roomAt bins)) (hp : 0 ≤ p.exactRequests) {i : Nat}
    {b : Bin} (hb : bins[i]? = some b) (hfits : b.2.fits p.requests = true) :
    Left PodView.exactRequests cap ((p, i) :: a) (roomAt (bins.modify i (Bin.put p))) := by
  have hk : roomAt bins i = some b.2.exact := by
    unfold roomAt
    rw [hb]
    rfl
  apply hleft.put hk
  · intro f' hf'
    unfold roomAt at hf'
    rw [List.getElem?_modify_eq, hb] at hf'
    cases hf'
    exact ResourceAmounts.minus_exact_eq hp hfits
  · intro j hne
    unfold roomAt
    rw [List.getElem?_modify_ne _ _ hne]

/-- A machine that a pod fits has room for it. -/
theorem fits_of_podFits {m : Member} {free : ResourceAmounts} (h : podFits p m free = true) :
    free.fits p.requests = true := by
  unfold podFits at h
  simp only [Bool.and_eq_true] at h
  exact h.1

/-- **A pod that joins a bin.** -/
theorem Sound.joined (h : s.Sound done r os) {r' : Packed} {i : Nat} {b : Bin}
    (hj : s.Joins r.st p r'.st) (hb : r.st.bins[i]? = some b)
    (hfits : podFits p b.1 b.2 = true) (hbins : r'.st.bins = r.st.bins.modify i (Bin.put p))
    (hplaced : r'.placed = (p, i) :: r.placed) (hwaiting : r'.waiting = r.waiting) :
    s.Sound (done ++ [p]) r' os := by
  obtain ⟨b₀, hb₀, hmachine⟩ := h.start_of_bin hb
  have hk : roomAt r.st.bins i = some b.2.exact := by
    unfold roomAt
    rw [hb]
    rfl
  have hsize : p.exactRequests ≤ b.2.exact :=
    ResourceAmounts.fits_iff_exact.mp (fits_of_podFits hfits)
  have hadmits : s.AdmitsAt os p i :=
    ⟨b₀, hb₀, by rw [hmachine]; exact admits_of_podFits hfits⟩
  -- what is placed grows by this pod, in a bin that had room for it
  constructor
  · rw [← h.machines, hbins]
    exact @Lib.map_modify Bin Member (·.1) (Bin.put p) (fun _ => rfl) _ i
  · rw [hj.opened]
    exact h.opened
  · rw [hj.offline]
    exact h.perm
  · rw [hj.offline]
    exact h.offline
  · rw [hplaced, hwaiting]
    exact (h.complete.cons p).trans (List.perm_append_singleton p done).symm
  · rw [hj.unplaced, hwaiting]
    exact h.named
  · rw [hplaced]
    exact h.packing.put h.room hk hsize hadmits
  · rw [hplaced, hbins]
    exact room_modify h.room hb (fits_of_podFits hfits)
  · intro hsizes
    rw [hplaced, hbins]
    exact left_modify (h.left (fun q hq => hsizes q (List.mem_append_left _ hq)))
      (hsizes p (by simp)) hb (fits_of_podFits hfits)

/-- **A pod that waits.** -/
theorem Sound.waits (h : s.Sound done r os) {r' : Packed} (hst : r'.st = s.placePod r.st p)
    (hw : s.Waits r.st p r'.st) (hplaced : r'.placed = r.placed)
    (hwaiting : r'.waiting = r.waiting ++ [p]) : s.Sound (done ++ [p]) r' os := by
  constructor
  · rw [hw.bins]
    exact h.machines
  · rw [hw.opened]
    exact h.opened
  · rw [hw.offline]
    exact h.perm
  · rw [hw.offline]
    exact h.offline
  · rw [hplaced, hwaiting, ← List.append_assoc]
    exact h.complete.append_right [p]
  · rw [hst] at hw ⊢
    obtain ⟨why, hwhy⟩ := unplaced_of_waits hw
    rw [hwhy, hwaiting, List.map_append, List.map_append, h.named]
    rfl
  · rw [hplaced]
    exact h.packing
  · rw [hplaced, hw.bins]
    exact h.room
  · intro hsizes
    rw [hplaced, hw.bins]
    exact h.left (fun q hq => hsizes q (List.mem_append_left _ hq))

/-- One more machine opened leaves the bins there were as they started. -/
theorem startBins_snoc (os : List Member) (m : Member) :
    s.startBins (os ++ [m]) = s.startBins os ++ [emptyBin m] := by
  unfold startBins
  rw [List.map_append, List.append_assoc]
  rfl

theorem startRoom_snoc {i : Nat} (m : Member) (hi : i < (s.startBins os).length) :
    s.startRoom (os ++ [m]) i = s.startRoom os i := by
  unfold startRoom
  rw [startBins_snoc, List.getElem?_append_left hi]

theorem AdmitsAt.snoc {q : PodView} {i : Nat} (h : s.AdmitsAt os q i) (m : Member) :
    s.AdmitsAt (os ++ [m]) q i := by
  obtain ⟨b, hb, hadmits⟩ := h
  refine ⟨b, ?_, hadmits⟩
  rw [startBins_snoc, List.getElem?_append_left (List.getElem?_eq_some_iff.mp hb).1]
  exact hb

/-- The room of a bin when one more machine is opened: as before, or that of
the new bin, in which nothing lies. -/
theorem Sound.roomAt_snoc (h : s.Sound done r os) {m : Member} {i : Nat} {f : Int × Int × Int}
    (hf : roomAt (r.st.bins ++ [emptyBin m]) i = some f) :
    (roomAt r.st.bins i = some f ∧ s.startRoom (os ++ [m]) i = s.startRoom os i) ∨
    (load PodView.exactRequests r.placed i = 0 ∧ f = s.startRoom (os ++ [m]) i) := by
  unfold roomAt at hf
  by_cases hi : i < r.st.bins.length
  · rw [List.getElem?_append_left hi] at hf
    exact Or.inl ⟨hf, startRoom_snoc m (by rw [h.length_eq]; exact hi)⟩
  · rw [List.getElem?_append_right (by omega)] at hf
    obtain ⟨b, hb, hbf⟩ := Option.map_eq_some_iff.mp hf
    obtain ⟨hlt, hbm⟩ := List.getElem?_eq_some_iff.mp hb
    rw [List.length_singleton] at hlt
    have hi : i = r.st.bins.length := by omega
    refine Or.inr ⟨?_, ?_⟩
    · apply Lib.load_of_not_used
      intro x hx he
      have hlt := h.used_lt hx
      rw [h.length_eq] at hlt
      omega
    · have hb' : b = emptyBin m := by
        rw [← hbm, List.getElem_singleton]
      unfold startRoom
      rw [startBins_snoc, List.getElem?_append_right (by rw [h.length_eq]; omega), h.length_eq,
        hi, Nat.sub_self, ← hbf, hb']
      rfl

/-- The invariant's bookkeeping, with the bin of one more machine, empty. -/
theorem Sound.newBin (h : s.Sound done r os) (m : Member) :
    IsPacking PodView.exactRequests (s.startRoom (os ++ [m])) (s.AdmitsAt (os ++ [m]))
      (r.placed.map Prod.fst) r.placed ∧
    Room PodView.exactRequests (s.startRoom (os ++ [m])) r.placed
      (roomAt (r.st.bins ++ [emptyBin m])) ∧
    ((∀ q ∈ done, 0 ≤ q.exactRequests) →
      Left PodView.exactRequests (s.startRoom (os ++ [m])) r.placed
        (roomAt (r.st.bins ++ [emptyBin m]))) := by
  refine ⟨?_, ?_, ?_⟩
  · apply (h.packing.cap_congr ?_).accepts_mono
    · intro x _ hadmits
      exact hadmits.snoc m
    · intro x hx
      exact (startRoom_snoc m (h.used_lt hx)).symm
  · intro i f hf
    rcases h.roomAt_snoc hf with ⟨hf, hstart⟩ | ⟨hempty, hstart⟩
    · rw [hstart]
      exact h.room i f hf
    · rw [hempty, sub_zero, hstart]
  · intro hsizes i f hf
    rcases h.roomAt_snoc hf with ⟨hf, hstart⟩ | ⟨hempty, hstart⟩
    · rw [hstart]
      exact h.left hsizes i f hf
    · rw [hempty, sub_zero, hstart]

/-- **A pod a machine is opened for.** -/
theorem Sound.opens (h : s.Sound done r os) {r' : Packed} {m : Member} {before after : List Member}
    (ho : s.Opens r.st p m before after r'.st)
    (hplaced : r'.placed = (p, r.st.bins.length) :: r.placed) (hwaiting : r'.waiting = r.waiting) :
    s.Sound (done ++ [p]) r' (os ++ [m]) := by
  obtain ⟨hpacking, hroom, hleft⟩ := h.newBin m
  have hget : (r.st.bins ++ [emptyBin m])[r.st.bins.length]? = some (emptyBin m) := by
    rw [List.getElem?_append_right (Nat.le_refl _), Nat.sub_self]
    rfl
  have hk : roomAt (r.st.bins ++ [emptyBin m]) r.st.bins.length = some m.allocatable.exact := by
    unfold roomAt
    rw [hget]
    rfl
  have hfits := fits_of_podFits ho.fits
  have hadmits : s.AdmitsAt (os ++ [m]) p r.st.bins.length := by
    refine ⟨emptyBin m, ?_, admits_of_podFits ho.fits⟩
    rw [startBins_snoc, List.getElem?_append_right (by rw [h.length_eq]), h.length_eq, Nat.sub_self]
    rfl
  -- the bin is opened empty, and the pod put into it
  have hput : (r.st.bins ++ [emptyBin m]).modify r.st.bins.length (Bin.put p) = r'.st.bins := by
    rw [ho.bins, Lib.modify_snoc]
    rfl
  constructor
  · rw [ho.bins, startBins_snoc, List.map_append, List.map_append, h.machines]
    rfl
  · obtain ⟨reason, hopened⟩ := ho.opened
    rw [hopened, List.map_append, List.map_append, h.opened]
    rfl
  · rw [ho.offline, List.append_assoc]
    refine List.Perm.trans ?_ h.perm
    rw [ho.split]
    apply List.Perm.append_left
    rw [List.singleton_append]
    exact List.perm_middle.symm
  · rw [ho.offline]
    refine List.Sublist.trans ?_ h.offline
    rw [ho.split]
    exact (List.Sublist.refl before).append (List.sublist_cons_self m after)
  · rw [hplaced, hwaiting]
    exact (h.complete.cons p).trans (List.perm_append_singleton p done).symm
  · rw [ho.unplaced, hwaiting]
    exact h.named
  · rw [hplaced]
    exact hpacking.put hroom hk (ResourceAmounts.fits_iff_exact.mp hfits) hadmits
  · rw [hplaced, ← hput]
    exact room_modify hroom hget hfits
  · intro hsizes
    rw [hplaced, ← hput]
    exact left_modify (hleft (fun q hq => hsizes q (List.mem_append_left _ hq)))
      (hsizes p (by simp)) hget hfits

/-- **One iteration keeps the invariant.** -/
theorem Sound.record (hen : s.spec.scaleUp.enabled = true) (h : s.Sound done r os) (p : PodView) :
    ∃ os', os <+: os' ∧ s.Sound (done ++ [p]) (s.record r p) os' := by
  cases s.recorded hen r p with
  | joined hj i b hb hfits hbins hplaced hwaiting =>
    exact ⟨os, List.prefix_refl _, h.joined hj hb hfits hbins hplaced hwaiting⟩
  | opened m before after ho hplaced hwaiting =>
    exact ⟨os ++ [m], List.prefix_append .., h.opens ho hplaced hwaiting⟩
  | waits hw _ hplaced hwaiting =>
    exact ⟨os, List.prefix_refl _, h.waits (record_st r p) hw hplaced hwaiting⟩

end Steps

/-- **The loop keeps the invariant.** -/
theorem sound_foldl (hen : s.spec.scaleUp.enabled = true) (pods : List PodView) :
    ∀ {done : List PodView} {r : Packed} {os : List Member}, s.Sound done r os →
      ∃ os', os <+: os' ∧ s.Sound (done ++ pods) (pods.foldl s.record r) os' := by
  -- on the pods still to come, with those handled in `done`
  induction pods with
  | nil =>
    intro done r os h
    rw [List.append_nil]
    exact ⟨os, List.prefix_refl _, h⟩
  | cons p pods ih =>
    intro done r os h
    obtain ⟨os', hmore, h'⟩ := h.record hen p
    obtain ⟨os'', hmore', h''⟩ := ih h'
    rw [List.append_assoc] at h''
    exact ⟨os'', hmore.trans hmore', h''⟩

/-! ## §4. Why a machine is opened, and why a pod waits. -/

/-- **What one iteration decides**, read off the machines there are: `r` and
`r'` are the states before and after it. -/
inductive Decided (s : PoolSnapshot) (r : Packed) (p : PodView) (r' : Packed) : Prop where
  /-- The pod goes to a machine that is booting or opened already. -/
  | joined (i : Nat) (b : Bin) (hb : r.st.bins[i]? = some b)
      (hfits : podFits p b.1 b.2 = true) (hopened : r'.st.opened = r.st.opened)
      (hplaced : r'.placed = (p, i) :: r.placed) (hwaiting : r'.waiting = r.waiting)
  /-- No such machine takes it: of the machines still off that it fits on, the
  first in `powerOnOrder` is opened. -/
  | opened (m : Member) (reason : String)
      (hnone : ∀ b ∈ r.st.bins, podFits p b.1 b.2 = false)
      (hm : m ∈ r.st.offline) (hfits : podFits p m m.allocatable = true)
      (hfirst : ∀ o ∈ r.st.offline, podFits p o o.allocatable = true →
        (powerOnOrder s.spec m o).isLE = true)
      (hopened : r'.st.opened = r.st.opened ++ [(m.name, reason)])
      (hplaced : r'.placed = (p, r.st.bins.length) :: r.placed)
      (hwaiting : r'.waiting = r.waiting)
  /-- No such machine takes it, and a cap is reached or no machine still off
  fits it. -/
  | waits (why : String) (hnone : ∀ b ∈ r.st.bins, podFits p b.1 b.2 = false)
      (hwhy : s.maxOnline ≤ s.onlineNow + r.st.opened.length ∨
        max s.spec.scaleUp.maxNodesPerStep 1 ≤ r.st.opened.length ∨
        ∀ o ∈ r.st.offline, podFits p o o.allocatable = false)
      (hopened : r'.st.opened = r.st.opened) (hplaced : r'.placed = r.placed)
      (hwaiting : r'.waiting = r.waiting ++ [p])
      (hunplaced : r'.st.unplaced = r.st.unplaced ++ [(podName p, why)])

/-- The first machine of the list that fits is the first in the order. -/
theorem first_of_split {before after : List Member} {m : Member} {p : PodView}
    (hsorted : (before ++ m :: after).Pairwise (fun a b => (powerOnOrder s.spec a b).isLE = true))
    (hfirst : ∀ o ∈ before, podFits p o o.allocatable = false) :
    ∀ o ∈ before ++ m :: after, podFits p o o.allocatable = true →
      (powerOnOrder s.spec m o).isLE = true := by
  intro o ho hfits
  rcases List.mem_append.mp ho with hbefore | hrest
  · rw [hfirst o hbefore] at hfits
    cases hfits
  · rcases List.mem_cons.mp hrest with he | hafter
    · rw [he, @Std.ReflCmp.compare_self _ (powerOnOrder s.spec) _ m]
      rfl
    · exact (List.pairwise_cons.mp (List.pairwise_append.mp hsorted).2.1).1 o hafter

/-- **An iteration decides so** in every state the loop can be in. -/
theorem Sound.decided (hen : s.spec.scaleUp.enabled = true) {done : List PodView} {r : Packed}
    {os : List Member} (h : s.Sound done r os) (p : PodView) :
    s.Decided r p (s.record r p) := by
  cases s.recorded hen r p with
  | joined hj i b hb hfits _ hplaced hwaiting =>
    exact .joined i b hb hfits hj.opened hplaced hwaiting
  | opened m before after ho hplaced hwaiting =>
    obtain ⟨reason, hopened⟩ := ho.opened
    have hsorted := s.rankedUp_pairwise.sublist h.offline
    rw [ho.split] at hsorted
    -- the machines off are in power-on order, so the first that fits is the best
    refine .opened m reason (takeBin_eq_none ho.noBin) ?_ ho.fits ?_ hopened hplaced hwaiting
    · rw [ho.split]
      exact List.mem_append_right _ (List.mem_cons_self ..)
    · rw [ho.split]
      exact first_of_split hsorted ho.first
  | waits hw hnone hplaced hwaiting =>
    have hst := record_st (s := s) r p
    obtain ⟨why, hunplaced⟩ : ∃ why,
        (s.record r p).st.unplaced = r.st.unplaced ++ [(podName p, why)] := by
      rw [hst] at hw ⊢
      exact unplaced_of_waits hw
    refine .waits why (takeBin_eq_none hnone) ?_ hw.opened hplaced hwaiting hunplaced
    -- nothing opens: the bound is reached, the step is used up, or none that is off fits
    rcases hw.why with hdis | ⟨_, hfull | hoff⟩
    · rw [hen] at hdis
      cases hdis
    · have hcap : ¬(s.onlineNow + r.st.opened.length < s.maxOnline ∧
          r.st.opened.length < max s.spec.scaleUp.maxNodesPerStep 1) :=
        fun hroom => hfull (canOpen_none.mpr hroom)
      by_cases hmax : s.maxOnline ≤ s.onlineNow + r.st.opened.length
      · exact Or.inl hmax
      · exact Or.inr (Or.inl (by omega))
    · exact Or.inr (Or.inr hoff)

/-! ## §5. The packing. -/

/-- What a machine starts with: a booting one what its pods leave free, an
opened one all it has. -/
def startFree (m : Member) : ResourceAmounts :=
  if m.state == .booting then m.allocatable.minus m.requested else m.allocatable

/-- The loop has come to `pod`, with `done` handled, `r` its state and `os` the
machines opened so far. -/
structure At (s : PoolSnapshot) (os : List Member) (r : Packed) (done : List PodView)
    (pod : PodView) : Prop where
  /-- The bins are the machines booting and opened. -/
  machines : r.st.bins.map (·.1) = s.bootingMembers ++ os
  /-- `offline` holds the `Auto` members that are off and not yet opened. -/
  off : (os ++ r.st.offline).Perm (s.members.filter (fun m => m.auto && m.state == .offline))
  /-- With requests that are not negative the room of a bin is exactly what
  the pods placed there leave of the start. -/
  room : (∀ q ∈ done, 0 ≤ q.exactRequests) →
    ∀ i b, r.st.bins[i]? = some b →
      b.2.exact = (startFree b.1).exact - load PodView.exactRequests r.placed i
  decided : s.Decided r pod (s.record r pod)

/-- **The packing is sound and loses no pod**; `os` are the machines opened
for pods. -/
structure PackedOnto (s : PoolSnapshot) (os : List Member) : Prop where
  /-- Each relevant pod has one place or waits. -/
  complete : (s.packed.placed.map Prod.fst ++ s.packed.waiting).Perm s.relevant
  /-- A pod that waits is recorded as such. -/
  named : s.scaledUp.unplaced.map (·.1) = s.packed.waiting.map podName
  /-- The machines opened are among those the plan powers on, -/
  chosen : os.map (·.name) <+: (plan s).powerOn.map (·.1)
  /-- and were off and `Auto`. -/
  off : ∀ m ∈ os, m ∈ s.members ∧ m.auto = true ∧ m.state = .offline
  /-- A place is a machine booting or opened that the pod matches, and that
  holds all the pods placed there. -/
  within : ∀ x ∈ s.packed.placed, ∃ m, (s.bootingMembers ++ os)[x.2]? = some m ∧
    podMatchesNode x.1 m.labels m.taints = true ∧
    load PodView.exactRequests s.packed.placed x.2 ≤ (startFree m).exact
  /-- The decision on each pod. -/
  steps : ∀ done pod rest, sortBy largestFirst s.relevant = done ++ pod :: rest →
    ∃ sofar, sofar <+: os ∧ s.At sofar (done.foldl s.record s.packStart) done pod

section Assembly

variable {done : List PodView} {r : Packed} {os : List Member}

/-- The machines opened were off and `Auto`. -/
theorem Sound.opened_off (h : s.Sound done r os) {m : Member} (hm : m ∈ os) :
    m ∈ s.members ∧ m.auto = true ∧ m.state = .offline :=
  mem_rankedUp.mp (h.perm.mem_iff.mp (List.mem_append_left _ hm))

/-- A bin starts with what its machine starts with. -/
theorem Sound.startBins_eq (h : s.Sound done r os) :
    s.startBins os = (s.bootingMembers ++ os).map (fun m => (m, startFree m)) := by
  unfold startBins
  rw [List.map_append]
  congr 1
  · apply List.map_congr_left
    intro m hm
    have hstate : (m.state == .booting) = true := (List.mem_filter.mp hm).2
    show binOf m = (m, if (m.state == .booting) = true then _ else _)
    rw [if_pos hstate]
    rfl
  · apply List.map_congr_left
    intro m hm
    show emptyBin m = (m, if (m.state == .booting) = true then _ else _)
    rw [(h.opened_off hm).2.2]
    rfl

theorem Sound.machines_eq (h : s.Sound done r os) :
    r.st.bins.map (·.1) = s.bootingMembers ++ os := by
  rw [h.machines, h.startBins_eq, List.map_map]
  exact List.map_id' _

/-- The room a bin starts with, by its machine. -/
theorem Sound.startRoom_eq (h : s.Sound done r os) {i : Nat} {m : Member}
    (hm : (s.bootingMembers ++ os)[i]? = some m) : s.startRoom os i = (startFree m).exact := by
  unfold startRoom
  rw [h.startBins_eq, List.getElem?_map, hm]
  rfl

theorem Sound.at (hen : s.spec.scaleUp.enabled = true) (h : s.Sound done r os) (pod : PodView) :
    s.At os r done pod where
  machines := h.machines_eq
  off := h.perm.trans (sortBy_perm _ _)
  room := by
    intro hsizes i b hb
    have hm : (s.bootingMembers ++ os)[i]? = some b.1 := by
      rw [← h.machines_eq, List.getElem?_map, hb]
      rfl
    rw [← h.startRoom_eq hm]
    apply h.left hsizes i
    unfold roomAt
    rw [hb]
    rfl
  decided := h.decided hen pod

/-- **What is put on a machine** matches it and fits there, all together. -/
theorem Sound.within (h : s.Sound done r os) {x : PodView × Nat} (hx : x ∈ r.placed) :
    ∃ m, (s.bootingMembers ++ os)[x.2]? = some m ∧
      podMatchesNode x.1 m.labels m.taints = true ∧
      load PodView.exactRequests r.placed x.2 ≤ (startFree m).exact := by
  obtain ⟨b, hb, hadmits⟩ := h.packing.accepts x hx
  have hm : (s.bootingMembers ++ os)[x.2]? = some b.1 := by
    rw [h.startBins_eq, List.getElem?_map] at hb
    obtain ⟨m, hm, he⟩ := Option.map_eq_some_iff.mp hb
    rw [hm, ← he]
  refine ⟨b.1, hm, hadmits, ?_⟩
  rw [← h.startRoom_eq hm]
  exact h.packing.load_le x hx

end Assembly

/-- **The packing of the pending pods is sound and loses none.** -/
theorem packing_sound (s : PoolSnapshot) (hen : s.spec.scaleUp.enabled = true) :
    ∃ os, s.PackedOnto os := by
  obtain ⟨os, _, hsound⟩ := sound_foldl hen (sortBy largestFirst s.relevant) (sound_start s)
  have h : s.Sound (sortBy largestFirst s.relevant) s.packed os := hsound
  refine ⟨os, ?_⟩
  constructor
  · exact h.complete.trans (sortBy_perm largestFirst s.relevant)
  · show (s.fillMinOnline s.packPending s.packPending.offline).unplaced.map (·.1) = _
    rw [unplaced_fillMinOnline, ← packed_st]
    exact h.named
  · show _ <+: (s.fillMinOnline s.packPending s.packPending.offline).opened.map (·.1)
    rw [← h.opened, packed_st]
    exact opened_fill_grows.map _
  · intro m hm
    exact h.opened_off hm
  · intro x hx
    exact h.within hx
  · -- the machines opened by then are the first of those opened in the end
    intro done pod rest hsplit
    obtain ⟨sofar, _, hdone⟩ := sound_foldl hen done (sound_start s)
    obtain ⟨os', hmore, hrest⟩ := sound_foldl hen (pod :: rest) hdone
    have hend : (pod :: rest).foldl s.record (done.foldl s.record s.packStart) = s.packed := by
      unfold packed
      rw [hsplit, List.foldl_append]
    rw [hend] at hrest
    have hos : os' = os := List.append_cancel_left (hrest.machines_eq.symm.trans h.machines_eq)
    rw [hos] at hmore
    exact ⟨sofar, hmore, hdone.at hen pod⟩

/-- One machine a step for the three pods: `m2` is opened for `p1`, has room for
`p2`, and `p3`, which needs all the memory of a machine, waits. -/
theorem packing_sound_one_step :
    let s : PoolSnapshot := { mixedOrder with spec := { scaleUp := { maxNodesPerStep := 1 } } }
    s.spec.scaleUp.enabled = true ∧
      s.packed.placed.map (fun x => (x.1.name, x.2)) = [("p2", 0), ("p1", 0)] ∧
      s.scaledUp.unplaced = [("/p3", "maxNodesPerStep (1) reached this cycle")] ∧
      ∃ os, s.PackedOnto os :=
  ⟨rfl, by decide +kernel, by decide +kernel, packing_sound _ rfl⟩

end PoolSnapshot

end HardwareAutoscaler
