import NewFramework.Lib.CString
import NewFramework.Lib.SortedSet
import NewFramework.Net.EPollPoller

/-!
# The listing of the channels in `EPollPoller::poll`

Before it waits, `poll` (`muduo/net/poller/EPollPoller.cc`) writes `channelfd=%d ` for every
descriptor in `channels_` into a buffer on the stack, one behind the other, and never looks at the
size of the buffer.
-/

namespace NewFramework.Net

open NewFramework.Lib

namespace EPollPoller

/-- `sizeof(tmpbuffer)` -/
def tmpbufferSize : Nat := 4098

/-- `channelfd=`, in ASCII. -/
def channelLabel : List UInt8 := [99, 104, 97, 110, 110, 101, 108, 102, 100, 61]

/-- What `sprintf(pPtr, "channelfd=%d ", fd)` writes before the zero byte. -/
def channelText (fd : Int) : List UInt8 :=
  channelLabel ++ decimal fd ++ [0x20]

/-- The stack from `tmpbuffer` on, and the offset of `pPtr` in it. -/
structure Listing where
  stack : List UInt8
  pPtr : Nat

namespace Listing

/-- `char tmpbuffer[4098] = {0}; char* pPtr = tmpbuffer;` -/
def start : Listing := ⟨List.replicate tmpbufferSize 0, 0⟩

/-- One round of the loop over `channels_`, for the key `fd`. -/
def format (s : Listing) (fd : Int) : Listing :=
  let stack := storeString s.stack s.pPtr (channelText fd)
  { stack := stack, pPtr := s.pPtr + strlen stack s.pPtr }

def step (s : Listing) (fd : Int) : Option Listing := some (s.format fd)

/-- The round writes to `tmpbuffer` only, and `pPtr` stays in it. -/
def Inside (s : Listing) (fd : Int) (s' : Listing) : Prop :=
  (∀ a ∈ storedAt s.pPtr (channelText fd), a < tmpbufferSize) ∧ s'.pPtr < tmpbufferSize

/-- How far `pPtr` is moved: `channelfd=`, the digits, a sign for a negative number, a space. -/
def width (fd : Int) : Nat := 12 + Nat.log 10 fd.natAbs + if fd < 0 then 1 else 0

/-- `pPtr` is on the stack that is there. -/
def Sound (s : Listing) : Prop := s.pPtr < s.stack.length

theorem sound_start : Sound start := by
  show 0 < (List.replicate tmpbufferSize (0 : UInt8)).length
  rw [List.length_replicate]
  decide

theorem channelText_length (fd : Int) : (channelText fd).length = width fd := by
  have label : channelLabel.length = 10 := rfl
  rw [channelText, List.length_append, List.length_append, label, decimal_length,
    List.length_singleton, width]
  omega

theorem channelText_ne_zero (fd : Int) : ∀ b ∈ channelText fd, b ≠ 0 := by
  have label : ∀ b ∈ channelLabel, b ≠ 0 := by simp [channelLabel]
  intro b mem
  simp only [channelText, List.mem_append, List.mem_singleton] at mem
  rcases mem with (mem | mem) | rfl
  · exact label b mem
  · exact decimal_ne_zero fd b mem
  · decide

/-- A round moves `pPtr` to the zero byte behind its text. -/
theorem format_pPtr {s : Listing} (sound : Sound s) (fd : Int) :
    (s.format fd).pPtr = s.pPtr + width fd := by
  show s.pPtr + strlen _ _ = _
  rw [strlen_storeString (Nat.le_of_lt sound) (channelText_ne_zero fd), channelText_length]

theorem sound_format {s : Listing} (sound : Sound s) (fd : Int) : Sound (s.format fd) := by
  rw [Sound, format_pPtr sound, ← channelText_length]
  exact lt_length_storeString (Nat.le_of_lt sound)

theorem inside_format_iff {s : Listing} (sound : Sound s) (fd : Int) :
    Inside s fd (s.format fd) ↔ s.pPtr + width fd < tmpbufferSize := by
  rw [Inside, forall_storedAt_lt, channelText_length, format_pPtr sound, and_self]

/-- The loop from any offset: all rounds stay inside iff the last one does. -/
theorem eachStep_inside_iff {fds : List Int} {s : Listing} (sound : Sound s)
    (inside : s.pPtr < tmpbufferSize) :
    EachStep step Inside s fds ↔ s.pPtr + (fds.map width).sum < tmpbufferSize := by
  induction fds generalizing s with
  | nil => simpa using inside
  | cons fd fds ih =>
    have rest := ih (sound_format sound fd)
    rw [format_pPtr sound] at rest
    rw [List.map_cons, List.sum_cons, ← Nat.add_assoc]
    constructor
    · intro run
      obtain ⟨here, later⟩ := run (s.format fd) rfl
      exact (rest ((inside_format_iff sound fd).mp here)).mp later
    · intro total s' moved
      obtain rfl := Option.some.inj moved
      have here : s.pPtr + width fd < tmpbufferSize := by omega
      exact ⟨(inside_format_iff sound fd).mpr here, (rest here).mpr total⟩

/-- For every content of `channels_`, no round writes past the end of `tmpbuffer` iff the texts
of all descriptors together, with their zero byte, fit into it. -/
theorem inside_iff_sum (channels : SortedSet Int) :
    EachStep step Inside start channels.toList ↔
      (channels.toList.map width).sum < tmpbufferSize := by
  have start_inside : start.pPtr < tmpbufferSize := by decide
  rw [eachStep_inside_iff sound_start start_inside]
  have zero : start.pPtr = 0 := rfl
  rw [zero, Nat.zero_add]

theorem width_sum_ge (fds : List Int) : 12 * fds.length ≤ (fds.map width).sum := by
  induction fds with
  | nil => simp
  | cons fd fds ih =>
    have first : 12 ≤ width fd := by
      rw [width]
      omega
    rw [List.length_cons, List.map_cons, List.sum_cons]
    omega

/-- Whatever their descriptors, 342 channels are too many. -/
theorem not_inside_of_length {fds : List Int} (many : 342 ≤ fds.length) :
    ¬EachStep step Inside start fds := by
  intro run
  have total := (eachStep_inside_iff sound_start (by decide)).mp run
  have least := width_sum_ge fds
  have zero : start.pPtr = 0 := rfl
  have size : tmpbufferSize = 4098 := rfl
  omega

end Listing

/-! ## Populations -/

/-- The keys of `channels_`, in the order in which `poll` comes to them. -/
def Lists {ι : Type} (s : EPollPoller ι) (channels : SortedSet Int) : Prop :=
  ∀ d : Int, d ∈ channels ↔ ∃ n : Nat, d = n ∧ s.channels n ≠ none

/-- The channels of some descriptors, each enabled for reading. -/
def enableAll (fds : List Nat) : List (Nat × ChannelOp) :=
  fds.map fun fd => (fd, .enableReading)

/-- New channels that are enabled one after the other are registered. -/
theorem exec_enableAll {fds : List Nat} {s : EPollPoller Nat} (coherent : Coherent id s)
    (fresh : ∀ fd ∈ fds, (s.channel fd).index = .kNew) (apart : fds.Nodup) :
    ∃ p, exec (step id) (some s) (enableAll fds) = some (some p) ∧
      ∀ d, p.channels d ≠ none ↔ s.channels d ≠ none ∨ d ∈ fds := by
  induction fds generalizing s with
  | nil => exact ⟨s, rfl, by simp⟩
  | cons fd fds ih =>
    obtain ⟨other, apart⟩ := List.nodup_cons.mp apart
    have index := fresh fd List.mem_cons_self
    have free : s.channels fd = none := by
      cases there : s.channels fd with
      | none => rfl
      | some i =>
        obtain ⟨rfl, registered⟩ := (coherent.mapped _ _).mp there
        exact absurd index registered
    have mask : ChannelOp.enableReading.mask (s.channel fd).events ≠ kNoneEvent := by
      simp only [ChannelOp.mask, kNoneEvent, BitVec.ofNat_eq_ofNat, ne_eq,
        BitVec.or_eq_zero_iff, not_and]
      intro _
      decide
    have moved : step id (some s) (fd, .enableReading) =
        some (some (s.updated id fd (ChannelOp.enableReading.mask (s.channel fd).events))) := by
      simp only [step, reduceCtorEq, if_false]
      rw [updateChannel_new coherent index free mask]
    have owns : Owns id s fd := owns_of_free free
    have coherent' := coherent_updated (m := ChannelOp.enableReading.mask (s.channel fd).events)
      coherent owns
    obtain ⟨p, reached, registered⟩ := ih coherent' (by
      intro x mem
      have differs : x ≠ fd := fun same => other (same ▸ mem)
      simp only [updated, put, Function.update_of_ne differs]
      exact fresh x (List.mem_cons_of_mem _ mem)) apart
    refine ⟨p, ?_, ?_⟩
    · rw [enableAll, List.map_cons, exec_cons, moved]
      exact reached
    · intro d
      rw [registered d, List.mem_cons]
      by_cases here : d = fd
      · simp [updated, put, here, mask]
      · simp [updated, put, here]

/-- `count` descriptors from `first` on. -/
def descriptors (first count : Nat) : SortedSet Int where
  toList := (List.range' first count).map Int.ofNat
  sorted := by
    rw [List.pairwise_map]
    have ascending : (List.range' first count).Pairwise (· < ·) := List.pairwise_lt_range'
    exact ascending.imp Int.ofNat_lt.mpr

/-- A loop with 342 channels: each is enabled for reading, and the listing of the next `poll`
writes past the end of `tmpbuffer`. -/
theorem enableAll_overflows :
    ∃ p, exec (step id) (some new) (enableAll (List.range' 5 342)) = some (some p) ∧
      p.Lists (descriptors 5 342) ∧
      ¬EachStep Listing.step Listing.Inside Listing.start (descriptors 5 342).toList := by
  have coherent : Coherent id (new : EPollPoller Nat) := coherent_new
  have apart : (List.range' 5 342).Nodup := List.nodup_range'
  obtain ⟨p, reached, registered⟩ := exec_enableAll coherent (fun _ _ => rfl) apart
  refine ⟨p, reached, ?_, ?_⟩
  · intro d
    have keys : d ∈ descriptors 5 342 ↔ ∃ n ∈ List.range' 5 342, Int.ofNat n = d :=
      List.mem_map
    rw [keys]
    constructor
    · rintro ⟨n, mem, rfl⟩
      exact ⟨n, rfl, (registered n).mpr (.inr mem)⟩
    · rintro ⟨n, rfl, there⟩
      exact ⟨n, ((registered n).mp there).resolve_left (by simp [new]), rfl⟩
  · apply Listing.not_inside_of_length
    rw [descriptors, List.length_map, List.length_range']

end EPollPoller

end NewFramework.Net
