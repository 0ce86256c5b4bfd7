import NewFramework.Lib.Run
import NewFramework.Net.Poller
import Mathlib.Logic.Function.Basic

/-!
# `EPollPoller` and the kernel set

Any number of channels on one `EPollPoller` (`muduo/net/poller/EPollPoller.cc`), with the set that
`epoll_ctl(2)` maintains.  `updateChannel` adds the descriptor of a channel whose index is `kNew` or
`kDeleted` whatever its mask is; only for `kAdded` does it look at `isNoneEvent`.  So the kernel set
follows the channels as long as no update leaves a channel without events that is not in the set
already.
-/

namespace NewFramework.Net

open NewFramework.Lib

/-- `EPOLL_CTL_ADD`, `EPOLL_CTL_MOD` and `EPOLL_CTL_DEL` -/
inductive EpollCtl where
  | add
  | mod
  | del
  deriving DecidableEq, Repr

/-- An `EPollPoller` with its channels `ι` and the kernel set of `epollfd_`: for a descriptor the
mask and the `data.ptr` of its `epoll_event`.  `refused` notes an `epoll_ctl` that failed without
ending the process. -/
@[ext]
structure EPollPoller (ι : Type) where
  channel : ι → Polled Index
  channels : Nat → Option ι
  kernel : Nat → Option (Mask × ι)
  refused : Bool

namespace EPollPoller

variable {ι : Type}

/-- Channels that no call has been made on yet. -/
def new : EPollPoller ι := ⟨fun _ => ⟨0, 0, .kNew⟩, fun _ => none, fun _ => none, false⟩

section Source

variable [DecidableEq ι]

def setEvents (s : EPollPoller ι) (i : ι) (events : Mask) : EPollPoller ι :=
  { s with channel := Function.update s.channel i { s.channel i with events := events } }

def setIndex (s : EPollPoller ι) (i : ι) (index : Index) : EPollPoller ι :=
  { s with channel := Function.update s.channel i { s.channel i with index := index } }

/-- `epoll_ctl(2)` on an open descriptor: `none` where it answers -1, with `EEXIST` or `ENOENT`. -/
def epollCtl (set : Nat → Option (Mask × ι)) (operation : EpollCtl) (fd : Nat)
    (event : Mask × ι) : Option (Nat → Option (Mask × ι)) :=
  match operation with
  | .add => if (set fd).isNone then some (Function.update set fd (some event)) else none
  | .mod => if (set fd).isSome then some (Function.update set fd (some event)) else none
  | .del => if (set fd).isSome then some (Function.update set fd none) else none

variable (fd : ι → Nat)

/-- `EPollPoller::update`.  `LOG_SYSFATAL` ends the process: `none`. -/
def update (s : EPollPoller ι) (operation : EpollCtl) (i : ι) : Option (EPollPoller ι) :=
  match epollCtl s.kernel operation (fd i) ((s.channel i).events, i) with
  | some kernel => some { s with kernel := kernel }
  | none => if operation = .del then some { s with refused := true } else none

/-- `EPollPoller::updateChannel`; `none` also where an assert fails. -/
def updateChannel (s : EPollPoller ι) (i : ι) : Option (EPollPoller ι) :=
  match (s.channel i).index with
  | .kNew =>
    if s.channels (fd i) = none then
      update fd (setIndex { s with channels := Function.update s.channels (fd i) (some i) } i
        .kAdded) .add i
    else none
  | .kDeleted =>
    if s.channels (fd i) = some i then update fd (s.setIndex i .kAdded) .add i else none
  | .kAdded =>
    if s.channels (fd i) = some i then
      if (s.channel i).events = kNoneEvent then
        (update fd s .del i).map fun s => s.setIndex i .kDeleted
      else update fd s .mod i
    else none

/-- `EPollPoller::removeChannel` -/
def removeChannel (s : EPollPoller ι) (i : ι) : Option (EPollPoller ι) :=
  if s.channels (fd i) = some i ∧ (s.channel i).events = kNoneEvent ∧
      (s.channel i).index ≠ .kNew then
    let erased := { s with channels := Function.update s.channels (fd i) none }
    (if (s.channel i).index = .kAdded then update fd erased .del i else some erased).map
      fun s => s.setIndex i .kNew
  else none

/-- An operation of a channel, in a process that may have ended at an assert or at
`LOG_SYSFATAL` (`none`).  `remove` is called on a channel without events only. -/
def step : Option (EPollPoller ι) → ι × ChannelOp → Option (Option (EPollPoller ι))
  | none, _ => none
  | some s, (i, op) =>
    if op = .remove then
      if (s.channel i).events = kNoneEvent then some (removeChannel fd s i) else none
    else some (updateChannel fd (s.setEvents i (op.mask (s.channel i).events)) i)

end Source

/-! ## What the kernel set should be -/

variable (fd : ι → Nat)

/-- No `epoll_ctl` has failed and the kernel set is that of the masks: a channel with events is
in it with its mask, nothing else is, and `kAdded` marks the channels in it. -/
structure Mirrors (s : EPollPoller ι) : Prop where
  accepted : s.refused = false
  listed : ∀ i, (s.channel i).events ≠ kNoneEvent →
    s.kernel (fd i) = some ((s.channel i).events, i)
  entry : ∀ d m i, s.kernel d = some (m, i) →
    d = fd i ∧ m = (s.channel i).events ∧ m ≠ kNoneEvent
  added : ∀ i, (s.channel i).index = .kAdded ↔ ∃ m, s.kernel (fd i) = some (m, i)

/-- `Mirrors`, in a process that goes on. -/
def MirrorsRunning (s : Option (EPollPoller ι)) : Prop := ∃ p, s = some p ∧ Mirrors fd p

/-- The operations that `updateChannel` and `removeChannel` are made for: an update leaves
events, or finds the channel in the kernel set; the first one finds no other channel of the
descriptor; and only a channel that has been updated is removed. -/
def Fits : Option (EPollPoller ι) → ι × ChannelOp → Prop
  | none, _ => True
  | some s, (i, op) =>
    match (s.channel i).index with
    | .kNew => op ≠ .remove ∧ op.mask (s.channel i).events ≠ kNoneEvent ∧
        s.channels (fd i) = none
    | .kDeleted => op ≠ .remove → op.mask (s.channel i).events ≠ kNoneEvent
    | .kAdded => True

/-- What the operations keep: `channels_` holds the channels that are not new under their
descriptors, the kernel set those of `kAdded`, which are the ones with events. -/
structure Coherent (s : EPollPoller ι) : Prop where
  accepted : s.refused = false
  mapped : ∀ d i, s.channels d = some i ↔ d = fd i ∧ (s.channel i).index ≠ .kNew
  kernel : ∀ d m i, s.kernel d = some (m, i) ↔
    d = fd i ∧ m = (s.channel i).events ∧ (s.channel i).index = .kAdded
  quiet : ∀ i, (s.channel i).index = .kAdded ↔ (s.channel i).events ≠ kNoneEvent

variable {fd}

theorem coherent_new : Coherent fd (new : EPollPoller ι) where
  accepted := rfl
  mapped := by simp [new]
  kernel := by simp [new]
  quiet := by simp [new, kNoneEvent]

theorem Coherent.mirrors {s : EPollPoller ι} (coherent : Coherent fd s) : Mirrors fd s where
  accepted := coherent.accepted
  listed := by
    intro i events
    exact (coherent.kernel _ _ _).mpr ⟨rfl, rfl, (coherent.quiet i).mpr events⟩
  entry := by
    intro d m i there
    obtain ⟨at_fd, mask, added⟩ := (coherent.kernel _ _ _).mp there
    exact ⟨at_fd, mask, mask ▸ (coherent.quiet i).mp added⟩
  added := by
    intro i
    constructor
    · intro added
      exact ⟨_, (coherent.kernel _ _ _).mpr ⟨rfl, rfl, added⟩⟩
    · rintro ⟨m, there⟩
      exact ((coherent.kernel _ _ _).mp there).2.2

variable (fd) in
/-- The place of a descriptor in `channels_` is the channel's own or nobody's. -/
def Owns (s : EPollPoller ι) (i : ι) : Prop :=
  ∀ j, s.channels (fd i) = some j → j = i

/-- A channel that is not new holds its place in `channels_`. -/
theorem Coherent.mapped_self {s : EPollPoller ι} {i : ι} (coherent : Coherent fd s)
    (index : (s.channel i).index ≠ .kNew) : s.channels (fd i) = some i :=
  (coherent.mapped _ _).mpr ⟨rfl, index⟩

theorem Coherent.kernel_self {s : EPollPoller ι} {i : ι} (coherent : Coherent fd s)
    (index : (s.channel i).index = .kAdded) :
    s.kernel (fd i) = some ((s.channel i).events, i) :=
  (coherent.kernel _ _ _).mpr ⟨rfl, rfl, index⟩

/-- The kernel has nothing for a descriptor whose place in `channels_` is free, or held by a
channel that is not added. -/
theorem Coherent.kernel_none {s : EPollPoller ι} {i : ι} (coherent : Coherent fd s)
    (owns : Owns fd s i) (index : (s.channel i).index ≠ .kAdded) :
    s.kernel (fd i) = none := by
  cases there : s.kernel (fd i) with
  | none => rfl
  | some entry =>
    obtain ⟨m, j⟩ := entry
    obtain ⟨same, -, added⟩ := (coherent.kernel _ _ _).mp there
    have mapped : s.channels (fd i) = some j :=
      (coherent.mapped _ _).mpr ⟨same, by rw [added]; decide⟩
    obtain rfl := owns j mapped
    exact absurd added index

theorem owns_of_mapped {s : EPollPoller ι} {i : ι} (mapped : s.channels (fd i) = some i) :
    Owns fd s i := by
  intro j other
  exact (Option.some.inj (mapped.symm.trans other)).symm

theorem owns_of_free {s : EPollPoller ι} {i : ι} (free : s.channels (fd i) = none) :
    Owns fd s i := by
  intro j other
  rw [free] at other
  exact absurd other (by simp)

/-! ## One channel at a time -/

variable [DecidableEq ι]

variable (fd) in
/-- The state with the fields of one channel, its place in `channels_` and its entry in the
kernel set replaced by those of `c`. -/
def put (s : EPollPoller ι) (i : ι) (c : Polled Index) : EPollPoller ι where
  channel := Function.update s.channel i c
  channels := Function.update s.channels (fd i) (if c.index = .kNew then none else some i)
  kernel := Function.update s.kernel (fd i) (if c.index = .kAdded then some (c.events, i) else none)
  refused := s.refused

/-- The one lemma about the whole population: changing a channel that owns its descriptor leaves
the others as they were. -/
theorem Coherent.put {s : EPollPoller ι} {i : ι} {c : Polled Index} (coherent : Coherent fd s)
    (owns : Owns fd s i) (quiet : c.index = .kAdded ↔ c.events ≠ kNoneEvent) :
    Coherent fd (s.put fd i c) where
  accepted := coherent.accepted
  mapped := by
    intro d j
    simp only [EPollPoller.put, Function.update_apply]
    by_cases here : d = fd i
    · by_cases self : j = i
      · subst self
        by_cases fresh : c.index = .kNew <;> simp [here, fresh]
      · have others : s.channels (fd i) ≠ some j := fun mapped => self (owns j mapped)
        have unmapped : ¬(fd i = fd j ∧ (s.channel j).index ≠ .kNew) :=
          fun mapped => others ((coherent.mapped _ _).mpr mapped)
        rw [if_pos here, if_neg self, here]
        by_cases fresh : c.index = .kNew <;> simp [fresh, unmapped, Ne.symm self]
    · rw [if_neg here, coherent.mapped]
      by_cases self : j = i
      · subst self
        simp [here]
      · rw [if_neg self]
  kernel := by
    intro d m j
    simp only [EPollPoller.put, Function.update_apply]
    by_cases here : d = fd i
    · by_cases self : j = i
      · subst self
        by_cases added : c.index = .kAdded <;> simp [here, added, eq_comm]
      · have absent : ¬(fd i = fd j ∧ m = (s.channel j).events ∧ (s.channel j).index = .kAdded) := by
          rintro ⟨same, -, added⟩
          have mapped : s.channels (fd i) = some j :=
            (coherent.mapped _ _).mpr ⟨same, by rw [added]; decide⟩
          exact self (owns j mapped)
        rw [if_pos here, if_neg self, here]
        by_cases added : c.index = .kAdded <;> simp [added, absent, Ne.symm self]
    · rw [if_neg here, coherent.kernel]
      by_cases self : j = i
      · subst self
        simp [here]
      · rw [if_neg self]
  quiet := by
    intro j
    simp only [EPollPoller.put, Function.update_apply]
    by_cases self : j = i
    · rw [if_pos self]
      exact quiet
    · rw [if_neg self]
      exact coherent.quiet j

/-! ## What an update and a removal come to -/

variable (fd) in
/-- The channel after an update to the mask `m`. -/
def updated (s : EPollPoller ι) (i : ι) (m : Mask) : EPollPoller ι :=
  s.put fd i ⟨m, (s.channel i).revents, if m = kNoneEvent then .kDeleted else .kAdded⟩

variable (fd) in
/-- The channel after its removal. -/
def removed (s : EPollPoller ι) (i : ι) : EPollPoller ι :=
  s.put fd i ⟨(s.channel i).events, (s.channel i).revents, .kNew⟩

theorem updateChannel_new {s : EPollPoller ι} {i : ι} {m : Mask} (coherent : Coherent fd s)
    (index : (s.channel i).index = .kNew) (free : s.channels (fd i) = none)
    (some_event : m ≠ kNoneEvent) :
    updateChannel fd (s.setEvents i m) i = some (s.updated fd i m) := by
  have absent : s.kernel (fd i) = none :=
    coherent.kernel_none (owns_of_free free) (by rw [index]; decide)
  simp [updateChannel, update, epollCtl, updated, EPollPoller.put, setEvents, setIndex, index, free,
    absent, some_event]

theorem updateChannel_deleted {s : EPollPoller ι} {i : ι} {m : Mask} (coherent : Coherent fd s)
    (index : (s.channel i).index = .kDeleted) (some_event : m ≠ kNoneEvent) :
    updateChannel fd (s.setEvents i m) i = some (s.updated fd i m) := by
  have mapped : s.channels (fd i) = some i := coherent.mapped_self (by rw [index]; decide)
  have absent : s.kernel (fd i) = none :=
    coherent.kernel_none (owns_of_mapped mapped) (by rw [index]; decide)
  have same : Function.update s.channels (fd i) (some i) = s.channels :=
    Function.update_eq_self_iff.mpr mapped.symm
  simp [updateChannel, update, epollCtl, updated, EPollPoller.put, setEvents, setIndex, index,
    mapped, absent, some_event, same]

theorem updateChannel_added {s : EPollPoller ι} {i : ι} {m : Mask} (coherent : Coherent fd s)
    (index : (s.channel i).index = .kAdded) :
    updateChannel fd (s.setEvents i m) i = some (s.updated fd i m) := by
  have mapped : s.channels (fd i) = some i := coherent.mapped_self (by rw [index]; decide)
  have present : s.kernel (fd i) = some ((s.channel i).events, i) := coherent.kernel_self index
  have same : Function.update s.channels (fd i) (some i) = s.channels :=
    Function.update_eq_self_iff.mpr mapped.symm
  by_cases none : m = kNoneEvent
  · simp [updateChannel, update, epollCtl, updated, EPollPoller.put, setEvents, setIndex, index,
      mapped, present, none, same]
  · simp [updateChannel, update, epollCtl, updated, EPollPoller.put, setEvents, index,
      mapped, present, none, same]

theorem removeChannel_registered {s : EPollPoller ι} {i : ι} (coherent : Coherent fd s)
    (index : (s.channel i).index ≠ .kNew) (none : (s.channel i).events = kNoneEvent) :
    removeChannel fd s i = some (s.removed fd i) := by
  have mapped : s.channels (fd i) = some i := coherent.mapped_self index
  have not_added : (s.channel i).index ≠ .kAdded :=
    fun added => (coherent.quiet i).mp added none
  have absent : s.kernel (fd i) = Option.none :=
    coherent.kernel_none (owns_of_mapped mapped) not_added
  have same : Function.update s.kernel (fd i) Option.none = s.kernel :=
    Function.update_eq_self_iff.mpr absent.symm
  simp [removeChannel, removed, EPollPoller.put, setIndex, mapped, none, index, not_added, same]

theorem coherent_updated {s : EPollPoller ι} {i : ι} {m : Mask} (coherent : Coherent fd s)
    (owns : Owns fd s i) : Coherent fd (s.updated fd i m) := by
  apply coherent.put owns
  by_cases none : m = kNoneEvent <;> simp [none]

theorem coherent_removed {s : EPollPoller ι} {i : ι} (coherent : Coherent fd s)
    (owns : Owns fd s i) (none : (s.channel i).events = kNoneEvent) :
    Coherent fd (s.removed fd i) := by
  apply coherent.put owns
  simp [none]

/-- A step that fits comes to `updated` or `removed`. -/
theorem step_fits {s : EPollPoller ι} {i : ι} {op : ChannelOp} {s' : Option (EPollPoller ι)}
    (coherent : Coherent fd s) (fits : Fits fd (some s) (i, op))
    (moved : step fd (some s) (i, op) = some s') :
    Owns fd s i ∧
      ((op = .remove ∧ (s.channel i).events = kNoneEvent ∧ s' = some (s.removed fd i)) ∨
        (op ≠ .remove ∧ s' = some (s.updated fd i (op.mask (s.channel i).events)))) := by
  simp only [Fits] at fits
  by_cases removal : op = .remove
  · simp only [step, if_pos removal] at moved
    obtain ⟨none, rfl⟩ := some_of_guard moved
    have index : (s.channel i).index ≠ .kNew := by
      intro fresh
      rw [fresh] at fits
      exact fits.1 removal
    exact ⟨owns_of_mapped (coherent.mapped_self index),
      .inl ⟨removal, none, removeChannel_registered coherent index none⟩⟩
  · simp only [step, if_neg removal, Option.some.injEq] at moved
    subst moved
    cases index : (s.channel i).index with
    | kNew =>
      rw [index] at fits
      obtain ⟨-, some_event, free⟩ := fits
      exact ⟨owns_of_free free,
        .inr ⟨removal, updateChannel_new coherent index free some_event⟩⟩
    | kDeleted =>
      rw [index] at fits
      have mapped := coherent.mapped_self (i := i) (by rw [index]; decide)
      exact ⟨owns_of_mapped mapped,
        .inr ⟨removal, updateChannel_deleted coherent index (fits removal)⟩⟩
    | kAdded =>
      have mapped := coherent.mapped_self (i := i) (by rw [index]; decide)
      exact ⟨owns_of_mapped mapped, .inr ⟨removal, updateChannel_added coherent index⟩⟩

variable (fd) in
/-- `Coherent`, in a process that goes on. -/
def CoherentRunning (s : Option (EPollPoller ι)) : Prop := ∃ p, s = some p ∧ Coherent fd p

/-- What a step that fits keeps. -/
theorem coherent_step {s s' : Option (EPollPoller ι)} {a : ι × ChannelOp}
    (running : CoherentRunning fd s) (fits : Fits fd s a) (moved : step fd s a = some s') :
    CoherentRunning fd s' := by
  obtain ⟨p, rfl, coherent⟩ := running
  obtain ⟨i, op⟩ := a
  obtain ⟨owns, ⟨-, none, rfl⟩ | ⟨-, rfl⟩⟩ := step_fits coherent fits moved
  · exact ⟨_, rfl, coherent_removed coherent owns none⟩
  · exact ⟨_, rfl, coherent_updated coherent owns⟩

/-! ## The other operations -/

/-- An update outside `kAdded` ends with the channel added, whatever its mask. -/
theorem updateChannel_adds {s p : EPollPoller ι} {i : ι} (index : (s.channel i).index ≠ .kAdded)
    (updated : updateChannel fd s i = some p) :
    (p.channel i).index = .kAdded ∧ (p.channel i).events = (s.channel i).events ∧
      ((s.channel i).index = .kNew → s.channels (fd i) = none) := by
  have by_ctl : ∀ {q : EPollPoller ι}, update fd q .add i = some p → p.channel = q.channel := by
    intro q added
    simp only [update, reduceCtorEq, if_false] at added
    split at added
    · exact Option.some.inj added ▸ rfl
    · exact absurd added (by simp)
  cases now : (s.channel i).index with
  | kNew =>
    simp only [updateChannel, now] at updated
    split at updated
    · next free =>
      rw [by_ctl updated]
      simp [setIndex, free]
    · exact absurd updated (by simp)
  | kDeleted =>
    simp only [updateChannel, now] at updated
    split at updated
    · rw [by_ctl updated]
      simp [setIndex]
    · exact absurd updated (by simp)
  | kAdded => exact absurd now index

/-- Only the operations that fit leave a kernel set that mirrors the channels. -/
theorem fits_of_mirrors {s s' : Option (EPollPoller ι)} {a : ι × ChannelOp}
    (running : CoherentRunning fd s) (moved : step fd s a = some s')
    (mirrors : MirrorsRunning fd s') : Fits fd s a := by
  obtain ⟨p, rfl, coherent⟩ := running
  obtain ⟨p', rfl, mirrors⟩ := mirrors
  obtain ⟨i, op⟩ := a
  have events : (p'.channel i).index = .kAdded → (p'.channel i).events ≠ kNoneEvent := by
    intro added
    obtain ⟨m, there⟩ := (mirrors.added i).mp added
    obtain ⟨-, mask, some_event⟩ := mirrors.entry _ _ _ there
    exact mask ▸ some_event
  by_cases removal : op = .remove
  · subst removal
    simp only [step, if_true] at moved
    obtain ⟨-, removed⟩ := some_of_guard moved
    simp only [removeChannel] at removed
    split at removed
    · next registered =>
      simp only [Fits]
      cases index : (p.channel i).index with
      | kNew => exact absurd index registered.2.2
      | kDeleted => exact fun update => absurd rfl update
      | kAdded => trivial
    · exact absurd removed (by simp)
  · simp only [step, if_neg removal, Option.some.injEq] at moved
    simp only [Fits]
    cases index : (p.channel i).index with
    | kNew =>
      obtain ⟨added, mask, free⟩ := updateChannel_adds (by simp [setEvents, index]) moved
      have mask' : (p'.channel i).events = op.mask (p.channel i).events := by
        simpa [setEvents] using mask
      exact ⟨removal, mask' ▸ events added, free (by simp [setEvents, index])⟩
    | kDeleted =>
      obtain ⟨added, mask, -⟩ := updateChannel_adds (by simp [setEvents, index]) moved
      have mask' : (p'.channel i).events = op.mask (p.channel i).events := by
        simpa [setEvents] using mask
      exact fun _ => mask' ▸ events added
    | kAdded => trivial

/-! ## Runs -/

variable (fd) in
/-- The kernel set mirrors the channels all along a sequence of operations, and none of them
fails, iff each operation fits where it is made. -/
theorem mirrors_iff_fits (ops : List (ι × ChannelOp)) :
    Always (step fd) (MirrorsRunning fd) (some new) ops ↔
      EachStep (step fd) (fun s a _ => Fits fd s a) (some new) ops := by
  have start : CoherentRunning fd (some (new : EPollPoller ι)) := ⟨_, rfl, coherent_new⟩
  have mirrors : ∀ {s : Option (EPollPoller ι)}, CoherentRunning fd s → MirrorsRunning fd s := by
    rintro s ⟨p, rfl, coherent⟩
    exact ⟨p, rfl, coherent.mirrors⟩
  have steps : EachStep (step fd) (fun _ _ s' => MirrorsRunning fd s') (some new) ops ↔
      EachStep (step fd) (fun s a _ => Fits fd s a) (some new) ops := by
    apply EachStep.iff_of_invariant _ _ start
    · intro s a s' running fits moved
      have running' := coherent_step running fits moved
      exact ⟨running', mirrors running'⟩
    · intro s a s' running moved after
      exact fits_of_mirrors running moved after
  constructor
  · intro always
    exact steps.mp always.2
  · intro fits
    exact ⟨mirrors start, steps.mpr fits⟩

/-- `disableAll` on a channel that was never updated, as the destructor of an `Acceptor` that
never listened does: the descriptor is added to the kernel set with no events. -/
theorem disableAll_new_adds :
    ¬Always (step fun _ : Unit => 3) (MirrorsRunning fun _ => 3) (some new)
      [((), .disableAll)] := by
  intro always
  obtain ⟨p, reached, mirrors⟩ := (always.2 _ rfl).1
  obtain rfl := Option.some.inj reached
  have events : kNoneEvent ≠ kNoneEvent := (mirrors.entry 3 kNoneEvent () rfl).2.2
  exact events rfl

/-! ## The single channel -/

variable (fd) in
/-- A channel with what the poller and the kernel hold for it. -/
def view (s : EPollPoller ι) (i : ι) : Channel where
  events := (s.channel i).events
  revents := (s.channel i).revents
  index := (s.channel i).index
  mapped := s.channels (fd i) = some i
  interest := (s.kernel (fd i)).bind fun entry => if entry.2 = i then some entry.1 else none

/-- Every channel of a coherent poller is registered as it should be. -/
theorem Coherent.registered {s : EPollPoller ι} (coherent : Coherent fd s) (i : ι) :
    (s.view fd i).Registered where
  added := by
    constructor
    · intro there
      obtain ⟨m, found⟩ := Option.ne_none_iff_exists'.mp there
      obtain ⟨⟨m', j⟩, entry, mine⟩ := Option.bind_eq_some_iff.mp found
      obtain ⟨same, -⟩ := Option.ite_none_right_eq_some.mp mine
      obtain rfl : j = i := same
      exact ((coherent.kernel _ _ _).mp entry).2.2
    · intro added
      simp [view, coherent.kernel_self added]
  deleted := by
    intro index
    by_contra events
    exact index ((coherent.quiet i).mpr events)

/-- The others do not see an operation on a channel that owns its descriptor. -/
theorem view_put_other {s : EPollPoller ι} {i j : ι} {c : Polled Index} (coherent : Coherent fd s)
    (owns : Owns fd s i) (other : j ≠ i) : (s.put fd i c).view fd j = s.view fd j := by
  by_cases same : fd j = fd i
  · have unmapped : s.channels (fd i) ≠ some j := fun mapped => other (owns j mapped)
    have fresh : (s.channel j).index = .kNew := by
      by_contra index
      exact unmapped (same ▸ coherent.mapped_self index)
    have absent : ∀ m, s.kernel (fd i) ≠ some (m, j) := by
      intro m there
      obtain ⟨-, -, added⟩ := (coherent.kernel _ _ _).mp there
      rw [fresh] at added
      exact absurd added (by decide)
    have unlisted : ((s.kernel (fd i)).bind fun entry =>
        if entry.2 = j then some entry.1 else none) = none := by
      cases there : s.kernel (fd i) with
      | none => rfl
      | some entry =>
        have theirs : entry.2 ≠ j := fun mine => absent entry.1 (by rw [there, ← mine])
        simp [theirs]
    simp only [view, EPollPoller.put, Function.update_of_ne other, same, Function.update_self,
      unlisted, unmapped]
    by_cases added : c.index = .kAdded <;> by_cases gone : c.index = .kNew <;>
      simp_all [Ne.symm other]
  · simp [view, EPollPoller.put, other, same]

theorem view_put_self {s : EPollPoller ι} {i : ι} {c : Polled Index} :
    (s.put fd i c).view fd i =
      ⟨c.events, c.revents, c.index, c.index ≠ .kNew,
        if c.index = .kAdded then some c.events else none⟩ := by
  by_cases added : c.index = .kAdded
  · simp [view, EPollPoller.put, added]
  · by_cases gone : c.index = .kNew <;> simp [view, EPollPoller.put, added, gone]

/-- What an update that fits does to its own channel. -/
theorem view_updated {s : EPollPoller ι} {i : ι} {op : ChannelOp} (coherent : Coherent fd s)
    (update : op ≠ .remove) (fits : Fits fd (some s) (i, op)) :
    (s.updated fd i (op.mask (s.channel i).events)).view fd i = op.apply (s.view fd i) := by
  rw [updated, view_put_self, ChannelOp.apply_update update]
  simp only [Fits] at fits
  cases index : (s.channel i).index with
  | kNew =>
    rw [index] at fits
    simp [Channel.updateChannel, view, index, fits.2.1]
  | kDeleted =>
    rw [index] at fits
    have mapped := coherent.mapped_self (i := i) (by rw [index]; decide)
    simp [Channel.updateChannel, view, index, fits update, mapped]
  | kAdded =>
    have mapped := coherent.mapped_self (i := i) (by rw [index]; decide)
    by_cases none : op.mask (s.channel i).events = kNoneEvent <;>
      simp [Channel.updateChannel, Channel.isNoneEvent, view, index, mapped, none]

theorem view_removed {s : EPollPoller ι} {i : ι} (coherent : Coherent fd s) :
    (s.removed fd i).view fd i = (s.view fd i).removeChannel := by
  have interest := Channel.interest_removeChannel (coherent.registered i)
  simp only [Channel.removeChannel] at interest
  rw [removed, view_put_self, Channel.removeChannel, interest]
  simp [view]

/-- The poller works on each channel as on a single one: an operation that fits is the
operation of `Channel` on its own channel and nothing to the others. -/
theorem view_step {s p : EPollPoller ι} {i : ι} {op : ChannelOp} (coherent : Coherent fd s)
    (fits : Fits fd (some s) (i, op)) (moved : step fd (some s) (i, op) = some (some p)) (j : ι) :
    p.view fd j = if j = i then op.apply (s.view fd i) else s.view fd j := by
  obtain ⟨owns, step⟩ := step_fits coherent fits moved
  by_cases self : j = i
  · subst self
    rw [if_pos rfl]
    obtain ⟨rfl, none, reached⟩ | ⟨update, reached⟩ := step
    · obtain rfl := Option.some.inj reached
      exact view_removed coherent
    · obtain rfl := Option.some.inj reached
      exact view_updated coherent update fits
  · rw [if_neg self]
    obtain ⟨-, -, reached⟩ | ⟨-, reached⟩ := step
    · obtain rfl := Option.some.inj reached
      exact view_put_other coherent owns self
    · obtain rfl := Option.some.inj reached
      exact view_put_other coherent owns self

end EPollPoller

end NewFramework.Net
