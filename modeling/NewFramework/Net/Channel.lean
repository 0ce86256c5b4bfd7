import Mathlib.Tactic.Common

/-!
# `Channel` and its place in an `EPollPoller`

From `muduo/net/Channel.h` and `muduo/net/Channel.cc`: the event mask of one descriptor, and what
the poller of its loop and the kernel hold for it.  `Channel::update` goes through
`EPollPoller::updateChannel`, which takes the descriptor out of the kernel set when the mask is
none, and puts it back at the next update, whatever the mask is then.
-/

namespace NewFramework.Net

/-- A set of events of `poll(2)`, an `int`. -/
abbrev Mask := BitVec 32

def pollIn : Mask := 0x01
def pollPri : Mask := 0x02
def pollOut : Mask := 0x04
def pollErr : Mask := 0x08
def pollHup : Mask := 0x10
def pollNval : Mask := 0x20
def pollRdHup : Mask := 0x2000

def kNoneEvent : Mask := 0
def kReadEvent : Mask := pollIn ||| pollPri
def kWriteEvent : Mask := pollOut

/-- `mask & events` as a condition. -/
def Mask.meets (mask events : Mask) : Bool := mask &&& events ≠ 0

/-- `Channel::index_`, as `EPollPoller` uses it. -/
inductive Index where
  | kNew
  | kAdded
  | kDeleted
  deriving DecidableEq, Repr

/-- A `Channel`, with what its `EPollPoller` holds for the descriptor: `mapped` is its place in
`channels_`, `interest` the mask in the kernel set. -/
structure Channel where
  events : Mask
  revents : Mask
  index : Index
  mapped : Bool
  interest : Option Mask
  deriving DecidableEq

namespace Channel

/-- The constructor. -/
def new : Channel := ⟨0, 0, .kNew, false, none⟩

def isNoneEvent (c : Channel) : Bool := c.events = kNoneEvent
def isWriting (c : Channel) : Bool := c.events.meets kWriteEvent
def isReading (c : Channel) : Bool := c.events.meets kReadEvent

/-- `EPollPoller::updateChannel`, where `epoll_ctl` succeeds. -/
def updateChannel (c : Channel) : Channel :=
  match c.index with
  | .kNew => { c with mapped := true, index := .kAdded, interest := some c.events }
  | .kDeleted => { c with index := .kAdded, interest := some c.events }
  | .kAdded =>
    if c.isNoneEvent then { c with interest := none, index := .kDeleted }
    else { c with interest := some c.events }

/-- `EPollPoller::removeChannel` -/
def removeChannel (c : Channel) : Channel :=
  { c with
    mapped := false
    interest := if c.index = .kAdded then none else c.interest
    index := .kNew }

def enableReading (c : Channel) : Channel :=
  { c with events := c.events ||| kReadEvent }.updateChannel

def disableReading (c : Channel) : Channel :=
  { c with events := c.events &&& ~~~kReadEvent }.updateChannel

def enableWriting (c : Channel) : Channel :=
  { c with events := c.events ||| kWriteEvent }.updateChannel

def disableWriting (c : Channel) : Channel :=
  { c with events := c.events &&& ~~~kWriteEvent }.updateChannel

def disableAll (c : Channel) : Channel := { c with events := kNoneEvent }.updateChannel

/-- The callbacks of a channel. -/
inductive Callback where
  | close
  | error
  | read
  | write
  deriving DecidableEq, Repr

/-- The conditions of `handleEventWithGuard`. -/
def wants (c : Channel) : Callback → Bool
  | .close => c.revents.meets pollHup && !c.revents.meets pollIn
  | .error => c.revents.meets (pollErr ||| pollNval)
  | .read => c.revents.meets (pollIn ||| pollPri ||| pollRdHup)
  | .write => c.revents.meets pollOut

/-- The callbacks `handleEventWithGuard` comes to, in order. -/
def callbacks (c : Channel) : List Callback := [.close, .error, .read, .write].filter c.wants

/-! ## Masks -/

@[simp] theorem updateChannel_events (c : Channel) : c.updateChannel.events = c.events := by
  unfold updateChannel
  split <;> try split
  all_goals rfl

@[simp] theorem updateChannel_revents (c : Channel) : c.updateChannel.revents = c.revents := by
  unfold updateChannel
  split <;> try split
  all_goals rfl

@[simp] theorem enableReading_revents (c : Channel) : c.enableReading.revents = c.revents :=
  updateChannel_revents _

@[simp] theorem disableReading_revents (c : Channel) : c.disableReading.revents = c.revents :=
  updateChannel_revents _

@[simp] theorem enableWriting_revents (c : Channel) : c.enableWriting.revents = c.revents :=
  updateChannel_revents _

@[simp] theorem disableWriting_revents (c : Channel) : c.disableWriting.revents = c.revents :=
  updateChannel_revents _

@[simp] theorem disableAll_revents (c : Channel) : c.disableAll.revents = c.revents :=
  updateChannel_revents _

@[simp] theorem disableAll_events (c : Channel) : c.disableAll.events = kNoneEvent :=
  updateChannel_events _

@[simp] theorem isWriting_enableReading (c : Channel) :
    c.enableReading.isWriting = c.isWriting := by
  have apart : kReadEvent &&& kWriteEvent = 0#32 := by decide
  simp only [enableReading, isWriting, updateChannel_events, Mask.meets,
    BitVec.and_or_distrib_right, apart, BitVec.or_zero]

@[simp] theorem isWriting_disableReading (c : Channel) :
    c.disableReading.isWriting = c.isWriting := by
  have apart : ~~~kReadEvent &&& kWriteEvent = kWriteEvent := by decide
  simp only [disableReading, isWriting, updateChannel_events, Mask.meets, BitVec.and_assoc, apart]

@[simp] theorem isWriting_enableWriting (c : Channel) : c.enableWriting.isWriting = true := by
  have some_event : kWriteEvent &&& kWriteEvent ≠ 0#32 := by decide
  simp only [enableWriting, isWriting, updateChannel_events, Mask.meets,
    BitVec.and_or_distrib_right, decide_eq_true_eq]
  intro none
  exact some_event (BitVec.or_eq_zero_iff.mp none).2

@[simp] theorem isWriting_disableWriting (c : Channel) : c.disableWriting.isWriting = false := by
  have apart : ~~~kWriteEvent &&& kWriteEvent = 0#32 := by decide
  simp only [disableWriting, isWriting, updateChannel_events, Mask.meets, BitVec.and_assoc, apart,
    BitVec.and_zero]
  rfl

@[simp] theorem isWriting_disableAll (c : Channel) : c.disableAll.isWriting = false := by
  simp [disableAll, isWriting, Mask.meets, kNoneEvent]

theorem enableReading_events_ne (c : Channel) : c.enableReading.events ≠ kNoneEvent := by
  intro none
  simp only [enableReading, updateChannel_events, kNoneEvent, BitVec.ofNat_eq_ofNat,
    BitVec.or_eq_zero_iff] at none
  exact absurd none.2 (by decide)

theorem disableReading_events_none {c : Channel} (none : c.events = kNoneEvent) :
    c.disableReading.events = kNoneEvent := by
  simp [disableReading, none, kNoneEvent]

/-- A channel without events is not being read. -/
theorem isReading_none {c : Channel} (none : c.events = kNoneEvent) : c.isReading = false := by
  simp [isReading, Mask.meets, none, kNoneEvent]

theorem isWriting_none {c : Channel} (none : c.events = kNoneEvent) : c.isWriting = false := by
  simp [isWriting, Mask.meets, none, kNoneEvent]

/-- What `handleEventWithGuard` calls depends on the reported events only. -/
theorem wants_congr {c c' : Channel} (same : c'.revents = c.revents) (callback : Callback) :
    c'.wants callback = c.wants callback := by
  cases callback <;> simp only [wants, same]

/-! ## The kernel set -/

/-- What `updateChannel` keeps: a descriptor is in the kernel set iff the channel is marked as
added, and a channel that is not in it has no events. -/
structure Registered (c : Channel) : Prop where
  added : c.interest ≠ none ↔ c.index = .kAdded
  deleted : c.index ≠ .kAdded → c.events = kNoneEvent

/-- `disableAll` takes a channel with events out of the kernel set. -/
theorem interest_disableAll {c : Channel} (added : c.index = .kAdded) :
    c.disableAll.interest = none := by
  simp [disableAll, updateChannel, added, isNoneEvent]

theorem interest_removeChannel {c : Channel} (registered : Registered c) :
    c.removeChannel.interest = none := by
  unfold removeChannel
  dsimp only
  split
  · rfl
  · next other =>
    by_contra there
    exact other (registered.added.mp there)

end Channel

end NewFramework.Net
