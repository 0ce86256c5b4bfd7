import NewFramework.Net.Channel

/-!
# What a poller sees of its channels

Both pollers (`muduo/net/Poller.h`) keep `channels_`, a map from descriptors to channels, and use
`index_` of a `Channel` as they like.  The operations of `Channel` reach them through
`updateChannel` and `removeChannel`, the mask already changed.
-/

namespace NewFramework.Net

/-- The fields of a `Channel` that its poller reads and writes; the values of `index_` are the
poller's own. -/
structure Polled (τ : Type) where
  events : Mask
  revents : Mask
  index : τ
  deriving DecidableEq, Repr

/-- The operations of a `Channel` that reach the poller of its loop. -/
inductive ChannelOp where
  | enableReading
  | disableReading
  | enableWriting
  | disableWriting
  | disableAll
  | remove
  deriving DecidableEq, Repr

namespace ChannelOp

/-- What an operation does to `events_` before it calls `update` or `remove`. -/
def mask : ChannelOp → Mask → Mask
  | .enableReading, events => events ||| kReadEvent
  | .disableReading, events => events &&& ~~~kReadEvent
  | .enableWriting, events => events ||| kWriteEvent
  | .disableWriting, events => events &&& ~~~kWriteEvent
  | .disableAll, _ => kNoneEvent
  | .remove, events => events

/-- The masks a channel can have. -/
def masks : List Mask := [kNoneEvent, kReadEvent, kWriteEvent, kReadEvent ||| kWriteEvent]

theorem mask_mem {m : Mask} (op : ChannelOp) (known : m ∈ masks) : op.mask m ∈ masks := by
  simp only [masks, List.mem_cons, List.not_mem_nil, or_false] at known ⊢
  rcases known with rfl | rfl | rfl | rfl <;> cases op <;> decide

/-- A mask of a channel is a `short`. -/
theorem signExtend_masks {m : Mask} (known : m ∈ masks) :
    (m.setWidth 16).signExtend 32 = m := by
  simp only [masks, List.mem_cons, List.not_mem_nil, or_false] at known
  rcases known with rfl | rfl | rfl | rfl <;> decide

/-- The operation on the single channel. -/
def apply : ChannelOp → Channel → Channel
  | .enableReading, c => c.enableReading
  | .disableReading, c => c.disableReading
  | .enableWriting, c => c.enableWriting
  | .disableWriting, c => c.disableWriting
  | .disableAll, c => c.disableAll
  | .remove, c => c.removeChannel

/-- All operations but `remove` change the mask and call `update`. -/
theorem apply_update {op : ChannelOp} (update : op ≠ .remove) (c : Channel) :
    op.apply c = { c with events := op.mask c.events }.updateChannel := by
  cases op with
  | remove => exact absurd rfl update
  | enableReading => rfl
  | disableReading => rfl
  | enableWriting => rfl
  | disableWriting => rfl
  | disableAll => rfl

end ChannelOp

end NewFramework.Net
