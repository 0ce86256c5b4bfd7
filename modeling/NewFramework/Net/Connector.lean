import Mathlib.Data.List.Count
import NewFramework.Net.Channel
import NewFramework.Net.EventLoop

/-!
# `Connector`

The connect attempts of a client (`muduo/net/Connector.cpp`).  `start()` and `stop()` set `connect_`
in any thread and leave the rest to a functor, a failed attempt leaves a timer that starts the next
one, and a channel that is done with goes by a functor of its own, for it may be in `handleEvent`.
Nothing takes back a functor or a timer that is on its way: `startInLoop` may find an attempt under
way, or the channel of the last one.

The queue of the loop is the list of the functors of the connector in it, whose order is that of
the calls.  A failed `assert` sets `failed`.
-/

namespace NewFramework.Net
open NewFramework.Lib

namespace Connector

inductive States where
  | kDisconnected
  | kConnecting
  | kConnected
  deriving DecidableEq

/-- What `channel_` points to. -/
inductive ChannelPtr where
  | null
  /-- a channel in the poller -/
  | registered
  /-- one that `removeAndResetChannel` has taken out -/
  | removed
  deriving DecidableEq

inductive Functor where
  | startInLoop
  | stopInLoop
  | resetChannel
  deriving DecidableEq

/-- Where a thread is in a call. -/
inductive Stage where
  | idle
  /-- `start()` has set `connect_` -/
  | starting
  /-- `stop()` has -/
  | stopping
  deriving DecidableEq

/-- `savedErrno` of `connect` -/
inductive ConnectErrno where
  | ok
  | einprogress
  | eintr
  | eisconn
  | eagain
  | eaddrinuse
  | eaddrnotavail
  | econnrefused
  | enetunreach
  | eacces
  | eperm
  | eafnosupport
  | ealready
  | ebadf
  | efault
  | enotsock
  | other (code : Nat)
  deriving DecidableEq

def kMaxRetryDelayMs : Nat := 30 * 1000
def kInitRetryDelayMs : Nat := 500

end Connector

structure Connector where
  connect : Bool
  state : Connector.States
  channel : Connector.ChannelPtr
  retryDelayMs : Nat
  functors : List Connector.Functor
  /-- the delays of the timers of `retry` that have not expired -/
  timers : List Nat
  /-- `newConnectionCallback_` has the socket, and the connection has not been removed -/
  connection : Bool
  stage : Thread → Connector.Stage
  failed : Bool

namespace Connector

/-- The constructor. -/
def new : Connector where
  connect := false
  state := .kDisconnected
  channel := .null
  retryDelayMs := kInitRetryDelayMs
  functors := []
  timers := []
  connection := false
  stage _ := .idle
  failed := false

def assert (p : Prop) [Decidable p] (c : Connector) : Connector :=
  if p then c else { c with failed := true }

def queueInLoop (f : Functor) (c : Connector) : Connector :=
  { c with functors := c.functors ++ [f] }

/-- `retry(sockfd)` -/
def retry (c : Connector) : Connector :=
  let c := { c with state := .kDisconnected }
  if c.connect then
    { c with
      timers := c.timers ++ [c.retryDelayMs]
      retryDelayMs := min (c.retryDelayMs * 2) kMaxRetryDelayMs }
  else c

/-- `connecting(sockfd)` -/
def connecting (c : Connector) : Connector :=
  { ({ c with state := .kConnecting } : Connector).assert (c.channel = .null) with
    channel := .registered }

/-- `connect()` -/
def connectSocket (savedErrno : ConnectErrno) (c : Connector) : Connector :=
  match savedErrno with
  | .ok | .einprogress | .eintr | .eisconn => c.connecting
  | .eagain | .eaddrinuse | .eaddrnotavail | .econnrefused | .enetunreach => c.retry
  | _ => c

def startInLoop (savedErrno : ConnectErrno) (c : Connector) : Connector :=
  let c := c.assert (c.state = .kDisconnected)
  if c.connect then c.connectSocket savedErrno else c

/-- `removeAndResetChannel()`; it goes through `channel_`. -/
def removeAndResetChannel (c : Connector) : Connector :=
  { c.assert (c.channel ≠ ChannelPtr.null) with channel := .removed }.queueInLoop .resetChannel

def stopInLoop (c : Connector) : Connector :=
  if c.state = .kConnecting then
    ({ c with state := .kDisconnected } : Connector).removeAndResetChannel.retry
  else c

/-- `restart()` -/
def restart (savedErrno : ConnectErrno) (c : Connector) : Connector :=
  { c with
    state := .kDisconnected
    retryDelayMs := kInitRetryDelayMs
    connect := true }.startInLoop savedErrno

/-- `handleWrite()`, where the socket has an error or not, and is connected to itself or not. -/
def handleWrite (err selfConnect : Bool) (c : Connector) : Connector :=
  if c.state = .kConnecting then
    let c := c.removeAndResetChannel
    if err then c.retry
    else if selfConnect then c.retry
    else { c with state := .kConnected, connection := c.connect }
  else c.assert (c.state = .kDisconnected)

/-- `handleError()` -/
def handleError (c : Connector) : Connector :=
  if c.state = .kConnecting then c.removeAndResetChannel.retry else c

/-- `handleEvent` of the channel, which has these two callbacks only. -/
def handleEvent (revents : Mask) (err selfConnect : Bool) (c : Connector) : Connector :=
  let c := if revents.meets (pollErr ||| pollNval) then c.handleError else c
  if revents.meets pollOut then c.handleWrite err selfConnect else c

def callFunctor (savedErrno : ConnectErrno) (c : Connector) : Functor → Connector
  | .startInLoop => c.startInLoop savedErrno
  | .stopInLoop => c.stopInLoop
  | .resetChannel => { c with channel := .null }

def enter (t : Thread) (stage : Stage) (c : Connector) : Connector :=
  { c with stage := Function.update c.stage t stage }

inductive Act where
  | start (t : Thread)
  | stop (t : Thread)
  /-- a call runs or queues its functor -/
  | advance (t : Thread) (savedErrno : ConnectErrno)
  | callFunctor (savedErrno : ConnectErrno)
  /-- a timer of `retry` expires -/
  | timer (i : Nat) (savedErrno : ConnectErrno)
  | handleEvent (revents : Mask) (err selfConnect : Bool)
  /-- `TcpClient::removeConnection`, which restarts or does not -/
  | removeConnection (restart : Bool) (savedErrno : ConnectErrno)

/-- The loop thread is in no call. -/
def LoopIdle (c : Connector) : Prop := c.stage none = .idle

instance (c : Connector) : Decidable c.LoopIdle := inferInstanceAs (Decidable (_ = _))

def step (c : Connector) : Act → Option Connector
  | .start t =>
    if c.stage t = .idle then some ({ c with connect := true }.enter t .starting) else none
  | .stop t =>
    if c.stage t = .idle then some ({ c with connect := false }.enter t .stopping) else none
  | .advance t savedErrno =>
    match c.stage t with
    | .idle => none
    | .starting =>
      let c := c.enter t .idle
      some (if t = none then c.startInLoop savedErrno else c.queueInLoop .startInLoop)
    | .stopping => some ((c.enter t .idle).queueInLoop .stopInLoop)
  | .callFunctor savedErrno =>
    match c.functors with
    | [] => none
    | f :: rest =>
      if c.LoopIdle then some ({ c with functors := rest }.callFunctor savedErrno f) else none
  | .timer i savedErrno =>
    if i < c.timers.length ∧ c.LoopIdle then
      some ({ c with timers := c.timers.eraseIdx i }.startInLoop savedErrno)
    else none
  | .handleEvent revents err selfConnect =>
    if c.channel = .registered ∧ c.LoopIdle then some (c.handleEvent revents err selfConnect)
    else none
  | .removeConnection restart savedErrno =>
    -- an event of a later `poll` or a functor queued later closes it, and `resetChannel` has run
    if c.connection ∧ .resetChannel ∉ c.functors ∧ c.LoopIdle then
      let c := { c with connection := false }
      some (if restart then c.restart savedErrno else c)
    else none

/-- A step has called `newConnectionCallback_`. -/
def connects (before after : Connector) : Bool :=
  before.state = .kConnecting && after.state = .kConnected && after.connection

/-! ## What a step leaves -/

section Steps

variable {c c' : Connector} {a : Act}

theorem startInLoop_failed {savedErrno : ConnectErrno}
    (state : c.state ≠ .kDisconnected) : (c.startInLoop savedErrno).failed = true := by
  unfold startInLoop assert
  rw [if_neg state]
  dsimp only
  split
  · unfold connectSocket connecting retry assert
    cases savedErrno <;> dsimp only <;> split <;> rfl
  · rfl

theorem startInLoop_functors {savedErrno : ConnectErrno} :
    (c.startInLoop savedErrno).functors = c.functors := by
  have assert_functors (p : Prop) [Decidable p] (c : Connector) :
      (c.assert p).functors = c.functors := by
    unfold assert
    split <;> rfl
  unfold startInLoop
  dsimp only
  split
  · unfold connectSocket connecting retry
    cases savedErrno <;> dsimp only <;> (try split) <;> simp [assert_functors]
  · exact assert_functors ..

theorem assert_timers (p : Prop) [Decidable p] (c : Connector) :
    (c.assert p).timers = c.timers := by
  unfold assert
  split <;> rfl

theorem retry_timers (timers : c.timers ≠ []) : c.retry.timers ≠ [] := by
  unfold retry
  dsimp only
  split
  · simp
  · exact timers

theorem startInLoop_timers {savedErrno : ConnectErrno} (timers : c.timers ≠ []) :
    (c.startInLoop savedErrno).timers ≠ [] := by
  unfold startInLoop
  dsimp only
  split
  · unfold connectSocket connecting
    cases savedErrno <;> dsimp only
    case eagain | eaddrinuse | eaddrnotavail | econnrefused | enetunreach =>
      apply retry_timers
      rwa [assert_timers]
    all_goals simpa [assert_timers] using timers
  · rwa [assert_timers]

theorem removeAndResetChannel_timers :
    c.removeAndResetChannel.timers = c.timers := by
  simp [removeAndResetChannel, queueInLoop, assert_timers]

theorem handleEvent_timers {revents : Mask} {err selfConnect : Bool} (timers : c.timers ≠ []) :
    (c.handleEvent revents err selfConnect).timers ≠ [] := by
  have handleError {c : Connector} (timers : c.timers ≠ []) : c.handleError.timers ≠ [] := by
    unfold handleError
    split
    · apply retry_timers
      rwa [removeAndResetChannel_timers]
    · exact timers
  have handleWrite {c : Connector} (timers : c.timers ≠ []) :
      (c.handleWrite err selfConnect).timers ≠ [] := by
    unfold handleWrite
    have removed : c.removeAndResetChannel.timers ≠ [] := by
      rwa [removeAndResetChannel_timers]
    split
    · dsimp only
      split
      · exact retry_timers removed
      · split
        · exact retry_timers removed
        · exact removed
    · rwa [assert_timers]
  unfold handleEvent
  dsimp only
  by_cases error : revents.meets (pollErr ||| pollNval) <;> by_cases write : revents.meets pollOut
  all_goals simp only [error, write, if_true, if_false, Bool.false_eq_true]
  · exact handleWrite (handleError timers)
  · exact handleError timers
  · exact handleWrite timers
  · exact timers

theorem stopInLoop_timers (timers : c.timers ≠ []) : c.stopInLoop.timers ≠ [] := by
  unfold stopInLoop
  split
  · apply retry_timers
    rwa [removeAndResetChannel_timers]
  · exact timers

/-- The last timer goes where it expires, and no functor is queued then. -/
theorem step_timers (moved : c.step a = some c')
    (kept : ∀ restart e, a ≠ .removeConnection restart e)
    (timers : c.timers ≠ []) : c'.timers ≠ [] ∨
      (∃ i e, a = .timer i e) ∧ c.timers.length = 1 ∧ c'.functors = c.functors := by
  cases a with
  | start t | stop t =>
    obtain ⟨-, rfl⟩ := some_of_guard moved
    exact .inl timers
  | advance t savedErrno =>
    simp only [step] at moved
    split at moved
    · contradiction
    · obtain rfl := Option.some.inj moved
      split
      · exact .inl (startInLoop_timers timers)
      · exact .inl timers
    · obtain rfl := Option.some.inj moved
      exact .inl timers
  | callFunctor savedErrno =>
    simp only [step] at moved
    split at moved
    · contradiction
    · next f rest _ =>
      obtain ⟨-, rfl⟩ := some_of_guard moved
      cases f with
      | startInLoop => exact .inl (startInLoop_timers (c := { c with functors := rest }) timers)
      | stopInLoop => exact .inl (stopInLoop_timers (c := { c with functors := rest }) timers)
      | resetChannel => exact .inl timers
  | timer i savedErrno =>
    obtain ⟨⟨inside, -⟩, rfl⟩ := some_of_guard moved
    by_cases last : c.timers.eraseIdx i = []
    · refine .inr ⟨⟨i, savedErrno, rfl⟩, ?_, startInLoop_functors⟩
      have length := congrArg List.length last
      rw [List.length_eraseIdx_of_lt inside, List.length_nil] at length
      omega
    · exact .inl (startInLoop_timers (c := { c with timers := c.timers.eraseIdx i }) last)
  | handleEvent revents err selfConnect =>
    obtain ⟨-, rfl⟩ := some_of_guard moved
    exact .inl (handleEvent_timers timers)
  | removeConnection restart savedErrno => exact absurd rfl (kept restart savedErrno)

/-- Where the socket has been handed out, no assertion lets another attempt begin. -/
theorem step_connected (moved : c.step a = some c')
    (kept : ∀ restart e, a ≠ .removeConnection restart e) (connected : c.state = .kConnected)
    (asserts : c'.failed = false) : c'.state = .kConnected := by
  have fails {c : Connector} (savedErrno) (state : c.state = .kConnected) :
      (c.startInLoop savedErrno).failed ≠ false := by
    rw [startInLoop_failed (by rw [state]; nofun)]
    nofun
  cases a with
  | start t | stop t =>
    obtain ⟨-, rfl⟩ := some_of_guard moved
    exact connected
  | advance t savedErrno =>
    simp only [step] at moved
    split at moved
    · contradiction
    · obtain rfl := Option.some.inj moved
      split at asserts
      · exact absurd asserts (fails savedErrno connected)
      · next other =>
        rw [if_neg other]
        exact connected
    · obtain rfl := Option.some.inj moved
      exact connected
  | callFunctor savedErrno =>
    simp only [step] at moved
    split at moved
    · contradiction
    · next f rest _ =>
      obtain ⟨-, rfl⟩ := some_of_guard moved
      cases f with
      | startInLoop =>
        exact absurd asserts (fails (c := { c with functors := rest }) savedErrno connected)
      | stopInLoop =>
        have stays : stopInLoop { c with functors := rest } = { c with functors := rest } :=
          if_neg (by rw [connected]; nofun)
        show (stopInLoop _).state = _
        rw [stays]
        exact connected
      | resetChannel => exact connected
  | timer i savedErrno =>
    obtain ⟨-, rfl⟩ := some_of_guard moved
    have failed := fails (c := { c with timers := c.timers.eraseIdx i }) savedErrno connected
    exact absurd asserts failed
  | handleEvent revents err selfConnect =>
    obtain ⟨-, rfl⟩ := some_of_guard moved
    have error : c.handleError = c := if_neg (by rw [connected]; nofun)
    have write : (c.handleWrite err selfConnect).state = .kConnected := by
      unfold handleWrite assert
      rw [if_neg (by rw [connected]; nofun)]
      split <;> exact connected
    unfold handleEvent
    simp only [error, ite_self]
    split
    · exact write
    · exact connected
  | removeConnection restart savedErrno => exact absurd rfl (kept restart savedErrno)

theorem startInLoop_channel {savedErrno : ConnectErrno} (live : c.channel = .registered) :
    (c.startInLoop savedErrno).channel = .registered := by
  have asserted (p : Prop) [Decidable p] {c : Connector} (live : c.channel = .registered) :
      (c.assert p).channel = .registered := by
    unfold assert
    split <;> exact live
  unfold startInLoop
  dsimp only
  split
  · unfold connectSocket connecting retry
    cases savedErrno <;> dsimp only <;> (try split) <;> first | rfl | exact asserted _ live
  · exact asserted _ live

/-- Only an event of a channel and a functor take it out of the poller. -/
theorem step_channel (moved : c.step a = some c')
    (kept : ∀ restart e, a ≠ .removeConnection restart e)
    (live : c.channel = .registered) : c'.channel = .registered ∨
      (∃ e, a = .callFunctor e) ∨
      ∃ revents err selfConnect, a = .handleEvent revents err selfConnect := by
  cases a with
  | start t | stop t =>
    obtain ⟨-, rfl⟩ := some_of_guard moved
    exact .inl live
  | advance t savedErrno =>
    simp only [step] at moved
    split at moved
    · contradiction
    · obtain rfl := Option.some.inj moved
      split
      · exact .inl (startInLoop_channel live)
      · exact .inl live
    · obtain rfl := Option.some.inj moved
      exact .inl live
  | callFunctor savedErrno => exact .inr (.inl ⟨savedErrno, rfl⟩)
  | timer i savedErrno =>
    obtain ⟨-, rfl⟩ := some_of_guard moved
    exact .inl (startInLoop_channel live)
  | handleEvent revents err selfConnect => exact .inr (.inr ⟨revents, err, selfConnect, rfl⟩)
  | removeConnection restart savedErrno => exact absurd rfl (kept restart savedErrno)

end Steps

/-! ## Attempts -/

/-- The live channel, as a number. -/
def live (c : Connector) : Nat := if c.channel = .registered then 1 else 0

/-- No assertion failed, and there is at most one attempt. -/
def Safe (c : Connector) : Prop := c.failed = false ∧ c.live + c.timers.length ≤ 1

instance (c : Connector) : Decidable c.Safe := inferInstanceAs (Decidable (_ ∧ _))

/-- No attempt is under way or on its way. -/
def Quiet (c : Connector) : Prop :=
  c.state = .kDisconnected ∧ c.timers = [] ∧ .startInLoop ∉ c.functors

instance (c : Connector) : Decidable c.Quiet := inferInstanceAs (Decidable (_ ∧ _))

/-- The condition on a step.  A `start()` comes to its functor while no attempt is under way or
on its way; and where it, in the loop thread, or a timer connects, the channel of the last
attempt has gone. -/
def Alone (c : Connector) : Act → Prop
  | .advance t _ => c.stage t = .starting →
    c.Quiet ∧ (t = none → c.connect = true → c.channel = .null)
  | .timer .. => c.connect = true → c.channel = .null
  | _ => True

instance (c : Connector) (a : Act) : Decidable (c.Alone a) := by
  unfold Alone
  split <;> infer_instance

/-- What is kept for the attempts. -/
structure Sound (c : Connector) : Prop where
  asserts : c.failed = false
  one : c.live + c.timers.length + c.functors.count .startInLoop ≤ 1
  connecting : c.state = .kConnecting ↔ c.channel = .registered
  waits : c.timers ≠ [] ∨ .startInLoop ∈ c.functors → c.state = .kDisconnected
  reset : c.functors.count .resetChannel = if c.channel = .removed then 1 else 0
  /-- a channel goes before the next attempt comes -/
  order : c.functors.Pairwise fun f g => f = .startInLoop → g ≠ .resetChannel
  out : c.connection = true → c.state = .kConnected

theorem sound_new : new.Sound where
  asserts := rfl
  one := Nat.zero_le _
  connecting := by decide
  waits := by decide
  reset := rfl
  order := .nil
  out := nofun

/-- No channel is live and nothing is on its way but a channel that goes; `state_` may lag. -/
structure Between (c : Connector) : Prop where
  asserts : c.failed = false
  timers : c.timers = []
  starts : .startInLoop ∉ c.functors
  dead : c.channel ≠ .registered
  reset : c.functors.count .resetChannel = if c.channel = .removed then 1 else 0
  closed : c.connection = false

@[simp] theorem assert_pos {p : Prop} [Decidable p] (holds : p) (c : Connector) :
    c.assert p = c :=
  if_pos holds

/-- Without a functor that starts, a queue is in order. -/
theorem order_of_not_mem {functors : List Functor} (starts : .startInLoop ∉ functors) :
    functors.Pairwise fun f g => f = .startInLoop → g ≠ .resetChannel :=
  List.pairwise_of_forall_mem_list fun _ mem _ _ start => absurd (start ▸ mem) starts

theorem Between.sound {c : Connector} (between : c.Between) (state : c.state ≠ .kConnecting)
    (waits : c.timers ≠ [] → c.state = .kDisconnected) : c.Sound where
  asserts := between.asserts
  one := by
    rw [live, if_neg between.dead, between.timers, List.count_eq_zero_of_not_mem between.starts]
    exact Nat.zero_le _
  connecting := iff_of_false state between.dead
  waits := by
    rintro (timers | starts)
    · exact waits timers
    · exact absurd starts between.starts
  reset := between.reset
  order := order_of_not_mem between.starts
  out opened := by
    rw [between.closed] at opened
    contradiction

/-- `retry` leaves a timer at most. -/
theorem Between.retry {c : Connector} (between : c.Between) : c.retry.Sound := by
  unfold Connector.retry
  dsimp only
  split
  · exact {
      asserts := between.asserts
      one := by
        show live _ + (c.timers ++ [c.retryDelayMs]).length + c.functors.count .startInLoop ≤ 1
        rw [live, if_neg between.dead, between.timers,
          List.count_eq_zero_of_not_mem between.starts]
        exact Nat.le_refl _
      connecting := iff_of_false nofun between.dead
      waits := fun _ => rfl
      reset := between.reset
      order := order_of_not_mem between.starts
      out := fun opened => by
        rw [show c.connection = false from between.closed] at opened
        contradiction }
  · exact Between.sound { between with } nofun fun _ => rfl

/-- `startInLoop`, where no attempt is under way and the last channel has gone if it connects. -/
theorem Between.startInLoop {c : Connector} (between : c.Between)
    (state : c.state = .kDisconnected) (gone : c.connect = true → c.channel = .null)
    (savedErrno : ConnectErrno) : (c.startInLoop savedErrno).Sound := by
  have stays : c.Sound := between.sound (by rw [state]; nofun) fun _ => state
  unfold Connector.startInLoop
  rw [assert_pos state]
  dsimp only
  split
  · next connect =>
    have null := gone connect
    have connects : c.connecting.Sound := by
      have ok : c.connecting = { c with state := .kConnecting, channel := .registered } := by
        rw [Connector.connecting, assert_pos null]
      have reset := between.reset
      rw [null, if_neg (by nofun)] at reset
      rw [ok]
      exact {
        asserts := between.asserts
        one := by
          show live _ + c.timers.length + c.functors.count .startInLoop ≤ 1
          rw [live, if_pos rfl, between.timers, List.count_eq_zero_of_not_mem between.starts]
          exact Nat.le_refl _
        connecting := iff_of_true rfl rfl
        waits := by
          rintro (timers | starts)
          · exact absurd between.timers timers
          · exact absurd starts between.starts
        reset := reset
        order := order_of_not_mem between.starts
        out := fun opened => by
          rw [show c.connection = false from between.closed] at opened
          contradiction }
    unfold connectSocket
    split
    all_goals first | exact connects | exact between.retry | exact stays
  · exact stays

/-- While it connects, nothing else is under way. -/
theorem Sound.connecting_alone {c : Connector} (sound : c.Sound) (state : c.state = .kConnecting) :
    c.channel = .registered ∧ c.timers = [] ∧ .startInLoop ∉ c.functors ∧
      c.functors.count .resetChannel = 0 ∧ c.connection = false := by
  have live := sound.connecting.mp state
  have one := sound.one
  rw [Connector.live, if_pos live] at one
  have reset := sound.reset
  rw [live, if_neg (by nofun)] at reset
  refine ⟨live, List.length_eq_zero_iff.mp (by omega), ?_, reset, ?_⟩
  · exact List.count_eq_zero.mp (by omega)
  · cases opened : c.connection with
    | false => rfl
    | true =>
      rw [sound.out opened] at state
      contradiction

/-- `removeAndResetChannel` ends the attempt, whatever `state_` is set to before. -/
theorem Sound.removeAndResetChannel {c : Connector} (sound : c.Sound)
    (connecting : c.state = .kConnecting) (state : States) :
    ({ c with state := state } : Connector).removeAndResetChannel.Between := by
  obtain ⟨live, timers, starts, reset, closed⟩ := sound.connecting_alone connecting
  unfold Connector.removeAndResetChannel
  rw [assert_pos (by rw [live]; nofun)]
  exact {
    asserts := sound.asserts
    timers := timers
    starts := by
      show _ ∉ c.functors ++ [Functor.resetChannel]
      simp [starts]
    dead := nofun
    reset := by
      show (c.functors ++ [Functor.resetChannel]).count .resetChannel = _
      rw [List.count_append, reset]
      rfl
    closed := closed }

theorem Sound.stopInLoop {c : Connector} (sound : c.Sound) : c.stopInLoop.Sound := by
  unfold Connector.stopInLoop
  split
  · next connecting => exact (sound.removeAndResetChannel connecting _).retry
  · exact sound

theorem Sound.handleError {c : Connector} (sound : c.Sound) : c.handleError.Sound := by
  unfold Connector.handleError
  split
  · next connecting => exact (sound.removeAndResetChannel connecting c.state).retry
  · exact sound

theorem Sound.handleWrite {c : Connector} (sound : c.Sound)
    (state : c.state = .kConnecting ∨ c.state = .kDisconnected) (err selfConnect : Bool) :
    (c.handleWrite err selfConnect).Sound := by
  unfold Connector.handleWrite
  split
  · next connecting =>
    have between := sound.removeAndResetChannel connecting c.state
    dsimp only
    split
    · exact between.retry
    · split
      · exact between.retry
      · have connected :
            ({ c.removeAndResetChannel with state := .kConnected } : Connector).Sound :=
          Between.sound { between with } nofun fun timers => absurd between.timers timers
        exact { connected with out := fun _ => rfl }
  · next other =>
    rw [assert_pos (state.resolve_left other)]
    exact sound

/-- An event of the channel: after `handleError` the connector is disconnected, and `handleWrite`
expects that. -/
theorem Sound.handleEvent {c : Connector} (sound : c.Sound) (live : c.channel = .registered)
    (revents : Mask) (err selfConnect : Bool) : (c.handleEvent revents err selfConnect).Sound := by
  have connecting := sound.connecting.mpr live
  have disconnected : c.handleError.state = .kDisconnected := by
    rw [Connector.handleError, if_pos connecting, Connector.retry]
    dsimp only
    split <;> rfl
  unfold Connector.handleEvent
  by_cases error : revents.meets (pollErr ||| pollNval)
  · simp only [if_pos error]
    split
    · exact sound.handleError.handleWrite (.inr disconnected) ..
    · exact sound.handleError
  · simp only [if_neg error]
    split
    · exact sound.handleWrite (.inl connecting) ..
    · exact sound

/-- The next functor leaves the queue. -/
theorem Sound.callFunctor {c : Connector} {f : Functor} {rest : List Functor} (sound : c.Sound)
    (next : c.functors = f :: rest) (savedErrno : ConnectErrno) :
    (({ c with functors := rest } : Connector).callFunctor savedErrno f).Sound := by
  have one := sound.one
  have reset := sound.reset
  have order := sound.order
  have waits := sound.waits
  rw [next] at one reset order waits
  obtain ⟨first, later⟩ := List.pairwise_cons.mp order
  cases f with
  | startInLoop =>
    have disconnected := waits (.inr (List.mem_cons_self ..))
    have dead : c.channel ≠ .registered := by
      intro live
      have := sound.connecting.mpr live
      rw [disconnected] at this
      contradiction
    rw [List.count_cons_self] at one
    have timers : c.timers = [] := List.length_eq_zero_iff.mp (by omega)
    have starts : .startInLoop ∉ rest := List.count_eq_zero.mp (by omega)
    have no_reset : rest.count .resetChannel = 0 :=
      List.count_eq_zero.mpr fun mem => first _ mem rfl rfl
    have null : c.channel = .null := by
      cases channel : c.channel with
      | null => rfl
      | registered => exact absurd channel dead
      | removed =>
        rw [channel, if_pos rfl, List.count_cons_of_ne (by nofun), no_reset] at reset
        contradiction
    have between : ({ c with functors := rest } : Connector).Between := {
      asserts := sound.asserts
      timers := timers
      starts := starts
      dead := dead
      reset := by
        show rest.count _ = if c.channel = .removed then 1 else 0
        rw [no_reset, if_neg (by rw [null]; nofun)]
      closed := by
        cases opened : c.connection with
        | false => rfl
        | true =>
          rw [sound.out opened] at disconnected
          contradiction }
    exact between.startInLoop disconnected (fun _ => null) savedErrno
  | stopInLoop =>
    rw [List.count_cons_of_ne (by nofun)] at one reset
    have popped : ({ c with functors := rest } : Connector).Sound := {
      asserts := sound.asserts
      one := one
      connecting := sound.connecting
      waits := fun some => waits (some.imp_right (List.mem_cons_of_mem _))
      reset := reset
      order := later
      out := sound.out }
    exact popped.stopInLoop
  | resetChannel =>
    rw [List.count_cons_self] at reset
    have removed : c.channel = .removed := by
      by_contra other
      rw [if_neg other] at reset
      contradiction
    rw [if_pos removed] at reset
    rw [List.count_cons_of_ne (by nofun), live, if_neg (by rw [removed]; nofun)] at one
    exact {
      asserts := sound.asserts
      one := one
      connecting := by
        refine iff_of_false ?_ nofun
        intro connecting
        have := sound.connecting.mp connecting
        rw [removed] at this
        contradiction
      waits := fun some => waits (some.imp_right (List.mem_cons_of_mem _))
      reset := Nat.succ.inj reset
      order := later
      out := sound.out }

/-- With no attempt under way or on its way, there is nothing but a channel that goes. -/
theorem Sound.between {c : Connector} (sound : c.Sound) (disconnected : c.state = .kDisconnected)
    (timers : c.timers = []) (starts : .startInLoop ∉ c.functors) : c.Between where
  asserts := sound.asserts
  timers := timers
  starts := starts
  dead live := by
    have := sound.connecting.mpr live
    rw [disconnected] at this
    contradiction
  reset := sound.reset
  closed := by
    cases opened : c.connection with
    | false => rfl
    | true =>
      rw [sound.out opened] at disconnected
      contradiction

theorem Sound.step {c c' : Connector} {a : Act} (sound : c.Sound) (alone : c.Alone a)
    (moved : c.step a = some c') : c'.Sound := by
  cases a with
  | start t =>
    obtain ⟨-, rfl⟩ := some_of_guard moved
    exact { sound with }
  | stop t =>
    obtain ⟨-, rfl⟩ := some_of_guard moved
    exact { sound with }
  | advance t savedErrno =>
    simp only [Connector.step] at moved
    split at moved
    · contradiction
    · next starting =>
      obtain ⟨⟨disconnected, timers, starts⟩, gone⟩ := alone starting
      have between := sound.between disconnected timers starts
      obtain rfl := Option.some.inj moved
      split
      · next loop =>
        have entered : (c.enter t .idle).Between := { between with }
        exact entered.startInLoop disconnected (gone loop) savedErrno
      · exact {
          asserts := sound.asserts
          one := by
            show c.live + c.timers.length + (c.functors ++ [Functor.startInLoop]).count _ ≤ 1
            rw [live, if_neg between.dead, timers, List.count_append,
              List.count_eq_zero_of_not_mem starts]
            exact Nat.le_refl _
          connecting := sound.connecting
          waits := fun _ => disconnected
          reset := by
            show (c.functors ++ [Functor.startInLoop]).count _ = _
            rw [List.count_append, sound.reset]
            rfl
          order := List.pairwise_append.mpr ⟨sound.order, List.pairwise_singleton .., by
            intro f mem g _ start
            exact absurd (start ▸ mem) starts⟩
          out := sound.out }
    · obtain rfl := Option.some.inj moved
      exact {
        asserts := sound.asserts
        one := by
          show c.live + c.timers.length + (c.functors ++ [Functor.stopInLoop]).count _ ≤ 1
          rw [List.count_append]
          exact sound.one
        connecting := sound.connecting
        waits := fun some => sound.waits (some.imp_right fun mem => by
          simpa [enter, queueInLoop] using mem)
        reset := by
          show (c.functors ++ [Functor.stopInLoop]).count _ = _
          rw [List.count_append]
          exact sound.reset
        order := List.pairwise_append.mpr ⟨sound.order, List.pairwise_singleton .., by
          intro f _ g mem _
          rw [List.mem_singleton.mp mem]
          nofun⟩
        out := sound.out }
  | callFunctor savedErrno =>
    simp only [Connector.step] at moved
    split at moved
    · contradiction
    · next next =>
      obtain ⟨-, rfl⟩ := some_of_guard moved
      exact sound.callFunctor next savedErrno
  | timer i savedErrno =>
    obtain ⟨⟨lt, -⟩, rfl⟩ := some_of_guard moved
    have one := sound.one
    have some : c.timers ≠ [] := List.ne_nil_of_length_pos (by omega)
    have disconnected := sound.waits (.inl some)
    have starts : .startInLoop ∉ c.functors := List.count_eq_zero.mp (by omega)
    have erased : c.timers.eraseIdx i = [] := by
      apply List.length_eq_zero_iff.mp
      rw [List.length_eraseIdx_of_lt lt]
      omega
    have popped : ({ c with timers := c.timers.eraseIdx i } : Connector).Sound := {
      asserts := sound.asserts
      one := by
        show c.live + (c.timers.eraseIdx i).length + c.functors.count .startInLoop ≤ 1
        rw [erased, List.length_nil]
        omega
      connecting := sound.connecting
      waits := fun _ => disconnected
      reset := sound.reset
      order := sound.order
      out := sound.out }
    exact (popped.between disconnected erased starts).startInLoop disconnected alone savedErrno
  | handleEvent revents err selfConnect =>
    obtain ⟨⟨live, -⟩, rfl⟩ := some_of_guard moved
    exact sound.handleEvent live ..
  | removeConnection restart savedErrno =>
    obtain ⟨⟨opened, no_reset, -⟩, rfl⟩ := some_of_guard moved
    have connected := sound.out opened
    have closed : ({ c with connection := false } : Connector).Sound := { sound with out := nofun }
    split
    · have waits := mt sound.waits (by rw [connected]; nofun)
      have reset := sound.reset
      rw [List.count_eq_zero_of_not_mem no_reset] at reset
      have null : c.channel = .null := by
        cases channel : c.channel with
        | null => rfl
        | registered =>
          have := sound.connecting.mpr channel
          rw [connected] at this
          contradiction
        | removed =>
          rw [channel, if_pos rfl] at reset
          contradiction
      have between : ({ c with
          connection := false
          state := .kDisconnected
          retryDelayMs := kInitRetryDelayMs
          connect := true } : Connector).Between := {
        asserts := sound.asserts
        timers := not_not.mp (not_or.mp waits).1
        starts := (not_or.mp waits).2
        dead := by
          show c.channel ≠ _
          rw [null]
          nofun
        reset := sound.reset
        closed := rfl }
      exact between.startInLoop rfl (fun _ => null) savedErrno
    · exact closed

theorem Sound.safe {c : Connector} (sound : c.Sound) : c.Safe := by
  refine ⟨sound.asserts, ?_⟩
  have := sound.one
  omega

/-- Where no `start()` meets an attempt and no timer a channel that is still to go, the assertions
hold and there is at most one attempt. -/
theorem always_safe {as : List Act} (alone : EachStep step (fun c a _ => c.Alone a) new as) :
    Always step Safe new as :=
  Always.of_invariant (fun _ _ _ sound alone moved => sound.step alone moved)
    (fun _ => Sound.safe) sound_new alone

/-- A client is refused once, connects, loses the connection and reconnects, and is stopped and
started again. -/
def reconnects : List Act :=
  [.start (some 0), .advance (some 0) .ok, .callFunctor .econnrefused, .timer 0 .einprogress,
    .handleEvent (pollErr ||| pollHup ||| pollOut) true false, .callFunctor .ok,
    .timer 0 .einprogress, .handleEvent pollOut false false, .callFunctor .ok,
    .removeConnection true .einprogress, .stop (some 1), .advance (some 1) .ok, .callFunctor .ok,
    .callFunctor .ok, .start none, .advance none .einprogress]

theorem always_safe_reconnects : Always step Safe new reconnects := always_safe (by decide)

/-- `start()` is called while an attempt is under way. -/
theorem startedTwice_unsafe : ¬ Always step Safe new
    [.start none, .advance none .einprogress, .start none, .advance none .einprogress] := by
  decide

/-- Stopped and started again while a timer of `retry` is pending. -/
example : ¬ Always step Safe new
    [.start none, .advance none .econnrefused, .stop none, .advance none .ok, .callFunctor .ok,
      .start none, .advance none .einprogress] := by
  decide

/-- The timer expires before the loop comes to `resetChannel`. -/
example : ¬ Always step Safe new
    [.start none, .advance none .einprogress, .handleEvent pollOut true false,
      .timer 0 .einprogress] := by
  decide

end Connector
end NewFramework.Net
