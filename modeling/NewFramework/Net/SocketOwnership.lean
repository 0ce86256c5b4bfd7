import Mathlib.Data.List.Nodup
import NewFramework.Net.ConnectorSockets

/-!
# Who owns the socket of an attempt

Between the steps of a `Connector` (`muduo/net/Connector.cpp`) a socket that was neither closed nor
passed on is the one of `channel_`, and `state_` is `kConnecting`: all that ends an attempt first
takes the channel out of the poller and has its socket in hand.  Only `restart()` leaves
`kConnecting` without that.
-/

namespace NewFramework.Net
open NewFramework.Lib

/-! ## The delay -/

namespace Connector

/-- What all but `restart()` leaves: a failed assertion stays, and the delay backs off. -/
structure Backs (c c' : Connector) : Prop where
  failed : c.failed = true → c'.failed = true
  delay : c.retryDelayMs ≤ kMaxRetryDelayMs →
    c.retryDelayMs ≤ c'.retryDelayMs ∧ c'.retryDelayMs ≤ kMaxRetryDelayMs

section Backs

variable {c c' c'' : Connector}

theorem Backs.of_eq (failed : c'.failed = c.failed) (delay : c'.retryDelayMs = c.retryDelayMs) :
    Backs c c' :=
  ⟨fun before => failed.trans before, fun le => by rw [delay]; exact ⟨Nat.le_refl _, le⟩⟩

theorem Backs.trans (first : Backs c c') (second : Backs c' c'') : Backs c c'' where
  failed before := second.failed (first.failed before)
  delay le :=
    have ⟨le', bound⟩ := first.delay le
    ⟨Nat.le_trans le' (second.delay bound).1, (second.delay bound).2⟩

/-- A change of something else, before. -/
theorem Backs.before (backs : Backs c' c'') (failed : c'.failed = c.failed)
    (delay : c'.retryDelayMs = c.retryDelayMs) : Backs c c'' :=
  (Backs.of_eq failed delay).trans backs

/-- A change of something else, behind. -/
theorem Backs.behind (backs : Backs c c') (failed : c''.failed = c'.failed)
    (delay : c''.retryDelayMs = c'.retryDelayMs) : Backs c c'' :=
  backs.trans (.of_eq failed delay)

theorem backs_assert (p : Prop) [Decidable p] (c : Connector) : Backs c (c.assert p) := by
  unfold assert
  split
  · exact .of_eq rfl rfl
  · exact ⟨fun _ => rfl, fun le => ⟨Nat.le_refl _, le⟩⟩

theorem backs_retry (c : Connector) : Backs c c.retry := by
  unfold retry
  dsimp only
  split
  · refine ⟨id, fun le => ⟨?_, Nat.min_le_right ..⟩⟩
    exact Nat.le_min.mpr ⟨by omega, le⟩
  · exact .of_eq rfl rfl

theorem backs_connecting (c : Connector) : Backs c c.connecting := by
  have asserted := backs_assert (c.channel = .null) { c with state := .kConnecting }
  exact (asserted.before (c := c) rfl rfl).behind rfl rfl

theorem backs_connectSocket (savedErrno : ConnectErrno) (c : Connector) :
    Backs c (c.connectSocket savedErrno) := by
  unfold connectSocket
  split
  case h_1 | h_2 | h_3 | h_4 => exact backs_connecting c
  case h_5 | h_6 | h_7 | h_8 | h_9 => exact backs_retry c
  case h_10 => exact .of_eq rfl rfl

theorem backs_startInLoop (savedErrno : ConnectErrno) (c : Connector) :
    Backs c (c.startInLoop savedErrno) := by
  unfold startInLoop
  dsimp only
  split
  · exact (backs_assert ..).trans (backs_connectSocket ..)
  · exact backs_assert ..

theorem backs_removeAndResetChannel (c : Connector) : Backs c c.removeAndResetChannel :=
  (backs_assert (c.channel ≠ .null) c).behind rfl rfl

theorem backs_stopInLoop (c : Connector) : Backs c c.stopInLoop := by
  unfold stopInLoop
  split
  · exact ((backs_removeAndResetChannel { c with state := .kDisconnected }).trans
      (backs_retry _)).before rfl rfl
  · exact .of_eq rfl rfl

theorem backs_handleWrite (err selfConnect : Bool) (c : Connector) :
    Backs c (c.handleWrite err selfConnect) := by
  have removed := backs_removeAndResetChannel c
  unfold handleWrite
  split
  · dsimp only
    split
    · exact removed.trans (backs_retry _)
    · split
      · exact removed.trans (backs_retry _)
      · exact removed.behind rfl rfl
  · exact backs_assert ..

theorem backs_handleError (c : Connector) : Backs c c.handleError := by
  unfold handleError
  split
  · exact (backs_removeAndResetChannel c).trans (backs_retry _)
  · exact .of_eq rfl rfl

theorem backs_handleEvent (revents : Mask) (err selfConnect : Bool) (c : Connector) :
    Backs c (c.handleEvent revents err selfConnect) := by
  have error : Backs c (if revents.meets (pollErr ||| pollNval) then c.handleError else c) := by
    split
    · exact backs_handleError c
    · exact .of_eq rfl rfl
  unfold handleEvent
  dsimp only
  split
  · exact error.trans (backs_handleWrite ..)
  · exact error

theorem backs_callFunctor (savedErrno : ConnectErrno) (c : Connector) (f : Functor) :
    Backs c (c.callFunctor savedErrno f) := by
  cases f with
  | startInLoop => exact backs_startInLoop ..
  | stopInLoop => exact backs_stopInLoop c
  | resetChannel => exact .of_eq rfl rfl

theorem backs_step {a : Act} (moved : c.step a = some c')
    (kept : ∀ e, a ≠ .removeConnection true e) : Backs c c' := by
  cases a with
  | start t | stop t =>
    obtain ⟨-, rfl⟩ := some_of_guard moved
    exact .of_eq rfl rfl
  | advance t savedErrno =>
    simp only [step] at moved
    split at moved
    · contradiction
    · obtain rfl := Option.some.inj moved
      split
      · exact (backs_startInLoop savedErrno (c.enter t .idle)).before rfl rfl
      · exact .of_eq rfl rfl
    · obtain rfl := Option.some.inj moved
      exact .of_eq rfl rfl
  | callFunctor savedErrno =>
    simp only [step] at moved
    split at moved
    · contradiction
    · next f rest _ =>
      obtain ⟨-, rfl⟩ := some_of_guard moved
      exact (backs_callFunctor savedErrno { c with functors := rest } f).before rfl rfl
  | timer i savedErrno =>
    obtain ⟨-, rfl⟩ := some_of_guard moved
    exact (backs_startInLoop savedErrno { c with timers := c.timers.eraseIdx i }).before rfl rfl
  | handleEvent revents err selfConnect =>
    obtain ⟨-, rfl⟩ := some_of_guard moved
    exact backs_handleEvent ..
  | removeConnection restart savedErrno =>
    obtain ⟨-, rfl⟩ := some_of_guard moved
    cases restart with
    | true => exact absurd rfl (kept savedErrno)
    | false => exact .of_eq rfl rfl

end Backs

theorem retry_state (c : Connector) : c.retry.state = .kDisconnected := by
  unfold retry
  dsimp only
  split <;> rfl

theorem retry_channel (c : Connector) : c.retry.channel = c.channel := by
  unfold retry
  dsimp only
  split <;> rfl

theorem retry_functors (c : Connector) : c.retry.functors = c.functors := by
  unfold retry
  dsimp only
  split <;> rfl

/-- A `resetChannel` is queued exactly for a channel that was taken out of the poller. -/
def ResetsRemoved (c : Connector) : Prop :=
  c.functors.count .resetChannel = if c.channel = .removed then 1 else 0

theorem removeAndResetChannel_spec {c : Connector} (live : c.channel = .registered)
    (reset : c.ResetsRemoved) :
    c.removeAndResetChannel.channel = .removed ∧ c.removeAndResetChannel.ResetsRemoved := by
  rw [ResetsRemoved, live, if_neg (by decide)] at reset
  refine ⟨rfl, ?_⟩
  rw [Connector.removeAndResetChannel, assert_pos (by rw [live]; decide)]
  show (c.functors ++ [Functor.resetChannel]).count .resetChannel = 1
  rw [List.count_append, reset]
  rfl

end Connector

/-! ## The sockets -/

namespace ConnectorSockets
open Connector

/-- The socket was created, and neither closed nor passed on. -/
def Open (i : Nat) (s : ConnectorSockets) : Prop :=
  i < s.created ∧ i ∉ s.ends.map Prod.fst

instance (i : Nat) (s : ConnectorSockets) : Decidable (s.Open i) :=
  inferInstanceAs (Decidable (_ ∧ _))

/-- Every socket has one end at most, and until then the channel holds it while it connects. -/
structure Owned (s : ConnectorSockets) : Prop where
  one : (s.ends.map Prod.fst).Nodup
  created : ∀ i ∈ s.ends.map Prod.fst, i < s.created
  held : ∀ i < s.created, s.Open i →
    s.connector.state = .kConnecting ∧ s.connector.channel = .registered ∧ s.fd = i
  delay : 500 ≤ s.connector.retryDelayMs ∧ s.connector.retryDelayMs ≤ 30000

instance (s : ConnectorSockets) : Decidable s.Owned :=
  decidable_of_iff (_ ∧ _ ∧ _ ∧ _)
    ⟨fun ⟨one, created, held, delay⟩ => ⟨one, created, held, delay⟩,
      fun ⟨one, created, held, delay⟩ => ⟨one, created, held, delay⟩⟩

/-- The step calls `restart()`. -/
def Restarts : Act → Prop
  | .restart _ | .connector (.removeConnection true _) => True
  | _ => False

/-- What a step keeps, where no assertion failed. -/
def Accounts (s : ConnectorSockets) (a : Act) (s' : ConnectorSockets) : Prop :=
  s'.connector.failed = false →
    s'.Owned ∧ (¬ Restarts a → s.connector.retryDelayMs ≤ s'.connector.retryDelayMs)

/-- `restart()` does not come while an attempt is under way, or an assertion fails there. -/
def RestartsIdle (s : ConnectorSockets) (a : Act) (s' : ConnectorSockets) : Prop :=
  Restarts a → s.connector.state = .kConnecting → s'.connector.failed = true

instance : DecidablePred Restarts := fun a => by unfold Restarts; split <;> infer_instance

instance (s : ConnectorSockets) (a : Act) (s' : ConnectorSockets) : Decidable (s.Accounts a s') :=
  inferInstanceAs (Decidable (_ → _))

/-- The socket that is open, if there is one. -/
structure Book (s : ConnectorSockets) (hand : Option Nat) : Prop where
  one : (s.ends.map Prod.fst).Nodup
  created : ∀ i ∈ s.ends.map Prod.fst, i < s.created
  hand : ∀ i, s.Open i ↔ hand = some i

variable {s s' : ConnectorSockets} {sockfd : Nat}

theorem Book.create (book : Book s none) : Book s.create (some s.created) where
  one := book.one
  created i mem := Nat.lt_succ_of_lt (book.created i mem)
  hand i := by
    constructor
    · rintro ⟨below, isOpen⟩
      rcases Nat.lt_succ_iff_lt_or_eq.mp below with old | new
      · exact nomatch (book.hand i).mp ⟨old, isOpen⟩
      · exact congrArg some new.symm
    · rintro ⟨⟩
      exact ⟨Nat.lt_succ_self _, fun mem => Nat.lt_irrefl _ (book.created _ mem)⟩

theorem Book.end (book : Book s (some sockfd)) (how : SocketEnd) :
    Book { s with ends := s.ends ++ [(sockfd, how)] } none := by
  obtain ⟨below, isOpen⟩ := (book.hand sockfd).mpr rfl
  refine ⟨?_, ?_, fun i => iff_of_false ?_ nofun⟩
  · rw [List.map_append]
    exact List.Nodup.append book.one (List.nodup_singleton _) (List.disjoint_singleton.mpr isOpen)
  · intro i mem
    rw [List.map_append] at mem
    rcases List.mem_append.mp mem with old | new
    · exact book.created i old
    · rw [List.mem_singleton.mp new]
      exact below
  · rintro ⟨below, stays⟩
    rw [List.map_append, List.mem_append, not_or] at stays
    obtain rfl := Option.some.inj ((book.hand i).mp ⟨below, stays.1⟩)
    exact stays.2 (List.mem_singleton_self _)

/-- What is kept between the steps. -/
structure Tracked (s : ConnectorSockets) : Prop where
  book : Book s (if s.connector.state = .kConnecting then some s.fd else none)
  connecting : s.connector.state = .kConnecting ↔ s.connector.channel = .registered
  reset : s.connector.ResetsRemoved

theorem tracked_new : new.Tracked := by
  refine ⟨⟨List.nodup_nil, nofun, ?_⟩, by decide, rfl⟩
  intro i
  exact iff_of_false (fun isOpen => Nat.not_lt_zero _ isOpen.1) nofun

/-- Nothing is open, and no attempt is under way. -/
theorem tracked_of_none (book : Book s none) (state : s.connector.state ≠ .kConnecting)
    (dead : s.connector.channel ≠ .registered) (reset : s.connector.ResetsRemoved) : s.Tracked where
  book := by rwa [if_neg state]
  connecting := iff_of_false state dead
  reset := reset

/-- A change of the rest of the connector. -/
theorem Tracked.update (tracked : s.Tracked) {f : Connector → Connector}
    (state : (f s.connector).state = s.connector.state)
    (channel : (f s.connector).channel = s.connector.channel)
    (resets : (f s.connector).functors.count .resetChannel =
      s.connector.functors.count .resetChannel) : (s.update f).Tracked := by
  have book := tracked.book
  have connecting := tracked.connecting
  rw [← state] at book connecting
  rw [← channel] at connecting
  refine ⟨⟨book.one, book.created, book.hand⟩, connecting, ?_⟩
  rw [connector_update, ResetsRemoved, resets, channel]
  exact tracked.reset

theorem Tracked.book_none (tracked : s.Tracked) (state : s.connector.state ≠ .kConnecting) :
    Book s none := by
  have book := tracked.book
  rwa [if_neg state] at book

theorem tracked_retry (book : Book s (some sockfd)) (dead : s.connector.channel ≠ .registered)
    (reset : s.connector.ResetsRemoved) : (s.retry sockfd).Tracked := by
  have state : (s.retry sockfd).connector.state = .kDisconnected := retry_state _
  have channel : (s.retry sockfd).connector.channel = s.connector.channel := retry_channel _
  have closed := book.end .closed
  refine tracked_of_none ⟨closed.one, closed.created, closed.hand⟩ (by rw [state]; nofun)
    (by rwa [channel]) ?_
  rw [ResetsRemoved, channel]
  exact (congrArg _ (retry_functors _)).trans reset

/-- `connect()`, with no attempt under way. -/
theorem tracked_connectSocket (book : Book s none) (state : s.connector.state = .kDisconnected)
    (dead : s.connector.channel ≠ .registered) (reset : s.connector.ResetsRemoved)
    (savedErrno : ConnectErrno) (asserts : (s.connectSocket savedErrno).connector.failed = false) :
    (s.connectSocket savedErrno).Tracked := by
  have created := book.create
  have connects (asserts : (s.create.connecting s.created).connector.failed = false) :
      (s.create.connecting s.created).Tracked := by
    have null : s.connector.channel = .null := by
      by_contra other
      have failed : s.connector.connecting.failed = true := by
        rw [Connector.connecting, assert, if_neg other]
      exact absurd (failed.symm.trans asserts) (by decide)
    have connected : s.connector.connecting =
        { s.connector with state := .kConnecting, channel := .registered } := by
      rw [Connector.connecting, assert_pos null]
    rw [ResetsRemoved, null, if_neg (by simp)] at reset
    unfold connecting update
    rw [show s.create.connector.connecting = _ from connected]
    exact ⟨⟨created.one, created.created, created.hand⟩, iff_of_true rfl rfl, reset⟩
  unfold connectSocket at asserts ⊢
  dsimp only at asserts ⊢
  split
  case h_1 | h_2 | h_3 | h_4 => exact connects asserts
  case h_5 | h_6 | h_7 | h_8 | h_9 => exact tracked_retry created dead reset
  case h_10 =>
    have closed := created.end .closed
    exact tracked_of_none ⟨closed.one, closed.created, closed.hand⟩
      (fun connecting => absurd (state.symm.trans connecting) (by decide)) dead reset

theorem Tracked.startInLoop (tracked : s.Tracked) (savedErrno : ConnectErrno)
    (asserts : (s.startInLoop savedErrno).connector.failed = false) :
    (s.startInLoop savedErrno).Tracked := by
  have state : s.connector.state = .kDisconnected := by
    by_contra other
    rw [connector_startInLoop, startInLoop_failed other] at asserts
    contradiction
  have idle : s.connector.state ≠ .kConnecting := by rw [state]; nofun
  have same : (s.update fun c => c.assert (c.state = .kDisconnected)) = s := by
    rw [ConnectorSockets.update, assert_pos state]
  unfold ConnectorSockets.startInLoop at asserts ⊢
  rw [same] at asserts ⊢
  dsimp only at asserts ⊢
  split
  · next connect =>
    rw [if_pos connect] at asserts
    exact tracked_connectSocket (tracked.book_none idle) state
      (fun live => idle (tracked.connecting.mpr live)) tracked.reset savedErrno asserts
  · exact tracked

/-- An attempt that is under way has a live channel and its socket. -/
theorem Tracked.attempt (tracked : s.Tracked) (connecting : s.connector.state = .kConnecting) :
    s.connector.channel = .registered ∧ Book s (some s.fd) := by
  have book := tracked.book
  rw [if_pos connecting] at book
  exact ⟨tracked.connecting.mp connecting, book⟩

theorem Tracked.stopInLoop (tracked : s.Tracked) : s.stopInLoop.Tracked := by
  unfold ConnectorSockets.stopInLoop
  split
  · next connecting =>
    obtain ⟨live, book⟩ := tracked.attempt connecting
    obtain ⟨removed, reset⟩ :=
      removeAndResetChannel_spec (c := { s.connector with state := .kDisconnected }) live
        tracked.reset
    refine tracked_retry ⟨book.one, book.created, book.hand⟩ ?_ reset
    rw [connector_update, removed]
    nofun
  · exact tracked

theorem Tracked.handleError (tracked : s.Tracked) : s.handleError.Tracked := by
  unfold ConnectorSockets.handleError
  split
  · next connecting =>
    obtain ⟨live, book⟩ := tracked.attempt connecting
    obtain ⟨removed, reset⟩ := removeAndResetChannel_spec live tracked.reset
    refine tracked_retry ⟨book.one, book.created, book.hand⟩ ?_ reset
    rw [connector_update, removed]
    nofun
  · exact tracked

theorem Tracked.handleWrite (tracked : s.Tracked) (err selfConnect : Bool) :
    (s.handleWrite err selfConnect).Tracked := by
  unfold ConnectorSockets.handleWrite
  split
  · next connecting =>
    obtain ⟨live, book⟩ := tracked.attempt connecting
    obtain ⟨removed, reset⟩ := removeAndResetChannel_spec live tracked.reset
    have dead : s.connector.removeAndResetChannel.channel ≠ .registered := by
      rw [removed]
      decide
    have idle : States.kConnected ≠ .kConnecting := by decide
    have retries : ((s.update .removeAndResetChannel).retry s.fd).Tracked :=
      tracked_retry ⟨book.one, book.created, book.hand⟩ dead reset
    dsimp only
    split
    · exact retries
    · split
      · exact retries
      · split
        · have passed := book.end .passed
          exact tracked_of_none ⟨passed.one, passed.created, passed.hand⟩ idle dead reset
        · have closed := book.end .closed
          exact tracked_of_none ⟨closed.one, closed.created, closed.hand⟩ idle dead reset
  · unfold assert
    refine tracked.update ?_ ?_ ?_ <;> split <;> rfl

theorem Tracked.handleEvent (tracked : s.Tracked) (revents : Mask) (err selfConnect : Bool) :
    (s.handleEvent revents err selfConnect).Tracked := by
  have error : (if revents.meets (pollErr ||| pollNval) then s.handleError else s).Tracked := by
    split
    · exact tracked.handleError
    · exact tracked
  unfold ConnectorSockets.handleEvent
  dsimp only
  split
  · exact error.handleWrite ..
  · exact error

theorem Tracked.callFunctor (tracked : s.Tracked) {f : Functor} {rest : List Functor}
    (next : s.connector.functors = f :: rest) (savedErrno : ConnectErrno)
    (asserts : ((s.update fun c => { c with functors := rest }).callFunctor savedErrno
      f).connector.failed = false) :
    ((s.update fun c => { c with functors := rest }).callFunctor savedErrno f).Tracked := by
  have popped (other : f ≠ .resetChannel) :
      (s.update fun c => { c with functors := rest }).Tracked := by
    apply tracked.update rfl rfl
    rw [next, List.count_cons_of_ne other]
  cases f with
  | startInLoop => exact (popped nofun).startInLoop savedErrno asserts
  | stopInLoop => exact (popped nofun).stopInLoop
  | resetChannel =>
    have reset := tracked.reset
    rw [ResetsRemoved, next, List.count_cons_self] at reset
    have removed : s.connector.channel = .removed := by
      by_contra other
      rw [if_neg other] at reset
      contradiction
    rw [if_pos removed] at reset
    have idle : s.connector.state ≠ .kConnecting := by
      intro connecting
      rw [tracked.connecting.mp connecting] at removed
      contradiction
    have book := tracked.book_none idle
    exact tracked_of_none ⟨book.one, book.created, book.hand⟩ idle nofun (Nat.succ.inj reset)

theorem Tracked.restart (tracked : s.Tracked) (idle : s.connector.state ≠ .kConnecting)
    (savedErrno : ConnectErrno) (asserts : (s.restart savedErrno).connector.failed = false) :
    (s.restart savedErrno).Tracked := by
  have book := tracked.book_none idle
  refine Tracked.startInLoop ?_ savedErrno asserts
  exact tracked_of_none ⟨book.one, book.created, book.hand⟩ nofun
    (fun live => idle (tracked.connecting.mpr live)) tracked.reset

theorem Tracked.step (tracked : s.Tracked) {a : Act}
    (idle : Restarts a → s.connector.state ≠ .kConnecting) (moved : step s a = some s')
    (asserts : s'.connector.failed = false) : s'.Tracked := by
  cases a with
  | restart savedErrno =>
    obtain ⟨-, rfl⟩ := some_of_guard moved
    exact tracked.restart (idle trivial) savedErrno asserts
  | connector a =>
    cases a with
    | start t | stop t =>
      obtain ⟨-, rfl⟩ := some_of_guard moved
      exact tracked.update rfl rfl rfl
    | advance t savedErrno =>
      simp only [ConnectorSockets.step] at moved
      split at moved
      · contradiction
      · obtain rfl := Option.some.inj moved
        have entered : (s.update fun c => c.enter t .idle).Tracked := tracked.update rfl rfl rfl
        split at asserts
        · next loop =>
          rw [if_pos loop]
          exact entered.startInLoop savedErrno asserts
        · next loop =>
          rw [if_neg loop]
          exact entered.update rfl rfl (by simp [queueInLoop])
      · obtain rfl := Option.some.inj moved
        exact tracked.update rfl rfl (by simp [enter, queueInLoop])
    | callFunctor savedErrno =>
      simp only [ConnectorSockets.step] at moved
      split at moved
      · contradiction
      · next next =>
        obtain ⟨-, rfl⟩ := some_of_guard moved
        exact tracked.callFunctor next savedErrno asserts
    | timer i savedErrno =>
      obtain ⟨-, rfl⟩ := some_of_guard moved
      exact Tracked.startInLoop (tracked.update rfl rfl rfl) savedErrno asserts
    | handleEvent revents err selfConnect =>
      obtain ⟨-, rfl⟩ := some_of_guard moved
      exact tracked.handleEvent ..
    | removeConnection restart savedErrno =>
      obtain ⟨-, rfl⟩ := some_of_guard moved
      have closed : (s.update fun c => { c with connection := false }).Tracked :=
        tracked.update rfl rfl rfl
      cases restart with
      | true => exact closed.restart (idle trivial) savedErrno asserts
      | false => exact closed

/-! ## Whole runs -/

/-- A failed assertion stays. -/
theorem step_failed {a : Act} (moved : step s a = some s') (failed : s.connector.failed = true) :
    s'.connector.failed = true := by
  have restarts (s : ConnectorSockets) (savedErrno : ConnectErrno)
      (failed : s.connector.failed = true) : (s.restart savedErrno).connector.failed = true := by
    rw [connector_restart]
    exact (backs_startInLoop savedErrno _).failed failed
  cases a with
  | restart savedErrno =>
    obtain ⟨-, rfl⟩ := some_of_guard moved
    exact restarts s savedErrno failed
  | connector a =>
    by_cases restart : ∃ e, a = .removeConnection true e
    · obtain ⟨e, rfl⟩ := restart
      obtain ⟨-, rfl⟩ := some_of_guard moved
      exact restarts _ e failed
    · have moved : s.connector.step a = some s'.connector := by rw [← connector_step, moved]; rfl
      exact (backs_step moved fun e eq => restart ⟨e, eq⟩).failed failed

/-- The delay stays where it may be, and only `restart()` takes it back. -/
theorem step_delay {a : Act} (moved : step s a = some s')
    (low : 500 ≤ s.connector.retryDelayMs) (high : s.connector.retryDelayMs ≤ 30000) :
    500 ≤ s'.connector.retryDelayMs ∧ s'.connector.retryDelayMs ≤ 30000 ∧
      (¬ Restarts a → s.connector.retryDelayMs ≤ s'.connector.retryDelayMs) := by
  have restarts (s : ConnectorSockets) (savedErrno : ConnectErrno) :
      500 ≤ (s.restart savedErrno).connector.retryDelayMs ∧
        (s.restart savedErrno).connector.retryDelayMs ≤ 30000 := by
    rw [connector_restart]
    have initial : kInitRetryDelayMs ≤ kMaxRetryDelayMs := by decide
    exact (backs_startInLoop savedErrno { s.connector with
      state := .kDisconnected
      retryDelayMs := kInitRetryDelayMs
      connect := true }).delay initial
  cases a with
  | restart savedErrno =>
    obtain ⟨-, rfl⟩ := some_of_guard moved
    obtain ⟨low, high⟩ := restarts s savedErrno
    exact ⟨low, high, fun kept => absurd trivial kept⟩
  | connector a =>
    by_cases restart : ∃ e, a = .removeConnection true e
    · obtain ⟨e, rfl⟩ := restart
      obtain ⟨-, rfl⟩ := some_of_guard moved
      obtain ⟨low, high⟩ := restarts (s.update fun c => { c with connection := false }) e
      exact ⟨low, high, fun kept => absurd trivial kept⟩
    · have moved : s.connector.step a = some s'.connector := by rw [← connector_step, moved]; rfl
      obtain ⟨le, high⟩ := (backs_step moved fun e eq => restart ⟨e, eq⟩).delay high
      exact ⟨low.trans le, high, fun _ => le⟩

theorem Tracked.owned (tracked : s.Tracked)
    (delay : 500 ≤ s.connector.retryDelayMs ∧ s.connector.retryDelayMs ≤ 30000) : s.Owned where
  one := tracked.book.one
  created := tracked.book.created
  held i _ isOpen := by
    have held := (tracked.book.hand i).mp isOpen
    split at held
    · next connecting =>
      exact ⟨connecting, tracked.connecting.mp connecting, Option.some.inj held⟩
    · contradiction
  delay := delay

/-- Another attempt leaves the open sockets as they are. -/
theorem Open.connectSocket {i : Nat} (isOpen : s.Open i) (savedErrno : ConnectErrno) :
    (s.connectSocket savedErrno).Open i := by
  obtain ⟨below, stays⟩ := isOpen
  have below' := Nat.lt_succ_of_lt below
  have closed : i ∉ (s.ends ++ [(s.created, SocketEnd.closed)]).map Prod.fst := by
    rw [List.map_append, List.mem_append, not_or]
    exact ⟨stays, fun mem => Nat.ne_of_lt below (List.mem_singleton.mp mem)⟩
  unfold ConnectorSockets.connectSocket
  split
  case h_1 | h_2 | h_3 | h_4 => exact ⟨below', stays⟩
  all_goals exact ⟨below', closed⟩

/-- With a channel in the poller no other attempt gets under way. -/
theorem connectSocket_disconnected {c : Connector} (live : c.channel = .registered)
    (state : c.state = .kDisconnected) (savedErrno : ConnectErrno)
    (asserts : (c.connectSocket savedErrno).failed = false) :
    (c.connectSocket savedErrno).state = .kDisconnected := by
  have connects : c.connecting.failed = true := by
    rw [Connector.connecting, assert, if_neg (by rw [live]; simp)]
  unfold Connector.connectSocket at asserts ⊢
  split
  case h_1 | h_2 | h_3 | h_4 => exact absurd (connects.symm.trans asserts) (by decide)
  case h_5 | h_6 | h_7 | h_8 | h_9 => exact retry_state c
  case h_10 => exact state

/-- A `restart()` while an attempt is under way drops the socket of the channel, unless an
assertion fails. -/
theorem Tracked.not_owned_restart (tracked : s.Tracked)
    (connecting : s.connector.state = .kConnecting) (savedErrno : ConnectErrno)
    (asserts : (s.restart savedErrno).connector.failed = false) :
    ¬ (s.restart savedErrno).Owned := by
  intro owned
  obtain ⟨live, book⟩ := tracked.attempt connecting
  unfold ConnectorSockets.restart ConnectorSockets.startInLoop at asserts owned
  rw [ConnectorSockets.update, ConnectorSockets.update, assert_pos rfl] at asserts owned
  dsimp only at asserts owned
  rw [if_pos rfl] at asserts owned
  have isOpen (c : Connector) :
      (connectSocket savedErrno { s with connector := c }).Open s.fd :=
    Open.connectSocket (s := { s with connector := c }) ((book.hand s.fd).mpr rfl) savedErrno
  rw [connector_connectSocket] at asserts
  have state := connectSocket_disconnected (c := { s.connector with
    state := .kDisconnected
    retryDelayMs := kInitRetryDelayMs
    connect := true }) live rfl savedErrno asserts
  have attempt := (owned.held s.fd (isOpen _).1 (isOpen _)).1
  rw [connector_connectSocket, state] at attempt
  contradiction

/-- What is kept between the steps, as long as no assertion fails. -/
def Kept (s : ConnectorSockets) : Prop :=
  (s.connector.failed = false → s.Tracked) ∧
    500 ≤ s.connector.retryDelayMs ∧ s.connector.retryDelayMs ≤ 30000

theorem kept_new : new.Kept := ⟨fun _ => tracked_new, by decide, by decide⟩

theorem kept_step {a : Act} (kept : s.Kept) (idle : s.RestartsIdle a s')
    (moved : step s a = some s') : s'.Kept ∧ s.Accounts a s' := by
  obtain ⟨tracked, low, high⟩ := kept
  obtain ⟨low', high', backs⟩ := step_delay moved low high
  have tracked' (asserts : s'.connector.failed = false) : s'.Tracked := by
    have before : s.connector.failed = false := by
      by_contra failed
      rw [step_failed moved (eq_true_of_ne_false failed)] at asserts
      contradiction
    refine (tracked before).step ?_ moved asserts
    intro restarts connecting
    rw [idle restarts connecting] at asserts
    contradiction
  exact ⟨⟨tracked', low', high'⟩, fun asserts => ⟨(tracked' asserts).owned ⟨low', high'⟩, backs⟩⟩

/-- The condition is needed. -/
theorem restartsIdle_of_accounts {a : Act} (kept : s.Kept) (moved : step s a = some s')
    (accounts : s.Accounts a s') : s.RestartsIdle a s' := by
  intro restarts connecting
  by_contra fine
  have asserts := eq_false_of_ne_true fine
  have before : s.connector.failed = false := by
    by_contra failed
    exact fine (step_failed moved (eq_true_of_ne_false failed))
  have tracked := kept.1 before
  have owned := (accounts asserts).1
  cases a with
  | restart savedErrno =>
    obtain ⟨-, rfl⟩ := some_of_guard moved
    exact tracked.not_owned_restart connecting savedErrno asserts owned
  | connector a =>
    cases a with
    | removeConnection restart savedErrno =>
      cases restart with
      | true =>
        obtain ⟨-, rfl⟩ := some_of_guard moved
        have closed : (s.update fun c => { c with connection := false }).Tracked :=
          tracked.update rfl rfl rfl
        exact closed.not_owned_restart connecting savedErrno asserts owned
      | false => exact restarts
    | _ => exact restarts

/-- A run accounts for its sockets, up to the first failed assertion, exactly if no `restart()`
comes while an attempt is under way and gets through. -/
theorem eachStep_accounts_iff (acts : List Act) :
    new.Owned ∧ EachStep step Accounts new acts ↔ EachStep step RestartsIdle new acts := by
  have keeps : ∀ s a s', Kept s → s.RestartsIdle a s' → step s a = some s' →
      Kept s' ∧ s.Accounts a s' := fun s a s' kept idle moved => kept_step kept idle moved
  have only : ∀ s a s', Kept s → step s a = some s' → s.Accounts a s' → s.RestartsIdle a s' :=
    fun s a s' kept moved accounts => restartsIdle_of_accounts kept moved accounts
  have exact_steps : EachStep step Accounts new acts ↔ EachStep step RestartsIdle new acts :=
    EachStep.iff_of_invariant keeps only kept_new
  exact ⟨fun run => exact_steps.mp run.2,
    fun run => ⟨tracked_new.owned ⟨by decide, by decide⟩, exact_steps.mpr run⟩⟩

/-- `restart()` comes while the attempt is under way, and the connection is refused. -/
def restartedWhileConnecting : List Act :=
  [.connector (.start none), .connector (.advance none .einprogress), .restart .econnrefused]

theorem not_eachStep_accounts_restartedWhileConnecting :
    ¬ EachStep step Accounts new restartedWhileConnecting := by
  decide

end ConnectorSockets

end NewFramework.Net
