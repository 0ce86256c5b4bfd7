import Mathlib.Algebra.BigOperators.Group.Finset.Basic
import Mathlib.Algebra.BigOperators.Group.Finset.Piecewise
import Mathlib.Data.Multiset.MapFold
import Mathlib.Logic.Function.Basic
import NewFramework.Lib.Run

/-!
# `ThriftConnectionPool`

Any number of threads get clients from the pool (`muduo/base/thrift_connection_pool.h`), each in a
handle of its own, and give them back or destroy them.  What a thread does under `mMutex` is one
step, but that `return_connection` is seen between the change of the pool and its `notify_all`.  A
caller of `get_connection` that waits may be notified, wake up for no reason or run out of time;
then it goes on when it has the mutex.

A client is the object at an address: the sets of the pool compare addresses, and an address may
be used again after its client was deleted.  A handle is used by one thread at a time.
-/

namespace NewFramework.Base
open NewFramework.Lib

/-- `HOST`: an ip and a port. -/
abbrev Host := UInt32 × UInt16

/-- A client, with its address and the number of clients created before it. -/
structure Client where
  address : Nat
  serial : Nat
  deriving DecidableEq, Repr

/-! ## `std::set<TInterface*>` -/

def setInsert (c : Client) (set : List Client) : List Client :=
  if c.address ∈ set.map Client.address then set else c :: set

def setErase (c : Client) (set : List Client) : List Client :=
  set.filter (·.address ≠ c.address)

/-! ## The pool -/

structure ThriftConnectionPool where
  mActiveConns : Host → List Client
  mIdleConns : Host → List Client
  /-- the keys of both maps -/
  hosts : Finset Host
  mTotalConn : UInt32
  mMaxConn : UInt32
  mMaxConnPerHost : UInt32
  /-- how many clients were created -/
  created : Nat
  /-- the clients that were deleted -/
  destroyed : List Client

namespace ThriftConnectionPool

def new (maxConn maxConnPerHost : UInt32) : ThriftConnectionPool where
  mActiveConns _ := []
  mIdleConns _ := []
  hosts := ∅
  mTotalConn := 0
  mMaxConn := maxConn
  mMaxConnPerHost := maxConnPerHost
  created := 0
  destroyed := []

/-- `init_connection_map` -/
def initConnectionMap (host : Host) (p : ThriftConnectionPool) : ThriftConnectionPool :=
  if host ∈ p.hosts then p
  else
    { p with
      mActiveConns := Function.update p.mActiveConns host []
      mIdleConns := Function.update p.mIdleConns host []
      hosts := insert host p.hosts }

/-- `count` of `get_connection` -/
def count (host : Host) (p : ThriftConnectionPool) : UInt32 :=
  .ofNat ((p.mIdleConns host).length + (p.mActiveConns host).length)

/-- A client may be created for the host. -/
def HasRoom (host : Host) (p : ThriftConnectionPool) : Prop :=
  p.count host < p.mMaxConnPerHost ∧ p.mTotalConn < p.mMaxConn

instance (host : Host) (p : ThriftConnectionPool) : Decidable (p.HasRoom host) :=
  inferInstanceAs (Decidable (_ ∧ _))

/-- How a round of the loop in `get_connection` ends. -/
inductive Outcome where
  | got (client : Client)
  | thrown
  | waits
  deriving DecidableEq

def activate (interf : Client) (host : Host) (p : ThriftConnectionPool) : ThriftConnectionPool :=
  { p with
    mActiveConns := Function.update p.mActiveConns host (setInsert interf (p.mActiveConns host)) }

/-- What follows `new_client`. -/
def create (interf : Client) (host : Host) (p : ThriftConnectionPool) : ThriftConnectionPool :=
  { p.activate interf host with
    mTotalConn := p.mTotalConn + 1
    created := p.created + 1 }

/-- A round of the loop.  `address` is where `new_client` puts its client, if it does not throw. -/
def tryGet (host : Host) (address : Option Nat) (p : ThriftConnectionPool) :
    Outcome × ThriftConnectionPool :=
  match p.mIdleConns host with
  | interf :: idle =>
    (.got interf,
      { p.activate interf host with mIdleConns := Function.update p.mIdleConns host idle })
  | [] =>
    if p.HasRoom host then
      match address with
      | none => (.thrown, p)
      | some address =>
        let interf : Client := ⟨address, p.created⟩
        (.got interf, p.create interf host)
    else (.waits, p)

def deactivate (interf : Client) (host : Host) (p : ThriftConnectionPool) :
    ThriftConnectionPool :=
  { p with
    mActiveConns := Function.update p.mActiveConns host (setErase interf (p.mActiveConns host)) }

/-- `return_connection` up to its `notify_all`, which it reaches unless the host is unknown. -/
def returnConnection (interf : Client) (host : Host) (p : ThriftConnectionPool) :
    Bool × ThriftConnectionPool :=
  if host ∈ p.hosts then
    (true,
      { p.deactivate interf host with
        mIdleConns := Function.update p.mIdleConns host (interf :: p.mIdleConns host) })
  else (false, p)

def destroyConnection (interf : Client) (host : Host) (p : ThriftConnectionPool) :
    ThriftConnectionPool :=
  if host ∈ p.hosts then
    { p.deactivate interf host with
      mTotalConn := p.mTotalConn - 1
      destroyed := p.destroyed ++ [interf] }
  else p

/-- Nothing is allocated at the address. -/
def Free (address : Nat) (p : ThriftConnectionPool) : Prop :=
  ∀ host ∈ p.hosts, ∀ c ∈ p.mIdleConns host ++ p.mActiveConns host, c.address ≠ address

-- by the hosts of the pool, not by all hosts there are
instance (address : Nat) (p : ThriftConnectionPool) : Decidable (p.Free address) :=
  Finset.decidableDforallFinset

end ThriftConnectionPool

/-! ## Its users -/

/-- The life of a handle. -/
inductive HandleStage where
  | live
  /-- in `destroy`, behind `destroy_connection` -/
  | destroying
  /-- destructed -/
  | gone
  deriving DecidableEq, Repr

structure ThriftConnection where
  host : Host
  mClient : Option Client
  stage : HandleStage
  deriving DecidableEq

/-- The client a handle holds while it lives. -/
def ThriftConnection.holds (h : ThriftConnection) : Option Client :=
  if h.stage = .gone then none else h.mClient

/-- Where a call of `get_connection` is. -/
inductive CallerStage where
  /-- blocked in `timed_wait` and not notified -/
  | waiting
  /-- behind its wait, with what `timed_wait` returns -/
  | woken (result : Bool)
  | returned
  deriving DecidableEq, Repr

structure Caller where
  host : Host
  stage : CallerStage
  deriving DecidableEq

structure PoolUsers where
  pool : ThriftConnectionPool
  handles : List ThriftConnection
  callers : List Caller
  /-- a thread has `mMutex` and is about to call `notify_all` -/
  notifying : Bool

/-- A step of a thread: a caller or a handle is named by its number. -/
inductive PoolAct where
  | enter (host : Host) (address : Option Nat)
  | resume (caller : Nat) (address : Option Nat)
  | wakeUp (caller : Nat)
  | timeout (caller : Nat)
  | release (handle : Nat)
  | notify
  | destroy (handle : Nat)
  | destroyed (handle : Nat)
  deriving DecidableEq

namespace PoolUsers

def new (maxConn maxConnPerHost : UInt32) : PoolUsers where
  pool := .new maxConn maxConnPerHost
  handles := []
  callers := []
  notifying := false

def setCaller (i : Nat) (host : Host) (stage : CallerStage) (s : PoolUsers) : PoolUsers :=
  { s with callers := s.callers.set i ⟨host, stage⟩ }

def setHandle (i : Nat) (h : ThriftConnection) (s : PoolUsers) : PoolUsers :=
  { s with handles := s.handles.set i h }

/-- A caller that has the mutex goes through the loop once. -/
def round (i : Nat) (host : Host) (address : Option Nat) (s : PoolUsers) : PoolUsers :=
  match s.pool.tryGet host address with
  | (.got interf, pool) =>
    { s.setCaller i host .returned with
      pool := pool
      handles := s.handles ++ [⟨host, some interf, .live⟩] }
  | (.thrown, pool) => { s.setCaller i host .returned with pool := pool }
  | (.waits, pool) => { s.setCaller i host .waiting with pool := pool }

/-- A new call, up to its loop. -/
def called (host : Host) (s : PoolUsers) : PoolUsers :=
  { s with
    pool := s.pool.initConnectionMap host
    callers := s.callers ++ [⟨host, .woken true⟩] }

/-- The call begins. -/
def enter (host : Host) (address : Option Nat) (s : PoolUsers) : PoolUsers :=
  (s.called host).round s.callers.length host address

/-- The call goes on behind `timed_wait`. -/
def resume (i : Nat) (caller : Caller) (address : Option Nat) (s : PoolUsers) : PoolUsers :=
  match caller.stage with
  | .woken true => s.round i caller.host address
  | .woken false => s.setCaller i caller.host .returned
  | _ => s

def notifyAll (callers : List Caller) : List Caller :=
  callers.map fun caller =>
    if caller.stage = .waiting then { caller with stage := .woken true } else caller

/-- `~ThriftConnection()` -/
def release (i : Nat) (h : ThriftConnection) (s : PoolUsers) : PoolUsers :=
  match h.mClient with
  | none => s.setHandle i { h with stage := .gone }
  | some interf =>
    { s.setHandle i { h with stage := .gone } with
      pool := (s.pool.returnConnection interf h.host).2
      notifying := (s.pool.returnConnection interf h.host).1 }

/-- `ThriftConnection::destroy()`, up to where `mClient` is cleared. -/
def destroy (i : Nat) (h : ThriftConnection) (s : PoolUsers) : PoolUsers :=
  match h.mClient with
  | none => s
  | some interf =>
    { s.setHandle i { h with stage := .destroying } with
      pool := s.pool.destroyConnection interf h.host }

def AddressFree (address : Option Nat) (s : PoolUsers) : Prop :=
  ∀ a ∈ address, s.pool.Free a

instance (address : Option Nat) (s : PoolUsers) : Decidable (s.AddressFree address) :=
  inferInstanceAs (Decidable (∀ _ ∈ _, _))

/-- A thread may use the handle as long as it does not need the mutex, or can have it. -/
def CanUse (h : ThriftConnection) (s : PoolUsers) : Prop :=
  h.stage = .live ∧ (s.notifying = false ∨ h.mClient = none)

instance (h : ThriftConnection) (s : PoolUsers) : Decidable (s.CanUse h) :=
  inferInstanceAs (Decidable (_ ∧ _))

def step (s : PoolUsers) : PoolAct → Option PoolUsers
  | .enter host address =>
    if s.notifying = false ∧ s.AddressFree address then some (s.enter host address) else none
  | .resume i address =>
    match s.callers[i]? with
    | none => none
    | some caller =>
      if s.notifying = false ∧ s.AddressFree address ∧
          (caller.stage = .woken true ∨ caller.stage = .woken false) then
        some (s.resume i caller address)
      else none
  | .wakeUp i =>
    match s.callers[i]? with
    | none => none
    | some caller =>
      if caller.stage = .waiting then some (s.setCaller i caller.host (.woken true)) else none
  | .timeout i =>
    match s.callers[i]? with
    | none => none
    | some caller =>
      if caller.stage = .waiting then some (s.setCaller i caller.host (.woken false)) else none
  | .release i =>
    match s.handles[i]? with
    | none => none
    | some h => if s.CanUse h then some (s.release i h) else none
  | .notify =>
    if s.notifying = true then
      some { s with notifying := false, callers := notifyAll s.callers }
    else none
  | .destroy i =>
    match s.handles[i]? with
    | none => none
    | some h => if s.CanUse h then some (s.destroy i h) else none
  | .destroyed i =>
    match s.handles[i]? with
    | none => none
    | some h =>
      if h.stage = .destroying then
        some (s.setHandle i { h with mClient := none, stage := .live })
      else none

/-- What a step can do. -/
inductive Move (s : PoolUsers) : PoolAct → PoolUsers → Prop where
  | enter {host : Host} {address : Option Nat} (unlocked : s.notifying = false)
      (free : s.AddressFree address) : Move s (.enter host address) (s.enter host address)
  | resume {i : Nat} {caller : Caller} {address : Option Nat} (there : s.callers[i]? = some caller)
      (stage : caller.stage = .woken true) (unlocked : s.notifying = false)
      (free : s.AddressFree address) : Move s (.resume i address) (s.round i caller.host address)
  | expire {i : Nat} {caller : Caller} {address : Option Nat}
      (there : s.callers[i]? = some caller) :
      Move s (.resume i address) (s.setCaller i caller.host .returned)
  | wakeUp {i : Nat} {caller : Caller} (there : s.callers[i]? = some caller) :
      Move s (.wakeUp i) (s.setCaller i caller.host (.woken true))
  | timeout {i : Nat} {caller : Caller} (there : s.callers[i]? = some caller) :
      Move s (.timeout i) (s.setCaller i caller.host (.woken false))
  | release {i : Nat} {h : ThriftConnection} (there : s.handles[i]? = some h) (can : s.CanUse h) :
      Move s (.release i) (s.release i h)
  | notify : Move s .notify { s with notifying := false, callers := notifyAll s.callers }
  | destroy {i : Nat} {h : ThriftConnection} (there : s.handles[i]? = some h) (can : s.CanUse h) :
      Move s (.destroy i) (s.destroy i h)
  | destroyed {i : Nat} {h : ThriftConnection} (there : s.handles[i]? = some h) :
      Move s (.destroyed i) (s.setHandle i { h with mClient := none, stage := .live })

theorem move_of_step {s s' : PoolUsers} {a : PoolAct} (moved : step s a = some s') :
    Move s a s' := by
  unfold step at moved
  cases a with
  | enter host address =>
    obtain ⟨⟨unlocked, free⟩, rfl⟩ := some_of_guard moved
    exact .enter unlocked free
  | resume i address =>
    dsimp only at moved
    split at moved
    · contradiction
    · next caller there =>
      obtain ⟨⟨unlocked, free, stage⟩, rfl⟩ := some_of_guard moved
      rcases stage with stage | stage <;> rw [resume, stage]
      · exact .resume there stage unlocked free
      · exact .expire there
  | wakeUp i =>
    dsimp only at moved
    split at moved
    · contradiction
    · next caller there =>
      obtain ⟨-, rfl⟩ := some_of_guard moved
      exact .wakeUp there
  | timeout i =>
    dsimp only at moved
    split at moved
    · contradiction
    · next caller there =>
      obtain ⟨-, rfl⟩ := some_of_guard moved
      exact .timeout there
  | release i =>
    dsimp only at moved
    split at moved
    · contradiction
    · next h there =>
      obtain ⟨can, rfl⟩ := some_of_guard moved
      exact .release there can
  | notify =>
    obtain ⟨-, rfl⟩ := some_of_guard moved
    exact .notify
  | destroy i =>
    dsimp only at moved
    split at moved
    · contradiction
    · next h there =>
      obtain ⟨can, rfl⟩ := some_of_guard moved
      exact .destroy there can
  | destroyed i =>
    dsimp only at moved
    split at moved
    · contradiction
    · next h there =>
      obtain ⟨-, rfl⟩ := some_of_guard moved
      exact .destroyed there

end PoolUsers

end NewFramework.Base
