import NewFramework.Lib.Numbered
import NewFramework.Net.SocketsOps
import NewFramework.Tstlesrv.ConnQueue

/-!
# The item of an accepted connection

`CTcpServer::handle_event` (`tstlesrv/tcpserver.cpp`) makes an item for each connection it accepts
and has it dispatched to one of the IO threads (`tstlesrv/iothreadmanager.cpp`), whose
`ClientCtx::init` copies the peer's address out of it.  The item crosses by pointer: pushed on the
queue of an IO thread it belongs to that thread, which deletes it, and an item that `dispatch_item`
refuses is deleted by `handle_event`.

An item is named by its place among the items that were made.  Its owner and the members that
were set since its construction are noted beside it.
-/

namespace NewFramework.Tstlesrv
open NewFramework.Lib NewFramework.Net

/-- What `accept` says about the peer: the text that `inet_ntop` gives and the port that `ntohs`
gives. -/
inductive SockAddr where
  | inet (ip : String) (port : UInt16)
  | inet6 (ip : String) (port : UInt16)
  | other
  deriving DecidableEq

/-- `Item_t` -/
structure ItemT where
  port : Int
  socket : Socket
  ip : String
  typeIp : String
  deriving DecidableEq

/-- The members that `OutPeerIpInfo` sets. -/
inductive PeerField where
  | typeIp
  | ip
  | port
  deriving DecidableEq

inductive ItemOwner where
  | acceptPath
  | ioThread (j : Nat)
  | deleted
  deriving DecidableEq

structure HeapItem where
  item : ItemT
  owner : ItemOwner
  written : List PeerField
  deriving DecidableEq

/-- Where the accept path is. -/
inductive AcceptStage where
  /-- at `accept` -/
  | accepting
  /-- behind the calls of `fcntl` -/
  | accepted (socket : Socket) (addr : SockAddr)
  /-- before `dispatch_item` -/
  | dispatching (item : Nat) (addr : SockAddr)
  /-- in `set_item`, before it has the lock -/
  | setting (item selected : Nat) (addr : SockAddr)
  /-- in `set_item`, before `Notify` -/
  | notifying (item selected : Nat) (addr : SockAddr)
  /-- `dispatch_item` returned false -/
  | refused (item : Nat) (addr : SockAddr)
  /-- in `OutPeerIpInfo`, with the members it has yet to set -/
  | peerInfo (item : Option Nat) (addr : SockAddr) (todo : List PeerField)
  /-- written through a null pointer -/
  | crashed
  deriving DecidableEq

/-- Where an IO thread is. -/
inductive ConnStage where
  | idle
  | taken (item : Nat)
  | created (item : Nat)
  deriving DecidableEq

structure ConnThread where
  conns : NewConns Nat
  stage : ConnStage

structure AcceptPath where
  items : List HeapItem
  threads : List ConnThread
  nextThread : Nat
  stage : AcceptStage
  /-- what `SetPeerIp` was called with -/
  peerIps : List String

/-- A step of the accept path, or of the IO thread with the given number. -/
inductive AcceptAct where
  | accept (socket : Socket) (addr : SockAddr) (nonblocking : Bool)
  | getItem
  | dispatchItem
  | setItem
  | notify (sent : Bool)
  | deleteItem
  | outPeerIpInfo
  | handlerFn (j n : Nat)
  | handler (j : Nat)
  | createConnection (j : Nat) (newTransport : Bool)
  | deleteTaken (j : Nat)
  deriving DecidableEq

namespace ItemT

def new : ItemT := ⟨0, invalidSocket, "", ""⟩

/-- What `ClientCtx::init` passes to `SetPeerIp`. -/
def peerIp (item : ItemT) : String := item.typeIp ++ "-" ++ item.ip ++ ":" ++ toString item.port

end ItemT

/-- The members `OutPeerIpInfo` sets, in order. -/
def SockAddr.fields : SockAddr → List PeerField
  | .inet .. | .inet6 .. => [.typeIp, .ip, .port]
  | .other => [.ip, .port]

/-- `OutPeerIpInfo` sets a member of the item. -/
def SockAddr.write (addr : SockAddr) (item : ItemT) : PeerField → ItemT
  | .typeIp =>
    match addr with
    | .inet .. => { item with typeIp := "IpV4" }
    | .inet6 .. => { item with typeIp := "IpV6" }
    | .other => item
  | .ip =>
    match addr with
    | .inet ip _ | .inet6 ip _ => { item with ip := ip }
    | .other => { item with ip := "" }
  | .port =>
    match addr with
    | .inet _ port | .inet6 _ port => { item with port := port.toNat }
    | .other => { item with port := 0 }

namespace AcceptPath

def start (nthreads : Nat) : AcceptPath where
  items := []
  threads := List.replicate nthreads ⟨.start, .idle⟩
  nextThread := 0
  stage := .accepting
  peerIps := []

/-- Another item, with its socket. -/
def getItem (socket : Socket) (addr : SockAddr) (s : AcceptPath) : AcceptPath :=
  { s with
    items := s.items ++ [⟨{ ItemT.new with socket := socket }, .acceptPath, []⟩]
    stage := .dispatching s.items.length addr }

/-- `dispatch_item`, up to the lock in `set_item`: it refuses where there is no IO thread. -/
def dispatchItem (item : Nat) (addr : SockAddr) (s : AcceptPath) : AcceptPath :=
  if s.threads = [] then { s with stage := .refused item addr }
  else
    { s with
      nextThread := (s.nextThread + 1) % s.threads.length
      stage := .setting item s.nextThread addr }

def setOwner (item : Nat) (owner : ItemOwner) (s : AcceptPath) : AcceptPath :=
  { s with items := s.items.modify item fun cell => { cell with owner := owner } }

def setThread (j : Nat) (thread : ConnThread) (s : AcceptPath) : AcceptPath :=
  { s with threads := s.threads.set j thread }

/-- A write to a deleted item has no meaning: it is left out. -/
def writeField (item : Nat) (addr : SockAddr) (field : PeerField) (s : AcceptPath) : AcceptPath :=
  { s with
    items := s.items.modify item fun cell =>
      if cell.owner = .deleted then cell
      else { cell with item := addr.write cell.item field, written := field :: cell.written } }

/-- A step of `OutPeerIpInfo`. -/
def outPeerIpInfo (item : Option Nat) (addr : SockAddr) (field : PeerField)
    (rest : List PeerField) (s : AcceptPath) : AcceptPath :=
  match item with
  | none => { s with stage := .crashed }
  | some item =>
    { s.writeField item addr field with
      stage := if rest = [] then .accepting else .peerInfo (some item) addr rest }

/-- `set_item` pushes the item. -/
def push (item selected : Nat) (addr : SockAddr) (thread : ConnThread) (conns : NewConns Nat)
    (s : AcceptPath) : AcceptPath :=
  { (s.setOwner item (.ioThread selected)).setThread selected { thread with conns := conns } with
    stage := .notifying item selected addr }

/-- A step of the accept path. -/
def stepAccept (s : AcceptPath) : AcceptStage → AcceptAct → Option AcceptPath
  | .accepting, .accept socket addr nonblocking =>
    if nonblocking then some { s with stage := .accepted socket addr } else some s
  | .accepted socket addr, .getItem => some (s.getItem socket addr)
  | .dispatching item addr, .dispatchItem => some (s.dispatchItem item addr)
  | .setting item selected addr, .setItem =>
    s.threads[selected]?.bind fun thread =>
      (thread.conns.step (.setItem (some item))).map fun conns =>
        s.push item selected addr thread conns
  | .notifying item selected addr, .notify sent =>
    s.threads[selected]?.bind fun thread =>
      (thread.conns.step (.notify sent)).map fun conns =>
        { s.setThread selected { thread with conns := conns } with
          stage := .peerInfo (some item) addr addr.fields }
  | .refused item addr, .deleteItem =>
    some { s.setOwner item .deleted with stage := .peerInfo none addr addr.fields }
  | .peerInfo item addr (field :: rest), .outPeerIpInfo =>
    some (s.outPeerIpInfo item addr field rest)
  | _, _ => none

/-- `thread_handle_newconnection`, up to `create_connection`, with what `get_connitem` returned. -/
def taken (j : Nat) (before after : NewConns Nat) (s : AcceptPath) : AcceptPath :=
  match after.taken[before.taken.length]? with
  | none => s.setThread j ⟨after, .idle⟩
  | some item => s.setThread j ⟨after, .taken item⟩

/-- `ClientCtx::init` reads the item: it gives its peer to a transport if it makes a new one. -/
def createConnection (j item : Nat) (conns : NewConns Nat) (newTransport : Bool) (s : AcceptPath) :
    AcceptPath :=
  { s.setThread j ⟨conns, .created item⟩ with
    peerIps :=
      if newTransport then s.peerIps ++ (s.items[item]?.toList.map (·.item.peerIp)) else s.peerIps }

/-- A step of an IO thread. -/
def stepThread (s : AcceptPath) (j : Nat) (conns : NewConns Nat) :
    ConnStage → AcceptAct → Option AcceptPath
  | .idle, .handlerFn _ n =>
    (conns.step (.handlerFn n)).map fun after => s.setThread j ⟨after, .idle⟩
  | .idle, .handler _ => (conns.step .handler).map fun after => s.taken j conns after
  | .taken item, .createConnection _ newTransport =>
    some (s.createConnection j item conns newTransport)
  | .created item, .deleteTaken _ => some ((s.setOwner item .deleted).setThread j ⟨conns, .idle⟩)
  | _, _ => none

def step (s : AcceptPath) (a : AcceptAct) : Option AcceptPath :=
  match a with
  | .handlerFn j _ | .handler j | .createConnection j _ | .deleteTaken j =>
    s.threads[j]?.bind fun thread => s.stepThread j thread.conns thread.stage a
  | _ => s.stepAccept s.stage a

/-- The pointer through which the accept path reads, writes or deletes an item in a step. -/
def touched (s : AcceptPath) (a : AcceptAct) : Option (Option Nat) :=
  match s.stage, a with
  | .dispatching item _, .dispatchItem | .refused item _, .deleteItem => some (some item)
  | .peerInfo item _ _, .outPeerIpInfo => some item
  | _, _ => none

/-- The accept path touches no item but its own. -/
def TouchesOwn (s : AcceptPath) (a : AcceptAct) : Prop :=
  ∀ pointer ∈ s.touched a, ∃ item ∈ pointer, ∃ cell ∈ s.items[item]?, cell.owner = .acceptPath

/-- The peer of every item on a queue is set. -/
def PeersSet (s : AcceptPath) : Prop :=
  ∀ thread ∈ s.threads, ∀ item ∈ thread.conns.connQueue,
    ∃ cell ∈ s.items[item]?, .typeIp ∈ cell.written ∧ .ip ∈ cell.written ∧ .port ∈ cell.written

/-- What a step keeps. -/
def KeepsOwnership (s : AcceptPath) (a : AcceptAct) (s' : AcceptPath) : Prop :=
  s.TouchesOwn a ∧ s'.PeersSet

instance (s : AcceptPath) (a : AcceptAct) : Decidable (s.TouchesOwn a) :=
  inferInstanceAs (Decidable (∀ _ ∈ s.touched a, _))

instance (s : AcceptPath) : Decidable s.PeersSet := inferInstanceAs (Decidable (∀ _ ∈ _, _))

instance (s : AcceptPath) (a : AcceptAct) (s' : AcceptPath) : Decidable (s.KeepsOwnership a s') :=
  inferInstanceAs (Decidable (_ ∧ _))

/-- The step neither gives an item to an IO thread nor sets a member of one. -/
def Spares (a : AcceptAct) : Prop := a ≠ .setItem ∧ a ≠ .outPeerIpInfo

/-- A connection gets past the calls of `fcntl`. -/
def Admits : AcceptAct → Prop
  | .accept _ _ nonblocking => nonblocking = true
  | _ => False

/-! ## Before the first item is given away -/

/-- The item of a stage before it is given away or deleted. -/
def stageItem : AcceptStage → Option Nat
  | .dispatching item _ | .setting item _ _ | .refused item _ => some item
  | _ => none

/-- The item was given to an IO thread. -/
def GaveAway : AcceptStage → Prop
  | .notifying .. | .peerInfo (some _) .. | .crashed => True
  | _ => False

/-- Nothing was given away yet. -/
structure Quiet (s : AcceptPath) : Prop where
  idle : ∀ thread ∈ s.threads, thread.stage = .idle ∧ thread.conns.connQueue = []
  owned : ∀ item ∈ stageItem s.stage,
    ∃ cell ∈ s.items[item]?, cell.owner = .acceptPath ∧ cell.written = []
  kept : ¬ GaveAway s.stage

theorem quiet_start (nthreads : Nat) : (start nthreads).Quiet where
  idle thread mem := by
    rw [List.eq_of_mem_replicate mem]
    exact ⟨rfl, rfl⟩
  owned := nofun
  kept := not_false

/-- A step is one of the accept path or one of an IO thread. -/
theorem step_cases {s s' : AcceptPath} {a : AcceptAct} (moved : step s a = some s') :
    s.stepAccept s.stage a = some s' ∨ ∃ j thread, s.threads[j]? = some thread ∧
      s.stepThread j thread.conns thread.stage a = some s' := by
  unfold step at moved
  split at moved
  case h_5 => exact .inl moved
  all_goals
    obtain ⟨thread, there, moved⟩ := Option.bind_eq_some_iff.mp moved
    exact .inr ⟨_, thread, there, moved⟩

theorem Quiet.setThread {s : AcceptPath} (quiet : s.Quiet) (j : Nat) {conns : NewConns Nat}
    (empty : conns.connQueue = []) : (s.setThread j ⟨conns, .idle⟩).Quiet where
  idle thread mem := by
    rcases List.mem_or_eq_of_mem_set mem with old | rfl
    · exact quiet.idle thread old
    · exact ⟨rfl, empty⟩
  owned := quiet.owned
  kept := quiet.kept

theorem handler_nothing {conns : NewConns Nat} (empty : conns.connQueue = [])
    (userData : List UInt8) :
    (conns.threadHandleNewconnection userData).connQueue = [] ∧
      (conns.threadHandleNewconnection userData).taken = conns.taken := by
  have same : conns.getConnitem = conns := by
    unfold NewConns.getConnitem
    rw [empty]
  unfold NewConns.threadHandleNewconnection
  rw [same]
  split <;> exact ⟨empty, rfl⟩

/-- An IO thread finds nothing in its queue. -/
theorem Quiet.stepThread {s s' : AcceptPath} (quiet : s.Quiet) {j : Nat} {thread : ConnThread}
    (there : s.threads[j]? = some thread) {a : AcceptAct}
    (moved : s.stepThread j thread.conns thread.stage a = some s') :
    s'.Quiet ∧ s'.stage = s.stage := by
  obtain ⟨idle, empty⟩ := quiet.idle thread (List.mem_of_getElem? there)
  rw [idle] at moved
  unfold AcceptPath.stepThread at moved
  split at moved
  · obtain ⟨conns, received, rfl⟩ := Option.map_eq_some_iff.mp moved
    obtain ⟨-, rfl⟩ := some_of_guard received
    refine ⟨quiet.setThread j ?_, rfl⟩
    unfold NewConns.handlerFn
    split <;> exact empty
  · obtain ⟨conns, handled, rfl⟩ := Option.map_eq_some_iff.mp moved
    obtain ⟨userData, -, rfl⟩ := Option.map_eq_some_iff.mp handled
    obtain ⟨empty, same⟩ := handler_nothing empty userData
    unfold taken
    rw [same, List.getElem?_eq_none (Nat.le_refl _)]
    exact ⟨quiet.setThread j empty, rfl⟩
  all_goals contradiction

theorem Quiet.stepAccept {s s' : AcceptPath} (quiet : s.Quiet) {a : AcceptAct} (spares : Spares a)
    (moved : s.stepAccept s.stage a = some s') : s'.Quiet := by
  obtain ⟨idle, owned, kept⟩ := quiet
  unfold AcceptPath.stepAccept at moved
  generalize at_stage : s.stage = stage at moved owned kept
  split at moved
  · split at moved
    · obtain rfl := Option.some.inj moved
      exact ⟨idle, nofun, not_false⟩
    · obtain rfl := Option.some.inj moved
      exact ⟨idle, at_stage ▸ nofun, at_stage ▸ kept⟩
  · next socket addr =>
    obtain rfl := Option.some.inj moved
    refine ⟨idle, ?_, not_false⟩
    intro item mem
    obtain rfl := Option.some.inj mem
    exact ⟨_, List.getElem?_concat_length .., rfl, rfl⟩
  · next item addr =>
    obtain rfl := Option.some.inj moved
    unfold dispatchItem
    split
    · exact ⟨idle, owned, not_false⟩
    · exact ⟨idle, owned, not_false⟩
  · exact absurd rfl spares.1
  · exact absurd trivial kept
  · obtain rfl := Option.some.inj moved
    exact ⟨idle, nofun, not_false⟩
  · exact absurd rfl spares.2
  · contradiction

/-- What the accept path does before is done with its own item. -/
theorem Quiet.keepsOwnership {s s' : AcceptPath} (quiet : s.Quiet) (quiet' : s'.Quiet)
    {a : AcceptAct} (spares : Spares a) : s.KeepsOwnership a s' := by
  constructor
  · intro pointer mem
    have owned := quiet.owned
    unfold touched at mem
    generalize s.stage = stage at mem owned
    split at mem
    · obtain rfl := Option.some.inj mem
      obtain ⟨cell, there, owner, -⟩ := owned _ rfl
      exact ⟨_, rfl, cell, there, owner⟩
    · obtain rfl := Option.some.inj mem
      obtain ⟨cell, there, owner, -⟩ := owned _ rfl
      exact ⟨_, rfl, cell, there, owner⟩
    · exact absurd rfl spares.2
    · contradiction
  · intro thread mem item queued
    rw [(quiet'.idle thread mem).2] at queued
    contradiction

theorem step_setItem {s s' : AcceptPath} (moved : step s .setItem = some s') :
    ∃ item selected addr thread conns, s.stage = .setting item selected addr ∧
      s.threads[selected]? = some thread ∧
      thread.conns.step (.setItem (some item)) = some conns ∧
      s' = s.push item selected addr thread conns := by
  change s.stepAccept s.stage .setItem = some s' at moved
  generalize s.stage = stage at moved
  cases stage with
  | setting item selected addr =>
    obtain ⟨thread, there, moved⟩ := Option.bind_eq_some_iff.mp moved
    obtain ⟨conns, pushed, rfl⟩ := Option.map_eq_some_iff.mp moved
    exact ⟨item, selected, addr, thread, conns, rfl, there, pushed, rfl⟩
  | peerInfo _ _ todo => cases todo <;> contradiction
  | _ => contradiction

theorem step_outPeerIpInfo {s s' : AcceptPath} (moved : step s .outPeerIpInfo = some s') :
    ∃ item addr todo, s.stage = .peerInfo item addr todo := by
  change s.stepAccept s.stage .outPeerIpInfo = some s' at moved
  generalize s.stage = stage at moved
  cases stage with
  | peerInfo item addr todo => exact ⟨item, addr, todo, rfl⟩
  | _ => contradiction

/-- An item is given away without its peer. -/
theorem Quiet.not_peersSet {s s' : AcceptPath} (quiet : s.Quiet)
    (moved : step s .setItem = some s') : ¬ s'.PeersSet := by
  intro peers
  obtain ⟨item, selected, addr, thread, conns, at_stage, there, pushed, rfl⟩ := step_setItem moved
  obtain ⟨before, held, -, unset⟩ := quiet.owned item (by rw [at_stage]; rfl)
  obtain ⟨inside, -⟩ := List.getElem?_eq_some_iff.mp there
  obtain ⟨-, eq⟩ := Option.ite_none_left_eq_some.mp pushed
  obtain rfl := Option.some.inj eq
  obtain ⟨cell, now, typeIp, -⟩ := peers _ (List.mem_set inside ..) item
    (List.mem_append_right _ (List.mem_singleton_self _))
  have same : cell.written = before.written := by
    change (s.items.modify item _)[item]? = some cell at now
    rw [List.getElem?_modify_eq, held] at now
    rw [← Option.some.inj now]
  rw [same, unset] at typeIp
  contradiction

/-- What `OutPeerIpInfo` gets is never an item of the accept path. -/
theorem Quiet.not_touchesOwn {s s' : AcceptPath} (quiet : s.Quiet)
    (moved : step s .outPeerIpInfo = some s') : ¬ s.TouchesOwn .outPeerIpInfo := by
  intro touches
  obtain ⟨item, addr, todo, at_stage⟩ := step_outPeerIpInfo moved
  have kept := quiet.kept
  rw [at_stage] at kept
  have gets : s.touched .outPeerIpInfo = some item := by
    unfold touched
    rw [at_stage]
  obtain ⟨i, rfl, -⟩ := touches item gets
  exact kept trivial

theorem Quiet.spares {s s' : AcceptPath} (quiet : s.Quiet) {a : AcceptAct}
    (moved : step s a = some s') (keeps : s.KeepsOwnership a s') : Spares a := by
  constructor
  · rintro rfl
    exact quiet.not_peersSet moved keeps.2
  · rintro rfl
    exact quiet.not_touchesOwn moved keeps.1

/-! ## Whole runs -/

theorem Quiet.step {s s' : AcceptPath} (quiet : s.Quiet) {a : AcceptAct} (spares : Spares a)
    (moved : step s a = some s') : s'.Quiet := by
  rcases step_cases moved with accept | ⟨j, thread, there, io⟩
  · exact quiet.stepAccept spares accept
  · exact (quiet.stepThread there io).1

/-- The accept path is on its way with a connection. -/
def Away (s : AcceptPath) : Prop := s.stage ≠ .accepting ∧ s.stage ≠ .crashed

/-- Without the two steps, a connection that was accepted is never done with. -/
theorem Away.step {s s' : AcceptPath} (quiet : s.Quiet) (away : s.Away) {a : AcceptAct}
    (spares : Spares a) (moved : step s a = some s') : s'.Away := by
  rcases step_cases moved with accept | ⟨j, thread, there, io⟩
  · unfold Away at away
    unfold AcceptPath.stepAccept at accept
    generalize s.stage = stage at accept away
    split at accept
    · exact absurd rfl away.1
    · obtain rfl := Option.some.inj accept
      exact ⟨nofun, nofun⟩
    · obtain rfl := Option.some.inj accept
      unfold dispatchItem
      split <;> exact ⟨nofun, nofun⟩
    · exact absurd rfl spares.1
    · obtain ⟨thread, -, accept⟩ := Option.bind_eq_some_iff.mp accept
      obtain ⟨conns, -, rfl⟩ := Option.map_eq_some_iff.mp accept
      exact ⟨nofun, nofun⟩
    · obtain rfl := Option.some.inj accept
      exact ⟨nofun, nofun⟩
    · exact absurd rfl spares.2
    · contradiction
  · rw [Away, (quiet.stepThread there io).2]
    exact away

theorem away_of_admits {s s' : AcceptPath} {a : AcceptAct} (admits : Admits a)
    (moved : step s a = some s') : s'.Away := by
  cases a with
  | accept socket addr nonblocking =>
    obtain rfl : nonblocking = true := admits
    change s.stepAccept s.stage _ = some s' at moved
    generalize s.stage = stage at moved
    cases stage with
    | accepting =>
      obtain rfl := Option.some.inj moved
      exact ⟨nofun, nofun⟩
    | peerInfo _ _ todo => cases todo <;> contradiction
    | _ => contradiction
  | _ => exact admits.elim

/-- A run in which a connection gets past `fcntl` is not done with it, unless one of the two steps
comes. -/
theorem away_of_run {acts : List AcceptAct} {s t : AcceptPath} (quiet : s.Quiet)
    (run : EachStep step (fun _ a _ => Spares a) s acts) (ran : exec step s acts = some t)
    {a : AcceptAct} (mem : a ∈ acts) (admits : Admits a) : t.Away := by
  have keeps : ∀ s a s', Quiet s ∧ Away s → Spares a → step s a = some s' → Quiet s' ∧ Away s' :=
    fun s a s' inv spares moved =>
      ⟨inv.1.step spares moved, Away.step inv.1 inv.2 spares moved⟩
  induction acts generalizing s with
  | nil => contradiction
  | cons b acts ih =>
    obtain ⟨m, moved, rest⟩ := exec_cons_some.mp ran
    obtain ⟨spares, later⟩ := run m moved
    have quiet := quiet.step spares moved
    rcases List.mem_cons.mp mem with rfl | mem
    · exact (exec_invariant keeps ⟨quiet, away_of_admits admits moved⟩ later rest).2
    · exact ih quiet later rest mem

/-- As long as no connection gets past `fcntl`, there is no item. -/
theorem spares_of_not_admits {s s' : AcceptPath} {a : AcceptAct} (admits : ¬ Admits a)
    (quiet : s.Quiet) (accepting : s.stage = .accepting) (moved : step s a = some s') :
    Spares a ∧ s'.stage = .accepting := by
  rcases step_cases moved with accept | ⟨j, thread, there, io⟩
  · rw [accepting] at accept
    unfold AcceptPath.stepAccept at accept
    split at accept
    · split at accept
      · next nonblocking => exact absurd nonblocking admits
      · obtain rfl := Option.some.inj accept
        exact ⟨⟨nofun, nofun⟩, accepting⟩
    all_goals contradiction
  · refine ⟨?_, (quiet.stepThread there io).2.trans accepting⟩
    constructor
    · rintro rfl
      obtain ⟨item, selected, addr, thread, conns, at_stage, -⟩ := step_setItem moved
      rw [accepting] at at_stage
      contradiction
    · rintro rfl
      obtain ⟨item, addr, todo, at_stage⟩ := step_outPeerIpInfo moved
      rw [accepting] at at_stage
      contradiction

/-- A run keeps the ownership exactly as long as no item is given away and no member of one is set;
a run in which the accept path is done with every connection, exactly if none got past `fcntl`. -/
theorem eachStep_keepsOwnership_iff (nthreads : Nat) (acts : List AcceptAct) :
    (EachStep step KeepsOwnership (start nthreads) acts ↔
      EachStep step (fun _ a _ => Spares a) (start nthreads) acts) ∧
    ∀ t, exec step (start nthreads) acts = some t → ¬ t.Away →
      (EachStep step KeepsOwnership (start nthreads) acts ↔ ∀ a ∈ acts, ¬ Admits a) := by
  have spared : EachStep step KeepsOwnership (start nthreads) acts ↔
      EachStep step (fun _ a _ => Spares a) (start nthreads) acts := by
    have keeps : ∀ s a s', Quiet s → Spares a → step s a = some s' →
        Quiet s' ∧ s.KeepsOwnership a s' := by
      intro s a s' quiet spares moved
      have quiet' := quiet.step spares moved
      exact ⟨quiet', quiet.keepsOwnership quiet' spares⟩
    have only : ∀ s a s', Quiet s → step s a = some s' → s.KeepsOwnership a s' → Spares a :=
      fun s a s' quiet moved keeps => quiet.spares moved keeps
    exact EachStep.iff_of_invariant keeps only (quiet_start nthreads)
  refine ⟨spared, fun t ran done => spared.trans ⟨?_, ?_⟩⟩
  · intro run a mem admits
    exact done (away_of_run (quiet_start nthreads) run ran mem admits)
  · intro none
    have keeps : ∀ s a s', Quiet s ∧ s.stage = .accepting → ¬ Admits a → step s a = some s' →
        (Quiet s' ∧ s'.stage = .accepting) ∧ Spares a := by
      rintro s a s' ⟨quiet, accepting⟩ admits moved
      obtain ⟨spares, accepting'⟩ := spares_of_not_admits admits quiet accepting moved
      exact ⟨⟨quiet.step spares moved, accepting'⟩, spares⟩
    exact EachStep.of_invariant keeps ⟨quiet_start nthreads, rfl⟩ (EachStep.of_forall none _)

/-- The IO thread takes the item and deletes it, and then its peer is set. -/
def handedOver : List AcceptAct :=
  [.accept 7 (.inet "10.0.0.1" 4000) true, .getItem, .dispatchItem, .setItem, .notify true,
    .handlerFn 0 1, .handler 0, .createConnection 0 true, .deleteTaken 0, .outPeerIpInfo]

/-- There is no IO thread: the item is deleted, and then its peer is set. -/
def refusedThenSet : List AcceptAct :=
  [.accept 7 (.inet "10.0.0.1" 4000) true, .getItem, .dispatchItem, .deleteItem, .outPeerIpInfo]

theorem not_eachStep_keepsOwnership :
    ¬ EachStep step KeepsOwnership (start 1) handedOver ∧
      ¬ EachStep step KeepsOwnership (start 0) refusedThenSet := by
  decide

/-- The peer that the context of the new connection gets. -/
example : (exec step (start 1) handedOver).map peerIps = some ["-:0"] := by rfl

end AcceptPath

end NewFramework.Tstlesrv
