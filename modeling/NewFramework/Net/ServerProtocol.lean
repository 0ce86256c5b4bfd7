import Mathlib.Tactic.Linarith
import NewFramework.Net.TcpServer

/-!
# The protocol of a connection

Each connection of `muduo/net/TcpServer.cpp` is established, erased and destroyed once at the most,
in that order.  The functors that are queued and the notes of those that have run are in balance:
what one functor has done, the next of the connection is queued for or has done.  So a connection
that is closed is in `connections_` until its removal, and no other has its name.
-/

namespace NewFramework.Net.TcpServer
open NewFramework.Lib

/-- The loop that a functor is for. -/
def Functor.home : Functor → Loop
  | .connectEstablished conn => conn.loop
  | .removeConnectionInLoop _ => none
  | .connectDestroyed conn => conn.loop

/-- A destroyed connection was established, and erased from `connections_`. -/
def Note.InTurn (before : List Note) : Note → Prop
  | .destroyed conn _ => .established conn conn.loop ∈ before ∧ .erased conn 1 ∈ before
  | _ => True

structure Protocol (s : TcpServer) : Prop where
  established_once : ∀ conn loop, .established conn loop ∈ s.notes →
    loop = conn.loop ∧ s.notes.count (.established conn loop) = 1
  destroyed_once : ∀ conn loop, .destroyed conn loop ∈ s.notes →
    loop = conn.loop ∧ s.notes.count (.destroyed conn loop) = 1
  inTurn : AtEach Note.InTurn s.notes
  names : (s.accepted.map Conn.name).Nodup
  connections : ∀ name conn, s.connections.lookup name = some conn ↔
    conn ∈ s.accepted ∧ conn.name = name ∧ .erased conn 1 ∉ s.notes
  erase_one : ∀ conn n, .erased conn n ∈ s.notes → n = 1
  settled : (∀ loop, s.queue loop = []) →
    (∀ conn ∈ s.accepted, .established conn conn.loop ∈ s.notes) ∧
    ∀ conn, .closed conn ∈ s.notes →
      .erased conn 1 ∈ s.notes ∧ .destroyed conn conn.loop ∈ s.notes

/-- No connection has its close callback twice. -/
def ClosesOnce (s : TcpServer) : Act → Prop
  | .closeCallback conn => .closed conn ∉ s.notes
  | _ => True

instance (s : TcpServer) : DecidablePred s.ClosesOnce
  | .closeCallback conn => inferInstanceAs (Decidable (.closed conn ∉ s.notes))
  | .newConnection | .callFunctor _ => .isTrue trivial

/-- The condition on a step. -/
def Allowed (s : TcpServer) (a : Act) (s' : TcpServer) : Prop :=
  s.ClosesOnce a ∧ s'.accepted.length < 2 ^ 31

instance (s : TcpServer) (a : Act) (s' : TcpServer) : Decidable (s.Allowed a s') :=
  inferInstanceAs (Decidable (_ ∧ _))

/-! ## Names -/

/-- What is kept for the names. -/
structure Named (s : TcpServer) : Prop where
  ipPort : s.ipPort.length ≤ 51
  nextConnId : s.nextConnId = toInt 32 ((s.accepted.length + 1 : Nat) : Int)
  conn : ∀ i conn, s.accepted[i]? = some conn →
    conn.id = i ∧ conn.name = s.name ++ connSuffix s.ipPort ((i + 1 : Nat) : Int)

theorem Named.new (listenAddr : InetAddress) (name : List Char) (numThreads : Nat) :
    (new listenAddr name numThreads).Named where
  ipPort := listenAddr.length_toIpPort_le
  nextConnId := (toInt_of_lt (n := 1) (by decide)).symm
  conn := nofun

theorem Named.accept {s : TcpServer} (named : s.Named) (few : s.accepted.length + 1 < 2 ^ 31) :
    s.accept.Named := by
  have small : s.nextConnId = ((s.accepted.length + 1 : Nat) : Int) := by
    rw [named.nextConnId]
    exact toInt_of_lt (by omega)
  refine ⟨named.ipPort, ?_, ?_⟩
  · simp only [TcpServer.accept, small, List.length_append, List.length_singleton]
    rfl
  · intro i conn there
    rcases Nat.lt_trichotomy i s.accepted.length with old | rfl | beyond
    · apply named.conn i conn
      simpa [TcpServer.accept, List.getElem?_append_left old] using there
    · obtain rfl : s.newConn = conn := by simpa [TcpServer.accept] using there
      exact ⟨rfl, by rw [newConn, small]; rfl⟩
    · have none : s.accept.accepted[i]? = none := by
        simp only [TcpServer.accept, List.getElem?_eq_none_iff, List.length_append,
          List.length_singleton]
        omega
      rw [none] at there
      contradiction

/-- Connections of one name are one connection. -/
theorem Named.eq_of_name {s : TcpServer} (named : s.Named) (few : s.accepted.length < 2 ^ 31)
    {a b : Conn} (mem : a ∈ s.accepted) (mem' : b ∈ s.accepted) (same : a.name = b.name) :
    a = b := by
  obtain ⟨i, at_i⟩ := List.mem_iff_getElem?.mp mem
  obtain ⟨j, at_j⟩ := List.mem_iff_getElem?.mp mem'
  have hi : i < s.accepted.length := (List.getElem?_eq_some_iff.mp at_i).1
  have hj : j < s.accepted.length := (List.getElem?_eq_some_iff.mp at_j).1
  have suffix : connSuffix s.ipPort ((i + 1 : Nat) : Int) =
      connSuffix s.ipPort ((j + 1 : Nat) : Int) := by
    rw [(named.conn i a at_i).2, (named.conn j b at_j).2] at same
    exact List.append_cancel_left same
  rw [connSuffix_eq named.ipPort (by omega), connSuffix_eq named.ipPort (by omega)] at suffix
  have digits : decimal (i + 1) = decimal (j + 1) :=
    (List.cons.inj (List.append_cancel_left suffix)).2
  obtain rfl : i = j := Nat.succ.inj (decimal_injective digits)
  exact Option.some.inj (at_i.symm.trans at_j)

theorem Named.nodup {s : TcpServer} (named : s.Named) : s.accepted.Nodup := by
  rw [List.nodup_iff_getElem?_ne_getElem?]
  intro i j lt hj same
  obtain ⟨conn, at_j⟩ : ∃ conn, s.accepted[j]? = some conn := ⟨_, List.getElem?_eq_getElem hj⟩
  have := (named.conn j conn at_j).1
  have := (named.conn i conn (same.trans at_j)).1
  omega

theorem Named.nodup_names {s : TcpServer} (named : s.Named) (few : s.accepted.length < 2 ^ 31) :
    (s.accepted.map Conn.name).Nodup :=
  named.nodup.map_on fun _ mem _ mem' same => named.eq_of_name few mem mem' same

theorem Named.newConn_notMem {s : TcpServer} (named : s.Named) : s.newConn ∉ s.accepted := by
  intro mem
  obtain ⟨i, at_i⟩ := List.mem_iff_getElem?.mp mem
  have := (named.conn i _ at_i).1
  have : i < s.accepted.length := (List.getElem?_eq_some_iff.mp at_i).1
  simp only [newConn] at *
  omega

/-! ## The balance -/

/-- How often a functor waits: in the queue of the loop, or in hand, to be queued or called. -/
def waiting (hand : List (Loop × Functor)) (s : TcpServer) (loop : Loop) (f : Functor) : Nat :=
  (s.queue loop).count f + hand.count (loop, f)

@[simp] theorem waiting_nil (s : TcpServer) (loop : Loop) (f : Functor) :
    s.waiting [] loop f = (s.queue loop).count f := rfl

@[simp] theorem waiting_singleton (s : TcpServer) (l loop : Loop) (g f : Functor) :
    s.waiting [(l, g)] loop f = (s.queue loop).count f + if l = loop ∧ g = f then 1 else 0 := by
  simp [waiting, List.count_singleton]

@[simp] theorem queue_accept (s : TcpServer) : s.accept.queue = s.queue := rfl

@[simp] theorem notes_accept (s : TcpServer) : s.accept.notes = s.notes := rfl

@[simp] theorem queue_note (n : Note) (s : TcpServer) : (s.note n).queue = s.queue := rfl

@[simp] theorem accepted_note (n : Note) (s : TcpServer) : (s.note n).accepted = s.accepted := rfl

@[simp] theorem connections_note (n : Note) (s : TcpServer) :
    (s.note n).connections = s.connections := rfl

@[simp] theorem mem_note {m n : Note} {s : TcpServer} :
    m ∈ (s.note n).notes ↔ m ∈ s.notes ∨ m = n := by
  simp [note]

@[simp] theorem count_note (m n : Note) (s : TcpServer) :
    (s.note n).notes.count m = s.notes.count m + if n = m then 1 else 0 := by
  simp [note, List.count_singleton]

theorem queueInLoop_waiting (s : TcpServer) (l : Loop) (g : Functor) :
    (s.queueInLoop l g).waiting [] = s.waiting [(l, g)] := by
  funext loop f
  rcases eq_or_ne loop l with rfl | other
  · simp [queueInLoop, List.count_singleton]
  · simp [queueInLoop, Function.update_of_ne other, other.symm]

theorem pop_waiting {s : TcpServer} {l : Loop} {g : Functor} {rest : List Functor}
    (first : s.queue l = g :: rest) :
    waiting [(l, g)] { s with queue := Function.update s.queue l rest } = s.waiting [] := by
  funext loop f
  rcases eq_or_ne loop l with rfl | other
  · simp [first, List.count_cons]
  · simp [Function.update_of_ne other, other.symm]

/-- The functors that wait, as many as `waiting` says, are in balance with the notes. -/
structure Balanced (waiting : Loop → Functor → Nat) (s : TcpServer) : Prop where
  home : ∀ loop f, waiting loop f ≠ 0 → loop = f.home
  established : ∀ conn, waiting conn.loop (.connectEstablished conn) +
    s.notes.count (.established conn conn.loop) = s.accepted.count conn
  closed : ∀ conn, s.notes.count (.closed conn) ≤ s.notes.count (.established conn conn.loop)
  removed : ∀ conn, waiting none (.removeConnectionInLoop conn) +
    s.notes.count (.erased conn 1) = s.notes.count (.closed conn)
  destroyed : ∀ conn, waiting conn.loop (.connectDestroyed conn) +
    s.notes.count (.destroyed conn conn.loop) = s.notes.count (.erased conn 1)
  established_home : ∀ conn loop, .established conn loop ∈ s.notes → loop = conn.loop
  destroyed_home : ∀ conn loop, .destroyed conn loop ∈ s.notes → loop = conn.loop
  erase_one : ∀ conn n, .erased conn n ∈ s.notes → n = 1
  inTurn : AtEach Note.InTurn s.notes
  connections : ∀ name conn, s.connections.lookup name = some conn ↔
    conn ∈ s.accepted ∧ conn.name = name ∧ .erased conn 1 ∉ s.notes

theorem Balanced.new (listenAddr : InetAddress) (name : List Char) (numThreads : Nat) :
    Balanced ((new listenAddr name numThreads).waiting []) (new listenAddr name numThreads) where
  home _ _ waits := absurd rfl waits
  established _ := rfl
  closed _ := le_rfl
  removed _ := rfl
  destroyed _ := rfl
  established_home := nofun
  destroyed_home := nofun
  erase_one := nofun
  inTurn := atEach_nil
  connections name conn := by simp [TcpServer.new]

/-- The queue does not matter apart from what waits. -/
theorem Balanced.setQueue {w : Loop → Functor → Nat} {s : TcpServer} (balanced : Balanced w s)
    (queue : Loop → List Functor) : Balanced w { s with queue := queue } :=
  { balanced with }

theorem Balanced.queueInLoop {s : TcpServer} {loop : Loop} {f : Functor}
    (balanced : Balanced (s.waiting [(loop, f)]) s) :
    Balanced ((s.queueInLoop loop f).waiting []) (s.queueInLoop loop f) := by
  rw [queueInLoop_waiting]
  exact balanced.setQueue _

theorem Balanced.connectEstablished {s : TcpServer} {conn : Conn}
    (balanced : Balanced (s.waiting [(conn.loop, .connectEstablished conn)]) s) :
    Balanced ((s.connectEstablished conn conn.loop).waiting [])
      (s.connectEstablished conn conn.loop) where
  home loop f waits := balanced.home loop f (by simp [TcpServer.connectEstablished] at waits ⊢; omega)
  established c := by
    have := balanced.established c
    rcases eq_or_ne conn c with rfl | other
    · simp [TcpServer.connectEstablished] at this ⊢
      omega
    · simpa [TcpServer.connectEstablished, other] using this
  closed c := by
    have := balanced.closed c
    simp [TcpServer.connectEstablished]
    omega
  removed c := by simpa [TcpServer.connectEstablished] using balanced.removed c
  destroyed c := by simpa [TcpServer.connectEstablished] using balanced.destroyed c
  established_home c loop mem := by
    rcases mem_note.mp mem with old | new
    · exact balanced.established_home c loop old
    · cases new
      rfl
  destroyed_home c loop mem := balanced.destroyed_home c loop (by simpa using mem_note.mp mem)
  erase_one c n mem := balanced.erase_one c n (by simpa using mem_note.mp mem)
  inTurn := atEach_concat.mpr ⟨balanced.inTurn, trivial⟩
  connections name c := by
    simpa [TcpServer.connectEstablished] using balanced.connections name c

theorem Balanced.connectDestroyed {s : TcpServer} {conn : Conn}
    (balanced : Balanced (s.waiting [(conn.loop, .connectDestroyed conn)]) s) :
    Balanced ((s.connectDestroyed conn conn.loop).waiting [])
      (s.connectDestroyed conn conn.loop) where
  home loop f waits := balanced.home loop f (by simp [TcpServer.connectDestroyed] at waits ⊢; omega)
  established c := by simpa [TcpServer.connectDestroyed] using balanced.established c
  closed c := by simpa [TcpServer.connectDestroyed] using balanced.closed c
  removed c := by simpa [TcpServer.connectDestroyed] using balanced.removed c
  destroyed c := by
    have := balanced.destroyed c
    rcases eq_or_ne conn c with rfl | other
    · simp [TcpServer.connectDestroyed] at this ⊢
      omega
    · simpa [TcpServer.connectDestroyed, other] using this
  established_home c loop mem := balanced.established_home c loop (by simpa using mem_note.mp mem)
  destroyed_home c loop mem := by
    rcases mem_note.mp mem with old | new
    · exact balanced.destroyed_home c loop old
    · cases new
      rfl
  erase_one c n mem := balanced.erase_one c n (by simpa using mem_note.mp mem)
  inTurn := by
    refine atEach_concat.mpr ⟨balanced.inTurn, ?_⟩
    -- what waits to be destroyed was erased, so it was closed, so it was established
    have erased := balanced.destroyed conn
    have closed := balanced.removed conn
    have established := balanced.closed conn
    simp only [waiting_singleton, and_self, if_true] at erased
    exact ⟨List.count_pos_iff.mp (by omega), List.count_pos_iff.mp (by omega)⟩
  connections name c := by
    simpa [TcpServer.connectDestroyed] using balanced.connections name c

/-- A connection that waits for its removal is in `connections_`. -/
theorem Balanced.lookup_of_waiting {w : Loop → Functor → Nat} {s : TcpServer}
    (balanced : Balanced w s) (named : s.Named) {conn : Conn}
    (waits : w none (.removeConnectionInLoop conn) ≠ 0) :
    s.connections.lookup conn.name = some conn := by
  have removed := balanced.removed conn
  have closed := balanced.closed conn
  have established := balanced.established conn
  have once : s.accepted.count conn ≤ 1 := List.nodup_iff_count_le_one.mp named.nodup conn
  refine (balanced.connections conn.name conn).mpr ⟨?_, rfl, ?_⟩
  · exact List.count_pos_iff.mp (by omega)
  · exact List.count_eq_zero.mp (by omega)

/-- `removeConnectionInLoop` has the destruction in hand. -/
theorem Balanced.removeConnectionInLoop {s : TcpServer} {conn : Conn}
    (balanced : Balanced (s.waiting [(none, .removeConnectionInLoop conn)]) s) (named : s.Named)
    (few : s.accepted.length < 2 ^ 31) :
    Balanced ((s.removeConnectionInLoop conn).waiting []) (s.removeConnectionInLoop conn) := by
  have there : s.connections.lookup conn.name = some conn :=
    balanced.lookup_of_waiting named (by simp)
  have mem : conn.name ∈ s.connections := AList.lookup_isSome.mp (by rw [there]; rfl)
  rw [TcpServer.removeConnectionInLoop, if_pos mem]
  apply Balanced.queueInLoop
  constructor
  case home =>
    intro loop f waits
    have := balanced.home loop f
    simp at waits this
    by_cases queued : conn.loop = loop ∧ .connectDestroyed conn = f
    · obtain ⟨rfl, rfl⟩ := queued
      rfl
    · exact this fun none => absurd (waits none) queued
  case established => intro c; simpa using balanced.established c
  case closed => intro c; simpa using balanced.closed c
  case removed =>
    intro c
    have := balanced.removed c
    rcases eq_or_ne conn c with rfl | other
    · simp at this ⊢
      omega
    · simpa [other] using this
  case destroyed =>
    intro c
    have := balanced.destroyed c
    rcases eq_or_ne conn c with rfl | other
    · simp at this ⊢
      omega
    · simpa [other] using this
  case established_home =>
    intro c loop mem
    exact balanced.established_home c loop (by simpa using mem_note.mp mem)
  case destroyed_home =>
    intro c loop mem
    exact balanced.destroyed_home c loop (by simpa using mem_note.mp mem)
  case erase_one =>
    intro c n mem
    rcases mem_note.mp mem with old | new
    · exact balanced.erase_one c n old
    · cases new
      rfl
  case inTurn => exact atEach_concat.mpr ⟨balanced.inTurn, trivial⟩
  case connections =>
    intro name c
    obtain ⟨accepted, -, -⟩ := (balanced.connections _ _).mp there
    simp only [connections_note, accepted_note, mem_note, Note.erased.injEq, and_true]
    rcases eq_or_ne name conn.name with rfl | other
    · rw [AList.lookup_erase]
      refine iff_of_false nofun fun ⟨mem, same, live⟩ => live (.inr ?_)
      exact named.eq_of_name few mem accepted same
    · rw [AList.lookup_erase_ne other, balanced.connections name c]
      have distinct : c.name = name → c ≠ conn := fun same eq => other (by rw [← same, eq])
      tauto

theorem Balanced.call {s : TcpServer} {loop : Loop} {f : Functor}
    (balanced : Balanced (s.waiting [(loop, f)]) s) (named : s.Named)
    (few : s.accepted.length < 2 ^ 31) :
    Balanced ((s.call loop f).waiting []) (s.call loop f) := by
  obtain rfl : loop = f.home := balanced.home loop f (by simp)
  cases f with
  | connectEstablished conn => exact Balanced.connectEstablished balanced
  | removeConnectionInLoop conn => exact Balanced.removeConnectionInLoop balanced named few
  | connectDestroyed conn => exact Balanced.connectDestroyed balanced

theorem Balanced.runInLoop {s : TcpServer} {loop : Loop} {f : Functor}
    (balanced : Balanced (s.waiting [(loop, f)]) s) (named : s.Named)
    (few : s.accepted.length < 2 ^ 31) (caller : Loop) :
    Balanced ((s.runInLoop caller loop f).waiting []) (s.runInLoop caller loop f) := by
  unfold TcpServer.runInLoop
  split
  · exact balanced.call named few
  · exact balanced.queueInLoop

/-- The connection that is accepted is in `connections_`, and has its establishment in hand. -/
theorem Balanced.accept {s : TcpServer} (balanced : Balanced (s.waiting []) s) (named : s.Named)
    (few : s.accept.accepted.length < 2 ^ 31) (named' : s.accept.Named) :
    Balanced (s.accept.waiting [(s.nextLoop, .connectEstablished s.newConn)]) s.accept := by
  have fresh := named.newConn_notMem
  have unseen : s.accepted.count s.newConn = 0 := List.count_eq_zero.mpr fresh
  constructor
  case home =>
    intro loop f waits
    by_cases queued : s.nextLoop = loop ∧ .connectEstablished s.newConn = f
    · obtain ⟨rfl, rfl⟩ := queued
      rfl
    · exact balanced.home loop f (by simpa [queued] using waits)
  case established =>
    intro c
    have := balanced.established c
    rcases eq_or_ne s.newConn c with rfl | other
    · have home : s.newConn.loop = s.nextLoop := rfl
      simp [TcpServer.accept, unseen, home] at this ⊢
      omega
    · simpa [TcpServer.accept, List.count_singleton, other] using this
  case closed => exact balanced.closed
  case removed => intro c; simpa using balanced.removed c
  case destroyed => intro c; simpa using balanced.destroyed c
  case established_home => exact balanced.established_home
  case destroyed_home => exact balanced.destroyed_home
  case erase_one => exact balanced.erase_one
  case inTurn => exact balanced.inTurn
  case connections =>
    intro name c
    have mem_iff : c ∈ s.accept.accepted ↔ c ∈ s.accepted ∨ c = s.newConn := by
      simp [TcpServer.accept]
    have new : s.newConn ∈ s.accept.accepted := by simp [TcpServer.accept]
    rcases eq_or_ne name s.newConn.name with rfl | other
    · rw [show s.accept.connections.lookup s.newConn.name = some s.newConn from
        AList.lookup_insert s.connections]
      constructor
      · rintro ⟨⟩
        refine ⟨new, rfl, List.count_eq_zero.mp ?_⟩
        have removed := balanced.removed s.newConn
        have closed := balanced.closed s.newConn
        have established := balanced.established s.newConn
        rw [notes_accept]
        omega
      · rintro ⟨mem, same, -⟩
        exact congrArg some (named'.eq_of_name few new mem same.symm)
    · rw [show s.accept.connections.lookup name = s.connections.lookup name from
        AList.lookup_insert_ne other, balanced.connections name c, notes_accept, mem_iff]
      have distinct : c.name = name → c ≠ s.newConn := fun same eq => other (by rw [← same, eq])
      tauto

/-- A connection that is closed for the first time has its removal in hand. -/
theorem Balanced.close {s : TcpServer} {conn : Conn} (balanced : Balanced (s.waiting []) s)
    (established : .established conn conn.loop ∈ s.notes) (first : .closed conn ∉ s.notes) :
    Balanced ((s.note (.closed conn)).waiting [(none, .removeConnectionInLoop conn)])
      (s.note (.closed conn)) := by
  constructor
  case home =>
    intro loop f waits
    by_cases queued : none = loop ∧ .removeConnectionInLoop conn = f
    · obtain ⟨rfl, rfl⟩ := queued
      rfl
    · exact balanced.home loop f (by simpa [queued] using waits)
  case established => intro c; simpa using balanced.established c
  case closed =>
    intro c
    have := balanced.closed c
    rcases eq_or_ne conn c with rfl | other
    · have none : s.notes.count (.closed conn) = 0 := List.count_eq_zero.mpr first
      have some : 0 < s.notes.count (.established conn conn.loop) :=
        List.count_pos_iff.mpr established
      simp [none]
      omega
    · simpa [other] using this
  case removed =>
    intro c
    have := balanced.removed c
    simp at this ⊢
    omega
  case destroyed => intro c; simpa using balanced.destroyed c
  case established_home =>
    intro c loop mem
    exact balanced.established_home c loop (by simpa using mem_note.mp mem)
  case destroyed_home =>
    intro c loop mem
    exact balanced.destroyed_home c loop (by simpa using mem_note.mp mem)
  case erase_one =>
    intro c n mem
    exact balanced.erase_one c n (by simpa using mem_note.mp mem)
  case inTurn => exact atEach_concat.mpr ⟨balanced.inTurn, trivial⟩
  case connections => intro name c; simpa using balanced.connections name c

/-! ## Runs -/

/-- What is kept between the steps. -/
structure Sound (s : TcpServer) : Prop where
  named : s.Named
  few : s.accepted.length < 2 ^ 31
  balanced : Balanced (s.waiting []) s

theorem sound_new (listenAddr : InetAddress) (name : List Char) (numThreads : Nat) :
    (new listenAddr name numThreads).Sound where
  named := .new ..
  few := Nat.two_pow_pos 31
  balanced := .new ..

theorem Named.of_eq {s t : TcpServer} (named : s.Named) (ipPort : t.ipPort = s.ipPort)
    (name : t.name = s.name) (nextConnId : t.nextConnId = s.nextConnId)
    (accepted : t.accepted = s.accepted) : t.Named := by
  refine ⟨ipPort ▸ named.ipPort, ?_, ?_⟩
  · rw [nextConnId, accepted]
    exact named.nextConnId
  · rw [accepted, name, ipPort]
    exact named.conn

/-- A functor leaves what has to do with the names. -/
theorem Named.call {s : TcpServer} (named : s.Named) (loop : Loop) (f : Functor) :
    (s.call loop f).Named := by
  cases f <;> exact named.of_eq rfl rfl rfl rfl

theorem accepted_call (s : TcpServer) (loop : Loop) (f : Functor) :
    (s.call loop f).accepted = s.accepted := by
  cases f <;> rfl

theorem Sound.runInLoop {s : TcpServer} {loop : Loop} {f : Functor} (named : s.Named)
    (few : s.accepted.length < 2 ^ 31) (balanced : Balanced (s.waiting [(loop, f)]) s)
    (caller : Loop) : (s.runInLoop caller loop f).Sound := by
  refine ⟨?_, ?_, balanced.runInLoop named few caller⟩
  · unfold TcpServer.runInLoop
    split
    · exact named.call ..
    · exact named.of_eq rfl rfl rfl rfl
  · unfold TcpServer.runInLoop
    split
    · rwa [accepted_call]
    · exact few

theorem accepted_runInLoop (s : TcpServer) (caller loop : Loop) (f : Functor) :
    (s.runInLoop caller loop f).accepted = s.accepted := by
  unfold TcpServer.runInLoop
  split
  · exact accepted_call ..
  · rfl

theorem Sound.step {s s' : TcpServer} {a : Act} (sound : s.Sound) (allowed : s.Allowed a s')
    (moved : s.step a = some s') : s'.Sound := by
  cases a with
  | newConnection =>
    obtain rfl := Option.some.inj moved
    have few : s.accept.accepted.length < 2 ^ 31 := by
      simpa only [newConnection, accepted_runInLoop] using allowed.2
    have named : s.accept.Named := sound.named.accept (by simpa [TcpServer.accept] using few)
    exact .runInLoop named few (sound.balanced.accept sound.named few named) none
  | callFunctor loop =>
    rw [TcpServer.step] at moved
    split at moved
    · contradiction
    · next f rest first =>
      obtain rfl := Option.some.inj moved
      have named : Named { s with queue := Function.update s.queue loop rest } :=
        sound.named.of_eq rfl rfl rfl rfl
      refine ⟨named.call .., ?_, ?_⟩
      · rw [accepted_call]
        exact sound.few
      · apply Balanced.call _ named sound.few
        rw [pop_waiting first]
        exact sound.balanced.setQueue _
  | closeCallback conn =>
    rw [TcpServer.step] at moved
    split at moved
    · next live =>
      obtain rfl := Option.some.inj moved
      have named : (s.note (.closed conn)).Named := sound.named.of_eq rfl rfl rfl rfl
      exact .runInLoop named sound.few (sound.balanced.close live.1 allowed.1) conn.loop
    · contradiction

theorem Sound.protocol {s : TcpServer} (sound : s.Sound) : s.Protocol where
  established_once conn loop mem := by
    obtain rfl := sound.balanced.established_home conn loop mem
    have established := sound.balanced.established conn
    have once : s.accepted.count conn ≤ 1 :=
      List.nodup_iff_count_le_one.mp sound.named.nodup conn
    have pos : 0 < s.notes.count (.established conn conn.loop) := List.count_pos_iff.mpr mem
    exact ⟨rfl, by omega⟩
  destroyed_once conn loop mem := by
    obtain rfl := sound.balanced.destroyed_home conn loop mem
    have established := sound.balanced.established conn
    have closed := sound.balanced.closed conn
    have removed := sound.balanced.removed conn
    have destroyed := sound.balanced.destroyed conn
    have once : s.accepted.count conn ≤ 1 :=
      List.nodup_iff_count_le_one.mp sound.named.nodup conn
    have pos : 0 < s.notes.count (.destroyed conn conn.loop) := List.count_pos_iff.mpr mem
    exact ⟨rfl, by omega⟩
  inTurn := sound.balanced.inTurn
  names := sound.named.nodup_names sound.few
  connections := sound.balanced.connections
  erase_one := sound.balanced.erase_one
  settled empty := by
    constructor
    · intro conn mem
      have established := sound.balanced.established conn
      have pos : 0 < s.accepted.count conn := List.count_pos_iff.mpr mem
      simp only [waiting_nil, empty, List.count_nil] at established
      exact List.count_pos_iff.mp (by omega)
    · intro conn closed
      have removed := sound.balanced.removed conn
      have destroyed := sound.balanced.destroyed conn
      have pos : 0 < s.notes.count (.closed conn) := List.count_pos_iff.mpr closed
      simp only [waiting_nil, empty, List.count_nil] at removed destroyed
      exact ⟨List.count_pos_iff.mp (by omega), List.count_pos_iff.mp (by omega)⟩

/-- Whatever the order of the loops, the connections keep to the protocol. -/
theorem always_protocol (listenAddr : InetAddress) (name : List Char) (numThreads : Nat)
    {as : List Act} (allowed : EachStep step Allowed (new listenAddr name numThreads) as) :
    Always step Protocol (new listenAddr name numThreads) as :=
  Always.of_invariant (fun _ _ _ sound allowed moved => sound.step allowed moved)
    (fun _ => Sound.protocol) (sound_new ..) allowed

/-- The server of two threads at `a:80`. -/
def twoThreads : TcpServer := new ⟨['a'], 80, by decide⟩ ['s'] 2

/-- The first connection is closed before the second is established. -/
def closedFirst : List Act :=
  let conn : Conn := ⟨0, ['s', '-', 'a', ':', '8', '0', '#', '1'], some 0⟩
  [.newConnection, .callFunctor (some 0), .newConnection, .closeCallback conn, .callFunctor none,
    .callFunctor (some 0), .callFunctor (some 1)]

theorem always_protocol_closedFirst : Always step Protocol twoThreads closedFirst :=
  always_protocol _ _ _ (by decide +kernel)

example : (exec step twoThreads closedFirst).map (fun s => s.connections.keys) =
    some [['s', '-', 'a', ':', '8', '0', '#', '2']] := by
  decide +kernel

end NewFramework.Net.TcpServer
