import NewFramework.Net.Lifetimes

/-!
# Functors bound to a raw `this`

The functors of `muduo/net/TcpConnection.cpp`, `muduo/net/TcpServer.cpp` and
`muduo/net/TcpClient.cpp`.  One that holds nothing is called while its object is there if something
else outlives it.  For a connection that is its entry, since what follows the entry is
`connectDestroyed`, bound to a `TcpConnectionPtr` and queued behind; or such a functor of the same
vector; or a user thread.  What is left is a user thread that drops the last `TcpConnectionPtr`, and
the destructors, which look at no queue.
-/

namespace NewFramework.Net.Lifetimes
open NewFramework.Lib

/-- With each vector in which the raw `this` of the connection waits goes a `TcpConnectionPtr`. -/
def Functors.Keeps (q : Functors) (c : Nat) : Prop :=
  (Waits q.pendingFunctors c → Binds q.pendingFunctors c) ∧ (Waits q.functors c → Binds q.all c)

instance (q : Functors) (c : Nat) : Decidable (q.Keeps c) := inferInstanceAs (Decidable (_ ∧ _))

/-- The condition on a step. -/
def Covered (s : Lifetimes) : Act → Prop
  | .drop c => (s.conn c).handles = 1 → ¬ s.Owned c → (s.loop (s.conn c).loop).Keeps c
  | .handleClose c .. => (s.conn c).closeCallback = .server → s.server = true
  | .callFunctor l .. => ∀ f ∈ (s.loop l).functors.head?, f = .forceCloseInLoop f.conn →
    s.Open f.conn → (s.conn f.conn).closeCallback = .server → s.server = true
  | .destroyServer => ∀ f ∈ (s.loop none).pendingFunctors, f ≠ .removeConnectionInLoop f.conn
  | .destroyNext => ∀ c ∈ s.connections.head?, (s.conn c).loop = none → (s.conn c).handles = 0 →
    c ∉ s.calls.map Prod.snd → (s.loop none).Keeps c
  | .destroyClient => s.connection ≠ none → s.connector.timers = [] → s.connector.functors = []
  | .connector (.timer ..) => s.client = false → s.removers = 0 → s.connector.timers.length = 1 →
    s.connector.functors = []
  | .removeConnector => s.client = false → s.removers = 1 → s.connector.timers = [] →
    s.connector.functors = []
  | _ => True

instance (s : Lifetimes) (a : Act) : Decidable (s.Covered a) := by
  unfold Covered
  split <;> infer_instance

/-! ## The functors of a loop -/

theorem waits_append {p q : List Functor} {c : Nat} :
    Waits (p ++ q) c ↔ Waits p c ∨ Waits q c := by
  simp only [Waits, List.mem_append, or_and_right, exists_or]

theorem binds_append {p q : List Functor} {c : Nat} :
    Binds (p ++ q) c ↔ Binds p c ∨ Binds q c := by
  simp only [Binds, List.mem_append, or_and_right, exists_or]

@[simp] theorem waits_nil {c : Nat} : ¬ Waits [] c := by
  simp [Waits]

@[simp] theorem waits_singleton {f : Functor} {c : Nat} : Waits [f] c ↔ f.this = some c := by
  simp [Waits]

@[simp] theorem binds_singleton {f : Functor} {c : Nat} : Binds [f] c ↔ f.binds = some c := by
  simp [Binds]

theorem Functor.conn_of_this {f : Functor} {c : Nat} (this : f.this = some c) : f.conn = c := by
  cases f with
  | inLoop m d => exact Option.some.inj this
  | _ => contradiction

theorem Functor.conn_of_binds {f : Functor} {c : Nat} (binds : f.binds = some c) :
    f.conn = c := by
  cases f with
  | inLoop m d => contradiction
  | _ => exact Option.some.inj binds

/-- What is kept for the functors of a loop.  What keeps the connection `loose` may be missing for
the moment. -/
structure Fits (loose : Option Nat) (s : Lifetimes) (l : Loop) (q : Functors) : Prop where
  pending : ∀ c, Waits q.pendingFunctors c → l = (s.conn c).loop ∧
    (loose = some c ∨ s.Pinned c ∨ Binds q.pendingFunctors c)
  functors : ∀ c, Waits q.functors c → l = (s.conn c).loop ∧
    (loose = some c ∨ s.Pinned c ∨ Binds q.all c)
  removal : ∀ c, .removeConnectionInLoop c ∈ q.all → l = none ∧ s.server = true
  destroyed : ∀ c, .connectDestroyed c ∈ q.all → s.connection ≠ some c
  made : ∀ f ∈ q.all, f.conn < s.size
  idle : q.calling = false → q.called = [] ∧ q.functors = []

section Fits

variable {loose : Option Nat} {s : Lifetimes} {l : Loop} {q : Functors}

theorem Fits.made_pending (fits : s.Fits loose l q) {c : Nat} (waits : Waits q.pendingFunctors c) :
    c < s.size := by
  obtain ⟨f, mem, this⟩ := waits
  rw [← f.conn_of_this this]
  exact fits.made f (List.mem_append_right _ mem)

theorem Fits.made_functors (fits : s.Fits loose l q) {c : Nat} (waits : Waits q.functors c) :
    c < s.size := by
  obtain ⟨f, mem, this⟩ := waits
  rw [← f.conn_of_this this]
  exact fits.made f (List.mem_append_left _ (List.mem_append_right _ mem))

/-- What a step may do to the rest for the functors to fit still. -/
structure Extends (loose : Option Nat) (s t : Lifetimes) : Prop where
  loop : ∀ c < s.size, (t.conn c).loop = (s.conn c).loop
  pinned : ∀ c < s.size, s.Pinned c → loose = some c ∨ t.Pinned c
  server : s.server = true → t.server = true
  connection : ∀ c < s.size, t.connection = some c → s.connection = some c
  size : s.size ≤ t.size

theorem Extends.rest (loop : Loop → Functors) (connector : Connector) (removers : Nat)
    (failed : Bool) : Extends loose s { s with
      loop := loop, connector := connector, removers := removers, failed := failed } :=
  ⟨fun _ _ => rfl, fun _ _ => .inr, id, fun _ _ => id, le_rfl⟩

theorem Fits.extend {loose' : Option Nat} {t : Lifetimes} (fits : s.Fits loose l q)
    (ext : Extends loose' s t) (looser : ∀ c, loose = some c → loose' = some c) :
    t.Fits loose' l q where
  pending c waits := by
    obtain ⟨home, kept⟩ := fits.pending c waits
    have made := fits.made_pending waits
    refine ⟨home.trans (ext.loop c made).symm, ?_⟩
    rcases kept with free | pinned | binds
    · exact .inl (looser c free)
    · exact (ext.pinned c made pinned).imp_right .inl
    · exact .inr (.inr binds)
  functors c waits := by
    obtain ⟨home, kept⟩ := fits.functors c waits
    have made := fits.made_functors waits
    refine ⟨home.trans (ext.loop c made).symm, ?_⟩
    rcases kept with free | pinned | binds
    · exact .inl (looser c free)
    · exact (ext.pinned c made pinned).imp_right .inl
    · exact .inr (.inr binds)
  removal c mem := (fits.removal c mem).imp_right ext.server
  destroyed c mem eq := fits.destroyed c mem (ext.connection c (fits.made _ mem) eq)
  made f mem := (fits.made f mem).trans_le ext.size
  idle := fits.idle

/-- Another functor is queued. -/
theorem Fits.push (fits : s.Fits loose l q) {f : Functor}
    (this : ∀ c, f.this = some c → l = (s.conn c).loop ∧ s.Pinned c)
    (removal : f = .removeConnectionInLoop f.conn → l = none ∧ s.server = true)
    (destroyed : f = .connectDestroyed f.conn → s.connection ≠ some f.conn)
    (made : f.conn < s.size) :
    s.Fits loose l { q with pendingFunctors := q.pendingFunctors ++ [f] } := by
  have mem_all {g : Functor} :
      g ∈ Functors.all { q with pendingFunctors := q.pendingFunctors ++ [f] } ↔
        g ∈ q.all ∨ g = f := by
    simp [Functors.all, or_assoc]
  have binds_all {c : Nat} (binds : Binds q.all c) :
      Binds (Functors.all { q with pendingFunctors := q.pendingFunctors ++ [f] }) c := by
    obtain ⟨g, mem, eq⟩ := binds
    exact ⟨g, mem_all.mpr (.inl mem), eq⟩
  constructor
  case pending =>
    intro c waits
    rcases waits_append.mp waits with old | new
    · obtain ⟨home, kept⟩ := fits.pending c old
      exact ⟨home, kept.imp_right (Or.imp_right fun binds => binds_append.mpr (.inl binds))⟩
    · obtain ⟨home, pinned⟩ := this c (waits_singleton.mp new)
      exact ⟨home, .inr (.inl pinned)⟩
  case functors =>
    intro c waits
    obtain ⟨home, kept⟩ := fits.functors c waits
    exact ⟨home, kept.imp_right (Or.imp_right binds_all)⟩
  case removal =>
    intro c mem
    rcases mem_all.mp mem with old | rfl
    · exact fits.removal c old
    · exact removal rfl
  case destroyed =>
    intro c mem
    rcases mem_all.mp mem with old | rfl
    · exact fits.destroyed c old
    · exact destroyed rfl
  case made =>
    intro g mem
    rcases mem_all.mp mem with old | rfl
    · exact fits.made g old
    · exact made
  case idle => exact fits.idle

/-- A connection that is loose is kept by what is queued behind. -/
theorem Fits.tie {c : Nat} (fits : s.Fits (some c) l q) (keeps : s.Pinned c ∨ q.Keeps c) :
    s.Fits none l q where
  pending d waits := by
    obtain ⟨home, kept⟩ := fits.pending d waits
    refine ⟨home, .inr ?_⟩
    rcases kept with free | kept
    · obtain rfl := Option.some.inj free
      exact keeps.imp_right fun keeps => keeps.1 waits
    · exact kept
  functors d waits := by
    obtain ⟨home, kept⟩ := fits.functors d waits
    refine ⟨home, .inr ?_⟩
    rcases kept with free | kept
    · obtain rfl := Option.some.inj free
      exact keeps.imp_right fun keeps => keeps.2 waits
    · exact kept
  removal := fits.removal
  destroyed := fits.destroyed
  made := fits.made
  idle := fits.idle

/-- A connection waits in its own loop only. -/
theorem Fits.tie_away {c : Nat} (fits : s.Fits (some c) l q) (away : l ≠ (s.conn c).loop) :
    s.Fits none l q :=
  fits.tie (.inr ⟨fun waits => absurd (fits.pending c waits).1 away,
    fun waits => absurd (fits.functors c waits).1 away⟩)

theorem Fits.swap (fits : s.Fits loose l q) : s.Fits loose l ⟨[], true, [], q.pendingFunctors⟩ := by
  have all : Functors.all ⟨[], true, [], q.pendingFunctors⟩ = q.pendingFunctors := by
    simp [Functors.all]
  have mem {f : Functor} (mem : f ∈ q.pendingFunctors) : f ∈ q.all := List.mem_append_right _ mem
  constructor
  case pending => exact fun _ waits => absurd waits waits_nil
  case functors =>
    rw [all]
    exact fits.pending
  case removal =>
    rw [all]
    exact fun c old => fits.removal c (mem old)
  case destroyed =>
    rw [all]
    exact fun c old => fits.destroyed c (mem old)
  case made =>
    rw [all]
    exact fun f old => fits.made f (mem old)
  case idle => exact nofun

theorem Fits.pop {f : Functor} {rest : List Functor} (fits : s.Fits loose l q)
    (first : q.functors = f :: rest) :
    s.Fits loose l { q with called := q.called ++ [f], functors := rest } := by
  have all : Functors.all { q with called := q.called ++ [f], functors := rest } = q.all := by
    simp [Functors.all, first]
  constructor
  case pending => exact fits.pending
  case functors =>
    rw [all]
    intro c waits
    apply fits.functors c
    rw [first]
    exact waits_append (p := [f]).mpr (.inr waits)
  case removal =>
    rw [all]
    exact fits.removal
  case destroyed =>
    rw [all]
    exact fits.destroyed
  case made =>
    rw [all]
    exact fits.made
  case idle =>
    intro idle
    have none := (fits.idle idle).2
    rw [first] at none
    contradiction

theorem Fits.clear (fits : s.Fits loose l q) : s.Fits loose l ⟨q.pendingFunctors, false, [], []⟩ := by
  have all : Functors.all ⟨q.pendingFunctors, false, [], []⟩ = q.pendingFunctors := by
    simp [Functors.all]
  have mem {f : Functor} (mem : f ∈ q.pendingFunctors) : f ∈ q.all := List.mem_append_right _ mem
  constructor
  case pending => exact fits.pending
  case functors => exact fun _ waits => absurd waits waits_nil
  case removal =>
    rw [all]
    exact fun c old => fits.removal c (mem old)
  case destroyed =>
    rw [all]
    exact fun c old => fits.destroyed c (mem old)
  case made =>
    rw [all]
    exact fun f old => fits.made f (mem old)
  case idle => exact fun _ => ⟨rfl, rfl⟩

end Fits

/-! ## The rest -/

/-- What is kept between the steps. -/
structure Sound (loose : Option Nat) (s : Lifetimes) : Prop where
  safe : s.dangling = false
  loop : ∀ l, s.Fits loose l (s.loop l)
  pinned : ∀ c, s.Pinned c → c < s.size
  entry : ∀ c ∈ s.connections, (s.conn c).closeCallback = .server
  client : ∀ c, s.connection = some c → s.client = true ∧ (s.conn c).loop = s.clientLoop ∧
    (s.conn c).closeCallback = .client ∧ (loose = some c ∨ s.Open c)
  connected : s.connection ≠ none → s.connector.failed = false → s.connector.state = .kConnected
  connector : s.ConnectorHeld ∨ s.connector.functors = []

theorem sound_new (clientLoop : Loop) : (new clientLoop).Sound none where
  safe := rfl
  loop l := {
    pending := fun _ => nofun
    functors := fun _ => nofun
    removal := fun _ => nofun
    destroyed := fun _ => nofun
    made := nofun
    idle := fun _ => ⟨rfl, rfl⟩ }
  pinned c pinned := by simp [Pinned, Owned, new] at pinned
  entry := nofun
  client := nofun
  connected some := absurd rfl some
  connector := .inl (.inl rfl)

/-- What changes of the connections neither their references nor their callbacks. -/
structure SameConns (s : Lifetimes) (conn : Nat → Connection) : Prop where
  loop : ∀ c, (conn c).loop = (s.conn c).loop
  handles : ∀ c, (conn c).handles = (s.conn c).handles
  closeCallback : ∀ c, (conn c).closeCallback = (s.conn c).closeCallback

section Steps

variable {loose : Option Nat} {s : Lifetimes}

theorem SameConns.pinned {conn : Nat → Connection} (same : SameConns s conn) (c : Nat) :
    Pinned { s with conn := conn } c ↔ s.Pinned c := by
  simp only [Pinned, Owned, same.handles c]

theorem SameConns.setState (s : Lifetimes) (c : Nat) (state : StateE) :
    SameConns s (s.setState c state).conn := by
  constructor <;> intro d <;> rcases eq_or_ne d c with rfl | other <;>
    simp [Lifetimes.setState, modify, *]

theorem SameConns.setRegistered (s : Lifetimes) (c : Nat) (registered : Bool) :
    SameConns s (s.setRegistered c registered).conn := by
  constructor <;> intro d <;> rcases eq_or_ne d c with rfl | other <;>
    simp [Lifetimes.setRegistered, modify, *]

theorem SameConns.enter (s : Lifetimes) (m : Method) (c : Nat) : SameConns s (s.enter m c).conn := by
  unfold Lifetimes.enter
  split
  · exact .setState s c _
  · exact ⟨fun _ => rfl, fun _ => rfl, fun _ => rfl⟩

theorem held_enter {m : Method} {c d : Nat} : (s.enter m c).Held d ↔ s.Held d := by
  unfold Lifetimes.enter
  split
  · have same := SameConns.setState s c .kDisconnecting
    have loop : ((s.setState c .kDisconnecting).conn d).loop = (s.conn d).loop := same.loop d
    unfold Held
    rw [loop]
    exact or_congr_left (same.pinned d)
  · exact Iff.rfl

/-- The states and the channels are not what keeps a connection. -/
theorem Sound.setConn {loose' : Option Nat} {conn : Nat → Connection} (sound : s.Sound loose)
    (same : SameConns s conn) (looser : ∀ c, loose = some c → loose' = some c)
    (stays : ∀ c, s.connection = some c → loose' = some c ∨ Open { s with conn := conn } c) :
    Sound loose' { s with conn := conn } where
  safe := sound.safe
  loop l := (sound.loop l).extend {
    loop := fun c _ => same.loop c
    pinned := fun c _ pinned => .inr ((same.pinned c).mpr pinned)
    server := id
    connection := fun _ _ => id
    size := le_rfl } looser
  pinned c pinned := sound.pinned c ((same.pinned c).mp pinned)
  entry c mem := (same.closeCallback c).trans (sound.entry c mem)
  client c eq := by
    obtain ⟨client, loop, callback, -⟩ := sound.client c eq
    exact ⟨client, (same.loop c).trans loop, (same.closeCallback c).trans callback, stays c eq⟩
  connected := sound.connected
  connector := sound.connector

theorem Sound.setFailed (sound : s.Sound loose) : Sound loose { s with failed := true } :=
  { sound with loop := fun l => (sound.loop l).extend (.rest ..) fun _ => id }

theorem Sound.setLoop {l : Loop} {q : Functors} (sound : s.Sound loose)
    (fits : s.Fits loose l q) : (s.setLoop l q).Sound loose := by
  have loops : ∀ l', s.Fits loose l' ((s.setLoop l q).loop l') := by
    intro l'
    rcases eq_or_ne l' l with rfl | other
    · simpa [Lifetimes.setLoop] using fits
    · simpa [Lifetimes.setLoop, other] using sound.loop l'
  exact { sound with loop := fun l' => (loops l').extend (.rest ..) fun _ => id }

theorem Sound.queueInLoop {l : Loop} {f : Functor} (sound : s.Sound loose)
    (this : ∀ c, f.this = some c → l = (s.conn c).loop ∧ s.Pinned c)
    (removal : f = .removeConnectionInLoop f.conn → l = none ∧ s.server = true)
    (destroyed : f = .connectDestroyed f.conn → s.connection ≠ some f.conn)
    (made : f.conn < s.size) : (s.queueInLoop l f).Sound loose :=
  sound.setLoop ((sound.loop l).push this removal destroyed made)

/-- What keeps a connection is there again. -/
theorem Sound.tie {c : Nat} (sound : s.Sound (some c))
    (keeps : s.Pinned c ∨ (s.loop (s.conn c).loop).Keeps c)
    (stays : s.connection = some c → s.Open c) : s.Sound none where
  safe := sound.safe
  loop l := by
    by_cases home : l = (s.conn c).loop
    · subst home
      exact (sound.loop _).tie keeps
    · exact (sound.loop l).tie_away home
  pinned := sound.pinned
  entry := sound.entry
  client d eq := by
    obtain ⟨client, loop, callback, free | held⟩ := sound.client d eq
    · obtain rfl := Option.some.inj free
      exact ⟨client, loop, callback, .inr (stays eq)⟩
    · exact ⟨client, loop, callback, .inr held⟩
  connected := sound.connected
  connector := sound.connector

/-- What is queued with a `TcpConnectionPtr` keeps the connection for those in front. -/
theorem Sound.queueBehind {f : Functor} {c : Nat} (sound : s.Sound (some c))
    (binds : f.binds = some c) (removal : f ≠ .removeConnectionInLoop c)
    (destroyed : f = .connectDestroyed c → s.connection ≠ some c)
    (stays : s.connection = some c → s.Open c) (made : c < s.size) :
    (s.queueInLoop (s.conn c).loop f).Sound none := by
  have about : f.conn = c := f.conn_of_binds binds
  have queued : (s.queueInLoop (s.conn c).loop f).Sound (some c) := by
    apply sound.queueInLoop
    · intro d this
      cases f <;> simp [Functor.this, Functor.binds] at this binds
    · rw [about]
      exact fun eq => absurd eq removal
    · rwa [about]
    · rwa [about]
  refine queued.tie (.inr ?_) stays
  have vector : (s.queueInLoop (s.conn c).loop f).loop (s.conn c).loop =
      { s.loop (s.conn c).loop with
        pendingFunctors := (s.loop (s.conn c).loop).pendingFunctors ++ [f] } := by
    simp [Lifetimes.queueInLoop, Lifetimes.setLoop]
  show ((s.queueInLoop (s.conn c).loop f).loop (s.conn c).loop).Keeps c
  rw [vector]
  have pending : Binds ((s.loop (s.conn c).loop).pendingFunctors ++ [f]) c :=
    binds_append.mpr (.inr (binds_singleton.mpr binds))
  exact ⟨fun _ => pending, fun _ => binds_append.mpr (.inr pending)⟩

theorem Sound.held_made {c : Nat} (sound : s.Sound loose) (held : s.Held c) : c < s.size := by
  have binder {l : Loop} (binds : Binds (s.loop l).all c) : c < s.size := by
    obtain ⟨f, mem, eq⟩ := binds
    rw [← f.conn_of_binds eq]
    exact (sound.loop l).made f mem
  rcases held with pinned | own | base
  · exact sound.pinned c pinned
  · exact binder own
  · exact binder base

theorem Sound.setState {c : Nat} {state : StateE} (sound : s.Sound loose)
    (stays : s.connection = some c →
      loose = some c ∨ state = .kConnected ∨ state = .kDisconnecting) :
    (s.setState c state).Sound loose := by
  refine sound.setConn (.setState s c state) (fun _ => id) ?_
  intro d eq
  rcases eq_or_ne d c with rfl | other
  · simpa [Open] using stays eq
  · simpa [Open, other] using (sound.client d eq).2.2.2

theorem Sound.setRegistered {c : Nat} {registered : Bool} (sound : s.Sound loose) :
    (s.setRegistered c registered).Sound loose := by
  refine sound.setConn (.setRegistered s c registered) (fun _ => id) ?_
  intro d eq
  rcases eq_or_ne d c with rfl | other
  · simpa [Open] using (sound.client d eq).2.2.2
  · simpa [Open, other] using (sound.client d eq).2.2.2

theorem Sound.connectEstablished {c : Nat} (sound : s.Sound loose) :
    (s.connectEstablished c).Sound loose :=
  (sound.setState fun _ => .inr (.inl rfl)).setRegistered

theorem Sound.connectDestroyed {c : Nat} (sound : s.Sound loose) (other : s.connection ≠ some c) :
    (s.connectDestroyed c).Sound loose := by
  unfold Lifetimes.connectDestroyed
  dsimp only
  split
  · exact (sound.setState fun eq => absurd eq other).setRegistered
  · exact sound.setRegistered

theorem Sound.enter {m : Method} {c : Nat} (sound : s.Sound loose) : (s.enter m c).Sound loose := by
  unfold Lifetimes.enter
  split
  · exact sound.setState fun _ => .inr (.inr rfl)
  · exact sound

/-- Another reference, or one less, to a connection. -/
theorem Sound.setHandles {c : Nat} (sound : s.Sound none) (g : Connection → Connection)
    (calls : List (Method × Nat)) (made : c < s.size) (loop : (g (s.conn c)).loop = (s.conn c).loop)
    (state : (g (s.conn c)).state = (s.conn c).state)
    (callback : (g (s.conn c)).closeCallback = (s.conn c).closeCallback)
    (others : ∀ d ≠ c, d ∈ calls.map Prod.snd ↔ d ∈ s.calls.map Prod.snd)
    (keeps : Pinned { s.modify c g with calls := calls } c ∨ (s.loop (s.conn c).loop).Keeps c) :
    Sound none { s.modify c g with calls := calls } := by
  have pinned_iff {d : Nat} (other : d ≠ c) :
      Pinned { s.modify c g with calls := calls } d ↔ s.Pinned d := by
    simp only [Pinned, Owned, modify, Function.update_of_ne other, others d other]
  have loops (d : Nat) : ((s.modify c g).conn d).loop = (s.conn d).loop := by
    rcases eq_or_ne d c with rfl | other
    · simpa [modify] using loop
    · simp [modify, other]
  have callbacks (d : Nat) :
      ((s.modify c g).conn d).closeCallback = (s.conn d).closeCallback := by
    rcases eq_or_ne d c with rfl | other
    · simpa [modify] using callback
    · simp [modify, other]
  have moved : Sound (some c) { s.modify c g with calls := calls } := by
    constructor
    case safe => exact sound.safe
    case loop =>
      intro l
      refine (sound.loop l).extend ⟨fun d _ => loops d, ?_, id, fun _ _ => id, le_rfl⟩ nofun
      intro d _ pinned
      rcases eq_or_ne d c with rfl | other
      · exact .inl rfl
      · exact .inr ((pinned_iff other).mpr pinned)
    case pinned =>
      intro d pinned
      rcases eq_or_ne d c with rfl | other
      · exact made
      · exact sound.pinned d ((pinned_iff other).mp pinned)
    case entry => exact fun d mem => (callbacks d).trans (sound.entry d mem)
    case client =>
      intro d eq
      obtain ⟨client, home, callback, opened⟩ := sound.client d eq
      refine ⟨client, (loops d).trans home, (callbacks d).trans callback, ?_⟩
      rcases eq_or_ne d c with rfl | other
      · exact .inl rfl
      · refine .inr ?_
        simpa [Open, modify, other] using opened
    case connected => exact sound.connected
    case connector => exact sound.connector
  apply moved.tie
  · show _ ∨ (s.loop ((s.modify c g).conn c).loop).Keeps c
    rwa [loops c]
  · intro eq
    have opened := (sound.client c eq).2.2.2.resolve_left nofun
    simpa [Open, modify, state] using opened

theorem Sound.hold {c : Nat} (sound : s.Sound none) (made : c < s.size) :
    (s.modify c fun x => { x with handles := x.handles + 1 }).Sound none := by
  refine sound.setHandles (fun x => { x with handles := x.handles + 1 }) s.calls made rfl rfl rfl
    (fun _ _ => Iff.rfl) (.inl (.inl ?_))
  simp [modify]

theorem Sound.drop {c : Nat} (sound : s.Sound none) (held : (s.conn c).handles ≠ 0)
    (covered : s.Covered (.drop c)) :
    (s.modify c fun x => { x with handles := x.handles - 1 }).Sound none := by
  refine sound.setHandles (fun x => { x with handles := x.handles - 1 }) s.calls
    (sound.pinned c (.inl held)) rfl rfl rfl (fun _ _ => Iff.rfl) ?_
  by_cases owned : s.Owned c
  · exact .inl (.inr owned)
  by_cases last : (s.conn c).handles = 1
  · exact .inr (covered last owned)
  · refine .inl (.inl ?_)
    simp [modify]
    omega

/-- The caller has its `TcpConnectionPtr` until it returns. -/
theorem Sound.call {m : Method} {c : Nat} (sound : s.Sound none) (held : (s.conn c).handles ≠ 0) :
    Sound none { s.modify c (fun x => { x with handles := x.handles - 1 }) with
      calls := s.calls ++ [(m, c)] } := by
  have others (d : Nat) (other : d ≠ c) :
      d ∈ (s.calls ++ [(m, c)]).map Prod.snd ↔ d ∈ s.calls.map Prod.snd := by
    simp [other]
  have calling : c ∈ (s.calls ++ [(m, c)]).map Prod.snd := by
    simp
  exact sound.setHandles _ _ (sound.pinned c (.inl held)) rfl rfl rfl others
    (.inl (.inr (.inl calling)))

theorem mem_eraseIdx_map {α β : Type*} {f : α → β} {x : α} {y : β} :
    ∀ {xs : List α} {i : Nat}, xs[i]? = some x → y ≠ f x →
      (y ∈ (xs.eraseIdx i).map f ↔ y ∈ xs.map f)
  | _ :: _, 0, at_i, other => by
    obtain rfl := Option.some.inj at_i
    simp [other]
  | _ :: _, _ + 1, at_i, other => by
    simp only [List.eraseIdx_cons_succ, List.map_cons, List.mem_cons]
    exact or_congr_right (mem_eraseIdx_map at_i other)

theorem Sound.queue {m : Method} {c i : Nat} (sound : s.Sound none)
    (called : s.calls[i]? = some (m, c)) :
    (({ s with calls := s.calls.eraseIdx i } : Lifetimes).modify c (fun x =>
      { x with handles := x.handles + 1 }) |>.queueInLoop (s.conn c).loop (.inLoop m c)).Sound
        none := by
  have mem : c ∈ s.calls.map Prod.snd :=
    List.mem_map_of_mem (f := Prod.snd) (List.mem_of_getElem? called)
  have made : c < s.size := sound.pinned c (.inr (.inl mem))
  have back : Sound none { s.modify c (fun x => { x with handles := x.handles + 1 }) with
      calls := s.calls.eraseIdx i } := by
    refine sound.setHandles _ _ made rfl rfl rfl (fun d other => mem_eraseIdx_map called other)
      (.inl (.inl ?_))
    simp [modify]
  apply back.queueInLoop
  · rintro d this
    obtain rfl := Option.some.inj this
    exact ⟨by simp [modify], .inl (by simp [modify])⟩
  · nofun
  · nofun
  · exact made

theorem Sound.disconnect {c : Nat} (sound : s.Sound none) (eq : s.connection = some c) :
    ((s.enter .shutdown c).queueInLoop (s.conn c).loop (.inLoop .shutdown c)).Sound none := by
  apply sound.enter.queueInLoop
  · rintro d this
    obtain rfl := Option.some.inj this
    exact ⟨by simp [Lifetimes.enter, Lifetimes.setState, modify], .inr (.inr (.inr eq))⟩
  · nofun
  · nofun
  · exact sound.pinned c (.inr (.inr (.inr eq)))

theorem Sound.callInLoop {m : Method} {c : Nat} (sound : s.Sound loose) (held : s.Held c) :
    (s.callInLoop m c).Sound loose := by
  unfold Lifetimes.callInLoop
  rw [if_pos held]
  split
  · exact sound.setRegistered
  · exact sound

theorem Sound.forceClose {c : Nat} (sound : s.Sound loose) (made : c < s.size) :
    (s.forceClose c).Sound loose := by
  unfold Lifetimes.forceClose
  split
  · apply (sound.setState fun _ => .inr (.inr rfl)).queueInLoop
    · nofun
    · nofun
    · nofun
    · exact made
  · exact sound

theorem Sound.not_client {c : Nat} (sound : s.Sound loose) (mem : c ∈ s.connections) :
    s.connection ≠ some c := by
  intro eq
  have callback := (sound.client c eq).2.2.1
  rw [sound.entry c mem] at callback
  contradiction

/-- The entry of a connection goes. -/
theorem Sound.removeEntry {c : Nat} {rest : List Nat} (sound : s.Sound none)
    (mem : c ∈ s.connections) (others : ∀ d ≠ c, d ∈ rest ↔ d ∈ s.connections) :
    Sound (some c) { s with connections := rest } := by
  have pinned_iff {d : Nat} (ne : d ≠ c) :
      Pinned { s with connections := rest } d ↔ s.Pinned d := by
    simp only [Pinned, Owned, others d ne]
  constructor
  case safe => exact sound.safe
  case loop =>
    intro l
    refine (sound.loop l).extend ⟨fun _ _ => rfl, ?_, id, fun _ _ => id, le_rfl⟩ nofun
    intro d _ pinned
    rcases eq_or_ne d c with rfl | ne
    · exact .inl rfl
    · exact .inr ((pinned_iff ne).mpr pinned)
  case pinned =>
    intro d pinned
    rcases eq_or_ne d c with rfl | ne
    · exact sound.pinned d (.inr (.inr (.inl mem)))
    · exact sound.pinned d ((pinned_iff ne).mp pinned)
  case entry =>
    intro d old
    rcases eq_or_ne d c with rfl | ne
    · exact sound.entry d mem
    · exact sound.entry d ((others d ne).mp old)
  case client =>
    intro d eq
    obtain ⟨client, home, callback, opened⟩ := sound.client d eq
    exact ⟨client, home, callback, .inr (opened.resolve_left nofun)⟩
  case connected => exact sound.connected
  case connector => exact sound.connector

/-- The entry goes, and `connectDestroyed` is queued. -/
theorem Sound.removeConnectionInLoop {c : Nat} (sound : s.Sound none) (alive : s.server = true) :
    (s.removeConnectionInLoop c).Sound none := by
  unfold Lifetimes.removeConnectionInLoop
  rw [if_pos alive]
  split
  · next mem =>
    have other : s.connection ≠ some c := sound.not_client mem
    have erased := sound.removeEntry mem fun d ne => List.mem_erase_of_ne (l := s.connections) ne
    exact erased.queueBehind rfl nofun (fun _ => other) (fun eq => absurd eq other)
      (sound.pinned c (.inr (.inr (.inl mem))))
  · exact sound.setFailed

theorem Sound.removeFromServer {c : Nat} (sound : s.Sound none) (alive : s.server = true)
    (made : c < s.size) : (s.removeFromServer c).Sound none := by
  unfold Lifetimes.removeFromServer
  split
  · exact sound.removeConnectionInLoop alive
  · apply sound.queueInLoop
    · nofun
    · exact fun _ => ⟨rfl, alive⟩
    · nofun
    · exact made

/-- The client lets go of its connection, and `connectDestroyed` is queued. -/
theorem Sound.removeFromClient {c : Nat} {restart : Bool} {savedErrno : Connector.ConnectErrno}
    (sound : s.Sound (some c)) (eq : s.connection = some c) :
    (s.removeFromClient c restart savedErrno).Sound none := by
  obtain ⟨client, home, -, -⟩ := sound.client c eq
  have owned {d : Nat} (ne : d ≠ c) (t : Connector) :
      s.Pinned d → Pinned { s with connection := none, connector := t } d := by
    have other : s.connection ≠ some d := by
      rw [eq]
      exact fun same => ne (Option.some.inj same).symm
    simp only [Pinned, Owned, other]
    tauto
  have released (t : Connector) : Sound (some c) { s with connection := none, connector := t } := {
    safe := sound.safe
    loop := fun l => (sound.loop l).extend {
      loop := fun _ _ => rfl
      pinned := fun d _ pinned => by
        rcases eq_or_ne d c with rfl | ne
        · exact .inl rfl
        · exact .inr (owned ne _ pinned)
      server := id
      connection := fun _ _ => nofun
      size := le_rfl } fun _ => id
    pinned := fun d pinned => by
      apply sound.pinned d
      simp only [Pinned, Owned] at pinned ⊢
      tauto
    entry := sound.entry
    client := nofun
    connected := fun none => absurd rfl none
    connector := .inl (.inl client) }
  have queued (t : Connector) : Sound none (({ s with connection := none, connector := t } :
      Lifetimes).queueInLoop (s.conn c).loop (.connectDestroyed c)) :=
    (released t).queueBehind rfl nofun (fun _ => nofun) nofun
      (sound.pinned c (.inr (.inr (.inr eq))))
  simp only [home] at queued
  unfold Lifetimes.removeFromClient
  rw [if_pos eq]
  exact queued _

theorem Sound.handleClose {c : Nat} {restart : Bool} {savedErrno : Connector.ConnectErrno}
    (sound : s.Sound none) (made : c < s.size)
    (alive : (s.conn c).closeCallback = .server → s.server = true) :
    (s.handleClose c restart savedErrno).Sound none := by
  have same : (((s.setState c .kDisconnected).setRegistered c false).conn c).closeCallback =
      (s.conn c).closeCallback :=
    ((SameConns.setRegistered _ c false).closeCallback c).trans
      ((SameConns.setState s c .kDisconnected).closeCallback c)
  unfold Lifetimes.handleClose Lifetimes.closeCallback
  rw [same]
  by_cases eq : s.connection = some c
  · rw [(sound.client c eq).2.2.1]
    have loose : Sound (some c) ((s.setState c .kDisconnected).setRegistered c false) := by
      apply Sound.setRegistered
      refine sound.setConn (.setState s c .kDisconnected) nofun fun d same => .inl ?_
      rw [← eq, same]
    exact loose.removeFromClient eq
  · have closed : Sound none ((s.setState c .kDisconnected).setRegistered c false) :=
      (sound.setState fun same => absurd same eq).setRegistered
    cases callback : (s.conn c).closeCallback with
    | server => exact closed.removeFromServer (alive callback) made
    | client =>
      have fails : ((s.setState c .kDisconnected).setRegistered c false).removeFromClient c restart
          savedErrno = { (s.setState c .kDisconnected).setRegistered c false with failed := true } :=
        if_neg eq
      rw [fails]
      exact closed.setFailed
    | detail =>
      apply closed.queueInLoop
      · nofun
      · nofun
      · exact fun _ => eq
      · exact made

theorem Sound.callFunctor {l : Loop} {f : Functor} {restart : Bool}
    {savedErrno : Connector.ConnectErrno} (sound : s.Sound none) (mem : f ∈ (s.loop l).all)
    (held : ∀ c, f.this = some c → s.Held c)
    (alive : f = .forceCloseInLoop f.conn → s.Open f.conn →
      (s.conn f.conn).closeCallback = .server → s.server = true) :
    (s.call restart savedErrno f).Sound none := by
  have made := (sound.loop l).made f mem
  cases f with
  | connectEstablished c => exact sound.connectEstablished
  | connectDestroyed c => exact sound.connectDestroyed ((sound.loop l).destroyed c mem)
  | forceCloseInLoop c =>
    show (s.forceCloseInLoop c restart savedErrno).Sound none
    unfold Lifetimes.forceCloseInLoop
    split
    · next opened => exact sound.handleClose made (alive rfl opened)
    · exact sound
  | callback c => exact sound
  | removeConnectionInLoop c =>
    exact sound.removeConnectionInLoop ((sound.loop l).removal c mem).2
  | inLoop m c => exact sound.callInLoop (held c rfl)

/-- The object of the next functor of a batch is there. -/
theorem Sound.callNext {l : Loop} {f : Functor} {rest : List Functor} {restart : Bool}
    {savedErrno : Connector.ConnectErrno} (sound : s.Sound none)
    (first : (s.loop l).functors = f :: rest)
    (alive : f = .forceCloseInLoop f.conn → s.Open f.conn →
      (s.conn f.conn).closeCallback = .server → s.server = true) :
    ((s.setLoop l { s.loop l with
      called := (s.loop l).called ++ [f], functors := rest }).call restart savedErrno f).Sound
        none := by
  have vector : (s.setLoop l { s.loop l with
      called := (s.loop l).called ++ [f], functors := rest }).loop l =
        { s.loop l with called := (s.loop l).called ++ [f], functors := rest } :=
    Function.update_self ..
  have all : Functors.all { s.loop l with called := (s.loop l).called ++ [f], functors := rest } =
      (s.loop l).all := by
    simp [Functors.all, first]
  refine (sound.setLoop ((sound.loop l).pop first)).callFunctor (l := l) ?_ ?_ alive
  · rw [vector, all]
    simp [Functors.all, first]
  · intro c this
    obtain ⟨home, kept⟩ := (sound.loop l).functors c ⟨f, by simp [first], this⟩
    rcases kept.resolve_left nofun with pinned | binds
    · exact .inl pinned
    · refine .inr (.inl ?_)
      show Binds ((s.setLoop l _).loop (s.conn c).loop).all c
      rwa [← home, vector, all]

/-! ## New connections -/

theorem conn_add {x : Connection} {c : Nat} (old : c < s.size) : (s.add x).conn c = s.conn c :=
  Function.update_of_ne old.ne ..

@[simp] theorem conn_add_self {x : Connection} : (s.add x).conn s.size = x :=
  Function.update_self ..

theorem Sound.made_add {t : Lifetimes} (sound : s.Sound loose)
    (beyond : ∀ c, s.size < c → t.Pinned c → s.Pinned c) {c : Nat} (pinned : t.Pinned c) :
    c < s.size + 1 := by
  by_contra past
  have new : s.size < c := Nat.lt_of_succ_le (not_lt.mp past)
  have old : c < s.size := sound.pinned c (beyond c new pinned)
  omega

theorem Sound.addServer {loop : Loop} (sound : s.Sound none) :
    Sound none { s.add ⟨loop, .kConnecting, .server, false, 0⟩ with
      connections := s.connections ++ [s.size] } := by
  have pinned_iff {c : Nat} (old : c < s.size) :
      Pinned { s.add ⟨loop, .kConnecting, .server, false, 0⟩ with
        connections := s.connections ++ [s.size] } c ↔ s.Pinned c := by
    simp only [Pinned, Owned, conn_add old, List.mem_append, List.mem_singleton, old.ne, or_false]
    rfl
  constructor
  case safe => exact sound.safe
  case loop =>
    exact fun l => (sound.loop l).extend {
      loop := fun c old => by rw [conn_add old]
      pinned := fun c old pinned => .inr ((pinned_iff old).mpr pinned)
      server := id
      connection := fun _ _ => id
      size := Nat.le_succ _ } fun _ => id
  case pinned =>
    refine fun c => sound.made_add ?_
    intro d new pinned
    simpa [Pinned, Owned, add, new.ne'] using pinned
  case entry =>
    intro c mem
    rcases List.mem_append.mp mem with old | new
    · rw [conn_add (sound.pinned c (.inr (.inr (.inl old))))]
      exact sound.entry c old
    · rw [List.mem_singleton.mp new, conn_add_self]
  case client =>
    intro c eq
    have old : c < s.size := sound.pinned c (.inr (.inr (.inr eq)))
    simp only [Open, conn_add old]
    exact sound.client c eq
  case connected => exact sound.connected
  case connector => exact sound.connector

theorem Sound.newConnection {loop : Loop} (sound : s.Sound none) :
    (s.newConnection loop).Sound none := by
  unfold Lifetimes.newConnection
  dsimp only
  split
  · exact sound.addServer.connectEstablished
  · apply sound.addServer.queueInLoop
    · nofun
    · nofun
    · nofun
    · exact Nat.lt_succ_self _

theorem Sound.newClientConnection (sound : s.Sound none) (alive : s.client = true)
    (free : s.connection = none) (connected : s.connector.state = .kConnected) :
    s.newClientConnection.Sound none := by
  have pinned_iff {c : Nat} (old : c < s.size) :
      Pinned { s.add ⟨s.clientLoop, .kConnecting, .client, false, 0⟩ with
        connection := some s.size } c ↔ s.Pinned c := by
    have ne : some s.size ≠ some c := fun eq => old.ne' (Option.some.inj eq)
    simp only [Pinned, Owned, conn_add old, free, ne, reduceCtorEq, or_false]
    rfl
  have added : Sound (some s.size) { s.add ⟨s.clientLoop, .kConnecting, .client, false, 0⟩ with
      connection := some s.size } := by
    constructor
    case safe => exact sound.safe
    case loop =>
      exact fun l => (sound.loop l).extend {
        loop := fun c old => by rw [conn_add old]
        pinned := fun c old pinned => .inr ((pinned_iff old).mpr pinned)
        server := id
        connection := fun c old eq => absurd (Option.some.inj eq) old.ne'
        size := Nat.le_succ _ } nofun
    case pinned =>
      refine fun c => sound.made_add ?_
      intro d new pinned
      simpa [Pinned, Owned, add, new.ne', new.ne, free] using pinned
    case entry =>
      intro c mem
      rw [conn_add (sound.pinned c (.inr (.inr (.inl mem))))]
      exact sound.entry c mem
    case client =>
      intro c eq
      obtain rfl := Option.some.inj eq
      rw [conn_add_self]
      exact ⟨alive, rfl, rfl, .inl rfl⟩
    case connected => exact fun _ _ => connected
    case connector => exact .inl (.inl alive)
  refine added.connectEstablished.tie (.inl (.inr (.inr (.inr rfl)))) fun _ => .inl ?_
  simp [Lifetimes.connectEstablished, Lifetimes.setRegistered, Lifetimes.setState, modify]

/-! ## The destructors -/

theorem Sound.destroyServer (sound : s.Sound none) (idle : s.Idle none)
    (covered : s.Covered .destroyServer) : Sound none { s with server := false } := by
  have none_waits (l : Loop) (c : Nat) : .removeConnectionInLoop c ∉ (s.loop l).all := by
    intro mem
    obtain ⟨rfl, -⟩ := (sound.loop l).removal c mem
    obtain ⟨called, functors⟩ := (sound.loop none).idle idle.2
    rw [Functors.all, called, functors] at mem
    exact covered _ mem rfl
  exact { sound with
    loop := fun l => { sound.loop l with
      removal := fun c mem => absurd mem (none_waits l c) } }

theorem Sound.destroyNext {c : Nat} {rest : List Nat} (sound : s.Sound none)
    (next : s.connections = c :: rest) (covered : s.Covered .destroyNext) :
    Sound none (if (s.conn c).loop = none then
      ({ s with connections := rest } : Lifetimes).connectDestroyed c
      else ({ s with connections := rest } : Lifetimes).queueInLoop (s.conn c).loop
        (.connectDestroyed c)) := by
  have mem : c ∈ s.connections := by simp [next]
  have other : s.connection ≠ some c := sound.not_client mem
  have popped : Sound (some c) { s with connections := rest } :=
    sound.removeEntry mem fun d ne => by simp [next, ne]
  split
  · next home =>
    have keeps : Pinned { s with connections := rest } c ∨ (s.loop (s.conn c).loop).Keeps c := by
      by_cases held : (s.conn c).handles = 0
      · by_cases calls : c ∈ s.calls.map Prod.snd
        · exact .inl (.inr (.inl calls))
        · rw [home]
          exact .inr (covered c (by simp [next]) home held calls)
      · exact .inl (.inl held)
    exact (popped.tie keeps fun eq => absurd eq other).connectDestroyed other
  · exact popped.queueBehind rfl nofun (fun _ => other) (fun eq => absurd eq other)
      (sound.pinned c (.inr (.inr (.inl mem))))

theorem Sound.destroyClient (sound : s.Sound none) (idle : s.Idle s.clientLoop)
    (covered : s.Covered .destroyClient) : s.destroyClient.Sound none := by
  unfold Lifetimes.destroyClient
  dsimp only
  split
  · next c eq =>
    obtain ⟨-, home, callback, opened⟩ := sound.client c eq
    have opened : s.Open c := opened.resolve_left nofun
    have made : c < s.size := sound.pinned c (.inr (.inr (.inr eq)))
    have others {d : Nat} (ne : d ≠ c) : s.connection ≠ some d := by
      rw [eq]
      exact fun same => ne (Option.some.inj same).symm
    have loops (d : Nat) :
        ((s.modify c fun x => { x with closeCallback := .detail }).conn d).loop =
          (s.conn d).loop := by
      rcases eq_or_ne d c with rfl | ne
      · simp [modify]
      · simp [modify, ne]
    have left : Sound (some c) (({ s with client := false, connection := none } :
        Lifetimes).modify c fun x => { x with closeCallback := .detail }) := by
      constructor
      case safe => exact sound.safe
      case loop =>
        intro l
        refine (sound.loop l).extend ⟨fun d _ => loops d, ?_, id, fun _ _ => nofun, le_rfl⟩ nofun
        intro d _ pinned
        rcases eq_or_ne d c with rfl | ne
        · exact .inl rfl
        · refine .inr ?_
          simpa [Pinned, Owned, modify, ne, others ne] using pinned
      case pinned =>
        intro d pinned
        rcases eq_or_ne d c with rfl | ne
        · exact made
        · apply sound.pinned d
          simpa [Pinned, Owned, modify, ne, others ne] using pinned
      case entry =>
        intro d mem
        have ne : d ≠ c := by
          rintro rfl
          rw [sound.entry d mem] at callback
          contradiction
        simpa [modify, ne] using sound.entry d mem
      case client => nofun
      case connected => exact fun none => absurd rfl none
      case connector =>
        by_cases timers : s.connector.timers = []
        · exact .inr (covered (by simp [eq]) timers)
        · exact .inl (.inr (.inl timers))
    split
    · unfold Lifetimes.forceClose
      rw [if_pos (by simpa [Open, modify] using opened)]
      have set := left.setState (c := c) fun _ => .inr (.inr (Eq.refl StateE.kDisconnecting))
      have queued := set.queueBehind (f := .forceCloseInLoop c) rfl nofun nofun nofun made
      rwa [(SameConns.setState _ c .kDisconnecting).loop c] at queued
    · next shared =>
      refine left.tie ?_ nofun
      by_cases held : (s.conn c).handles = 0
      · by_cases calls : c ∈ s.calls.map Prod.snd
        · exact .inl (.inr (.inl calls))
        · have binds : Binds (s.loop (s.conn c).loop).all c := by
            by_contra none
            exact shared ⟨held, calls, none⟩
          obtain ⟨called, functors⟩ := (sound.loop _).idle (home ▸ idle.2)
          rw [Functors.all, called, functors] at binds
          have keeps : (s.loop (s.conn c).loop).Keeps c := by
            refine ⟨fun _ => binds, ?_⟩
            intro waits
            rw [functors] at waits
            exact absurd waits waits_nil
          refine .inr ?_
          simpa [modify] using keeps
      · refine .inl (.inl ?_)
        simpa [modify] using held
  · next eq =>
    exact {
      safe := sound.safe
      loop := fun l => (sound.loop l).extend {
        loop := fun _ _ => rfl
        pinned := fun d _ pinned => by
          rw [Pinned, Owned, eq] at pinned
          exact .inr pinned
        server := id
        connection := fun _ _ => nofun
        size := le_rfl } fun _ => id
      pinned := fun d pinned => by
        apply sound.pinned d
        rw [Pinned, Owned, eq]
        exact pinned
      entry := sound.entry
      client := nofun
      connected := fun none => absurd rfl none
      connector := .inl (.inr (.inr (Nat.succ_ne_zero _))) }

end Steps

/-! ## The connector -/

theorem Sound.setConnector {loose : Option Nat} {s : Lifetimes} {connector : Connector}
    {removers : Nat} (sound : s.Sound loose)
    (connected : s.connection ≠ none → connector.failed = false → connector.state = .kConnected)
    (held : ConnectorHeld { s with connector := connector, removers := removers } ∨
      connector.functors = []) :
    Sound loose { s with connector := connector, removers := removers } :=
  { sound with
    loop := fun l => (sound.loop l).extend (.rest ..) fun _ => id
    connected := connected
    connector := held }

theorem Sound.connectorStep {s s' : Lifetimes} {a : Connector.Act} (sound : s.Sound none)
    (asserts : s.connector.failed = false) (covered : s.Covered (.connector a))
    (moved : s.connectorStep a = some s') : s'.Sound none := by
  obtain ⟨allowed, some⟩ := Option.ite_none_right_eq_some.mp moved
  obtain ⟨connector, stepped, eq⟩ := Option.map_eq_some_iff.mp some
  have kept (restart : Bool) (e : Connector.ConnectErrno) : a ≠ .removeConnection restart e := by
    rintro rfl
    exact allowed
  by_cases held : s.ConnectorHeld
  case neg =>
    -- nobody calls a connector that is gone, and it has left no functor
    have functors : s.connector.functors = [] := sound.connector.resolve_left held
    obtain ⟨client, timers, -⟩ := by simpa [ConnectorHeld] using held
    cases a with
    | start t | stop t | advance t e => exact absurd allowed (by simp [Calls, client])
    | callFunctor e => simp [Connector.step, functors] at stepped
    | timer i e => simp [Connector.step, timers] at stepped
    | handleEvent revents err selfConnect => exact absurd allowed.2 held
    | removeConnection restart e => exact allowed.elim
  case pos =>
  rw [if_pos held] at eq
  dsimp only at eq
  have stays : ConnectorHeld { s with connector := connector } ∨ connector.functors = [] := by
    rcases held with client | timers | removers
    · exact .inl (.inl client)
    · rcases Connector.step_timers stepped kept timers with timers | ⟨⟨i, e, rfl⟩, last, same⟩
      · exact .inl (.inr (.inl timers))
      · by_cases others : s.client = true ∨ s.removers ≠ 0
        · rcases others with client | removers
          · exact .inl (.inl client)
          · exact .inl (.inr (.inr removers))
        · obtain ⟨client, removers⟩ := not_or.mp others
          refine .inr (same.trans (covered ?_ ?_ last))
          · simpa using client
          · simpa using removers
    · exact .inl (.inr (.inr removers))
  have stepped_sound : Sound none { s with connector := connector } :=
    sound.setConnector
      (fun some => Connector.step_connected stepped kept (sound.connected some asserts)) stays
  split at eq
  · next connects =>
    obtain ⟨opens, client⟩ := connects
    obtain ⟨⟨before, after⟩, -⟩ :
        (s.connector.state = .kConnecting ∧ connector.state = .kConnected) ∧
          connector.connection = true := by
      simpa [Connector.connects] using opens
    have free : s.connection = none := by
      by_contra some
      have := sound.connected some asserts
      rw [before] at this
      contradiction
    obtain rfl := eq
    exact stepped_sound.newClientConnection client free after
  · obtain rfl := eq
    exact stepped_sound

theorem Sound.removeConnector {s : Lifetimes} (sound : s.Sound none) (pending : s.removers ≠ 0)
    (covered : s.Covered .removeConnector) :
    Sound none { s with removers := s.removers - 1 } := by
  apply sound.setConnector sound.connected
  by_cases client : s.client = true
  · exact .inl (.inl client)
  by_cases timers : s.connector.timers = []
  · by_cases last : s.removers = 1
    · exact .inr (covered (by simpa using client) last timers)
    · refine .inl (.inr (.inr ?_))
      show s.removers - 1 ≠ 0
      omega
  · exact .inl (.inr (.inl timers))

/-! ## Runs -/

theorem Sound.step {s s' : Lifetimes} {a : Act} (sound : s.Sound none) (covered : s.Covered a)
    (moved : s.step a = some s') : s'.Sound none := by
  obtain ⟨asserts, moved⟩ := Option.ite_none_left_eq_some.mp moved
  have asserts : s.connector.failed = false := by simp_all
  cases a with
  | newConnection loop =>
    obtain ⟨-, rfl⟩ := some_of_guard moved
    exact sound.newConnection
  | hold c =>
    obtain ⟨held, rfl⟩ := some_of_guard moved
    exact sound.hold (sound.held_made held)
  | drop c =>
    obtain ⟨held, rfl⟩ := some_of_guard moved
    exact sound.drop held covered
  | call m c =>
    obtain ⟨held, eq⟩ := Option.ite_none_right_eq_some.mp moved
    split at eq
    · obtain rfl := Option.some.inj eq
      apply sound.enter.call
      rwa [(SameConns.enter s m c).handles c]
    · obtain rfl := Option.some.inj eq
      exact sound
  | queue i =>
    dsimp only at moved
    split at moved
    · contradiction
    · next m c called =>
      obtain rfl := Option.some.inj moved
      exact sound.queue called
  | callInLoop m c =>
    obtain ⟨⟨held, -⟩, rfl⟩ := some_of_guard moved
    split
    · exact sound.enter.callInLoop (held_enter.mpr held)
    · exact sound
  | disconnect =>
    dsimp only at moved
    split at moved
    · obtain rfl := Option.some.inj moved
      exact sound
    · next c eq =>
      obtain rfl := Option.some.inj moved
      split
      · exact sound.disconnect eq
      · exact sound
  | forceClose c =>
    obtain ⟨held, rfl⟩ := some_of_guard moved
    exact sound.forceClose (sound.held_made held)
  | handleClose c restart savedErrno =>
    obtain ⟨⟨held, -⟩, rfl⟩ := some_of_guard moved
    exact sound.handleClose (sound.held_made held) covered
  | queueCallback c =>
    obtain ⟨held, rfl⟩ := some_of_guard moved
    refine sound.queueInLoop ?_ ?_ ?_ (sound.held_made held)
    · intro _ same
      cases same
    · intro same
      cases same
    · intro same
      cases same
  | swap l =>
    obtain ⟨-, rfl⟩ := some_of_guard moved
    exact sound.setLoop (sound.loop l).swap
  | callFunctor l restart savedErrno =>
    dsimp only at moved
    split at moved
    · contradiction
    · next f rest first =>
      obtain ⟨-, rfl⟩ := some_of_guard moved
      exact sound.callNext first (fun again opened callback => covered f (by simp [first]) again
        opened callback)
  | clear l =>
    obtain ⟨-, rfl⟩ := some_of_guard moved
    exact sound.setLoop (sound.loop l).clear
  | destroyServer =>
    obtain ⟨⟨-, idle⟩, rfl⟩ := some_of_guard moved
    exact sound.destroyServer idle covered
  | destroyNext =>
    dsimp only at moved
    split at moved
    · contradiction
    · next c rest next =>
      obtain ⟨-, eq⟩ := Option.ite_none_left_eq_some.mp moved
      obtain rfl := Option.some.inj eq
      exact sound.destroyNext next covered
  | destroyClient =>
    obtain ⟨⟨-, idle, -⟩, rfl⟩ := some_of_guard moved
    exact sound.destroyClient idle covered
  | connector a => exact sound.connectorStep asserts covered moved
  | removeConnector =>
    obtain ⟨⟨pending, -⟩, rfl⟩ := some_of_guard moved
    exact sound.removeConnector pending covered

/-- Where the last `TcpConnectionPtr`, a server, a client and the last timer of a connector go
only when no functor needs them, none of those called is bound to an object that is gone. -/
theorem always_notDangling (clientLoop : Loop) {as : List Act}
    (covered : EachStep step (fun s a _ => s.Covered a) (new clientLoop) as) :
    Always step (fun s => s.dangling = false) (new clientLoop) as :=
  Always.of_invariant (fun _ _ _ sound covered moved => sound.step covered moved)
    (fun _ sound => sound.safe) (sound_new clientLoop) covered

/-- A user thread sends and drops its `TcpConnectionPtr`, the connection is closed and destroyed,
and the server goes; the client connects and is destroyed with its connection open. -/
def sentAndClosed : List Act :=
  [.newConnection (some 0), .swap (some 0), .callFunctor (some 0) false .ok, .clear (some 0),
    .hold 0, .call .send 0, .queue 0, .drop 0, .handleClose 0 false .ok, .swap none,
    .callFunctor none false .ok, .clear none, .swap (some 0), .callFunctor (some 0) false .ok,
    .callFunctor (some 0) false .ok, .clear (some 0), .destroyServer,
    .connector (.start (some 1)), .connector (.advance (some 1) .ok),
    .connector (.callFunctor .einprogress), .connector (.handleEvent pollOut false false),
    .connector (.callFunctor .ok), .hold 1, .call .shutdown 1, .queue 0, .drop 1, .destroyClient,
    .swap (some 1), .callFunctor (some 1) false .ok, .callFunctor (some 1) false .ok]

theorem always_notDangling_sentAndClosed :
    Always step (fun s => s.dangling = false) (new (some 1)) sentAndClosed :=
  always_notDangling _ (by decide +kernel)

/-- A user thread sends and drops its `TcpConnectionPtr`, and `~TcpServer` destroys the connection
before its loop comes to `sendInLoop`. -/
theorem sentBeforeDestroy_dangling : ¬ Always step (fun s => s.dangling = false) (new (some 1))
    [.newConnection none, .hold 0, .call .send 0, .queue 0, .drop 0, .destroyServer, .destroyNext,
      .swap none, .callFunctor none false .ok] := by
  decide +kernel

/-- A user thread calls `startRead()` when the connection has been destroyed but for it. -/
example : ¬ Always step (fun s => s.dangling = false) (new (some 1))
    [.newConnection none, .hold 0, .handleClose 0 false .ok, .swap none,
      .callFunctor none false .ok, .clear none, .call .startRead 0, .queue 0, .drop 0, .swap none,
      .callFunctor none false .ok] := by
  decide +kernel

/-- `~TcpServer` does not wait for `removeConnectionInLoop`. -/
example : ¬ Always step (fun s => s.dangling = false) (new (some 1))
    [.newConnection (some 0), .swap (some 0), .callFunctor (some 0) false .ok, .clear (some 0),
      .handleClose 0 false .ok, .destroyServer, .destroyNext, .swap none,
      .callFunctor none false .ok] := by
  decide +kernel

/-- The loop is not woken up for `stopInLoop`, and comes to the timer of `~TcpClient` first. -/
example : ¬ Always step (fun s => s.dangling = false) (new (some 1))
    [.destroyClient, .removeConnector, .connector (.callFunctor .ok)] := by
  decide +kernel

end NewFramework.Net.Lifetimes
