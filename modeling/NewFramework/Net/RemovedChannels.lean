import NewFramework.Net.ActiveChannels

/-!
# Removed channels

While events are handled (`muduo/net/EventLoop.cpp`) a channel leaves the poller only in its own
`handleEvent`, or with its server.  So the channels that the iterator has still to come to are in
the poller, if a server is destroyed in a callback only while no channel of it but the current one
is active.
-/

namespace NewFramework.Net.ActiveChannels
open NewFramework.Lib

/-- The channels that the destructor of a server removes. -/
def channels (s : ActiveChannels) (v : Nat) : List Ch :=
  .acceptor v :: (s.server v).connections.map .conn

/-- The condition on a step. -/
def Apart (s : ActiveChannels) : Act → Prop
  | .destroyServer v => ∀ ch ∈ s.channels v, s.Removable ch
  | _ => True

instance (s : ActiveChannels) (a : Act) : Decidable (s.Apart a) := by
  unfold Apart
  split <;> infer_instance

/-- No assertion of `removeChannel` has failed, and no channel that has gone has been handled. -/
def Fine (s : ActiveChannels) : Prop := s.failed = false ∧ s.stale = false

instance (s : ActiveChannels) : Decidable s.Fine := inferInstanceAs (Decidable (_ ∧ _))

/-- What is kept. -/
structure Sound (s : ActiveChannels) : Prop where
  fine : s.Fine
  idle : s.eventHandling = false → s.rest = []
  nodup : s.rest.Nodup
  current : ∀ ch, s.currentActiveChannel = some ch → ch ∉ s.rest
  active : ∀ ch ∈ s.rest, ch ∈ s.activeChannels
  poller : ∀ ch ∈ s.rest, s.poller ch = true
  removed : ∀ ch ∈ s.rest, ch ∉ s.removed
  destroyed : ∀ c ∈ s.destroyed, c < s.size ∧ s.poller (.conn c) = false
  dead : ∀ v ∈ s.destroying, (s.server v).alive = false
  apart : ∀ v ∈ s.destroying, ∀ ch ∈ s.channels v, s.Removable ch
  functors : ∀ f ∈ s.functors, s.Live f.conn
  connector : ∀ k, s.poller (.connector k) = true → (s.connector k).channel = .registered

theorem sound_new : new.Sound where
  fine := ⟨rfl, rfl⟩
  idle _ := rfl
  nodup := .nil
  current := nofun
  active := nofun
  poller := nofun
  removed := nofun
  destroyed := nofun
  dead := nofun
  apart := nofun
  functors := nofun
  connector k inside := by simp [new] at inside

section Steps

variable {s : ActiveChannels}

/-- A channel that may be removed is not one that is still to be handled. -/
theorem Sound.not_mem_rest {ch : Ch} (sound : s.Sound) (removable : s.Removable ch) :
    ch ∉ s.rest := by
  intro mem
  cases handling : s.eventHandling with
  | false =>
    rw [sound.idle handling] at mem
    contradiction
  | true =>
    rcases removable handling with current | inactive
    · exact sound.current ch current mem
    · exact inactive (sound.active ch mem)

theorem Sound.removeChannel {ch : Ch} (sound : s.Sound) (removable : s.Removable ch) :
    (s.removeChannel ch).Sound where
  fine := by simpa [Fine, ActiveChannels.removeChannel, removable] using sound.fine
  idle := sound.idle
  nodup := sound.nodup
  current := sound.current
  active := sound.active
  poller other mem := by
    have ne : other ≠ ch := fun eq => sound.not_mem_rest removable (eq ▸ mem)
    simpa [ActiveChannels.removeChannel, ne] using sound.poller other mem
  removed other mem := by
    have ne : other ≠ ch := fun eq => sound.not_mem_rest removable (eq ▸ mem)
    simpa [ActiveChannels.removeChannel, ne] using sound.removed other mem
  destroyed c mem := by
    obtain ⟨made, out⟩ := sound.destroyed c mem
    refine ⟨made, ?_⟩
    simp only [ActiveChannels.removeChannel, Function.update_apply]
    split
    · rfl
    · exact out
  dead := sound.dead
  apart := sound.apart
  functors := sound.functors
  connector k inside := by
    apply sound.connector k
    simp only [ActiveChannels.removeChannel, Function.update_apply] at inside
    split at inside
    · contradiction
    · exact inside

theorem Sound.updateChannel {ch : Ch} (sound : s.Sound)
    (there : ∀ c, ch = .conn c → c ∉ s.destroyed)
    (connector : ∀ k, ch = .connector k → (s.connector k).channel = .registered) :
    (s.updateChannel ch).Sound where
  fine := sound.fine
  idle := sound.idle
  nodup := sound.nodup
  current := sound.current
  active := sound.active
  poller other mem := by
    simp only [ActiveChannels.updateChannel, Function.update_apply]
    split
    · rfl
    · exact sound.poller other mem
  removed := sound.removed
  destroyed c mem := by
    obtain ⟨made, out⟩ := sound.destroyed c mem
    have ne : Ch.conn c ≠ ch := fun eq => there c eq.symm mem
    exact ⟨made, by simpa [ActiveChannels.updateChannel, ne] using out⟩
  dead := sound.dead
  apart := sound.apart
  functors := sound.functors
  connector k inside := by
    rcases eq_or_ne (.connector k) ch with same | ne
    · exact connector k same.symm
    · exact sound.connector k (by simpa [ActiveChannels.updateChannel, ne] using inside)

theorem Sound.queueInLoop {f : Functor} (sound : s.Sound) (live : s.Live f.conn) :
    (s.queueInLoop f).Sound :=
  { sound with
    functors := fun g mem => by
      rcases List.mem_append.mp mem with old | new
      · exact sound.functors g old
      · rw [List.mem_singleton.mp new]
        exact live }

theorem Sound.setState {c : Nat} {state : StateE} (sound : s.Sound) : (s.setState c state).Sound :=
  { sound with }

theorem Sound.connectEstablished {c : Nat} (sound : s.Sound) (live : c ∉ s.destroyed) :
    (s.connectEstablished c).Sound := by
  apply sound.setState.updateChannel
  · rintro d ⟨⟩
    exact live
  · nofun

theorem Sound.connectDestroyed {c : Nat} (sound : s.Sound) (removable : s.Removable (.conn c)) :
    (s.connectDestroyed c).Sound := by
  unfold ActiveChannels.connectDestroyed
  dsimp only
  split
  · exact sound.setState.removeChannel removable
  · exact sound.removeChannel removable

/-- Fewer connections of a server, or more while it is alive. -/
theorem Sound.setConnections {v : Nat} {connections : List Nat} (sound : s.Sound)
    (fewer : v ∈ s.destroying → ∀ c ∈ connections, c ∈ (s.server v).connections) :
    (s.setConnections v connections).Sound :=
  { sound with
    dead := fun w mem => by
      rcases eq_or_ne w v with rfl | ne
      · simpa [ActiveChannels.setConnections] using sound.dead w mem
      · simpa [ActiveChannels.setConnections, ne] using sound.dead w mem
    apart := fun w mem ch among => by
      apply sound.apart w mem ch
      rcases eq_or_ne w v with rfl | ne
      · simp only [channels, ActiveChannels.setConnections, Function.update_self, List.mem_cons,
          List.mem_map] at among ⊢
        exact among.imp_right fun ⟨c, old, eq⟩ => ⟨c, fewer mem c old, eq⟩
      · simpa [channels, ActiveChannels.setConnections, ne] using among }

theorem Sound.withConnector {k : Nat} {connector : Connector} (sound : s.Sound)
    (live : s.poller (.connector k) = true → connector.channel = .registered) :
    Sound { s with connector := Function.update s.connector k connector } :=
  { sound with
    connector := fun j inside => by
      rcases eq_or_ne j k with rfl | ne
      · simpa using live inside
      · simpa [ne] using sound.connector j inside }

/-- The channel that a connector has taken out may be removed. -/
theorem Sound.setConnector {k : Nat} {connector : Connector} (sound : s.Sound)
    (removable : (s.connector k).channel = .registered → connector.channel ≠ .registered →
      s.Removable (.connector k)) : (s.setConnector k connector).Sound := by
  unfold ActiveChannels.setConnector
  dsimp only
  split
  · next live =>
    refine (sound.withConnector fun _ => live).updateChannel nofun ?_
    rintro j ⟨⟩
    simpa using live
  · next out =>
    split
    · next inside =>
      have removed := sound.removeChannel (removable (sound.connector k inside) out)
      apply removed.withConnector
      simp [ActiveChannels.removeChannel]
    · next outside => exact sound.withConnector fun inside => absurd inside outside

theorem Sound.removeFromServer {v c : Nat} {s' : ActiveChannels} (sound : s.Sound)
    (live : s.Live c) (moved : s.removeFromServer v c = some s') : s'.Sound := by
  obtain ⟨-, rfl⟩ := some_of_guard moved
  exact (sound.setConnections fun _ _ mem => List.mem_of_mem_erase mem).queueInLoop live

theorem restart_channel {savedErrno : Connector.ConnectErrno} {c : Connector}
    (live : c.channel = .registered) : (c.restart savedErrno).channel = .registered :=
  Connector.startInLoop_channel live

theorem Sound.removeFromClient {k c : Nat} {restart : Bool} {savedErrno : Connector.ConnectErrno}
    {s' : ActiveChannels} (sound : s.Sound) (live : s.Live c)
    (moved : s.removeFromClient k c restart savedErrno = some s') : s'.Sound := by
  obtain ⟨-, eq⟩ := Option.ite_none_right_eq_some.mp moved
  obtain ⟨-, eq⟩ := Option.ite_none_left_eq_some.mp eq
  obtain rfl := Option.some.inj eq
  have queued : ((({ s with connection := Function.update s.connection k none } :
      ActiveChannels)).queueInLoop (.connectDestroyed c)).Sound :=
    Sound.queueInLoop (s := { s with connection := Function.update s.connection k none })
      { sound with } live
  refine queued.setConnector fun inside out => absurd ?_ out
  split
  · exact restart_channel inside
  · exact inside

theorem Sound.handleClose {c : Nat} {restart : Bool} {savedErrno : Connector.ConnectErrno}
    {s' : ActiveChannels} (sound : s.Sound) (live : s.Live c)
    (moved : s.handleClose c restart savedErrno = some s') : s'.Sound := by
  have closed : (s.setState c .kDisconnected).Sound := sound.setState
  unfold ActiveChannels.handleClose at moved
  dsimp only at moved
  split at moved
  · exact closed.removeFromServer live moved
  · exact closed.removeFromClient live moved
  · obtain rfl := Option.some.inj moved
    exact closed

theorem Sound.add {x : Conn} (sound : s.Sound) : (s.add x).Sound :=
  { sound with
    destroyed := fun c mem => (sound.destroyed c mem).imp_left Nat.lt_succ_of_lt
    functors := fun f mem => (sound.functors f mem).imp_left Nat.lt_succ_of_lt }

theorem Sound.size_not_mem (sound : s.Sound) : s.size ∉ s.destroyed :=
  fun mem => absurd (sound.destroyed _ mem).1 (lt_irrefl _)

theorem Sound.newConnection {v : Nat} (sound : s.Sound) (alive : (s.server v).alive = true) :
    (s.newConnection v).Sound := by
  have outside : v ∉ s.destroying := by
    intro mem
    rw [sound.dead v mem] at alive
    contradiction
  exact (sound.add.setConnections fun mem => absurd mem outside).connectEstablished
    sound.size_not_mem

theorem Sound.newClientConnection {k : Nat} (sound : s.Sound) :
    (s.newClientConnection k).Sound := by
  have added : Sound { s.add ⟨.client k, .kConnecting⟩ with
      connection := Function.update s.connection k (some s.size) } :=
    { sound.add (x := ⟨.client k, .kConnecting⟩) with }
  exact added.connectEstablished sound.size_not_mem

theorem Sound.connectorStep {k : Nat} {a : Connector.Act} {s' : ActiveChannels} (sound : s.Sound)
    (moved : s.connectorStep k a = some s') : s'.Sound := by
  obtain ⟨reaches, some⟩ := Option.ite_none_right_eq_some.mp moved
  obtain ⟨connector, stepped, eq⟩ := Option.bind_eq_some_iff.mp some
  obtain ⟨-, eq⟩ := Option.ite_none_left_eq_some.mp eq
  obtain rfl := Option.some.inj eq
  have kept (restart : Bool) (e : Connector.ConnectErrno) : a ≠ .removeConnection restart e := by
    rintro rfl
    exact reaches
  have set : (s.setConnector k connector).Sound := by
    apply sound.setConnector
    intro inside out handling
    rcases Connector.step_channel stepped kept inside with
      stays | ⟨e, rfl⟩ | ⟨revents, err, self, rfl⟩
    · exact absurd stays out
    · exact absurd handling (by simp [reaches.1])
    · exact .inl reaches
  split
  · exact set.newClientConnection
  · exact set

theorem Sound.call {f : Functor} {restart : Bool} {savedErrno : Connector.ConnectErrno}
    {s' : ActiveChannels} (sound : s.Sound) (live : s.Live f.conn) (calls : s.Calls)
    (moved : s.call restart savedErrno f = some s') : s'.Sound := by
  cases f with
  | connectEstablished c =>
    obtain rfl := Option.some.inj moved
    exact sound.connectEstablished live.2
  | connectDestroyed c =>
    obtain rfl := Option.some.inj moved
    exact sound.connectDestroyed fun handling => absurd handling (by simp [calls.1])
  | forceCloseInLoop c =>
    unfold ActiveChannels.call at moved
    dsimp only at moved
    split at moved
    · exact sound.handleClose live moved
    · obtain rfl := Option.some.inj moved
      exact sound

end Steps

theorem Sound.step {s s' : ActiveChannels} {a : Act} (sound : s.Sound) (apart : s.Apart a)
    (moved : s.step a = some s') : s'.Sound := by
  cases a with
  | poll active =>
    obtain ⟨⟨calls, nodup, inside⟩, rfl⟩ := some_of_guard moved
    exact {
      fine := sound.fine
      idle := nofun
      nodup := nodup
      current := nofun
      active := fun _ => id
      poller := inside
      removed := fun _ _ => nofun
      destroyed := sound.destroyed
      dead := sound.dead
      apart := fun v mem => by
        rw [calls.2] at mem
        contradiction
      functors := sound.functors
      connector := sound.connector }
  | next =>
    obtain ⟨⟨-, outside⟩, eq⟩ := Option.ite_none_right_eq_some.mp moved
    have none_destroyed {v : Nat} (mem : v ∈ s.destroying) : False := by
      rw [outside] at mem
      contradiction
    split at eq
    · next done =>
      obtain rfl := Option.some.inj eq
      exact { sound with
        idle := fun _ => done
        current := nofun
        apart := fun v mem => (none_destroyed mem).elim }
    · next ch rest first =>
      obtain rfl := Option.some.inj eq
      obtain ⟨fresh, nodup⟩ := List.nodup_cons.mp (first ▸ sound.nodup)
      have here : ch ∈ s.rest := by simp [first]
      have later {other : Ch} (mem : other ∈ rest) : other ∈ s.rest := by simp [first, mem]
      have there (c : Nat) (eq : ch = .conn c) : c ∉ s.destroyed := by
        intro mem
        have inside := sound.poller ch here
        rw [eq, (sound.destroyed c mem).2] at inside
        contradiction
      exact {
        fine := by
          refine ⟨sound.fine.1, ?_⟩
          cases ch <;> simp_all [sound.fine.2, sound.removed _ here]
        idle := fun handling => by
          have := sound.idle handling
          rw [first] at this
          contradiction
        nodup := nodup
        current := by
          rintro _ ⟨⟩
          exact fresh
        active := fun other mem => sound.active other (later mem)
        poller := fun other mem => sound.poller other (later mem)
        removed := fun other mem => sound.removed other (later mem)
        destroyed := sound.destroyed
        dead := sound.dead
        apart := fun v mem => (none_destroyed mem).elim
        functors := sound.functors
        connector := sound.connector }
  | callFunctor restart savedErrno =>
    dsimp only [ActiveChannels.step] at moved
    split at moved
    · contradiction
    · next f functors first =>
      obtain ⟨calls, eq⟩ := Option.ite_none_right_eq_some.mp moved
      have popped : Sound { s with functors := functors } :=
        { sound with functors := fun g mem => sound.functors g (by simp [first, mem]) }
      have live : s.Live f.conn := sound.functors f (by simp [first])
      exact popped.call live calls eq
  | update c =>
    obtain ⟨live, rfl⟩ := some_of_guard moved
    refine sound.updateChannel ?_ nofun
    rintro d ⟨⟩
    exact live.2
  | shutdown c =>
    obtain ⟨-, rfl⟩ := some_of_guard moved
    exact sound.setState
  | forceClose c =>
    obtain ⟨⟨live, -⟩, rfl⟩ := some_of_guard moved
    exact sound.setState.queueInLoop live
  | handleClose c restart savedErrno =>
    obtain ⟨⟨-, live, -⟩, eq⟩ := Option.ite_none_right_eq_some.mp moved
    exact sound.handleClose live eq
  | listen v =>
    obtain ⟨-, rfl⟩ := some_of_guard moved
    exact sound.updateChannel nofun nofun
  | accept v =>
    obtain ⟨⟨-, alive⟩, rfl⟩ := some_of_guard moved
    exact sound.newConnection alive
  | queueEstablished =>
    obtain rfl := Option.some.inj moved
    exact sound.add.queueInLoop ⟨Nat.lt_succ_self _, sound.size_not_mem⟩
  | queueDestroyed c =>
    obtain ⟨⟨live, -⟩, rfl⟩ := some_of_guard moved
    exact sound.queueInLoop live
  | connector k a => exact sound.connectorStep moved
  | destroyServer v =>
    obtain ⟨-, rfl⟩ := some_of_guard moved
    have same (w : Nat) :
        (Function.update s.server v { s.server v with alive := false } w).connections =
          (s.server w).connections := by
      rcases eq_or_ne w v with rfl | ne
      · simp
      · simp [ne]
    exact { sound with
      dead := fun w mem => by
        rcases eq_or_ne w v with rfl | ne
        · simp
        · simpa [ne] using sound.dead w ((List.mem_cons.mp mem).resolve_left ne)
      apart := fun w mem ch among => by
        simp only [channels, same] at among
        rcases List.mem_cons.mp mem with rfl | old
        · exact apart ch among
        · exact sound.apart w old ch among }
  | destroyNext =>
    dsimp only [ActiveChannels.step] at moved
    split at moved
    · contradiction
    · next v outer first =>
      have top : v ∈ s.destroying := by simp [first]
      split at moved
      · next c connections next =>
        obtain rfl := Option.some.inj moved
        have popped : (s.setConnections v connections).Sound :=
          sound.setConnections fun _ d mem => by simp [next, mem]
        exact popped.connectDestroyed (sound.apart v top (.conn c) (by simp [channels, next]))
      · obtain rfl := Option.some.inj moved
        have popped : Sound { s with destroying := outer } :=
          { sound with
            dead := fun w mem => sound.dead w (by simp [first, mem])
            apart := fun w mem => sound.apart w (by simp [first, mem]) }
        exact popped.removeChannel (sound.apart v top (.acceptor v) (by simp [channels]))
  | destroy c =>
    obtain ⟨⟨live, unreferenced, outside⟩, rfl⟩ := some_of_guard moved
    exact { sound with
      destroyed := fun d mem => by
        rcases List.mem_cons.mp mem with rfl | old
        · exact ⟨live.1, outside⟩
        · exact sound.destroyed d old
      functors := fun f mem => by
        refine ⟨(sound.functors f mem).1, ?_⟩
        intro gone
        rcases List.mem_cons.mp gone with eq | old
        · exact unreferenced (.inr (.inl ⟨f, mem, eq⟩))
        · exact (sound.functors f mem).2 old }

/-- Where no server is destroyed in a callback while a channel of it is active, other than the
current one, no channel is removed or handled that must not be. -/
theorem always_fine {as : List Act} (apart : EachStep step (fun s a _ => s.Apart a) new as) :
    Always step Fine new as :=
  Always.of_invariant (fun _ _ _ sound apart moved => sound.step apart moved)
    (fun _ sound => sound.fine) sound_new apart

/-- What `connectDestroyed` changes of what matters to a destructor. -/
theorem connectDestroyed_eq (s : ActiveChannels) (c : Nat) :
    (s.connectDestroyed c).destroying = s.destroying ∧
      (s.connectDestroyed c).server = s.server ∧
      (∀ ch, (s.connectDestroyed c).Removable ch ↔ s.Removable ch) ∧
      (s.connectDestroyed c).failed = (s.failed || decide (¬ s.Removable (.conn c))) := by
  unfold ActiveChannels.connectDestroyed
  dsimp only
  split
  · exact ⟨rfl, rfl, fun _ => Iff.rfl, rfl⟩
  · exact ⟨rfl, rfl, fun _ => Iff.rfl, rfl⟩

/-- A destructor comes to the channel that it must not remove. -/
theorem failed_of_destroying {v : Nat} {connections : List Nat} :
    ∀ {s : ActiveChannels} {outer : List Nat}, s.destroying = v :: outer →
      (s.server v).connections = connections →
      s.failed = true ∨ (∃ ch ∈ s.channels v, ¬ s.Removable ch) →
      ∃ t, exec step s (.replicate (connections.length + 1) .destroyNext) = some t ∧
        t.failed = true := by
  induction connections with
  | nil =>
    intro s outer top none fails
    refine ⟨({ s with destroying := outer } : ActiveChannels).removeChannel (.acceptor v), ?_, ?_⟩
    · simp [step, top, none]
    · rcases fails with failed | ⟨ch, mem, active⟩
      · simp [ActiveChannels.removeChannel, failed]
      · obtain rfl : ch = .acceptor v := by simpa [channels, none] using mem
        have stays : ¬ Removable { s with destroying := outer } (.acceptor v) := active
        simp [ActiveChannels.removeChannel, stays]
  | cons c connections ih =>
    intro s outer top next fails
    have moved : s.step .destroyNext =
        some ((s.setConnections v connections).connectDestroyed c) := by
      simp [step, top, next]
    obtain ⟨outer_eq, server, removable, asserts⟩ :=
      connectDestroyed_eq (s.setConnections v connections) c
    have left : ((s.setConnections v connections).server v).connections = connections := by
      simp [ActiveChannels.setConnections]
    have fails' : ((s.setConnections v connections).connectDestroyed c).failed = true ∨
        ∃ ch ∈ ((s.setConnections v connections).connectDestroyed c).channels v,
          ¬ ((s.setConnections v connections).connectDestroyed c).Removable ch := by
      rcases fails with failed | ⟨ch, mem, active⟩
      · have already : (s.setConnections v connections).failed = true := failed
        exact .inl (by rw [asserts, already, Bool.true_or])
      · by_cases here : ch = .conn c
        · subst here
          have stays : ¬ (s.setConnections v connections).Removable (.conn c) := active
          exact .inl (by rw [asserts, decide_eq_true stays, Bool.or_true])
        · refine .inr ⟨ch, ?_, fun holds => active ((removable ch).mp holds)⟩
          simp only [channels, next, List.map_cons, List.mem_cons] at mem
          simp only [channels, server, left, List.mem_cons]
          exact mem.imp_right fun mem => mem.resolve_left here
    obtain ⟨t, reached, failed⟩ := ih (s := (s.setConnections v connections).connectDestroyed c)
      (outer_eq.trans top) (by rw [server, left]) fails'
    refine ⟨t, ?_, failed⟩
    rw [List.length_cons, List.replicate_succ, exec_cons, moved]
    exact reached

/-- The condition is exact: from a state in which it fails, the destructor runs into the
assertion. -/
theorem failed_of_not_apart {s : ActiveChannels} {v : Nat} (alive : (s.server v).alive = true)
    (active : ¬ s.Apart (.destroyServer v)) :
    ∃ t, exec step s (.destroyServer v ::
        .replicate ((s.server v).connections.length + 1) .destroyNext) = some t ∧
      t.failed = true := by
  obtain ⟨ch, mem, active⟩ : ∃ ch ∈ s.channels v, ¬ s.Removable ch := by
    simpa only [Apart, not_forall, exists_prop] using active
  have begun : s.step (.destroyServer v) = some { s with
      server := Function.update s.server v { s.server v with alive := false }
      destroying := v :: s.destroying } := if_pos alive
  rw [exec_cons, begun]
  apply failed_of_destroying (v := v) (rfl : _ = v :: s.destroying)
  · simp
  · refine .inr ⟨ch, ?_, active⟩
    simpa [channels] using mem

/-- Two connections are accepted, and are active together. -/
def bothActive : List Act :=
  [.listen 0, .poll [.acceptor 0], .next, .accept 0, .next, .poll [.acceptor 0], .next, .accept 0,
    .next, .poll [.conn 0, .conn 1], .next]

/-- One of them closes, and when it has gone the other destroys the server. -/
theorem always_fine_closed : Always step Fine new
    (bothActive ++ [.handleClose 0 false .ok, .next, .next, .callFunctor false .ok, .destroy 0,
      .poll [.conn 1], .next, .destroyServer 0, .destroyNext, .destroyNext, .next, .destroy 1]) :=
  always_fine (by decide +kernel)

/-- The first destroys the server. -/
theorem destroyedByFirst_notFine : ¬ Always step Fine new
    (bothActive ++ [.destroyServer 0, .destroyNext, .destroyNext]) := by
  decide +kernel

end NewFramework.Net.ActiveChannels
