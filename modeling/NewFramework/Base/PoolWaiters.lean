import NewFramework.Base.PoolAccounting

/-!
# The waiters of `ThriftConnectionPool`

In `muduo/base/thrift_connection_pool.h` a caller waits while its host has no idle client and no
room for another.  `return_connection` notifies all callers; `destroy_connection` notifies none,
though it makes room for its own host, and for every other host that is not full.
-/

namespace NewFramework.Base
open NewFramework.Lib ThriftConnectionPool

namespace ThriftConnectionPool

variable {p : ThriftConnectionPool} {host g : Host}

/-- A caller for the host need not wait. -/
def Ready (host : Host) (p : ThriftConnectionPool) : Prop :=
  p.mIdleConns host ≠ [] ∨ p.HasRoom host

instance (host : Host) (p : ThriftConnectionPool) : Decidable (p.Ready host) :=
  inferInstanceAs (Decidable (_ ∨ _))

/-- The host has all the clients it may have. -/
def Full (host : Host) (p : ThriftConnectionPool) : Prop := p.count host = p.mMaxConnPerHost

instance (host : Host) (p : ThriftConnectionPool) : Decidable (p.Full host) :=
  inferInstanceAs (Decidable (_ = _))

theorem ready_initConnectionMap (sound : p.Sound) (ready : (p.initConnectionMap host).Ready g) :
    p.Ready g := by
  rw [sound.initConnectionMap_eq] at ready
  exact ready

/-- Taking a client makes no host ready. -/
theorem ready_tryGet {address : Option Nat} (ready : (p.tryGet host address).2.Ready g) :
    p.Ready g := by
  unfold tryGet at ready
  cases front : p.mIdleConns host with
  | cons c idle =>
    rw [front] at ready
    by_cases here : g = host
    · subst here
      exact .inl (by rw [front]; nofun)
    · simpa [Ready, HasRoom, count, activate, here] using ready
  | nil =>
    rw [front] at ready
    dsimp only at ready
    split at ready
    · next room =>
      cases address with
      | none => exact ready
      | some a =>
        by_cases here : g = host
        · subst here
          exact .inr room
        · simp only [Ready, HasRoom, count, create, activate, Function.update_of_ne here,
            UInt32.lt_iff_toNat_lt, room.toNat_succ] at ready ⊢
          rcases ready with idle | ⟨room, less⟩
          · exact .inl idle
          · exact .inr ⟨room, by omega⟩
    · exact ready

/-- What the destruction of a client makes of the numbers. -/
theorem destroyConnection_numbers (sound : p.Sound) {c : Client} (known : host ∈ p.hosts)
    (mem : c ∈ p.mActiveConns host) (g : Host) :
    (p.destroyConnection c host).mIdleConns = p.mIdleConns ∧
      ((p.destroyConnection c host).HasRoom g ↔ (p.destroyConnection c host).count g <
        p.mMaxConnPerHost) ∧
      ((p.destroyConnection c host).count g).toNat + (if g = host then 1 else 0) =
        (p.count g).toNat := by
  have sound' := sound.destroyConnection known mem
  have clients := destroy_clients sound known mem
  have fields : (p.destroyConnection c host).mIdleConns = p.mIdleConns ∧
      (p.destroyConnection c host).mMaxConnPerHost = p.mMaxConnPerHost ∧
      (p.destroyConnection c host).mMaxConn = p.mMaxConn ∧
      (p.destroyConnection c host).mTotalConn = p.mTotalConn - 1 := by
    rw [destroyConnection, if_pos known]
    exact ⟨rfl, rfl, rfl, rfl⟩
  obtain ⟨idle, perHost, limit, total⟩ := fields
  obtain ⟨one_le, pred⟩ := sound.toNat_pred known (mem_clients.mpr (.inr mem))
  have below : p.mTotalConn - 1 < p.mMaxConn := by
    have before := UInt32.le_iff_toNat_le.mp sound.limit
    rw [UInt32.lt_iff_toNat_lt, pred]
    omega
  refine ⟨idle, ?_, ?_⟩
  · rw [HasRoom, total, limit, perHost]
    exact and_iff_left below
  · rw [sound.toNat_count, sound'.toNat_count, clients]
    by_cases here : g = host
    · subst here
      rw [Function.update_self, Multiset.card_cons, if_pos rfl]
    · rw [Function.update_of_ne here, if_neg here, Nat.add_zero]

end ThriftConnectionPool

/-! ## The callers -/

namespace PoolUsers

/-- No caller is blocked and not notified although it need not wait, or a thread is about to
notify it. -/
def NoneStranded (s : PoolUsers) : Prop :=
  s.notifying = true ∨ ∀ caller ∈ s.callers, caller.stage = .waiting → ¬ s.pool.Ready caller.host

instance (s : PoolUsers) : Decidable s.NoneStranded := inferInstanceAs (Decidable (_ ∨ _))

/-- Where the step calls `destroy_connection`, all waiting callers are for other hosts, and these
have all the clients they may have. -/
def OthersFull (s : PoolUsers) (a : PoolAct) : Prop :=
  ∀ i h c, a = .destroy i → s.handles[i]? = some h → s.CanUse h → h.mClient = some c →
    ∀ caller ∈ s.callers, caller.stage = .waiting →
      caller.host ≠ h.host ∧ s.pool.Full caller.host

/-- A round of the loop leaves nobody behind. -/
theorem NoneStranded.round {s : PoolUsers} (held : s.Held) {host : Host}
    (known : host ∈ s.pool.hosts) {address : Option Nat} (free : s.AddressFree address) {i : Nat}
    (none : ∀ caller ∈ s.callers, caller.stage = .waiting → ¬ s.pool.Ready caller.host) :
    (s.round i host address).NoneStranded := by
  refine .inr ?_
  intro caller mem waiting ready
  have before (g : Host) (ready : (s.pool.tryGet host address).2.Ready g) := ready_tryGet ready
  unfold PoolUsers.round at mem ready
  rcases tryGet_cases held.sound known free with
    ⟨c, p', got, -⟩ | ⟨thrown, -⟩ | ⟨waits, empty, full⟩
  · rw [got] at mem ready before
    rcases List.mem_or_eq_of_mem_set mem with old | rfl
    · exact none caller old waiting (before _ ready)
    · cases waiting
  · rw [thrown] at mem ready
    rcases List.mem_or_eq_of_mem_set mem with old | rfl
    · exact none caller old waiting ready
    · cases waiting
  · rw [waits] at mem ready
    rcases List.mem_or_eq_of_mem_set mem with old | rfl
    · exact none caller old waiting ready
    · rcases ready with idle | room
      · exact idle empty
      · exact full room

/-- Whom `destroy_connection` leaves behind. -/
theorem ready_destroyConnection {s : PoolUsers} (held : s.Held) {i : Nat} {h : ThriftConnection}
    {c : Client} (there : s.handles[i]? = some h) (live : h.stage = .live)
    (client : h.mClient = some c) {g : Host} (before : ¬ s.pool.Ready g) :
    (s.pool.destroyConnection c h.host).Ready g ↔ g = h.host ∨ ¬ s.pool.Full g := by
  obtain ⟨known, mem⟩ := held.active i h there live c client
  obtain ⟨idle, room, count⟩ := destroyConnection_numbers held.sound known mem g
  have bound := held.sound.perHost g
  rw [← held.sound.toNat_count] at bound
  have empty : s.pool.mIdleConns g = [] := by
    by_contra some
    exact before (.inl some)
  have full : s.pool.Full g ↔ (s.pool.count g).toNat = s.pool.mMaxConnPerHost.toNat :=
    UInt32.toNat_inj.symm
  rw [Ready, idle, empty, room, UInt32.lt_iff_toNat_lt, full]
  by_cases here : g = h.host
  · rw [if_pos here] at count
    exact iff_of_true (.inr (by omega)) (.inl here)
  · rw [if_neg here] at count
    constructor
    · rintro (none | less)
      · exact absurd rfl none
      · exact .inr (by omega)
    · rintro (same | less)
      · exact absurd same here
      · exact .inr (by omega)

theorem NoneStranded.step {s s' : PoolUsers} (held : s.Held) (known : s.Known)
    (none : s.NoneStranded) {a : PoolAct} (full : s.OthersFull a) (moved : step s a = some s') :
    s'.NoneStranded := by
  cases move_of_step moved with
  | @enter host address unlocked free =>
    have none := none.resolve_left (by rw [unlocked]; decide)
    have called := known.called host
    have last : (⟨host, .woken true⟩ : Caller) ∈ (s.called host).callers :=
      List.mem_append_right _ (List.mem_singleton_self _)
    refine NoneStranded.round (held.called host) (called _ last)
      (fun a mem => held.sound.free_initConnectionMap (free a mem) host) ?_
    intro caller mem waiting
    rcases List.mem_append.mp mem with old | new
    · exact fun ready => none caller old waiting (ready_initConnectionMap held.sound ready)
    · rw [List.mem_singleton.mp new] at waiting
      cases waiting
  | @resume i caller address there _ unlocked free =>
    have none := none.resolve_left (by rw [unlocked]; decide)
    exact NoneStranded.round held (known caller (List.mem_of_getElem? there)) free none
  | expire | wakeUp | timeout =>
    apply none.imp_right
    intro none caller mem waiting
    rcases List.mem_or_eq_of_mem_set mem with old | rfl
    · exact none caller old waiting
    · cases waiting
  | notify =>
    refine .inr ?_
    intro caller mem waiting
    obtain ⟨before, -, rfl⟩ := List.mem_map.mp mem
    split at waiting
    · cases waiting
    · next other => exact absurd waiting other
  | @release i h there can =>
    unfold PoolUsers.release
    cases client : h.mClient with
    | none => exact none
    | some c =>
      refine .inl ?_
      dsimp only
      rw [returnConnection, if_pos (held.active i h there can.1 c client).1]
  | @destroy i h there can =>
    unfold PoolUsers.destroy
    cases client : h.mClient with
    | none => exact none
    | some c =>
      apply none.imp_right
      intro none caller mem waiting ready
      rcases (ready_destroyConnection held there can.1 client
        (none caller mem waiting)).mp ready with
        same | less
      · exact (full i h c rfl there can client caller mem waiting).1 same
      · exact less (full i h c rfl there can client caller mem waiting).2
  | destroyed there => exact none

/-- The condition is needed. -/
theorem othersFull_of_noneStranded {s s' : PoolUsers} (held : s.Held) (none : s.NoneStranded)
    {a : PoolAct} (moved : step s a = some s') (none' : s'.NoneStranded) : s.OthersFull a := by
  rintro i h c rfl there can client caller mem waiting
  have unlocked : s.notifying = false := can.2.resolve_right (by rw [client]; nofun)
  obtain rfl : s' = s.destroy i h := by
    cases move_of_step moved with
    | destroy there' => rw [Option.some.inj (there.symm.trans there')]
  have locked : ¬ s.notifying = true := by rw [unlocked]; decide
  have before := none.resolve_left locked caller mem waiting
  have after : ¬ (s.pool.destroyConnection c h.host).Ready caller.host := by
    unfold PoolUsers.destroy at none'
    rw [client] at none'
    exact none'.resolve_left locked caller mem waiting
  rw [ready_destroyConnection held there can.1 client before, not_or, not_not] at after
  exact after

/-- No waiter is ever stranded in a run exactly if, whenever a client is destroyed, the waiting
callers are for other hosts that have all the clients they may have. -/
theorem always_noneStranded_iff (maxConn maxConnPerHost : UInt32) (acts : List PoolAct) :
    Always step NoneStranded (new maxConn maxConnPerHost) acts ↔
      EachStep step (fun s a _ => s.OthersFull a) (new maxConn maxConnPerHost) acts := by
  have init : (new maxConn maxConnPerHost).Held ∧ (new maxConn maxConnPerHost).Known ∧
      (new maxConn maxConnPerHost).NoneStranded := ⟨held_new .., nofun, .inr nofun⟩
  have keeps : ∀ s a s', s.Held ∧ s.Known ∧ s.NoneStranded → s.OthersFull a →
      step s a = some s' → (s'.Held ∧ s'.Known ∧ s'.NoneStranded) ∧ s'.NoneStranded := by
    rintro s a s' ⟨held, known, none⟩ full moved
    have none' := NoneStranded.step held known none full moved
    exact ⟨⟨(held.step known moved).1, known.step moved, none'⟩, none'⟩
  have only : ∀ s a s', s.Held ∧ s.Known ∧ s.NoneStranded → step s a = some s' →
      s'.NoneStranded → s.OthersFull a :=
    fun s a s' inv moved none' => othersFull_of_noneStranded inv.1 inv.2.2 moved none'
  have exact_steps : EachStep step (fun _ _ s' => s'.NoneStranded) _ acts ↔ _ :=
    EachStep.iff_of_invariant keeps only init
  exact ⟨fun always => exact_steps.mp always.2, fun run => ⟨init.2.2, exact_steps.mpr run⟩⟩

/-- One connection at most: it is destroyed while a second thread waits for it. -/
def destroyedWhileWaiting : List PoolAct :=
  [.enter (1, 80) (some 100), .enter (1, 80) none, .destroy 0]

theorem not_always_noneStranded_destroyedWhileWaiting :
    ¬ Always step NoneStranded (new 1 1) destroyedWhileWaiting := by
  decide

end PoolUsers

end NewFramework.Base
