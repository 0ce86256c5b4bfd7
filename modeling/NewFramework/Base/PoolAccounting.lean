import NewFramework.Base.ThriftConnectionPool
import NewFramework.Lib.Numbered

/-!
# The accounting of `ThriftConnectionPool`

In `muduo/base/thrift_connection_pool.h` the clients of a host are a multiset, the idle ones and the
active ones together.  Getting an idle client and giving one back leave it as it is; creating a
client adds one, destroying it takes one away.
-/

namespace NewFramework.Base
open NewFramework.Lib

/-! ## Sets of clients -/

theorem setInsert_new {c : Client} {set : List Client} (new : c.address ∉ set.map Client.address) :
    setInsert c set = c :: set := if_neg new

theorem cons_setErase {c : Client} {set : List Client} (nodup : (set.map Client.address).Nodup)
    (mem : c ∈ set) : (c :: setErase c set).Perm set := by
  induction set with
  | nil => cases mem
  | cons d set ih =>
    rw [List.map_cons, List.nodup_cons] at nodup
    rcases List.mem_cons.mp mem with rfl | mem
    · have others : setErase c set = set := by
        refine List.filter_eq_self.mpr fun d mem => decide_eq_true fun same => nodup.1 ?_
        rw [← same]
        exact List.mem_map_of_mem mem
      have first : setErase c (c :: set) = setErase c set := by simp [setErase]
      rw [first, others]
    · have other : d.address ≠ c.address := fun same =>
        nodup.1 (same ▸ List.mem_map_of_mem mem)
      have first : setErase c (d :: set) = d :: setErase c set := by simp [setErase, other]
      rw [first]
      exact (List.Perm.swap ..).trans ((ih nodup.2 mem).cons d)

namespace ThriftConnectionPool

/-- The clients of a host. -/
def clients (p : ThriftConnectionPool) (host : Host) : Multiset Client :=
  (p.mIdleConns host : Multiset Client) + (p.mActiveConns host : Multiset Client)

structure Sound (p : ThriftConnectionPool) : Prop where
  total : p.mTotalConn.toNat = ∑ host ∈ p.hosts, (p.clients host).card
  unknown : ∀ host, host ∉ p.hosts → p.clients host = 0
  limit : p.mTotalConn ≤ p.mMaxConn
  perHost : ∀ host, (p.clients host).card ≤ p.mMaxConnPerHost.toNat
  nodup : ∀ host, ((p.clients host).map Client.address).Nodup
  apart : ∀ host host' c c', c ∈ p.clients host → c' ∈ p.clients host' → c.address = c'.address →
    host = host'
  serial : ∀ host, ∀ c ∈ p.clients host, c.serial < p.created
  destroyed : ∀ c ∈ p.destroyed, c.serial < p.created ∧ ∀ host, c ∉ p.clients host

theorem sound_new (maxConn maxConnPerHost : UInt32) : (new maxConn maxConnPerHost).Sound where
  total := rfl
  unknown _ _ := rfl
  limit := UInt32.zero_le
  perHost _ := Nat.zero_le _
  nodup _ := Multiset.nodup_zero
  apart _ _ _ _ mem := nomatch mem
  serial _ _ mem := nomatch mem
  destroyed _ mem := nomatch mem

variable {p p' : ThriftConnectionPool} {host : Host} {c : Client}

theorem mem_clients {host : Host} {c : Client} :
    c ∈ p.clients host ↔ c ∈ p.mIdleConns host ∨ c ∈ p.mActiveConns host := by
  simp [clients]

theorem card_clients (host : Host) :
    (p.clients host).card = (p.mIdleConns host).length + (p.mActiveConns host).length := by
  simp [clients]

/-- Clients that change their place only. -/
theorem Sound.of_clients (sound : p.Sound) (clients : p'.clients = p.clients)
    (hosts : p.hosts ⊆ p'.hosts)
    (same : p'.mTotalConn = p.mTotalConn ∧ p'.mMaxConn = p.mMaxConn ∧
      p'.mMaxConnPerHost = p.mMaxConnPerHost ∧ p'.created = p.created ∧
      p'.destroyed = p.destroyed) : p'.Sound := by
  obtain ⟨total, limit, perHost, created, destroyed⟩ := same
  constructor
  · rw [total, clients, sound.total]
    exact Finset.sum_subset hosts fun host _ unknown => by rw [sound.unknown host unknown]; rfl
  · rw [clients]
    exact fun host unknown => sound.unknown host fun mem => unknown (hosts mem)
  · rw [total, limit]
    exact sound.limit
  · rw [perHost, clients]
    exact sound.perHost
  · rw [clients]
    exact sound.nodup
  · rw [clients]
    exact sound.apart
  · rw [clients, created]
    exact sound.serial
  · rw [destroyed, created, clients]
    exact sound.destroyed

/-- Where one host has other clients, the sum changes by these. -/
theorem sum_clients (known : host ∈ p.hosts)
    (others : ∀ host', host' ≠ host → p'.clients host' = p.clients host') :
    ∑ host ∈ p.hosts, (p'.clients host).card + (p.clients host).card =
      ∑ host ∈ p.hosts, (p.clients host).card + (p'.clients host).card := by
  rw [← Finset.add_sum_erase _ _ known,
    ← Finset.add_sum_erase p.hosts (fun h => (p.clients h).card) known]
  have rest : ∑ h ∈ p.hosts.erase host, (p'.clients h).card =
      ∑ h ∈ p.hosts.erase host, (p.clients h).card :=
    Finset.sum_congr rfl fun h mem => by rw [others h (Finset.ne_of_mem_erase mem)]
  rw [rest]
  omega

section

variable {f g : Host → Multiset Client} (more : g = Function.update f host (c ::ₘ f host))
include more

/-- One host has one client more. -/
theorem mem_of_update {host' : Host} {d : Client} :
    d ∈ g host' ↔ d ∈ f host' ∨ host' = host ∧ d = c := by
  by_cases same : host' = host
  · subst same
    rw [more, Function.update_self, Multiset.mem_cons]
    simp [or_comm]
  · rw [more, Function.update_of_ne same]
    simp [same]

theorem le_of_update (host' : Host) : f host' ≤ g host' := by
  by_cases same : host' = host
  · subst same
    rw [more, Function.update_self]
    exact Multiset.le_cons_self ..
  · rw [more, Function.update_of_ne same]

end

theorem Sound.eq_of_address (sound : p.Sound) {host' : Host} {c' : Client}
    (mem : c ∈ p.clients host) (mem' : c' ∈ p.clients host') (same : c.address = c'.address) :
    host = host' ∧ c = c' := by
  obtain rfl := sound.apart _ _ _ _ mem mem' same
  exact ⟨rfl, Multiset.inj_on_of_nodup_map (sound.nodup host) c mem c' mem' same⟩

theorem Sound.addresses (sound : p.Sound) (host : Host) :
    ((p.mIdleConns host ++ p.mActiveConns host).map Client.address).Nodup := by
  have nodup := sound.nodup host
  rwa [clients, Multiset.coe_add, Multiset.map_coe, Multiset.coe_nodup] at nodup

theorem Sound.active_nodup (sound : p.Sound) (host : Host) :
    ((p.mActiveConns host).map Client.address).Nodup := by
  have nodup := sound.addresses host
  rw [List.map_append] at nodup
  exact nodup.of_append_right

/-! ## The operations -/

theorem hosts_initConnectionMap (host : Host) (p : ThriftConnectionPool) :
    (p.initConnectionMap host).hosts = insert host p.hosts := by
  unfold initConnectionMap
  split
  · next known => exact (Finset.insert_eq_of_mem known).symm
  · rfl

/-- An unknown host has no clients, so its new entries change nothing. -/
theorem Sound.initConnectionMap_eq (sound : p.Sound) (host : Host) :
    p.initConnectionMap host = { p with hosts := insert host p.hosts } := by
  unfold initConnectionMap
  split
  · next known => rw [Finset.insert_eq_of_mem known]
  · next unknown =>
    have card := card_clients (p := p) host
    rw [sound.unknown host unknown, Multiset.card_zero] at card
    have active : p.mActiveConns host = [] := List.eq_nil_of_length_eq_zero (by omega)
    have idle : p.mIdleConns host = [] := List.eq_nil_of_length_eq_zero (by omega)
    rw [← active, Function.update_eq_self, active, ← idle, Function.update_eq_self]

theorem Sound.initConnectionMap (sound : p.Sound) (host : Host) :
    (p.initConnectionMap host).Sound := by
  rw [sound.initConnectionMap_eq]
  exact sound.of_clients rfl (Finset.subset_insert ..) ⟨rfl, rfl, rfl, rfl, rfl⟩

/-- The list of a set, and its other clients. -/
theorem activate_active (c : Client) (host : Host) (p : ThriftConnectionPool) (host' : Host) :
    p.mActiveConns host' ⊆ (p.activate c host).mActiveConns host' := by
  by_cases here : host' = host
  · subst here
    simp only [activate, Function.update_self, setInsert]
    split
    · exact List.Subset.refl _
    · exact List.subset_cons_self ..
  · simp [activate, here]

theorem mem_activate {c : Client} {host : Host}
    (new : c.address ∉ (p.mActiveConns host).map Client.address) :
    c ∈ (p.activate c host).mActiveConns host := by
  simp [activate, setInsert_new new]

theorem mem_deactivate {c d : Client} {host host' : Host} (mem : d ∈ p.mActiveConns host')
    (other : host' = host → d.address ≠ c.address) :
    d ∈ (p.deactivate c host).mActiveConns host' := by
  by_cases here : host' = host
  · subst here
    simp [deactivate, setErase, mem, other rfl]
  · simpa [deactivate, here] using mem

/-- An idle client becomes active. -/
theorem takeIdle_clients (sound : p.Sound) {idle : List Client}
    (front : p.mIdleConns host = c :: idle) :
    c.address ∉ (p.mActiveConns host).map Client.address ∧
      clients { p.activate c host with mIdleConns := Function.update p.mIdleConns host idle } =
        p.clients := by
  have new : c.address ∉ (p.mActiveConns host).map Client.address := by
    have nodup := sound.addresses host
    rw [front, List.cons_append, List.map_cons, List.nodup_cons, List.map_append] at nodup
    exact fun mem => nodup.1 (List.mem_append_right _ mem)
  refine ⟨new, ?_⟩
  funext g
  by_cases here : g = host
  · subst here
    simp only [clients, activate, Function.update_self, setInsert_new new, front]
    rw [← Multiset.cons_coe, ← Multiset.cons_coe, Multiset.add_cons, Multiset.cons_add]
  · simp [clients, activate, here]

/-- An active client becomes idle. -/
theorem giveBack_clients (sound : p.Sound) (mem : c ∈ p.mActiveConns host) :
    clients { p.deactivate c host with
      mIdleConns := Function.update p.mIdleConns host (c :: p.mIdleConns host) } = p.clients := by
  have rest := cons_setErase (sound.active_nodup host) mem
  funext g
  by_cases here : g = host
  · subst here
    simp only [clients, deactivate, Function.update_self]
    rw [← Multiset.cons_coe, Multiset.cons_add, ← Multiset.add_cons, Multiset.cons_coe,
      Multiset.coe_eq_coe.mpr rest]
  · simp [clients, deactivate, here]

/-- The numbers of a host fit their type. -/
theorem Sound.toNat_count (sound : p.Sound) (host : Host) :
    (p.count host).toNat = (p.clients host).card := by
  have bound := sound.perHost host
  have := p.mMaxConnPerHost.toNat_lt
  rw [count, ← card_clients, UInt32.toNat_ofNat', Nat.mod_eq_of_lt (by omega)]

theorem Sound.free (sound : p.Sound) {address : Nat} (free : p.Free address) :
    ∀ host, ∀ c ∈ p.clients host, c.address ≠ address := by
  intro host c mem
  by_cases known : host ∈ p.hosts
  · exact free host known c (List.mem_append.mpr (mem_clients.mp mem))
  · rw [sound.unknown host known] at mem
    cases mem

theorem Sound.free_initConnectionMap (sound : p.Sound) {address : Nat} (free : p.Free address)
    (host : Host) : (p.initConnectionMap host).Free address := by
  intro host' _ c mem
  rw [sound.initConnectionMap_eq] at mem
  exact sound.free free host' c (mem_clients.mpr (List.mem_append.mp mem))

theorem create_clients (sound : p.Sound) {address : Nat} (free : p.Free address) (host : Host) :
    (⟨address, p.created⟩ : Client).address ∉ (p.mActiveConns host).map Client.address ∧
      (p.create ⟨address, p.created⟩ host).clients =
        Function.update p.clients host (⟨address, p.created⟩ ::ₘ p.clients host) := by
  have new :
      (⟨address, p.created⟩ : Client).address ∉ (p.mActiveConns host).map Client.address := by
    intro mem
    obtain ⟨c, mem, same⟩ := List.mem_map.mp mem
    exact sound.free free host c (mem_clients.mpr (.inr mem)) same
  refine ⟨new, ?_⟩
  funext g
  by_cases here : g = host
  · subst here
    rw [Function.update_self]
    simp only [clients, create, activate, Function.update_self, setInsert_new new]
    rw [← Multiset.cons_coe, Multiset.add_cons]
  · simp [clients, create, activate, here]

theorem HasRoom.toNat_succ (room : p.HasRoom host) :
    (p.mTotalConn + 1).toNat = p.mTotalConn.toNat + 1 := by
  have := UInt32.lt_iff_toNat_lt.mp room.2
  have := p.mMaxConn.toNat_lt
  rw [UInt32.toNat_add]
  exact Nat.mod_eq_of_lt (by simp; omega)

theorem Sound.create (sound : p.Sound) {address : Nat} (free : p.Free address)
    (known : host ∈ p.hosts) (room : p.HasRoom host) :
    (p.create ⟨address, p.created⟩ host).Sound := by
  have clients := (create_clients sound free host).2
  have here : (p.create ⟨address, p.created⟩ host).clients host =
      ⟨address, p.created⟩ ::ₘ p.clients host := by
    rw [clients, Function.update_self]
  have others : ∀ host', host' ≠ host →
      (p.create ⟨address, p.created⟩ host).clients host' = p.clients host' := by
    intro host' other
    rw [clients, Function.update_of_ne other]
  have fresh := sound.free free
  have total := room.toNat_succ
  obtain ⟨roomHost, roomTotal⟩ := room
  rw [UInt32.lt_iff_toNat_lt] at roomHost roomTotal
  rw [sound.toNat_count] at roomHost
  constructor
  case total =>
    have sum := sum_clients known others
    have before := sound.total
    rw [here, Multiset.card_cons] at sum
    have after : (p.create ⟨address, p.created⟩ host).mTotalConn.toNat = p.mTotalConn.toNat + 1 :=
      total
    have hosts : (p.create ⟨address, p.created⟩ host).hosts = p.hosts := rfl
    rw [after, hosts]
    omega
  case unknown =>
    intro g unknown
    have other : g ≠ host := fun same => unknown (same ▸ known)
    rw [others g other]
    exact sound.unknown g unknown
  case limit =>
    rw [UInt32.le_iff_toNat_le]
    exact total ▸ roomTotal
  case perHost =>
    intro g
    by_cases same : g = host
    · subst same
      rw [here, Multiset.card_cons]
      exact roomHost
    · rw [others g same]
      exact sound.perHost g
  case nodup =>
    intro g
    by_cases same : g = host
    · subst same
      rw [here, Multiset.map_cons, Multiset.nodup_cons]
      refine ⟨?_, sound.nodup g⟩
      intro mem
      obtain ⟨c, mem, same⟩ := Multiset.mem_map.mp mem
      exact fresh g c mem same
    · rw [others g same]
      exact sound.nodup g
  case apart =>
    intro g g' c c' mem mem' same
    rcases (mem_of_update clients).mp mem with old | ⟨rfl, rfl⟩ <;>
      rcases (mem_of_update clients).mp mem' with old' | ⟨rfl, rfl⟩
    · exact sound.apart g g' c c' old old' same
    · exact absurd same (fresh g c old)
    · exact absurd same.symm (fresh g' c' old')
    · rfl
  case serial =>
    intro g c mem
    rcases (mem_of_update clients).mp mem with old | ⟨-, rfl⟩
    · exact Nat.lt_succ_of_lt (sound.serial g c old)
    · exact Nat.lt_succ_self _
  case destroyed =>
    intro c gone
    obtain ⟨serial, nowhere⟩ := sound.destroyed c gone
    refine ⟨Nat.lt_succ_of_lt serial, ?_⟩
    intro g mem
    rcases (mem_of_update clients).mp mem with old | ⟨-, rfl⟩
    · exact nowhere g old
    · exact Nat.lt_irrefl _ serial

/-- There is a client, so `mTotalConn` can be lowered. -/
theorem Sound.toNat_pred (sound : p.Sound) (known : host ∈ p.hosts) (mem : c ∈ p.clients host) :
    1 ≤ p.mTotalConn.toNat ∧ (p.mTotalConn - 1).toNat = p.mTotalConn.toNat - 1 := by
  have some := Multiset.card_pos_iff_exists_mem.mpr ⟨c, mem⟩
  have one_le : 1 ≤ p.mTotalConn.toNat := by
    rw [sound.total, ← Finset.add_sum_erase _ _ known]
    omega
  exact ⟨one_le, UInt32.toNat_sub_of_le _ _ (UInt32.le_iff_toNat_le.mpr one_le)⟩

theorem destroy_clients (sound : p.Sound) (known : host ∈ p.hosts)
    (mem : c ∈ p.mActiveConns host) :
    p.clients = Function.update (p.destroyConnection c host).clients host
      (c ::ₘ (p.destroyConnection c host).clients host) := by
  have rest := cons_setErase (sound.active_nodup host) mem
  unfold destroyConnection
  rw [if_pos known]
  funext g
  by_cases here : g = host
  · subst here
    rw [Function.update_self]
    simp only [clients, deactivate, Function.update_self]
    rw [← Multiset.add_cons, Multiset.cons_coe, Multiset.coe_eq_coe.mpr rest]
  · simp [clients, deactivate, here]

theorem Sound.destroyConnection (sound : p.Sound) (known : host ∈ p.hosts)
    (mem : c ∈ p.mActiveConns host) : (p.destroyConnection c host).Sound := by
  have clients := destroy_clients sound known mem
  have here : p.clients host = c ::ₘ (p.destroyConnection c host).clients host := by
    rw [clients, Function.update_self]
  have others : ∀ host', host' ≠ host →
      (p.destroyConnection c host).clients host' = p.clients host' := by
    intro host' other
    rw [clients, Function.update_of_ne other]
  have less := le_of_update clients
  have fields : (p.destroyConnection c host).mTotalConn = p.mTotalConn - 1 ∧
      (p.destroyConnection c host).hosts = p.hosts ∧
      (p.destroyConnection c host).mMaxConn = p.mMaxConn ∧
      (p.destroyConnection c host).mMaxConnPerHost = p.mMaxConnPerHost ∧
      (p.destroyConnection c host).created = p.created ∧
      (p.destroyConnection c host).destroyed = p.destroyed ++ [c] := by
    rw [ThriftConnectionPool.destroyConnection, if_pos known]
    exact ⟨rfl, rfl, rfl, rfl, rfl, rfl⟩
  obtain ⟨total, hosts, limit, perHost, created, destroyed⟩ := fields
  have sum := sum_clients known others
  rw [here, Multiset.card_cons, ← sound.total] at sum
  have toNat := (sound.toNat_pred known (mem_clients.mpr (.inr mem))).2
  constructor
  case total =>
    rw [total, toNat, hosts]
    omega
  case unknown =>
    intro g unknown
    rw [hosts] at unknown
    rw [others g fun same => unknown (same ▸ known)]
    exact sound.unknown g unknown
  case limit =>
    have before := sound.limit
    rw [UInt32.le_iff_toNat_le] at before
    rw [total, limit, UInt32.le_iff_toNat_le, toNat]
    omega
  case perHost =>
    intro g
    rw [perHost]
    exact (Multiset.card_le_card (less g)).trans (sound.perHost g)
  case nodup =>
    exact fun g => Multiset.nodup_of_le (Multiset.map_le_map (less g)) (sound.nodup g)
  case apart =>
    intro g g' d d' mem mem'
    exact sound.apart g g' d d' (Multiset.mem_of_le (less g) mem)
      (Multiset.mem_of_le (less g') mem')
  case serial =>
    intro g d mem
    rw [created]
    exact sound.serial g d (Multiset.mem_of_le (less g) mem)
  case destroyed =>
    intro d gone
    rw [destroyed] at gone
    rw [created]
    rcases List.mem_append.mp gone with old | new
    · obtain ⟨serial, nowhere⟩ := sound.destroyed d old
      exact ⟨serial, fun g mem => nowhere g (Multiset.mem_of_le (less g) mem)⟩
    · obtain rfl := List.mem_singleton.mp new
      have before : d ∈ p.clients host := mem_clients.mpr (.inr mem)
      refine ⟨sound.serial host d before, ?_⟩
      intro g again
      have nodup := sound.nodup host
      obtain rfl := (sound.eq_of_address before (Multiset.mem_of_le (less g) again) rfl).1
      rw [here, Multiset.map_cons, Multiset.nodup_cons] at nodup
      exact nodup.1 (Multiset.mem_map_of_mem _ again)

/-- A client was handed out. -/
structure HandsOut (p : ThriftConnectionPool) (host : Host) (c : Client)
    (p' : ThriftConnectionPool) : Prop where
  sound : p'.Sound
  hosts : p'.hosts = p.hosts
  destroyed : p'.destroyed = p.destroyed
  active : ∀ g, p.mActiveConns g ⊆ p'.mActiveConns g
  mem : c ∈ p'.mActiveConns host
  idle : ∀ g, c ∉ p.mActiveConns g
  alive : c ∉ p.destroyed

/-- What a round of the loop can do. -/
theorem tryGet_cases (sound : p.Sound) (known : host ∈ p.hosts) {address : Option Nat}
    (free : ∀ a ∈ address, p.Free a) :
    (∃ c p', p.tryGet host address = (.got c, p') ∧ HandsOut p host c p') ∨
      (p.tryGet host address = (.thrown, p) ∧ p.HasRoom host) ∨
      p.tryGet host address = (.waits, p) ∧ p.mIdleConns host = [] ∧ ¬ p.HasRoom host := by
  unfold tryGet
  cases front : p.mIdleConns host with
  | cons c idle =>
    obtain ⟨new, clients⟩ := takeIdle_clients sound front
    have here : c ∈ p.clients host := mem_clients.mpr (.inl (front ▸ List.mem_cons_self ..))
    refine .inl ⟨c, _, rfl, ?_⟩
    refine ⟨sound.of_clients clients (Finset.Subset.refl _) ⟨rfl, rfl, rfl, rfl, rfl⟩, rfl, rfl,
      activate_active c host p, mem_activate new, ?_,
      fun gone => (sound.destroyed c gone).2 host here⟩
    intro g mem
    obtain ⟨rfl, -⟩ := sound.eq_of_address here (mem_clients.mpr (.inr mem)) rfl
    exact new (List.mem_map_of_mem mem)
  | nil =>
    dsimp only
    by_cases room : p.HasRoom host
    · rw [if_pos room]
      cases address with
      | none => exact .inr (.inl ⟨rfl, room⟩)
      | some a =>
        have free := free a rfl
        have new := (create_clients sound free host).1
        refine .inl ⟨_, _, rfl, sound.create free known room, rfl, rfl, activate_active _ host p,
          mem_activate new, ?_, ?_⟩
        · intro g mem
          exact Nat.lt_irrefl _ (sound.serial g _ (mem_clients.mpr (.inr mem)))
        · intro gone
          exact Nat.lt_irrefl _ (sound.destroyed _ gone).1
    · rw [if_neg room]
      exact .inr (.inr ⟨rfl, rfl, room⟩)

end ThriftConnectionPool

/-! ## The users -/

namespace PoolUsers

open ThriftConnectionPool

/-- No client is held twice. -/
def Distinct (handles : List ThriftConnection) : Prop :=
  ∀ (i j : Nat) (h h' : ThriftConnection) (c : Client), handles[i]? = some h →
    handles[j]? = some h' → h.holds = some c → h'.holds = some c → i = j

structure Held (s : PoolUsers) : Prop where
  sound : s.pool.Sound
  active : ∀ (i : Nat) h, s.handles[i]? = some h → h.stage = .live → ∀ c, h.mClient = some c →
    h.host ∈ s.pool.hosts ∧ c ∈ s.pool.mActiveConns h.host
  destroying : ∀ (i : Nat) h, s.handles[i]? = some h → h.stage = .destroying → ∀ c,
    h.mClient = some c → c ∈ s.pool.destroyed
  distinct : Distinct s.handles

theorem held_new (maxConn maxConnPerHost : UInt32) : (new maxConn maxConnPerHost).Held where
  sound := sound_new ..
  active _ _ mem := by cases mem
  destroying _ _ mem := by cases mem
  distinct _ _ _ _ _ mem := by cases mem

/-- The accounting of the pool. -/
structure Accounting (s : PoolUsers) : Prop where
  total : s.pool.mTotalConn.toNat =
    ∑ host ∈ s.pool.hosts, ((s.pool.mActiveConns host).length + (s.pool.mIdleConns host).length)
  limit : s.pool.mTotalConn ≤ s.pool.mMaxConn
  perHost : ∀ host, (s.pool.mActiveConns host).length + (s.pool.mIdleConns host).length ≤
    s.pool.mMaxConnPerHost.toNat
  exclusive : ∀ host host' c, c ∈ s.pool.mActiveConns host → c ∉ s.pool.mIdleConns host'
  distinct : Distinct s.handles
  alive : ∀ (i : Nat) h, s.handles[i]? = some h → h.stage = .live → ∀ c, h.mClient = some c →
    c ∉ s.pool.destroyed

theorem Held.accounting {s : PoolUsers} (held : s.Held) : s.Accounting where
  total := by
    rw [held.sound.total]
    exact Finset.sum_congr rfl fun host _ => by rw [card_clients, Nat.add_comm]
  limit := held.sound.limit
  perHost host := by
    rw [Nat.add_comm, ← card_clients]
    exact held.sound.perHost host
  exclusive host host' c active idle := by
    obtain ⟨rfl, -⟩ := held.sound.eq_of_address (mem_clients.mpr (.inr active))
      (mem_clients.mpr (.inl idle)) rfl
    have nodup := held.sound.addresses host
    rw [List.map_append, List.nodup_append] at nodup
    exact nodup.2.2 _ (List.mem_map_of_mem idle) _ (List.mem_map_of_mem active) rfl
  distinct := held.distinct
  alive i h there live c client gone :=
    (held.sound.destroyed c gone).2 _
      (mem_clients.mpr (.inr (held.active i h there live c client).2))

/-- The clients that a step hands out were not destroyed before. -/
def HandsOutAlive (s s' : PoolUsers) : Prop :=
  ∀ h ∈ s'.handles.drop s.handles.length, ∀ c, h.mClient = some c → c ∉ s.pool.destroyed

theorem holds_live {h : ThriftConnection} {c : Client} (live : h.stage = .live) :
    h.holds = some c ↔ h.mClient = some c := by
  rw [ThriftConnection.holds, if_neg (by rw [live]; decide)]

/-- Where the client of a handle is. -/
theorem Held.holds {s : PoolUsers} (held : s.Held) {i : Nat} {h : ThriftConnection} {c : Client}
    (there : s.handles[i]? = some h) (holds : h.holds = some c) :
    c ∈ s.pool.mActiveConns h.host ∨ c ∈ s.pool.destroyed := by
  unfold ThriftConnection.holds at holds
  cases stage : h.stage with
  | live =>
    rw [stage, if_neg (by decide)] at holds
    exact .inl (held.active i h there stage c holds).2
  | destroying =>
    rw [stage, if_neg (by decide)] at holds
    exact .inr (held.destroying i h there stage c holds)
  | gone =>
    rw [stage, if_pos rfl] at holds
    contradiction

/-- The other fields do not matter. -/
theorem Held.of_same {s s' : PoolUsers} (held : s.Held) (pool : s'.pool = s.pool)
    (handles : s'.handles = s.handles) : s'.Held := by
  obtain ⟨sound, active, destroying, distinct⟩ := held
  exact ⟨pool ▸ sound, pool ▸ handles ▸ active, pool ▸ handles ▸ destroying, handles ▸ distinct⟩

/-- A new handle gets its client. -/
theorem Held.handsOut {s s' : PoolUsers} (held : s.Held) {host : Host} {c : Client}
    (known : host ∈ s.pool.hosts) (out : HandsOut s.pool host c s'.pool)
    (handles : s'.handles = s.handles ++ [⟨host, some c, .live⟩]) : s'.Held where
  sound := out.sound
  active i h there live d client := by
    rw [handles] at there
    rw [out.hosts]
    rcases getElem?_concat_cases there with ⟨-, old⟩ | ⟨-, rfl⟩
    · obtain ⟨known, mem⟩ := held.active i h old live d client
      exact ⟨known, out.active _ mem⟩
    · obtain rfl := Option.some.inj client
      exact ⟨known, out.mem⟩
  destroying i h there stage d client := by
    rw [handles] at there
    rw [out.destroyed]
    rcases getElem?_concat_cases there with ⟨-, old⟩ | ⟨-, rfl⟩
    · exact held.destroying i h old stage d client
    · cases stage
  distinct i j h h' d there there' holds holds' := by
    have new : ∀ (i : Nat) h, s.handles[i]? = some h → h.holds ≠ some c := by
      intro i h old holds
      rcases held.holds old holds with active | destroyed
      · exact out.idle _ active
      · exact out.alive destroyed
    rw [handles] at there there'
    rcases getElem?_concat_cases there with ⟨-, old⟩ | ⟨rfl, rfl⟩ <;>
      rcases getElem?_concat_cases there' with ⟨-, old'⟩ | ⟨rfl, rfl⟩
    · exact held.distinct i j h h' d old old' holds holds'
    · cases holds'
      exact absurd holds (new i h old)
    · cases holds
      exact absurd holds' (new j h' old')
    · rfl

/-- A handle that gives its client up, or keeps it. -/
theorem Distinct.set {handles : List ThriftConnection} (distinct : Distinct handles) {i : Nat}
    {h h' : ThriftConnection} (there : handles[i]? = some h)
    (holds : ∀ c, h'.holds = some c → h.holds = some c) : Distinct (handles.set i h') := by
  have before : ∀ (j : Nat) k c, (handles.set i h')[j]? = some k → k.holds = some c →
      ∃ k, handles[j]? = some k ∧ k.holds = some c := by
    intro j k c there' holds'
    rcases getElem?_set_cases there' with ⟨rfl, rfl⟩ | ⟨-, old⟩
    · exact ⟨h, there, holds c holds'⟩
    · exact ⟨k, old, holds'⟩
  intro j j' k k' c there there' holds holds'
  obtain ⟨k, there, holds⟩ := before j k c there holds
  obtain ⟨k', there', holds'⟩ := before j' k' c there' holds'
  exact distinct j j' k k' c there there' holds holds'

/-! ## The steps -/

theorem handsOutAlive_of_length {s s' : PoolUsers} (same : s'.handles.length = s.handles.length) :
    HandsOutAlive s s' := by
  intro h mem
  rw [← same, List.drop_length] at mem
  cases mem

theorem Held.round {s : PoolUsers} (held : s.Held) {host : Host} (known : host ∈ s.pool.hosts)
    {address : Option Nat} (free : s.AddressFree address) (i : Nat) :
    (s.round i host address).Held ∧ HandsOutAlive s (s.round i host address) := by
  unfold PoolUsers.round
  rcases tryGet_cases held.sound known free with ⟨c, p', got, out⟩ | ⟨thrown, -⟩ | ⟨waits, -⟩
  · rw [got]
    refine ⟨held.handsOut known out rfl, ?_⟩
    intro h mem d client
    dsimp only at mem
    rw [List.drop_left] at mem
    rw [List.mem_singleton.mp mem] at client
    obtain rfl := Option.some.inj client
    exact out.alive
  · rw [thrown]
    exact ⟨held.of_same rfl rfl, handsOutAlive_of_length rfl⟩
  · rw [waits]
    exact ⟨held.of_same rfl rfl, handsOutAlive_of_length rfl⟩

theorem Held.called {s : PoolUsers} (held : s.Held) (host : Host) : (s.called host).Held := by
  have pool : (s.called host).pool = { s.pool with hosts := insert host s.pool.hosts } :=
    held.sound.initConnectionMap_eq host
  refine ⟨held.sound.initConnectionMap host, ?_, ?_, held.distinct⟩
  · intro i h there live c client
    obtain ⟨known, mem⟩ := held.active i h there live c client
    rw [pool]
    exact ⟨Finset.mem_insert_of_mem known, mem⟩
  · rw [pool]
    exact held.destroying

/-- Another handle than the one whose client leaves the active ones. -/
theorem Held.active_deactivate {s : PoolUsers} (held : s.Held) {i j : Nat}
    {h k : ThriftConnection} {c d : Client} (there : s.handles[i]? = some h)
    (live : h.stage = .live)
    (client : h.mClient = some c) (there' : s.handles[j]? = some k) (live' : k.stage = .live)
    (client' : k.mClient = some d) (other : j ≠ i) :
    d ∈ (s.pool.deactivate c h.host).mActiveConns k.host := by
  have mem := (held.active i h there live c client).2
  have mem' := (held.active j k there' live' d client').2
  refine mem_deactivate mem' fun here same => other ?_
  have eq := (held.sound.eq_of_address (mem_clients.mpr (.inr mem'))
    (mem_clients.mpr (.inr mem)) same).2
  exact held.distinct j i k h d there' there ((holds_live live').mpr client')
    ((holds_live live).mpr (eq ▸ client))

theorem Held.release {s : PoolUsers} (held : s.Held) {i : Nat} {h : ThriftConnection}
    (there : s.handles[i]? = some h) (live : h.stage = .live) : (s.release i h).Held := by
  have distinct (client : Option Client) : Distinct (s.handles.set i ⟨h.host, client, .gone⟩) :=
    held.distinct.set there fun c holds => by simp [ThriftConnection.holds] at holds
  unfold PoolUsers.release
  cases client : h.mClient with
  | none =>
    refine ⟨held.sound, ?_, ?_, distinct none⟩
    · intro j k there' live' d client'
      rcases getElem?_set_cases there' with ⟨rfl, rfl⟩ | ⟨-, old⟩
      · cases live'
      · exact held.active j k old live' d client'
    · intro j k there' stage d client'
      rcases getElem?_set_cases there' with ⟨rfl, rfl⟩ | ⟨-, old⟩
      · cases stage
      · exact held.destroying j k old stage d client'
  | some c =>
    obtain ⟨known, mem⟩ := held.active i h there live c client
    have clients := giveBack_clients held.sound mem
    dsimp only
    rw [returnConnection, if_pos known]
    refine ⟨held.sound.of_clients clients (Finset.Subset.refl _) ⟨rfl, rfl, rfl, rfl, rfl⟩, ?_, ?_,
      distinct (some c)⟩
    · intro j k there' live' d client'
      rcases getElem?_set_cases there' with ⟨rfl, rfl⟩ | ⟨other, old⟩
      · cases live'
      · exact ⟨(held.active j k old live' d client').1,
          held.active_deactivate there live client old live' client' other⟩
    · intro j k there' stage d client'
      rcases getElem?_set_cases there' with ⟨rfl, rfl⟩ | ⟨-, old⟩
      · cases stage
      · exact held.destroying j k old stage d client'

theorem Held.destroy {s : PoolUsers} (held : s.Held) {i : Nat} {h : ThriftConnection}
    (there : s.handles[i]? = some h) (live : h.stage = .live) : (s.destroy i h).Held := by
  unfold PoolUsers.destroy
  cases client : h.mClient with
  | none => exact held
  | some c =>
    obtain ⟨known, mem⟩ := held.active i h there live c client
    have distinct : Distinct (s.handles.set i ⟨h.host, some c, .destroying⟩) := by
      apply held.distinct.set there
      intro d holds
      rw [holds_live live, client]
      simpa [ThriftConnection.holds] using holds
    have sound := held.sound.destroyConnection known mem
    dsimp only
    rw [destroyConnection, if_pos known] at sound ⊢
    refine ⟨sound, ?_, ?_, distinct⟩
    · intro j k there' live' d client'
      rcases getElem?_set_cases there' with ⟨rfl, rfl⟩ | ⟨other, old⟩
      · cases live'
      · exact ⟨(held.active j k old live' d client').1,
          held.active_deactivate there live client old live' client' other⟩
    · intro j k there' stage d client'
      apply List.mem_append.mpr
      rcases getElem?_set_cases there' with ⟨rfl, rfl⟩ | ⟨-, old⟩
      · obtain rfl := Option.some.inj client'
        exact .inr (List.mem_singleton_self c)
      · exact .inl (held.destroying j k old stage d client')

theorem Held.destroyed {s : PoolUsers} (held : s.Held) {i : Nat} {h : ThriftConnection}
    (there : s.handles[i]? = some h) :
    (s.setHandle i { h with mClient := none, stage := .live }).Held := by
  refine ⟨held.sound, ?_, ?_, ?_⟩
  · intro j k there' live' d client'
    rcases getElem?_set_cases there' with ⟨rfl, rfl⟩ | ⟨-, old⟩
    · cases client'
    · exact held.active j k old live' d client'
  · intro j k there' stage d client'
    rcases getElem?_set_cases there' with ⟨rfl, rfl⟩ | ⟨-, old⟩
    · cases client'
    · exact held.destroying j k old stage d client'
  · exact held.distinct.set there fun c holds => by simp [ThriftConnection.holds] at holds

/-- The maps have an entry for every host a caller is for. -/
def Known (s : PoolUsers) : Prop := ∀ caller ∈ s.callers, caller.host ∈ s.pool.hosts

theorem Known.setCaller {s s' : PoolUsers} (known : s.Known) {i : Nat} {host : Host}
    {stage : CallerStage} (here : host ∈ s.pool.hosts)
    (callers : s'.callers = s.callers.set i ⟨host, stage⟩) (hosts : s'.pool.hosts = s.pool.hosts) :
    s'.Known := by
  intro caller mem
  rw [callers] at mem
  rw [hosts]
  rcases List.mem_or_eq_of_mem_set mem with old | rfl
  · exact known caller old
  · exact here

theorem tryGet_hosts (host : Host) (address : Option Nat) (p : ThriftConnectionPool) :
    (p.tryGet host address).2.hosts = p.hosts := by
  unfold tryGet
  split
  · rfl
  · split
    · split <;> rfl
    · rfl

theorem Known.round {s : PoolUsers} (known : s.Known) {host : Host} (here : host ∈ s.pool.hosts)
    (address : Option Nat) (i : Nat) : (s.round i host address).Known := by
  have hosts := tryGet_hosts host address s.pool
  unfold PoolUsers.round
  split <;> rename_i got <;> rw [got] at hosts <;> exact known.setCaller here rfl hosts

theorem Known.called {s : PoolUsers} (known : s.Known) (host : Host) : (s.called host).Known := by
  have hosts : (s.called host).pool.hosts = insert host s.pool.hosts :=
    hosts_initConnectionMap host s.pool
  intro caller mem
  rw [hosts]
  rcases List.mem_append.mp mem with old | new
  · exact Finset.mem_insert_of_mem (known caller old)
  · rw [List.mem_singleton.mp new]
    exact Finset.mem_insert_self ..

theorem Known.step {s s' : PoolUsers} (known : s.Known) {a : PoolAct} (moved : step s a = some s') :
    s'.Known := by
  have found {i : Nat} {caller : Caller} (there : s.callers[i]? = some caller) :
      caller.host ∈ s.pool.hosts := known caller (List.mem_of_getElem? there)
  cases move_of_step moved with
  | @enter host address =>
    have called := known.called host
    exact called.round (called _ (List.mem_append_right _ (List.mem_singleton_self _))) address _
  | @resume i _ address there => exact known.round (found there) address i
  | expire there | wakeUp there | timeout there => exact known.setCaller (found there) rfl rfl
  | notify =>
    intro caller mem
    obtain ⟨before, old, rfl⟩ := List.mem_map.mp mem
    split <;> exact known before old
  | release =>
    unfold PoolUsers.release returnConnection
    split
    · exact known
    · dsimp only
      split <;> exact known
  | destroy =>
    unfold PoolUsers.destroy destroyConnection
    split
    · exact known
    · dsimp only
      split <;> exact known
  | destroyed => exact known

theorem Held.step {s s' : PoolUsers} (held : s.Held) (known : s.Known) {a : PoolAct}
    (moved : step s a = some s') : s'.Held ∧ HandsOutAlive s s' := by
  cases move_of_step moved with
  | @enter host address _ free =>
    have here : host ∈ (s.called host).pool.hosts := by
      rw [PoolUsers.called, hosts_initConnectionMap]
      exact Finset.mem_insert_self ..
    have free' : (s.called host).AddressFree address := fun a mem =>
      held.sound.free_initConnectionMap (free a mem) host
    obtain ⟨held', out⟩ := (held.called host).round here free' s.callers.length
    refine ⟨held', ?_⟩
    intro h mem c client
    have destroyed : (s.called host).pool.destroyed = s.pool.destroyed := by
      rw [PoolUsers.called, held.sound.initConnectionMap_eq]
    exact destroyed ▸ out h mem c client
  | @resume i _ address there _ _ free =>
    exact held.round (known _ (List.mem_of_getElem? there)) free i
  | expire | wakeUp | timeout => exact ⟨held.of_same rfl rfl, handsOutAlive_of_length rfl⟩
  | notify => exact ⟨held.of_same rfl rfl, handsOutAlive_of_length rfl⟩
  | release there can =>
    refine ⟨held.release there can.1, handsOutAlive_of_length ?_⟩
    unfold PoolUsers.release
    split <;> exact List.length_set ..
  | destroy there can =>
    refine ⟨held.destroy there can.1, handsOutAlive_of_length ?_⟩
    unfold PoolUsers.destroy
    split
    · rfl
    · exact List.length_set ..
  | destroyed there =>
    exact ⟨held.destroyed there, handsOutAlive_of_length (List.length_set ..)⟩

/-- The accounting holds in every state of every run, and no client is handed out that was
destroyed. -/
theorem always_accounting (maxConn maxConnPerHost : UInt32) (acts : List PoolAct) :
    Always step Accounting (new maxConn maxConnPerHost) acts ∧
      EachStep step (fun s _ s' => HandsOutAlive s s') (new maxConn maxConnPerHost) acts := by
  have init : (new maxConn maxConnPerHost).Held ∧ (new maxConn maxConnPerHost).Known :=
    ⟨held_new .., nofun⟩
  have keeps : ∀ s a s', s.Held ∧ s.Known → True → step s a = some s' →
      (s'.Held ∧ s'.Known) ∧ s'.Accounting ∧ HandsOutAlive s s' := by
    rintro s a s' ⟨held, known⟩ - moved
    obtain ⟨held', out⟩ := held.step known moved
    exact ⟨⟨held', known.step moved⟩, held'.accounting, out⟩
  have run := EachStep.of_invariant keeps init (EachStep.trivial _ acts)
  exact ⟨⟨init.1.accounting, run.mono fun _ _ _ both => both.1⟩, run.mono fun _ _ _ both => both.2⟩

end PoolUsers

end NewFramework.Base
