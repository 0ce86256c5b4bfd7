import NewFramework.Net.TimerQueue

/-!
# `timers_` and `activeTimers_`

In `muduo/net/TimerQueue.cc` a timer that has not been deleted is in both sets, or in neither: then
`addTimerInLoop` is on its way to it, or the batch that expired it has not ended.  `Kept` says so
with a list of the timers in neither set, and each operation moves timers between the sets and that
list.
-/

namespace NewFramework.Net
open NewFramework.Lib

namespace TimerQueue

/-! ## The sets and the heap -/

/-- The two sets agree, and `loose` are the timers that are in neither. -/
structure Kept (s : TimerQueue) (loose : List Nat) : Prop where
  keyed : ∀ e ∈ s.timers, ∃ t, s.heap e.timer = some t ∧ t.expiration = e.expiration ∧
    ⟨e.timer, t.sequence⟩ ∈ s.activeTimers
  listed : ∀ p ∈ s.activeTimers, ∃ t, s.heap p.timer = some t ∧ t.sequence = p.sequence ∧
    ⟨t.expiration, p.timer⟩ ∈ s.timers
  absent : ∀ a ∈ loose, ∃ t, s.heap a = some t ∧ ⟨t.expiration, a⟩ ∉ s.timers
  distinct : loose.Nodup
  covered : ∀ a t, s.heap a = some t → a ∈ loose ∨ ⟨t.expiration, a⟩ ∈ s.timers

/-- What is kept for the addresses and the sequence numbers. -/
structure Numbered (s : TimerQueue) : Prop where
  address : ∀ a t, s.heap a = some t → a < uintptrMax
  le : ∀ a t, s.heap a = some t → t.sequence ≤ s.numCreated
  unique : ∀ a t b u, s.heap a = some t → s.heap b = some u → t.sequence = u.sequence → a = b
  gone : ∀ q ∈ s.deleted, q ≤ s.numCreated ∧ ∀ a t, s.heap a = some t → t.sequence ≠ q
  once : s.deleted.Nodup

variable {s : TimerQueue} {loose : List Nat}

theorem Kept.perm {loose' : List Nat} (kept : s.Kept loose) (perm : loose.Perm loose') :
    s.Kept loose' where
  keyed := kept.keyed
  listed := kept.listed
  absent a mem := kept.absent a (perm.mem_iff.mpr mem)
  distinct := perm.nodup_iff.mp kept.distinct
  covered a t live := (kept.covered a t live).imp perm.mem_iff.mp id

/-- Both sets hold the timers that are not loose, so they have the same size. -/
theorem Kept.size_eq (kept : s.Kept loose) : s.timers.size = s.activeTimers.size := by
  apply SortedSet.size_eq_of_map
    fun e : Entry => ⟨e.timer, ((s.heap e.timer).map Timer.sequence).getD 0⟩
  · intro e mem e' mem' same
    obtain ⟨t, live, expiration, -⟩ := kept.keyed e mem
    obtain ⟨t', live', expiration', -⟩ := kept.keyed e' mem'
    have timer : e.timer = e'.timer := congrArg ActiveTimer.timer same
    obtain rfl : t = t' := Option.some.inj (by rw [← live, ← live', timer])
    cases e
    cases e'
    simp_all
  · intro p
    constructor
    · intro mem
      obtain ⟨t, live, sequence, there⟩ := kept.listed p mem
      refine ⟨_, there, ?_⟩
      simp [live, sequence]
    · rintro ⟨e, mem, rfl⟩
      obtain ⟨t, live, -, active⟩ := kept.keyed e mem
      simpa [live] using active

/-- A timer that is in `activeTimers_` is not loose. -/
theorem Kept.not_loose {a : Nat} {t : Timer} (kept : s.Kept (a :: loose))
    (live : s.heap a = some t) : (⟨t.expiration, a⟩ : Entry) ∉ s.timers ∧
      (⟨a, t.sequence⟩ : ActiveTimer) ∉ s.activeTimers := by
  obtain ⟨t', live', absent⟩ := kept.absent a (List.mem_cons_self ..)
  obtain rfl : t = t' := Option.some.inj (live.symm.trans live')
  refine ⟨absent, ?_⟩
  intro active
  obtain ⟨t', live', -, there⟩ := kept.listed _ active
  obtain rfl : t = t' := Option.some.inj (live.symm.trans live')
  exact absent there

@[simp] theorem assert_pos {p : Prop} [Decidable p] (holds : p) (s : TimerQueue) :
    s.assert p = s :=
  if_pos holds

theorem deref_some {a : Nat} {t : Timer} (live : s.heap a = some t)
    (use : Timer → TimerQueue → TimerQueue) : s.deref a use = use t s := by
  simp only [deref, live]

/-! ## `insert` -/

/-- A timer enters both sets. -/
def put (a : Nat) (t : Timer) (s : TimerQueue) : TimerQueue :=
  { s with
    timers := s.timers.insert ⟨t.expiration, a⟩
    activeTimers := s.activeTimers.insert ⟨a, t.sequence⟩ }

theorem Kept.put {a : Nat} {t : Timer} (kept : s.Kept (a :: loose)) (live : s.heap a = some t) :
    (s.put a t).Kept loose where
  keyed e mem := by
    rcases SortedSet.mem_insert.mp mem with rfl | old
    · exact ⟨t, live, rfl, SortedSet.mem_insert.mpr (.inl rfl)⟩
    · obtain ⟨u, live', expiration, active⟩ := kept.keyed e old
      exact ⟨u, live', expiration, SortedSet.mem_insert.mpr (.inr active)⟩
  listed p mem := by
    rcases SortedSet.mem_insert.mp mem with rfl | old
    · exact ⟨t, live, rfl, SortedSet.mem_insert.mpr (.inl rfl)⟩
    · obtain ⟨u, live', sequence, there⟩ := kept.listed p old
      exact ⟨u, live', sequence, SortedSet.mem_insert.mpr (.inr there)⟩
  absent b mem := by
    obtain ⟨u, live', absent⟩ := kept.absent b (List.mem_cons_of_mem _ mem)
    refine ⟨u, live', ?_⟩
    intro there
    rcases SortedSet.mem_insert.mp there with same | old
    · have : b = a := congrArg Entry.timer same
      exact (List.nodup_cons.mp kept.distinct).1 (this ▸ mem)
    · exact absent old
  distinct := (List.nodup_cons.mp kept.distinct).2
  covered b u live' := by
    rcases kept.covered b u live' with mem | there
    · rcases List.mem_cons.mp mem with rfl | mem
      · obtain rfl : t = u := Option.some.inj (live.symm.trans live')
        exact .inr (SortedSet.mem_insert.mpr (.inl rfl))
      · exact .inl mem
    · exact .inr (SortedSet.mem_insert.mpr (.inr there))

/-- `insert` of a loose timer passes its assertions. -/
theorem Kept.insert {a : Nat} {t : Timer} (kept : s.Kept (a :: loose))
    (live : s.heap a = some t) : s.insert a = s.put a t := by
  obtain ⟨absent, inactive⟩ := kept.not_loose live
  have size := (kept.put live).size_eq
  rw [TimerQueue.insert, deref_some live]
  simp only [assert_pos kept.size_eq, assert_pos absent]
  rw [assert_pos inactive]
  exact assert_pos size _

/-! ## Deletion -/

/-- A timer is deleted. -/
def free (a : Nat) (t : Timer) (s : TimerQueue) : TimerQueue :=
  { s with heap := Function.update s.heap a none, deleted := s.deleted ++ [t.sequence] }

theorem delete_eq {a : Nat} {t : Timer} (live : s.heap a = some t) : s.delete a = s.free a t :=
  deref_some live _

theorem free_heap {a b : Nat} {t u : Timer} :
    (s.free a t).heap b = some u ↔ b ≠ a ∧ s.heap b = some u := by
  by_cases same : b = a
  · subst same
    simp [free]
  · simp [free, same]

theorem Numbered.free {a : Nat} {t : Timer} (numbered : s.Numbered) (live : s.heap a = some t) :
    (s.free a t).Numbered where
  address b u live' := numbered.address b u (free_heap.mp live').2
  le b u live' := numbered.le b u (free_heap.mp live').2
  unique b u c v live' live'' :=
    numbered.unique b u c v (free_heap.mp live').2 (free_heap.mp live'').2
  gone q mem := by
    rcases List.mem_append.mp mem with old | new
    · exact ⟨(numbered.gone q old).1, fun b u live' =>
        (numbered.gone q old).2 b u (free_heap.mp live').2⟩
    · obtain rfl := List.mem_singleton.mp new
      refine ⟨numbered.le a t live, ?_⟩
      intro b u live' same
      obtain ⟨other, live'⟩ := free_heap.mp live'
      exact other (numbered.unique b u a t live' live same)
  once := by
    refine List.nodup_append.mpr ⟨numbered.once, List.nodup_singleton _, ?_⟩
    intro q mem q' new same
    obtain rfl := List.mem_singleton.mp new
    exact (numbered.gone q mem).2 a t live same.symm

/-- A loose timer is deleted. -/
theorem Kept.free {a : Nat} (kept : s.Kept (a :: loose)) (t : Timer) :
    (s.free a t).Kept loose where
  keyed e mem := by
    obtain ⟨u, live', expiration, active⟩ := kept.keyed e mem
    refine ⟨u, free_heap.mpr ⟨?_, live'⟩, expiration, active⟩
    intro same
    have there : (⟨u.expiration, e.timer⟩ : Entry) ∈ s.timers := by
      rw [expiration]
      exact mem
    rw [same] at live' there
    exact (kept.not_loose live').1 there
  listed p mem := by
    obtain ⟨u, live', sequence, there⟩ := kept.listed p mem
    refine ⟨u, free_heap.mpr ⟨?_, live'⟩, sequence, there⟩
    intro same
    rw [same] at live' there
    exact (kept.not_loose live').1 there
  absent b mem := by
    obtain ⟨u, live', absent⟩ := kept.absent b (List.mem_cons_of_mem _ mem)
    refine ⟨u, free_heap.mpr ⟨?_, live'⟩, absent⟩
    intro same
    exact (List.nodup_cons.mp kept.distinct).1 (same ▸ mem)
  distinct := (List.nodup_cons.mp kept.distinct).2
  covered b u live' := by
    obtain ⟨other, live'⟩ := free_heap.mp live'
    rcases kept.covered b u live' with mem | there
    · exact .inl ((List.mem_cons.mp mem).resolve_left other)
    · exact .inr there

/-! ## `cancelInLoop` -/

/-- A timer leaves both sets. -/
def drop (a : Nat) (t : Timer) (s : TimerQueue) : TimerQueue :=
  { s with
    timers := s.timers.erase ⟨t.expiration, a⟩
    activeTimers := s.activeTimers.erase ⟨a, t.sequence⟩ }

theorem Kept.drop {a : Nat} {t : Timer} (kept : s.Kept loose) (live : s.heap a = some t)
    (there : (⟨t.expiration, a⟩ : Entry) ∈ s.timers) : (s.drop a t).Kept (a :: loose) where
  keyed e mem := by
    obtain ⟨other, mem⟩ := SortedSet.mem_erase.mp mem
    obtain ⟨u, live', expiration, active⟩ := kept.keyed e mem
    refine ⟨u, live', expiration, SortedSet.mem_erase.mpr ⟨fun same => other ?_, active⟩⟩
    have timer : e.timer = a := congrArg ActiveTimer.timer same
    subst timer
    obtain rfl : t = u := Option.some.inj (live.symm.trans live')
    rw [expiration]
  listed p mem := by
    obtain ⟨other, mem⟩ := SortedSet.mem_erase.mp mem
    obtain ⟨u, live', sequence, entry⟩ := kept.listed p mem
    refine ⟨u, live', sequence, SortedSet.mem_erase.mpr ⟨fun same => other ?_, entry⟩⟩
    have timer : p.timer = a := congrArg Entry.timer same
    subst timer
    obtain rfl : t = u := Option.some.inj (live.symm.trans live')
    rw [sequence]
  absent b mem := by
    rcases List.mem_cons.mp mem with rfl | mem
    · exact ⟨t, live, fun there => (SortedSet.mem_erase.mp there).1 rfl⟩
    · obtain ⟨u, live', absent⟩ := kept.absent b mem
      exact ⟨u, live', fun there => absent (SortedSet.mem_erase.mp there).2⟩
  distinct := by
    refine List.nodup_cons.mpr ⟨?_, kept.distinct⟩
    intro mem
    obtain ⟨u, live', absent⟩ := kept.absent a mem
    obtain rfl : t = u := Option.some.inj (live.symm.trans live')
    exact absent there
  covered b u live' := by
    rcases kept.covered b u live' with mem | entry
    · exact .inl (List.mem_cons_of_mem _ mem)
    · by_cases same : b = a
      · exact .inl (same ▸ List.mem_cons_self ..)
      · exact .inr (SortedSet.mem_erase.mpr ⟨fun eq => same (congrArg Entry.timer eq), entry⟩)

/-- `cancelInLoop` of a timer in the sets passes its assertions. -/
theorem Kept.cancel_active {timerId : TimerId} {t : Timer} (kept : s.Kept loose)
    (active : timerId ∈ s.activeTimers) (live : s.heap timerId.timer = some t)
    (sequence : t.sequence = timerId.sequence)
    (there : (⟨t.expiration, timerId.timer⟩ : Entry) ∈ s.timers) :
    s.cancelInLoop timerId = (s.drop timerId.timer t).free timerId.timer t := by
  have size := ((kept.drop live there).free t).size_eq
  obtain ⟨a, q⟩ := timerId
  obtain rfl : t.sequence = q := sequence
  simp only [cancelInLoop, assert_pos kept.size_eq, if_pos active, deref_some live,
    assert_pos there]
  rw [delete_eq (s := { s with timers := s.timers.erase ⟨t.expiration, a⟩ }) live]
  exact assert_pos size _

/-- `cancelInLoop` of any other one notes it if a callback runs. -/
theorem Kept.cancel_inactive {timerId : TimerId} (kept : s.Kept loose)
    (inactive : timerId ∉ s.activeTimers) :
    s.cancelInLoop timerId =
      if s.callingExpiredTimers then
        { s with cancelingTimers := s.cancelingTimers.insert timerId }
      else s := by
  simp only [cancelInLoop, assert_pos kept.size_eq, if_neg inactive]
  split
  · exact assert_pos kept.size_eq _
  · exact assert_pos kept.size_eq _

/-! ## `getExpired` -/

theorem foldl_eraseActive : ∀ (l : List Entry) (s : TimerQueue),
    (∀ e ∈ l, ∃ t, s.heap e.timer = some t ∧ ⟨e.timer, t.sequence⟩ ∈ s.activeTimers) →
    (l.map Entry.timer).Nodup →
    (∀ p ∈ s.activeTimers, ∃ t, s.heap p.timer = some t ∧ t.sequence = p.sequence) →
    ∃ active, l.foldl eraseActive s = { s with activeTimers := active } ∧
      ∀ p, p ∈ active ↔ p ∈ s.activeTimers ∧ p.timer ∉ l.map Entry.timer := by
  intro l
  induction l with
  | nil =>
    intro s _ _ _
    exact ⟨s.activeTimers, rfl, by simp⟩
  | cons e l ih =>
    intro s there distinct numbered
    obtain ⟨first, distinct⟩ := List.nodup_cons.mp distinct
    obtain ⟨t, live, active⟩ := there e (List.mem_cons_self ..)
    have erased : s.eraseActive e =
        { s with activeTimers := s.activeTimers.erase ⟨e.timer, t.sequence⟩ } := by
      simp only [eraseActive, deref_some live, assert_pos active]
    obtain ⟨active', eq, mem_iff⟩ := ih (s.eraseActive e)
      (by
        intro d mem
        obtain ⟨u, live', active'⟩ := there d (List.mem_cons_of_mem _ mem)
        rw [erased]
        refine ⟨u, live', SortedSet.mem_erase.mpr ⟨fun same => first ?_, active'⟩⟩
        exact List.mem_map.mpr ⟨d, mem, congrArg ActiveTimer.timer same⟩)
      distinct
      (by
        rw [erased]
        intro p mem
        exact numbered p (SortedSet.mem_erase.mp mem).2)
    refine ⟨active', ?_, ?_⟩
    · rw [List.foldl_cons, eq, erased]
    · intro p
      rw [mem_iff, erased, SortedSet.mem_erase, List.map_cons, List.mem_cons, not_or]
      constructor
      · rintro ⟨⟨other, mem⟩, later⟩
        refine ⟨mem, fun same => other ?_, later⟩
        obtain ⟨u, live', sequence⟩ := numbered p mem
        rw [same, live] at live'
        obtain rfl := Option.some.inj live'
        cases p
        simp_all
      · rintro ⟨mem, other, later⟩
        exact ⟨⟨fun same => other (congrArg ActiveTimer.timer same), mem⟩, later⟩

theorem Kept.timers_distinct (kept : s.Kept loose) {l : List Entry} (sub : ∀ e ∈ l, e ∈ s.timers)
    (sorted : l.Pairwise (· < ·)) : (l.map Entry.timer).Nodup := by
  apply (List.nodup_map_iff_inj_on (sorted.imp ne_of_lt)).mpr
  intro e mem e' mem' same
  obtain ⟨t, live, expiration, -⟩ := kept.keyed e (sub e mem)
  obtain ⟨t', live', expiration', -⟩ := kept.keyed e' (sub e' mem')
  rw [same, live'] at live
  obtain rfl := Option.some.inj live
  cases e
  cases e'
  simp_all

/-- The timers that `getExpired(now)` takes are those that have expired. -/
theorem mem_expired (numbered : s.Numbered) (kept : s.Kept loose) {now : Int} {e : Entry} :
    e ∈ s.expired now ↔ e ∈ s.timers ∧ e.expiration ≤ now := by
  rw [expired, SortedSet.mem_below, Entry.lt_iff]
  apply and_congr_right
  intro mem
  obtain ⟨t, live, -, -⟩ := kept.keyed e mem
  have address := numbered.address _ t live
  dsimp only
  omega

theorem mem_left (numbered : s.Numbered) (kept : s.Kept loose) {now : Int} {e : Entry} :
    e ∈ s.timers.eraseBelow ⟨now, uintptrMax⟩ ↔ e ∈ s.timers ∧ now < e.expiration := by
  rw [SortedSet.mem_eraseBelow, ← not_lt, Entry.lt_iff]
  apply and_congr_right
  intro mem
  obtain ⟨t, live, -, -⟩ := kept.keyed e mem
  have address := numbered.address _ t live
  dsimp only
  omega

/-- `getExpired` passes its assertions and makes the timers it takes loose. -/
theorem Kept.getExpired (numbered : s.Numbered) (kept : s.Kept loose) (now : Int) :
    ∃ active, s.getExpired now =
      { s with timers := s.timers.eraseBelow ⟨now, uintptrMax⟩, activeTimers := active } ∧
      (s.getExpired now).Kept (loose ++ (s.expired now).map Entry.timer) := by
  have sub : ∀ e ∈ s.expired now, e ∈ s.timers := fun e mem =>
    ((mem_expired numbered kept).mp mem).1
  have distinct := kept.timers_distinct sub (SortedSet.below_sorted _ _)
  obtain ⟨active, eq, mem_iff⟩ := foldl_eraseActive (s.expired now)
    { s with timers := s.timers.eraseBelow ⟨now, uintptrMax⟩ }
    (by
      intro e mem
      obtain ⟨t, live, -, active⟩ := kept.keyed e (sub e mem)
      exact ⟨t, live, active⟩)
    distinct
    (by
      intro p mem
      obtain ⟨t, live, sequence, -⟩ := kept.listed p mem
      exact ⟨t, live, sequence⟩)
  have timer_iff {t : Timer} {a : Nat} (live : s.heap a = some t)
      (there : (⟨t.expiration, a⟩ : Entry) ∈ s.timers) :
      a ∈ (s.expired now).map Entry.timer ↔ t.expiration ≤ now := by
    constructor
    · intro mem
      obtain ⟨e, mem, same⟩ := List.mem_map.mp mem
      obtain ⟨u, live', expiration, -⟩ := kept.keyed e (sub e mem)
      rw [same, live] at live'
      obtain rfl := Option.some.inj live'
      rw [expiration]
      exact ((mem_expired numbered kept).mp mem).2
    · intro le
      exact List.mem_map.mpr ⟨_, (mem_expired numbered kept).mpr ⟨there, le⟩, rfl⟩
  have kept' : ({ s with
      timers := s.timers.eraseBelow ⟨now, uintptrMax⟩
      activeTimers := active } : TimerQueue).Kept
        (loose ++ (s.expired now).map Entry.timer) := {
    keyed := fun e mem => by
      obtain ⟨mem, later⟩ := (mem_left numbered kept).mp mem
      obtain ⟨t, live, expiration, there⟩ := kept.keyed e mem
      refine ⟨t, live, expiration, (mem_iff _).mpr ⟨there, ?_⟩⟩
      intro taken
      have := (timer_iff live (by rw [expiration]; exact mem)).mp taken
      omega
    listed := fun p mem => by
      obtain ⟨mem, later⟩ := (mem_iff p).mp mem
      obtain ⟨t, live, sequence, there⟩ := kept.listed p mem
      refine ⟨t, live, sequence, (mem_left numbered kept).mpr ⟨there, ?_⟩⟩
      exact Int.not_le.mp (mt (timer_iff live there).mpr later)
    absent := fun a mem => by
      rcases List.mem_append.mp mem with old | taken
      · obtain ⟨t, live, absent⟩ := kept.absent a old
        exact ⟨t, live, fun there => absent ((mem_left numbered kept).mp there).1⟩
      · obtain ⟨e, early, rfl⟩ := List.mem_map.mp taken
        obtain ⟨t, live, expiration, -⟩ := kept.keyed e (sub e early)
        refine ⟨t, live, ?_⟩
        intro there
        have later := ((mem_left numbered kept).mp there).2
        rw [expiration] at later
        exact absurd ((mem_expired numbered kept).mp early).2 (Int.not_le.mpr later)
    distinct := by
      refine List.nodup_append.mpr ⟨kept.distinct, distinct, ?_⟩
      rintro a old b taken rfl
      obtain ⟨t, live, absent⟩ := kept.absent a old
      obtain ⟨e, mem, rfl⟩ := List.mem_map.mp taken
      obtain ⟨u, live', expiration, -⟩ := kept.keyed e (sub e mem)
      obtain rfl : t = u := Option.some.inj (live.symm.trans live')
      rw [expiration] at absent
      exact absent (sub e mem)
    covered := fun a t live => by
      rcases kept.covered a t live with old | there
      · exact .inl (List.mem_append_left _ old)
      · by_cases le : t.expiration ≤ now
        · exact .inl (List.mem_append_right _ ((timer_iff live there).mpr le))
        · exact .inr ((mem_left numbered kept).mpr ⟨there, Int.not_le.mp le⟩) }
  have first : ∀ e ∈ (s.timers.eraseBelow ⟨now, uintptrMax⟩).begin?, now < e.expiration :=
    fun e mem => ((mem_left numbered kept).mp (SortedSet.begin?_mem mem)).2
  have whole : s.getExpired now =
      { s with timers := s.timers.eraseBelow ⟨now, uintptrMax⟩, activeTimers := active } := by
    rw [TimerQueue.getExpired]
    simp only [assert_pos kept.size_eq, assert_pos first]
    rw [eq]
    exact assert_pos kept'.size_eq _
  exact ⟨active, whole, whole ▸ kept'⟩

/-! ## `reset` -/

theorem Kept.no_entry {a : Nat} (kept : s.Kept (a :: loose)) {e : Entry} (mem : e ∈ s.timers) :
    e.timer ≠ a := by
  rintro rfl
  obtain ⟨t, live, expiration, -⟩ := kept.keyed e mem
  have absent := (kept.not_loose live).1
  rw [expiration] at absent
  exact absent mem

/-- A loose timer is restarted. -/
theorem Kept.restart {a : Nat} (kept : s.Kept (a :: loose)) (t : Timer) :
    ({ s with heap := Function.update s.heap a (some t) } : TimerQueue).Kept (a :: loose) where
  keyed e mem := by
    obtain ⟨u, live, rest⟩ := kept.keyed e mem
    exact ⟨u, (Function.update_of_ne (kept.no_entry mem) ..).trans live, rest⟩
  listed p mem := by
    obtain ⟨u, live, sequence, there⟩ := kept.listed p mem
    exact ⟨u, (Function.update_of_ne (kept.no_entry there) ..).trans live, sequence, there⟩
  absent b mem := by
    by_cases same : b = a
    · subst same
      exact ⟨t, Function.update_self .., fun there => kept.no_entry there rfl⟩
    · obtain ⟨u, live, absent⟩ := kept.absent b mem
      exact ⟨u, (Function.update_of_ne same ..).trans live, absent⟩
  distinct := kept.distinct
  covered b u live := by
    by_cases same : b = a
    · exact .inl (same ▸ List.mem_cons_self ..)
    · exact kept.covered b u ((Function.update_of_ne same ..).symm.trans live)

theorem Numbered.restart {a : Nat} {t : Timer} (numbered : s.Numbered) (live : s.heap a = some t)
    {t' : Timer} (sequence : t'.sequence = t.sequence) :
    ({ s with heap := Function.update s.heap a (some t') } : TimerQueue).Numbered := by
  have old {b : Nat} {u : Timer} (live' : Function.update s.heap a (some t') b = some u) :
      ∃ u', s.heap b = some u' ∧ u'.sequence = u.sequence := by
    by_cases same : b = a
    · subst same
      rw [Function.update_self] at live'
      obtain rfl := Option.some.inj live'
      exact ⟨t, live, sequence.symm⟩
    · exact ⟨u, (Function.update_of_ne same ..).symm.trans live', rfl⟩
  refine ⟨?_, ?_, ?_, fun q mem => ⟨(numbered.gone q mem).1, ?_⟩, numbered.once⟩
  · intro b u live'
    obtain ⟨u', live', -⟩ := old live'
    exact numbered.address b u' live'
  · intro b u live'
    obtain ⟨u', live', same⟩ := old live'
    exact same ▸ numbered.le b u' live'
  · intro b u c v live' live'' same
    obtain ⟨u', live', eq⟩ := old live'
    obtain ⟨v', live'', eq'⟩ := old live''
    exact numbered.unique b u' c v' live' live'' (by rw [eq, eq', same])
  · intro b u live'
    obtain ⟨u', live', same⟩ := old live'
    exact same ▸ (numbered.gone q mem).2 b u' live'

theorem restart_sequence (now : Int) (t : Timer) : (t.restart now).sequence = t.sequence := by
  unfold Timer.restart
  split <;> rfl

theorem restart_repeats (now : Int) (t : Timer) : (t.restart now).repeats = t.repeats := by
  unfold Timer.restart
  split <;> rfl

/-- What the loop of `reset` does to the timers of `l`, which are loose before. -/
structure Resets (now : Int) (l : List Entry) (loose : List Nat) (s s' : TimerQueue) : Prop where
  frame : s' = { s with
    heap := s'.heap
    timers := s'.timers
    activeTimers := s'.activeTimers
    deleted := s'.deleted }
  kept : s'.Kept loose
  numbered : s'.Numbered
  heap : ∀ a t', s'.heap a = some t' →
    a ∉ l.map Entry.timer ∧ s.heap a = some t' ∨
    ∃ t, s.heap a = some t ∧ t.repeats = true ∧ ⟨a, t.sequence⟩ ∉ s.cancelingTimers ∧
      t' = t.restart now
  old : ∀ e ∈ s.timers, e ∈ s'.timers
  new : ∀ e ∈ s'.timers, e ∈ s.timers ∨ e.timer ∈ l.map Entry.timer

/-- One turn of the loop. -/
theorem Kept.resetTimer {e : Entry} (numbered : s.Numbered) (kept : s.Kept (e.timer :: loose))
    (now : Int) : Resets now [e] loose s (s.resetTimer now e) := by
  obtain ⟨t, live, -⟩ := kept.absent e.timer (List.mem_cons_self ..)
  rw [TimerQueue.resetTimer, deref_some live]
  split
  · next again =>
    have kept' := kept.restart (t.restart now)
    have numbered' := numbered.restart live (restart_sequence now t)
    rw [kept'.insert (Function.update_self ..)]
    refine ⟨rfl, kept'.put (Function.update_self ..), { numbered' with }, ?_,
      fun d mem => SortedSet.mem_insert.mpr (.inr mem), ?_⟩
    · intro a t' live'
      by_cases same : a = e.timer
      · subst same
        refine .inr ⟨t, live, again.1, again.2, ?_⟩
        have here : Function.update s.heap e.timer (some (t.restart now)) e.timer = some t' :=
          live'
        rw [Function.update_self] at here
        exact (Option.some.inj here).symm
      · refine .inl ⟨by simpa using same, ?_⟩
        exact (Function.update_of_ne same ..).symm.trans live'
    · intro d mem
      rcases SortedSet.mem_insert.mp mem with rfl | mem
      · exact .inr (List.mem_singleton.mpr rfl)
      · exact .inl mem
  · rw [delete_eq live]
    refine ⟨rfl, kept.free t, numbered.free live, ?_, fun _ mem => mem, fun _ mem => .inl mem⟩
    intro a t' live'
    obtain ⟨other, live'⟩ := free_heap.mp live'
    exact .inl ⟨by simpa using other, live'⟩

theorem Kept.foldl_resetTimer (now : Int) : ∀ (l : List Entry) (s : TimerQueue), s.Numbered →
    s.Kept (l.map Entry.timer ++ loose) →
      Resets now l loose s (l.foldl (TimerQueue.resetTimer now) s) := by
  intro l
  induction l with
  | nil =>
    intro s numbered kept
    exact ⟨rfl, kept, numbered, fun a t' live => .inl ⟨List.not_mem_nil, live⟩, fun _ mem => mem,
      fun _ mem => .inl mem⟩
  | cons e l ih =>
    intro s numbered kept
    have first := kept.resetTimer numbered now
    have later := ih _ first.numbered first.kept
    rw [List.foldl_cons]
    refine ⟨?_, later.kept, later.numbered, ?_, fun d mem => later.old d (first.old d mem), ?_⟩
    · rw [later.frame, first.frame]
    · intro a t' live
      have canceling : (s.resetTimer now e).cancelingTimers = s.cancelingTimers := by
        rw [first.frame]
      have taken (mem : a ∈ l.map Entry.timer) : a ≠ e.timer := by
        rintro rfl
        exact (List.nodup_cons.mp kept.distinct).1 (List.mem_append_left _ mem)
      rcases later.heap a t' live with ⟨absent, between⟩ | ⟨t, between, again, here, rfl⟩
      · rcases first.heap a t' between with ⟨other, before⟩ | found
        · refine .inl ⟨?_, before⟩
          rw [List.map_cons, List.mem_cons, not_or]
          exact ⟨by simpa using other, absent⟩
        · exact .inr found
      · rw [canceling] at here
        rcases first.heap a t between with ⟨-, before⟩ | ⟨u, before, twice, there, rfl⟩
        · exact .inr ⟨t, before, again, here, rfl⟩
        · refine .inr ⟨u, before, twice, there, ?_⟩
          simp [Timer.restart, twice]
    · intro d mem
      rcases later.new d mem with mem | there
      · exact (first.new d mem).imp id fun there => by
          rw [List.map_cons]
          exact List.mem_cons.mpr (.inl (List.mem_singleton.mp there))
      · exact .inr (List.mem_cons_of_mem _ there)

end TimerQueue
end NewFramework.Net
