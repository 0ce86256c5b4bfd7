import NewFramework.Lib.Numbered

/-!
# Condition variables that wake one thread

Threads wait on a condition for units of something to become available, an item or a free slot;
whoever makes a unit available signals the condition once.  `Covered` is the invariant under
which no unit is left over while a thread sleeps: either nobody waits, or there are at least as
many threads on their way to the units as there are units.  Each rule below is one kind of move.
-/

namespace NewFramework.Lib

variable {τ : Type*}

/-- Whom a signal wakes: a thread that waits, or nobody where none does. -/
def Signals (waits : τ → Bool) (threads : List τ) : Option Nat → Prop
  | none => ∀ t ∈ threads, waits t = false
  | some j => ∃ t ∈ threads[j]?, waits t = true

instance (waits : τ → Bool) (threads : List τ) : DecidablePred (Signals waits threads)
  | none => inferInstanceAs (Decidable (∀ t ∈ threads, waits t = false))
  | some j => inferInstanceAs (Decidable (∃ t ∈ threads[j]?, waits t = true))

/-- The threads after a signal. -/
def wakeAt (wake : τ → τ) (threads : List τ) : Option Nat → List τ
  | none => threads
  | some j =>
    match threads[j]? with
    | none => threads
    | some t => threads.set j (wake t)

variable {waits ready : τ → Bool} {wake : τ → τ} {threads : List τ} {available i : Nat} {t t' : τ}

variable (waits ready) in
/-- Nobody waits, or the threads on their way suffice for what is available. -/
def Covered (available : Nat) (threads : List τ) : Prop :=
  threads.countP waits = 0 ∨ available ≤ threads.countP ready

/-- Whom a signal wakes does not depend on the threads that do not wait. -/
theorem Signals.set {woken : Option Nat} (signals : Signals waits threads woken)
    (there : threads[i]? = some t) (before : waits t = false) (after : waits t' = false) :
    Signals waits (threads.set i t') woken := by
  cases woken with
  | none =>
    intro x mem
    rcases List.mem_or_eq_of_mem_set mem with old | rfl
    · exact signals x old
    · exact after
  | some j =>
    obtain ⟨x, at_j, waiting⟩ := signals
    have other : i ≠ j := by
      rintro rfl
      obtain rfl : t = x := Option.some.inj (there.symm.trans at_j)
      rw [before] at waiting
      contradiction
    refine ⟨x, ?_, waiting⟩
    rw [List.getElem?_set_ne other]
    exact at_j

/-- Nothing is left for a sleeping thread without a thread on its way. -/
theorem Covered.exists_ready (covered : Covered waits ready available threads)
    (unit : 0 < available) (sleeper : ∃ t ∈ threads, waits t = true) :
    ∃ t ∈ threads, ready t = true := by
  have waiting : 0 < threads.countP waits := List.countP_pos_iff.mpr sleeper
  have going : 0 < threads.countP ready := by
    rcases covered with nobody | enough
    · omega
    · omega
  exact List.countP_pos_iff.mp going

theorem covered_zero : Covered waits ready 0 threads := .inr (Nat.zero_le _)

theorem covered_of_countP_eq_zero (nobody : threads.countP waits = 0) :
    Covered waits ready available threads := .inl nobody

/-- Fewer threads wait and more are on their way. -/
theorem Covered.mono {threads' : List τ} (covered : Covered waits ready available threads)
    (fewer : threads'.countP waits ≤ threads.countP waits)
    (more : threads.countP ready ≤ threads'.countP ready) :
    Covered waits ready available threads' :=
  covered.imp (fun nobody => Nat.eq_zero_of_le_zero (Nat.le_trans fewer (Nat.le_of_eq nobody)))
    fun enough => Nat.le_trans enough more

/-- A thread that moves without starting to wait or leaving its way. -/
theorem Covered.move (covered : Covered waits ready available threads)
    (there : threads[i]? = some t) (waiting : waits t' = true → waits t = true)
    (going : ready t = true → ready t' = true) :
    Covered waits ready available (threads.set i t') := by
  have waits_count := countP_set (y := t') waits there
  have ready_count := countP_set (y := t') ready there
  rcases covered with nobody | enough
  · left
    by_cases now : waits t' = true
    · rw [if_pos now, if_pos (waiting now)] at waits_count
      omega
    · rw [if_neg now] at waits_count
      omega
  · right
    by_cases before : ready t = true
    · rw [if_pos before, if_pos (going before)] at ready_count
      omega
    · rw [if_neg before] at ready_count
      omega

/-- A thread takes a unit and is gone. -/
theorem Covered.consume (covered : Covered waits ready (available + 1) threads)
    (there : threads[i]? = some t) (gone : waits t' = false) :
    Covered waits ready available (threads.set i t') := by
  have waits_count := countP_set (y := t') waits there
  have ready_count := countP_set (y := t') ready there
  simp only [gone, Bool.false_eq_true, if_false] at waits_count
  rcases covered with nobody | enough
  · left
    omega
  · right
    by_cases before : ready t = true
    · rw [if_pos before] at ready_count
      omega
    · rw [if_neg before] at ready_count
      omega

theorem Covered.wakeAt (covered : Covered waits ready available threads)
    (waiting : ∀ t, waits (wake t) = true → waits t = true)
    (going : ∀ t, ready t = true → ready (wake t) = true) (woken : Option Nat) :
    Covered waits ready available (wakeAt wake threads woken) := by
  cases woken with
  | none => exact covered
  | some j =>
    rw [Lib.wakeAt]
    cases there : threads[j]? with
    | none => exact covered
    | some t => exact covered.move there (waiting t) (going t)

/-- A unit becomes available and the condition is signalled. -/
theorem Covered.signal (covered : Covered waits ready available threads) {woken : Option Nat}
    (signals : Signals waits threads woken)
    (wakes : ∀ t, waits t = true → waits (wake t) = false ∧ ready t = false ∧
      ready (wake t) = true) :
    Covered waits ready (available + 1) (Lib.wakeAt wake threads woken) := by
  cases woken with
  | none =>
    apply covered_of_countP_eq_zero
    exact List.countP_eq_zero.mpr fun t mem => by simp [signals t mem]
  | some j =>
    obtain ⟨t, there, waiting⟩ := signals
    obtain ⟨rested, idle, goes⟩ := wakes t waiting
    have there' : threads[j]? = some t := there
    have waits_count := countP_set (y := wake t) waits there'
    have ready_count := countP_set (y := wake t) ready there'
    simp only [waiting, rested, Bool.false_eq_true, if_true, if_false] at waits_count
    simp only [idle, goes, Bool.false_eq_true, if_true, if_false] at ready_count
    simp only [Lib.wakeAt, there']
    rcases covered with nobody | enough
    · left
      omega
    · right
      omega

end NewFramework.Lib
