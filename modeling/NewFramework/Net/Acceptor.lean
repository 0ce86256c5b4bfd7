import NewFramework.Lib.Descriptors
import NewFramework.Lib.Run

/-!
# `Acceptor::handleRead`

This is `muduo/net/Acceptor.cc`, with `sockets::accept` of `muduo/net/SocketsOps.cc`.  Where the
process has no descriptor left, `accept` fails with `EMFILE` and the connection stays in the queue
of the listening socket, which stays readable.  The acceptor keeps a descriptor on `/dev/null` for
that: it closes it, accepts, closes the connection and opens `/dev/null` once more.  The other
descriptors of the process are opened and closed in other threads, between any two of these calls.
The file may not open though a descriptor is free, and an error that `sockets::accept` does not
expect ends the process.
-/

namespace NewFramework.Net
open NewFramework.Lib

/-- What `accept` finds besides the queue and the table. -/
inductive KernelAccept where
  | connection
  /-- `EINTR` and the like -/
  | interrupted
  /-- `ECONNABORTED`, for the first connection -/
  | aborted
  /-- `ENFILE`, `ENOBUFS`, `ENOMEM` and what else is not expected -/
  | unexpected
  deriving DecidableEq

/-- Whose a descriptor is. -/
inductive FdHolder where
  | acceptor
  | other
  deriving DecidableEq

/-- Where `handleRead` is. -/
inductive Acceptor.Stage where
  | idle
  /-- before `::close(idleFd_)` -/
  | closing
  /-- before `::accept` -/
  | accepting
  /-- before the second `::close(idleFd_)` -/
  | refusing
  /-- before `::open("/dev/null")` -/
  | opening
  /-- `LOG_FATAL` has ended the process -/
  | ended
  deriving DecidableEq

structure Acceptor where
  fds : List (Option FdHolder)
  /-- `idleFd_`, where -1 is `none` -/
  idleFd : Option Nat
  stage : Acceptor.Stage
  /-- `newConnectionCallback_` is set -/
  callback : Bool
  /-- the connections in the queue, and what became of the others -/
  pending : Nat
  handedOver : Nat
  refused : Nat
  aborted : Nat
  arrived : Nat

namespace Acceptor

/-- The constructor, which asserts that `open` succeeds. -/
def new (fds : List (Option FdHolder)) (callback : Bool) : Option Acceptor :=
  (lowestFree fds).map fun fd =>
    ⟨fds.set fd (some .acceptor), some fd, .idle, callback, 0, 0, 0, 0, 0⟩

/-- A connection leaves the queue, and has this descriptor. -/
def accepted (s : Acceptor) (fd : Nat) (holder : FdHolder) : Acceptor :=
  { s with pending := s.pending - 1, fds := s.fds.set fd (some holder) }

/-- The first connection of the queue is gone. -/
def abort (s : Acceptor) : Acceptor :=
  { s with pending := s.pending - 1, aborted := s.aborted + 1 }

/-- `newConnectionCallback_(connfd, peerAddr)`, or `close(connfd)`. -/
def newConnection (s : Acceptor) (connfd : Nat) : Acceptor :=
  if s.callback then { s.accepted connfd .other with handedOver := s.handedOver + 1 }
  else { s with pending := s.pending - 1, refused := s.refused + 1 }

/-- `handleRead` up to the test of `errno`, which is what it was unless the log has changed it.
The kernel looks for a descriptor first, for memory then, and last into the queue. -/
def handleRead (s : Acceptor) (k : KernelAccept) (errnoKept : Bool) : Acceptor :=
  match lowestFree s.fds with
  | none => if errnoKept then { s with stage := .closing } else s
  | some connfd =>
    if k = .unexpected then { s with stage := .ended }
    else if s.pending = 0 then s
    else
      match k with
      | .connection => s.newConnection connfd
      | .aborted => s.abort
      | .interrupted | .unexpected => s

/-- `idleFd_ = ::accept(acceptSocket_.fd(), NULL, NULL)` -/
def acceptAgain (s : Acceptor) (k : KernelAccept) : Acceptor :=
  let s := { s with stage := .refusing }
  match lowestFree s.fds with
  | none => { s with idleFd := none }
  | some fd =>
    if s.pending = 0 then { s with idleFd := none }
    else
      match k with
      | .connection => { s.accepted fd .acceptor with idleFd := some fd }
      | .aborted => { s.abort with idleFd := none }
      | .interrupted | .unexpected => { s with idleFd := none }

/-- `::close(idleFd_)` -/
def closeIdle (s : Acceptor) : Acceptor :=
  match s.idleFd with
  | none => s
  | some fd => { s with fds := s.fds.set fd none }

/-- `idleFd_ = ::open("/dev/null", O_RDONLY | O_CLOEXEC)`, where the file opens or does not. -/
def openIdle (s : Acceptor) (opens : Bool) : Acceptor :=
  match lowestFree s.fds, opens with
  | some fd, true =>
    { s with fds := s.fds.set fd (some .acceptor), idleFd := some fd, stage := .idle }
  | _, _ => { s with idleFd := none, stage := .idle }

inductive Act where
  /-- a connection is complete -/
  | arrive
  | handleRead (k : KernelAccept) (errnoKept : Bool)
  | closeIdle
  | acceptAgain (k : KernelAccept)
  | refuse
  | openIdle (opens : Bool)
  | otherOpens
  | otherCloses (fd : Nat)

def step (s : Acceptor) : Act → Option Acceptor
  | .arrive =>
    if s.stage ≠ .ended then some { s with pending := s.pending + 1, arrived := s.arrived + 1 }
    else none
  | .handleRead k errnoKept => if s.stage = .idle then some (s.handleRead k errnoKept) else none
  | .closeIdle => if s.stage = .closing then some { s.closeIdle with stage := .accepting } else none
  | .acceptAgain k => if s.stage = .accepting then some (s.acceptAgain k) else none
  | .refuse =>
    if s.stage = .refusing then
      some { s.closeIdle with
        stage := .opening
        refused := if s.idleFd = none then s.refused else s.refused + 1 }
    else none
  | .openIdle opens => if s.stage = .opening then some (s.openIdle opens) else none
  | .otherOpens =>
    if s.stage ≠ .ended then
      (lowestFree s.fds).map fun fd => { s with fds := s.fds.set fd (some .other) }
    else none
  | .otherCloses fd =>
    if s.stage ≠ .ended ∧ s.fds[fd]? = some (some .other) then
      some { s with fds := s.fds.set fd none }
    else none

/-! ## What it keeps -/

/-- `idleFd_` is the number of an open descriptor, or -1. -/
def Holds (s : Acceptor) : Prop :=
  s.stage = .idle ∨ s.stage = .closing ∨ s.stage = .refusing ∨ s.stage = .ended

instance (s : Acceptor) : Decidable s.Holds := inferInstanceAs (Decidable (_ ∨ _))

/-- The descriptors that the acceptor has open. -/
def ownDescriptors (s : Acceptor) : Nat := if s.Holds ∧ s.idleFd.isSome then 1 else 0

/-- A connection that was accepted to be refused. -/
def inHand (s : Acceptor) : Nat := if s.stage = .refusing ∧ s.idleFd.isSome then 1 else 0

/-- It closes only what it has opened, and leaves nothing open; and no connection is lost. -/
structure Kept (s : Acceptor) : Prop where
  own : s.Holds → ∀ fd ∈ s.idleFd, s.fds[fd]? = some (some .acceptor)
  count : s.fds.count (some .acceptor) = s.ownDescriptors
  conserved : s.arrived = s.pending + s.handedOver + s.refused + s.aborted + s.inHand

/-- A descriptor is there for the next call, if there is one. -/
def Prepared (s : Acceptor) : Prop :=
  match s.stage with
  | .idle | .closing => s.idleFd.isSome
  | .accepting | .opening => 0 < freePlaces s.fds
  | .refusing => s.idleFd.isSome ∨ 0 < freePlaces s.fds
  | .ended => True

/-- A connection that waits is accepted, now or with the descriptor of `/dev/null`. -/
def Serves (s : Acceptor) (a : Act) (s' : Acceptor) : Prop :=
  match a with
  | .handleRead k _ => 0 < s.pending → k = .connection ∨ freePlaces s.fds = 0 →
      s'.pending < s.pending ∨ s'.stage = .closing
  | .acceptAgain .connection => 0 < s.pending → s'.pending < s.pending
  | _ => True

/-- It has given its descriptor away and not got one back. -/
def Exposed (s : Acceptor) : Prop :=
  s.stage = .accepting ∨ s.stage = .opening ∨ s.stage = .refusing ∧ s.idleFd = none

instance (s : Acceptor) : Decidable s.Exposed := inferInstanceAs (Decidable (_ ∨ _))

/-- The condition on a step: nobody takes the last descriptor while the acceptor is exposed, the
log does not change `errno`, and `/dev/null` opens. -/
def Spared (s : Acceptor) : Act → Prop
  | .otherOpens => s.Exposed → 2 ≤ freePlaces s.fds
  | .handleRead _ errnoKept => freePlaces s.fds = 0 → 0 < s.pending → errnoKept
  | .openIdle opens => opens
  | _ => True

instance (s : Acceptor) : (a : Act) → Decidable (s.Spared a)
  | .otherOpens => inferInstanceAs (Decidable (s.Exposed → _))
  | .handleRead _ errnoKept =>
    inferInstanceAs (Decidable (_ = 0 → 0 < s.pending → errnoKept = true))
  | .openIdle opens => inferInstanceAs (Decidable (opens = true))
  | .arrive | .closeIdle | .acceptAgain _ | .refuse | .otherCloses _ => isTrue trivial

variable {s s' : Acceptor} {fd : Nat} {a : Act}

theorem kept_new {fds : List (Option FdHolder)} {callback : Bool}
    (fresh : some .acceptor ∉ fds) (made : new fds callback = some s) : s.Kept ∧ s.Prepared := by
  obtain ⟨fd, lowest, rfl⟩ := Option.map_eq_some_iff.mp made
  have free := getElem?_lowestFree lowest
  refine ⟨⟨?_, ?_, rfl⟩, rfl⟩
  · rintro - _ ⟨⟩
    exact getElem?_opened free
  · have counted := count_open (x := FdHolder.acceptor) free .acceptor
    rw [List.count_eq_zero_of_not_mem fresh, if_pos rfl] at counted
    exact counted

/-- Another thread opens or closes, or a connection is handed over. -/
theorem Kept.others (kept : s.Kept) {x y : Option FdHolder} (here : s.fds[fd]? = some x)
    (before : x ≠ some .acceptor) (after : y ≠ some .acceptor) :
    ({ s with fds := s.fds.set fd y } : Acceptor).Kept := by
  refine { own := ?_, count := ?_, conserved := kept.conserved }
  · intro holds idle mem
    exact getElem?_set_apart here (kept.own holds idle mem) before
  · have counted := @countP_set _ s.fds x y fd (· == some FdHolder.acceptor) here
    rw [if_neg (by simpa using before), if_neg (by simpa using after)] at counted
    exact counted.trans kept.count

/-- `idleFd_` holds a descriptor that was free. -/
theorem Kept.obtained (kept : s.Kept) (none_held : ¬ s.Holds)
    (lowest : lowestFree s.fds = some fd) {t : Acceptor}
    (fds : t.fds = s.fds.set fd (some .acceptor)) (idleFd : t.idleFd = some fd)
    (holds : t.Holds) :
    (∀ idle ∈ t.idleFd, t.fds[idle]? = some (some .acceptor)) ∧
      t.fds.count (some .acceptor) = t.ownDescriptors := by
  have free := getElem?_lowestFree lowest
  constructor
  · intro idle mem
    rw [idleFd] at mem
    obtain rfl := Option.some.inj mem
    rw [fds]
    exact getElem?_opened free
  · have empty : s.ownDescriptors = 0 := if_neg fun own => none_held own.1
    rw [fds, count_open free, kept.count, empty, if_pos rfl, ownDescriptors,
      if_pos ⟨holds, by rw [idleFd]; rfl⟩]

/-- `::close(idleFd_)` gives the descriptor back, where there is one. -/
theorem Kept.closeIdle (kept : s.Kept) (holds : s.Holds) :
    s.closeIdle.fds.count (some .acceptor) = 0 ∧
      freePlaces s.closeIdle.fds = freePlaces s.fds + s.ownDescriptors := by
  have count := kept.count
  unfold Acceptor.closeIdle
  cases has : s.idleFd with
  | none =>
    have empty : s.ownDescriptors = 0 := if_neg (by simp [has])
    rw [empty] at count ⊢
    exact ⟨count, rfl⟩
  | some fd =>
    have one : s.ownDescriptors = 1 := if_pos ⟨holds, by rw [has]; rfl⟩
    have held := kept.own holds fd has
    have closed := count_close held .acceptor
    rw [if_pos rfl, count, one] at closed
    rw [one]
    exact ⟨Nat.succ.inj closed, freePlaces_close held⟩

theorem Kept.handleRead (kept : s.Kept) (idle : s.stage = .idle) (k : KernelAccept)
    (errnoKept : Bool) : (s.handleRead k errnoKept).Kept := by
  have holds : s.Holds := .inl idle
  have empty : s.inHand = 0 := if_neg (by simp [idle])
  have conserved := kept.conserved
  rw [empty] at conserved
  unfold Acceptor.handleRead
  cases lowest : lowestFree s.fds with
  | none =>
    dsimp only
    split
    · exact {
        own := fun _ => kept.own holds
        count := by
          rw [kept.count, ownDescriptors, ownDescriptors]
          simp [Holds, idle]
        conserved := conserved }
    · exact kept
  | some connfd =>
    have free := getElem?_lowestFree lowest
    by_cases unexpected : k = .unexpected
    · simp only [if_pos unexpected]
      exact {
        own := fun _ => kept.own holds
        count := by
          rw [kept.count, ownDescriptors, ownDescriptors]
          simp [Holds, idle]
        conserved := conserved }
    simp only [if_neg unexpected]
    by_cases waits : s.pending = 0
    · simpa [waits] using kept
    · simp only [if_neg waits]
      cases k with
      | interrupted | unexpected => exact kept
      | aborted =>
        refine { own := kept.own, count := kept.count, conserved := ?_ }
        show s.arrived = s.pending - 1 + s.handedOver + s.refused + (s.aborted + 1) + s.inHand
        omega
      | connection =>
        unfold newConnection
        dsimp only
        split
        · have apart := kept.others free (y := some .other) nofun nofun
          refine { own := apart.own, count := apart.count, conserved := ?_ }
          show s.arrived = s.pending - 1 + (s.handedOver + 1) + s.refused + s.aborted + s.inHand
          omega
        · refine { own := kept.own, count := kept.count, conserved := ?_ }
          show s.arrived = s.pending - 1 + s.handedOver + (s.refused + 1) + s.aborted + s.inHand
          omega

theorem Kept.acceptAgain (kept : s.Kept) (accepting : s.stage = .accepting) (k : KernelAccept) :
    (s.acceptAgain k).Kept := by
  have apart : ¬ s.Holds := by simp [Holds, accepting]
  have empty : s.inHand = 0 := if_neg (by simp [accepting])
  have conserved := kept.conserved
  have count := kept.count
  rw [empty] at conserved
  rw [ownDescriptors, if_neg fun own => apart own.1] at count
  have failed : ({ s with stage := .refusing, idleFd := none } : Acceptor).Kept := {
    own := nofun
    count := count
    conserved := conserved }
  unfold Acceptor.acceptAgain
  dsimp only
  cases lowest : lowestFree s.fds with
  | none => exact failed
  | some fd =>
    by_cases waits : s.pending = 0
    · simpa [waits] using failed
    · simp only [if_neg waits]
      cases k with
      | interrupted | unexpected => exact failed
      | aborted =>
        refine { own := nofun, count := count, conserved := ?_ }
        show s.arrived = s.pending - 1 + s.handedOver + s.refused + (s.aborted + 1) + 0
        omega
      | connection =>
        obtain ⟨own, one⟩ := kept.obtained apart lowest
          (t := { s.accepted fd .acceptor with stage := .refusing, idleFd := some fd }) rfl rfl
          (.inr (.inr (.inl rfl)))
        refine { own := fun _ => own, count := one, conserved := ?_ }
        show s.arrived = s.pending - 1 + s.handedOver + s.refused + s.aborted + 1
        omega

theorem Kept.openIdle (kept : s.Kept) (opening : s.stage = .opening) (opens : Bool) :
    (s.openIdle opens).Kept := by
  have apart : ¬ s.Holds := by simp [Holds, opening]
  have empty : s.inHand = 0 := if_neg (by simp [opening])
  have conserved := kept.conserved
  have count := kept.count
  rw [empty] at conserved
  rw [ownDescriptors, if_neg fun own => apart own.1] at count
  unfold Acceptor.openIdle
  split
  · next fd lowest =>
    obtain ⟨own, one⟩ := kept.obtained apart lowest
      (t := { s with fds := s.fds.set fd (some .acceptor), idleFd := some fd, stage := .idle })
      rfl rfl (.inl rfl)
    exact { own := fun _ => own, count := one, conserved := conserved }
  · exact { own := nofun, count := count, conserved := conserved }

/-- A descriptor that another thread opens was free. -/
theorem otherOpens_cases (moved : s.step .otherOpens = some s') :
    ∃ fd, lowestFree s.fds = some fd ∧ s.stage ≠ .ended ∧
      s' = { s with fds := s.fds.set fd (some .other) } := by
  simp only [step] at moved
  split at moved
  · next runs =>
    obtain ⟨fd, lowest, rfl⟩ := Option.map_eq_some_iff.mp moved
    exact ⟨fd, lowest, runs, rfl⟩
  · contradiction

theorem Kept.step (kept : s.Kept) (moved : s.step a = some s') : s'.Kept := by
  cases a with
  | arrive =>
    obtain ⟨-, rfl⟩ := some_of_guard moved
    have conserved := kept.conserved
    refine { own := kept.own, count := kept.count, conserved := ?_ }
    show s.arrived + 1 = s.pending + 1 + s.handedOver + s.refused + s.aborted + s.inHand
    omega
  | handleRead k errnoKept =>
    obtain ⟨idle, rfl⟩ := some_of_guard moved
    exact kept.handleRead idle k errnoKept
  | closeIdle =>
    obtain ⟨closing, rfl⟩ := some_of_guard moved
    have conserved := kept.conserved
    rw [inHand, if_neg (by simp [closing])] at conserved
    exact {
      own := by simp [Holds]
      count := (kept.closeIdle (.inr (.inl closing))).1
      conserved := by
        unfold Acceptor.closeIdle
        split <;> exact conserved }
  | acceptAgain k =>
    obtain ⟨accepting, rfl⟩ := some_of_guard moved
    exact kept.acceptAgain accepting k
  | refuse =>
    obtain ⟨refusing, rfl⟩ := some_of_guard moved
    have conserved := kept.conserved
    exact {
      own := by simp [Holds]
      count := (kept.closeIdle (.inr (.inr (.inl refusing)))).1
      conserved := by
        unfold Acceptor.closeIdle
        split
        · next has =>
          rw [if_pos has]
          rwa [inHand, if_neg (by simp [has])] at conserved
        · next fd has =>
          rw [inHand, if_pos ⟨refusing, by rw [has]; rfl⟩] at conserved
          rw [if_neg (by simp [has])]
          show s.arrived = s.pending + s.handedOver + (s.refused + 1) + s.aborted + 0
          omega }
  | openIdle =>
    obtain ⟨opening, rfl⟩ := some_of_guard moved
    exact kept.openIdle opening _
  | otherOpens =>
    obtain ⟨fd, lowest, -, rfl⟩ := otherOpens_cases moved
    exact kept.others (getElem?_lowestFree lowest) (by simp) (by simp)
  | otherCloses fd =>
    obtain ⟨⟨-, held⟩, rfl⟩ := some_of_guard moved
    exact kept.others held (by simp) (by simp)

/-! ## The descriptor on `/dev/null` -/

theorem lowestFree_of_pos (free : 0 < freePlaces s.fds) : ∃ fd, lowestFree s.fds = some fd := by
  by_contra none_free
  rw [not_exists, ← Option.eq_none_iff_forall_ne_some] at none_free
  rw [lowestFree_eq_none.mp none_free] at free
  contradiction

theorem Prepared.handleRead (prepared : s.Prepared) (idle : s.stage = .idle) (k : KernelAccept)
    (errnoKept : Bool) : (s.handleRead k errnoKept).Prepared := by
  rw [Prepared, idle] at prepared
  have held : s.idleFd.isSome = true := prepared
  unfold Acceptor.handleRead newConnection
  repeat' split
  all_goals simp [Prepared, idle, accepted, abort, held]

/-- After the second `accept` there is a descriptor to give back, or one is free. -/
theorem Prepared.acceptAgain (prepared : s.Prepared) (accepting : s.stage = .accepting)
    (k : KernelAccept) : (s.acceptAgain k).Prepared := by
  rw [Prepared, accepting] at prepared
  obtain ⟨fd, lowest⟩ := lowestFree_of_pos prepared
  unfold Acceptor.acceptAgain
  dsimp only
  rw [lowest]
  by_cases waits : s.pending = 0
  · simpa [waits] using .inr prepared
  · simp only [if_neg waits]
    cases k with
    | connection => exact .inl rfl
    | interrupted | aborted | unexpected => exact .inr prepared

theorem Prepared.step (kept : s.Kept) (prepared : s.Prepared) (spared : s.Spared a)
    (moved : s.step a = some s') : s'.Prepared := by
  cases a with
  | arrive =>
    obtain ⟨-, rfl⟩ := some_of_guard moved
    exact prepared
  | handleRead k errnoKept =>
    obtain ⟨idle, rfl⟩ := some_of_guard moved
    exact prepared.handleRead idle k errnoKept
  | closeIdle =>
    obtain ⟨closing, rfl⟩ := some_of_guard moved
    have holds : s.Holds := .inr (.inl closing)
    rw [Prepared, closing] at prepared
    show 0 < freePlaces s.closeIdle.fds
    rw [(kept.closeIdle holds).2, ownDescriptors, if_pos ⟨holds, prepared⟩]
    exact Nat.succ_pos _
  | acceptAgain k =>
    obtain ⟨accepting, rfl⟩ := some_of_guard moved
    exact prepared.acceptAgain accepting k
  | refuse =>
    obtain ⟨refusing, rfl⟩ := some_of_guard moved
    have holds : s.Holds := .inr (.inr (.inl refusing))
    rw [Prepared, refusing] at prepared
    show 0 < freePlaces s.closeIdle.fds
    rw [(kept.closeIdle holds).2]
    rcases prepared with held | free
    · rw [ownDescriptors, if_pos ⟨holds, held⟩]
      exact Nat.succ_pos _
    · exact Nat.lt_of_lt_of_le free (Nat.le_add_right _ _)
  | openIdle =>
    obtain ⟨opening, rfl⟩ := some_of_guard moved
    rw [Prepared, opening] at prepared
    obtain ⟨fd, lowest⟩ := lowestFree_of_pos prepared
    unfold Acceptor.openIdle
    rw [lowest, (spared : _ = true)]
    rfl
  | otherOpens =>
    obtain ⟨fd, lowest, runs, rfl⟩ := otherOpens_cases moved
    have one := freePlaces_open (x := FdHolder.other) (getElem?_lowestFree lowest)
    cases stage : s.stage with
    | idle | closing => simpa [Prepared, stage] using prepared
    | accepting | opening =>
      have two := spared (by simp [Exposed, stage])
      simp only [Prepared]
      omega
    | refusing =>
      simp only [Prepared, stage] at prepared ⊢
      rcases prepared with held | free
      · exact .inl held
      · cases has : s.idleFd with
        | some idle => exact .inl rfl
        | none =>
          have two := spared (by simp [Exposed, stage, has])
          exact .inr (by omega)
    | ended => exact absurd stage runs
  | otherCloses fd =>
    obtain ⟨⟨runs, held⟩, rfl⟩ := some_of_guard moved
    have more := freePlaces_close held
    cases stage : s.stage with
    | idle | closing => simpa [Prepared, stage] using prepared
    | accepting | opening =>
      simp only [Prepared]
      omega
    | refusing =>
      simp only [Prepared, stage] at prepared ⊢
      exact prepared.imp_right fun free => by omega
    | ended => exact absurd stage runs

theorem Prepared.serves (prepared : s.Prepared) (spared : s.Spared a)
    (moved : s.step a = some s') : s.Serves a s' := by
  cases a with
  | handleRead k errnoKept =>
    intro waits found
    obtain ⟨idle, rfl⟩ := some_of_guard moved
    unfold Acceptor.handleRead
    cases lowest : lowestFree s.fds with
    | none =>
      rw [if_pos (spared (lowestFree_eq_none.mp lowest) waits)]
      exact .inr rfl
    | some connfd =>
      have free : freePlaces s.fds ≠ 0 := fun full => by
        rw [lowestFree_eq_none.mpr full] at lowest
        contradiction
      obtain rfl := found.resolve_right free
      simp only [reduceCtorEq, if_false, if_neg (Nat.pos_iff_ne_zero.mp waits)]
      left
      unfold newConnection
      split <;> exact Nat.sub_one_lt_of_lt waits
  | acceptAgain k =>
    cases k with
    | connection =>
      intro waits
      obtain ⟨accepting, rfl⟩ := some_of_guard moved
      rw [Prepared, accepting] at prepared
      obtain ⟨fd, lowest⟩ := lowestFree_of_pos prepared
      unfold Acceptor.acceptAgain
      dsimp only
      simp only [lowest, if_neg (Nat.pos_iff_ne_zero.mp waits)]
      exact Nat.sub_one_lt_of_lt waits
    | interrupted | aborted | unexpected => trivial
  | _ => trivial

/-- What the next call needs was left to it. -/
theorem spared_of_prepared (moved : s.step a = some s') (prepared : s'.Prepared)
    (serves : s.Serves a s') : s.Spared a := by
  cases a with
  | otherOpens =>
    intro exposed
    obtain ⟨fd, lowest, -, rfl⟩ := otherOpens_cases moved
    have one := freePlaces_open (x := FdHolder.other) (getElem?_lowestFree lowest)
    rcases exposed with stage | stage | ⟨stage, has⟩
    · simp only [Prepared, stage] at prepared
      omega
    · simp only [Prepared, stage] at prepared
      omega
    · simp only [Prepared, stage, has, Option.isSome_none, Bool.false_eq_true, false_or]
        at prepared
      omega
  | handleRead k errnoKept =>
    intro full waits
    obtain ⟨idle, rfl⟩ := some_of_guard moved
    by_contra changed
    have stays : s.handleRead k errnoKept = s := by
      unfold Acceptor.handleRead
      rw [lowestFree_eq_none.mpr full]
      exact if_neg changed
    rcases serves waits (.inr full) with fewer | closing
    · rw [stays] at fewer
      exact absurd fewer (Nat.lt_irrefl _)
    · rw [stays, idle] at closing
      contradiction
  | openIdle opens =>
    obtain ⟨-, rfl⟩ := some_of_guard moved
    show opens = true
    unfold Acceptor.openIdle at prepared
    split at prepared
    · rfl
    · exact absurd prepared Bool.false_ne_true
  | _ => trivial

/-- Whatever the table holds and whoever opens and closes descriptors between its calls: the
acceptor closes what it has opened and nothing else, loses no connection, and always has a
descriptor for the next call, which accepts the connection that waits, exactly where nobody takes
the last descriptor while the acceptor has given its own away, the log leaves `errno` alone, and
`/dev/null` opens. -/
theorem eachStep_served_iff {fds : List (Option FdHolder)} {callback : Bool}
    (fresh : some .acceptor ∉ fds) (made : new fds callback = some s) {as : List Act} :
    EachStep step (fun s a s' => s'.Kept ∧ s'.Prepared ∧ s.Serves a s') s as ↔
      EachStep step (fun s a _ => s.Spared a) s as := by
  have keeps (s : Acceptor) (a : Act) (s' : Acceptor) (inv : s.Kept ∧ s.Prepared)
      (spared : s.Spared a) (moved : s.step a = some s') :
      (s'.Kept ∧ s'.Prepared) ∧ s'.Kept ∧ s'.Prepared ∧ s.Serves a s' := by
    have kept := inv.1.step moved
    have prepared := inv.2.step inv.1 spared moved
    exact ⟨⟨kept, prepared⟩, kept, prepared, inv.2.serves spared moved⟩
  have only (s : Acceptor) (a : Act) (s' : Acceptor) (_ : s.Kept ∧ s.Prepared)
      (moved : s.step a = some s') (served : s'.Kept ∧ s'.Prepared ∧ s.Serves a s') :
      s.Spared a :=
    spared_of_prepared moved served.2.1 served.2.2
  exact EachStep.iff_of_invariant keeps only (kept_new fresh made)

/-- Three descriptors, and one of them taken: a connection is handed over, the next is refused,
and one comes when that is closed. -/
def fullOnce : List Act :=
  [.arrive, .handleRead .connection true, .arrive, .arrive, .handleRead .connection true,
    .closeIdle, .acceptAgain .connection, .otherCloses 0, .otherOpens, .refuse, .openIdle true,
    .otherCloses 2, .handleRead .connection true]

theorem eachStep_served_fullOnce :
    EachStep step (fun s a s' => s'.Kept ∧ s'.Prepared ∧ s.Serves a s')
      ⟨[some .other, some .acceptor, none], some 1, .idle, true, 0, 0, 0, 0, 0⟩ fullOnce :=
  have fresh : some FdHolder.acceptor ∉ [some .other, none, none] := by decide
  (eachStep_served_iff fresh rfl).mpr (by decide)

/-- Where another thread takes the descriptor, the connection stays in the queue, and there is
nothing to close for the next one. -/
example : (exec step ⟨[some .other, some .acceptor], some 1, .idle, true, 0, 0, 0, 0, 0⟩
    [.arrive, .handleRead .connection true, .closeIdle, .otherOpens, .acceptAgain .connection,
      .refuse, .openIdle true]).map (fun s => (s.idleFd, s.pending)) = some (none, 1) := by
  decide

end Acceptor

end NewFramework.Net
