import NewFramework.Tstlesrv.FrameTransport

/-!
# Two owners of one read side

The read side of a transport (`tstlesrv/frametransport.cpp`) does not look at its output buffer, and
it talks to its owner through signals only.  So two transports that differ in their output buffers,
with two owners whose slots keep a relation, go through the same read event in step: the same bytes,
the same read state, the same signals.
-/

namespace NewFramework.Tstlesrv
open NewFramework.Lib NewFramework.Net

variable {σ τ : Type*}

/-- The ends of two events: the transports differ in their output buffers at most, and the
relation holds of one owner and of the other with its output buffer. -/
structure Mirror (R : σ → Buffer → τ → Prop) (p : CFrameTransport × σ) (q : CFrameTransport × τ) :
    Prop where
  transport : q.1 = { p.1 with outputBuffer := q.1.outputBuffer }
  owner : R p.2 q.1.outputBuffer q.2

/-- What the signals of the read side do to the one owner, they do to the other. -/
structure Mirrors (A : Slots σ) (B : Slots τ) (R : σ → Buffer → τ → Prop) : Prop where
  closeSocket : ∀ {w o v}, R w o v → R (A.closeSocket w) o (B.closeSocket v)
  setWriteState : ∀ {w o v}, R w o v → R (A.setWriteState w) o (B.setWriteState v)
  readSocketDone : ∀ {t w o v}, R w o v →
    Option.Rel (Mirror R) (A.readSocketDone t w) (B.readSocketDone { t with outputBuffer := o } v)

theorem rel_map {α β γ δ : Type*} {r : α → β → Prop} {q : γ → δ → Prop} {f : α → γ} {g : β → δ}
    {a : Option α} {b : Option β} (related : Option.Rel r a b)
    (keeps : ∀ x y, r x y → q (f x) (g y)) : Option.Rel q (a.map f) (b.map g) := by
  cases related with
  | some here => exact .some (keeps _ _ here)
  | none => exact .none

namespace Mirrors

variable {A : Slots σ} {B : Slots τ} {R : σ → Buffer → τ → Prop} (mirrors : Mirrors A B R)
  {t : CFrameTransport} {w : σ} {o : Buffer} {v : τ} (related : R w o v)
include mirrors related

theorem rdTransition :
    Option.Rel (Mirror R) (t.rdTransition A w)
      (CFrameTransport.rdTransition B { t with outputBuffer := o } v) := by
  obtain ⟨inBuffer, outputBuffer, socket, readWant, rdSockState, rdAppState⟩ := t
  unfold CFrameTransport.rdTransition
  cases rdAppState with
  | readFrameSize =>
    by_cases bad : readWant ≤ 0
    · simp only [if_pos bad]
      exact .some ⟨rfl, mirrors.closeSocket related⟩
    · simp only [if_neg bad]
      exact .some ⟨rfl, related⟩
  | readRequest =>
    refine rel_map (mirrors.readSocketDone related) ?_
    rintro ⟨t₁, w₁⟩ ⟨t₂, v₂⟩ ⟨same, owner⟩
    dsimp only at same owner
    refine ⟨?_, owner⟩
    dsimp only
    rw [same]
  | waitTask => exact .some ⟨rfl, mirrors.setWriteState related⟩
  | init => exact .some ⟨rfl, related⟩
  | sendResult => exact .some ⟨rfl, related⟩
  | closeConnection => exact .some ⟨rfl, related⟩

theorem readFraming (answers : Nat → KernelRecv) :
    Option.Rel (fun p q => q.1 = p.1 ∧ Mirror R p.2 q.2) (t.readFraming A answers w)
      (CFrameTransport.readFraming B answers { t with outputBuffer := o } v) := by
  unfold CFrameTransport.readFraming
  generalize CFrameTransport.readSockBufferLen t.socket answers 4 = received
  rcases received with _ | _ | ⟨b, bs⟩
  · exact .some ⟨rfl, rfl, mirrors.closeSocket related⟩
  · exact .some ⟨rfl, rfl, mirrors.closeSocket related⟩
  dsimp only
  by_cases bad : (t.inBuffer.storeAtBegin (b :: bs)).peekInt32FromReserve ≤ 0
  · simp only [if_pos bad]
    exact .some ⟨rfl, by dsimp only, mirrors.closeSocket related⟩
  simp only [if_neg bad]
  by_cases there : (t.inBuffer.storeAtBegin (b :: bs)).peekInt32FromReserve.toNat ≤
      (t.inBuffer.storeAtBegin (b :: bs)).readableBytes
  · simp only [if_pos there]
    have done := mirrors.readSocketDone (t := { t with
      inBuffer := t.inBuffer.storeAtBegin (b :: bs)
      readWant := (t.inBuffer.storeAtBegin (b :: bs)).peekInt32FromReserve
      rdAppState := .readFrameSize }) related
    dsimp only at done
    exact rel_map done fun _ _ mirror => ⟨rfl, mirror⟩
  · simp only [if_neg there]
    exact .some ⟨rfl, by dsimp only, related⟩

theorem readData (answers : Nat → KernelRecv) :
    Option.Rel (fun p q => q.1 = p.1 ∧ Mirror R p.2 q.2) (t.readData A answers w)
      (CFrameTransport.readData B answers { t with outputBuffer := o } v) := by
  unfold CFrameTransport.readData
  dsimp only
  by_cases bad : t.readWant ≤ 0
  · simp only [if_pos bad]
    exact .some ⟨rfl, rfl, mirrors.closeSocket related⟩
  simp only [if_neg bad]
  rcases CFrameTransport.readSockBufferLen t.socket answers (CFrameTransport.shouldreadbytes
    t.readWant (t.inBuffer.ensureWritableBytes t.readWant.toNat).readableBytes) with
    _ | _ | ⟨b, bs⟩
  · exact .some ⟨rfl, rfl, mirrors.closeSocket related⟩
  · exact .some ⟨rfl, rfl, mirrors.closeSocket related⟩
  dsimp only
  split
  · exact .some ⟨rfl, rfl, related⟩
  · exact .none

omit related in
theorem thenTransition {p : Option (Bool × CFrameTransport × σ)}
    {q : Option (Bool × CFrameTransport × τ)}
    (read : Option.Rel (fun p q => q.1 = p.1 ∧ Mirror R p.2 q.2) p q) :
    Option.Rel (Mirror R) (CFrameTransport.thenTransition A p)
      (CFrameTransport.thenTransition B q) := by
  cases read with
  | none => exact .none
  | @some x y here =>
    obtain ⟨more, t₁, w₁⟩ := x
    obtain ⟨more', t₂, v₂⟩ := y
    obtain ⟨rfl, same, owner⟩ := here
    dsimp only at same owner
    simp only [CFrameTransport.thenTransition, Option.bind_some]
    cases more' with
    | false => exact .some ⟨same, owner⟩
    | true =>
      simp only [if_true]
      rw [same]
      exact mirrors.rdTransition owner

/-- A read event goes the same way for both owners. -/
theorem readSocket (answers : Nat → KernelRecv) (cfd : Socket) :
    Option.Rel (Mirror R) (t.readSocket A answers cfd w)
      (CFrameTransport.readSocket B answers cfd { t with outputBuffer := o } v) := by
  obtain ⟨inBuffer, outputBuffer, socket, readWant, rdSockState, rdAppState⟩ := t
  unfold CFrameTransport.readSocket
  dsimp only
  by_cases alien : socket ≠ invalidSocket ∧ rdAppState ≠ .init ∧ socket ≠ cfd
  · simp only [if_pos alien]
    exact .some ⟨rfl, mirrors.closeSocket related⟩
  simp only [if_neg alien]
  cases rdSockState with
  | recvFraming => exact mirrors.thenTransition (mirrors.readFraming related answers)
  | recv => exact mirrors.thenTransition (mirrors.readData related answers)
  | send => exact .some ⟨rfl, mirrors.closeSocket related⟩

end Mirrors

end NewFramework.Tstlesrv
