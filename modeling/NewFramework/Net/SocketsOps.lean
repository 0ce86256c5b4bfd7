import NewFramework.Lib.BigEndian

/-!
# System calls on sockets

`sockets::write` (`muduo/net/SocketsOps.cc`) and `recv` as the answers of the kernel to one call.
An answer says what the kernel is ready to do; what the call returns depends also on the length
offered or asked for, so that every answer is possible for every call.
-/

namespace NewFramework.Net
open NewFramework.Lib

/-- The values of `errno` the code tells apart; `EWOULDBLOCK` is `EAGAIN`. -/
inductive Errno where
  | eagain
  | eintr
  | epipe
  | econnreset
  | enotconn
  | etimedout
  | other (code : Nat)
  deriving DecidableEq, Repr

/-- `typedef int SOCKET` and `INVALID_SOCKET`. -/
abbrev Socket := Int

def invalidSocket : Socket := -1

/-- `(int)` applied to a 64-bit count. -/
abbrev asInt32 (n : Int) : Int := toInt 32 n

/-- The kernel's answer to one `write`: the room in the socket's send buffer, or a failure.
`errno` is its value after the call; a successful call leaves an older value there. -/
structure KernelWrite where
  room : Option Nat
  errno : Errno
  deriving DecidableEq, Repr

namespace KernelWrite

/-- What `write(fd, buf, len)` returns. -/
def ret (k : KernelWrite) (len : Nat) : Int :=
  match k.room with
  | some room => (min room len : Nat)
  | none => -1

/-- How many of the `len` bytes offered are in the socket after the call. -/
def accepted (k : KernelWrite) (len : Nat) : Nat :=
  match k.room with
  | some room => min room len
  | none => 0

/-- Any accepted count, or `EAGAIN`. -/
def NonFatal (k : KernelWrite) : Prop := k.room = none → k.errno = .eagain

instance (k : KernelWrite) : Decidable k.NonFatal := inferInstanceAs (Decidable (_ → _))

theorem accepted_le (k : KernelWrite) (len : Nat) : k.accepted len ≤ len := by
  unfold accepted
  split <;> omega

theorem ret_of_room {k : KernelWrite} (answered : k.room ≠ none) (len : Nat) :
    k.ret len = k.accepted len := by
  unfold ret accepted
  cases h : k.room with
  | none => exact absurd h answered
  | some room => rfl

/-- The count of a call, 0 for a failed one. -/
theorem toNat_ret (k : KernelWrite) (len : Nat) : (k.ret len).toNat = k.accepted len := by
  unfold ret accepted
  cases k.room with
  | none => rfl
  | some room => exact Int.toNat_natCast _

theorem ret_pos_iff (k : KernelWrite) (len : Nat) : 0 < k.ret len ↔ 0 < k.accepted len := by
  unfold ret accepted
  cases k.room with
  | none => exact iff_of_false (by simp) (by simp)
  | some room => exact Int.natCast_pos

@[simp] theorem ret_of_none {k : KernelWrite} (failed : k.room = none) (len : Nat) :
    k.ret len = -1 := by
  simp [ret, failed]

@[simp] theorem accepted_of_none {k : KernelWrite} (failed : k.room = none) (len : Nat) :
    k.accepted len = 0 := by
  simp [accepted, failed]

theorem ret_nonneg_iff (k : KernelWrite) (len : Nat) : 0 ≤ k.ret len ↔ k.room ≠ none := by
  cases h : k.room with
  | none => simp [ret, h]
  | some room => simp only [ret, h]; simp

end KernelWrite

/-- The kernel's answer to one `recv`: the bytes waiting (none at the end of the stream), or a
failure. -/
abbrev KernelRecv := Except Errno (List UInt8)

end NewFramework.Net
