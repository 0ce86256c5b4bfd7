import NewFramework.Lib.BigEndian

/-!
# Length-prefixed frames

The abstract side of a framed byte stream: `stream w bodies` is what a sender puts on the
wire, a `w`-byte big-endian length before each body.  A receiver that has seen the first `r`
bytes of it knows the bodies `completed w bodies r`, and `InsideHeader w bodies r` says that
the byte `r` where it stands is in the middle of a length field.
-/

namespace NewFramework.Lib

variable {w : Nat}

/-- One frame: the length field and the body. -/
def frame (w : Nat) (body : List UInt8) : List UInt8 := beBytes w body.length ++ body

/-- The byte stream of a sequence of bodies. -/
def stream (w : Nat) : List (List UInt8) → List UInt8
  | [] => []
  | body :: bodies => frame w body ++ stream w bodies

/-- The bodies whose last byte is among the first `r` bytes of the stream. -/
def completed (w : Nat) : List (List UInt8) → Nat → List (List UInt8)
  | [], _ => []
  | body :: bodies, r =>
    if w + body.length ≤ r then body :: completed w bodies (r - (w + body.length)) else []

/-- After `r` bytes the stream stands strictly inside a length field. -/
def InsideHeader (w : Nat) : List (List UInt8) → Nat → Prop
  | [], _ => False
  | body :: bodies, r =>
    (0 < r ∧ r < w) ∨ (w + body.length ≤ r ∧ InsideHeader w bodies (r - (w + body.length)))

instance decidableInsideHeader (w : Nat) :
    ∀ (bodies : List (List UInt8)) (r : Nat), Decidable (InsideHeader w bodies r)
  | [], _ => isFalse id
  | body :: bodies, r =>
    have := decidableInsideHeader w bodies (r - (w + body.length))
    inferInstanceAs (Decidable (_ ∨ _))

@[simp] theorem frame_length (body : List UInt8) : (frame w body).length = w + body.length := by
  simp [frame]

theorem stream_append (xs ys : List (List UInt8)) :
    stream w (xs ++ ys) = stream w xs ++ stream w ys := by
  induction xs with
  | nil => rfl
  | cons x xs ih => simp [stream, ih]

@[simp] theorem stream_cons (body : List UInt8) (bodies : List (List UInt8)) :
    stream w (body :: bodies) = frame w body ++ stream w bodies := rfl

/-- Past the frames `xs` the receiver's knowledge is `xs` and what it knows of the rest. -/
theorem completed_append (xs ys : List (List UInt8)) (r : Nat) :
    completed w (xs ++ ys) ((stream w xs).length + r) = xs ++ completed w ys r := by
  induction xs with
  | nil => simp [stream]
  | cons x xs ih =>
    have past : w + x.length ≤ (stream w (x :: xs)).length + r := by
      simp only [stream_cons, List.length_append, frame_length]
      omega
    have rest : (stream w (x :: xs)).length + r - (w + x.length) = (stream w xs).length + r := by
      simp only [stream_cons, List.length_append, frame_length]
      omega
    simp only [List.cons_append, completed, if_pos past, rest, ih]

theorem completed_of_lt {body : List UInt8} {bodies : List (List UInt8)} {r : Nat}
    (short : r < w + body.length) : completed w (body :: bodies) r = [] := by
  simp [completed, Nat.not_le.mpr short]

@[simp] theorem completed_zero (hw : 0 < w) (bodies : List (List UInt8)) :
    completed w bodies 0 = [] := by
  cases bodies with
  | nil => rfl
  | cons body bodies => exact completed_of_lt (by omega)

/-- Standing inside a header after the frames `xs` is standing inside a header of the rest. -/
theorem insideHeader_append (xs ys : List (List UInt8)) (r : Nat) :
    InsideHeader w (xs ++ ys) ((stream w xs).length + r) ↔ InsideHeader w ys r := by
  induction xs with
  | nil => simp [stream]
  | cons x xs ih =>
    have past : w + x.length ≤ (stream w (x :: xs)).length + r := by
      simp only [stream_cons, List.length_append, frame_length]
      omega
    have rest : (stream w (x :: xs)).length + r - (w + x.length) = (stream w xs).length + r := by
      simp only [stream_cons, List.length_append, frame_length]
      omega
    simp only [List.cons_append, InsideHeader, past, rest, ih, true_and, or_iff_right_iff_imp]
    omega

theorem insideHeader_cons {body : List UInt8} {bodies : List (List UInt8)} {r : Nat}
    (started : 0 < r) (short : r < w) : InsideHeader w (body :: bodies) r :=
  .inl ⟨started, short⟩

end NewFramework.Lib
