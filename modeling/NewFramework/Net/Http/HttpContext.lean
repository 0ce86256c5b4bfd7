import NewFramework.Net.Http.HttpRequest

/-!
# `HttpContext`

`parseRequest` (`muduo/net/http/HttpContext.cc`) works on the input buffer of the connection.  The
second half of the file says what it does in terms of the bytes alone: it is a parser that reads
line by line, which at the end of its input has neither failed nor finished.
-/

namespace NewFramework.Net.Http
open NewFramework.Lib

inductive HttpRequestParseState where
  | kExpectRequestLine
  | kExpectHeaders
  | kExpectBody
  | kGotAll
  deriving DecidableEq, Repr

/-- How a call of `parseRequest` ends where it does not return. -/
inductive Fault where
  /-- `assert(method_ == kInvalid)` fails. -/
  | assertion
  /-- `while (hasMore)` has no branch for the state. -/
  | endless
  deriving DecidableEq, Repr

structure HttpContext where
  state : HttpRequestParseState
  request : HttpRequest

namespace HttpContext

/-- `HttpContext()`, and what `reset()` leaves. -/
def new : HttpContext := ⟨.kExpectRequestLine, .new⟩

def gotAll (c : HttpContext) : Prop := c.state = .kGotAll

instance (c : HttpContext) : Decidable c.gotAll := inferInstanceAs (Decidable (_ = _))

def space : UInt8 := 0x20
def question : UInt8 := 0x3f
def colon : UInt8 := 0x3a

/-- The path and the query of a target, up to the second space. -/
def setTarget (target : List UInt8) (r : HttpRequest) : HttpRequest :=
  if question ∈ target then
    (r.setPath (target.takeWhile (· ≠ question))).setQuery (target.dropWhile (· ≠ question))
  else r.setPath target

/-- The version that the end of a request line names. -/
def versionOf (text : List UInt8) : Option Version :=
  if text.length = 8 ∧ text.take 7 = ascii "HTTP/1." then
    if text.drop 7 = ascii "1" then some .kHttp11
    else if text.drop 7 = ascii "0" then some .kHttp10
    else none
  else none

/-- `processRequestLine`, with whether it succeeds; `none` where an assertion fails. -/
def processRequestLine (line : List UInt8) (c : HttpContext) : Option (Bool × HttpContext) :=
  match line.dropWhile (· ≠ space) with
  | [] => some (false, c)
  | _ :: afterMethod =>
    match c.request.setMethod (line.takeWhile (· ≠ space)) with
    | none => none
    | some (false, r) => some (false, { c with request := r })
    | some (true, r) =>
      match afterMethod.dropWhile (· ≠ space) with
      | [] => some (false, { c with request := r })
      | _ :: text =>
        let r := setTarget (afterMethod.takeWhile (· ≠ space)) r
        match versionOf text with
        | some v => some (true, { c with request := r.setVersion v })
        | none => some (false, { c with request := r })

/-- The loop of `parseRequest`, for at most `fuel` rounds. -/
def parseLoop (receiveTime : Timestamp) :
    Nat → HttpContext → Buffer → Except Fault (Bool × HttpContext × Buffer)
  | 0, _, _ => .error .endless
  | fuel + 1, c, buf =>
    match c.state with
    | .kExpectRequestLine =>
      match buf.findCRLF with
      | none => .ok (true, c, buf)
      | some crlf =>
        match c.processRequestLine (buf.readable.take crlf) with
        | none => .error .assertion
        | some (false, c) => .ok (false, c, buf)
        | some (true, c) =>
          parseLoop receiveTime fuel
            { state := .kExpectHeaders, request := c.request.setReceiveTime receiveTime }
            (buf.retrieveUntil (crlf + 2))
    | .kExpectHeaders =>
      match buf.findCRLF with
      | none => .ok (true, c, buf)
      | some crlf =>
        let line := buf.readable.take crlf
        if colon ∈ line then
          parseLoop receiveTime fuel
            { c with request :=
                c.request.addHeader (line.takeWhile (· ≠ colon)) (line.dropWhile (· ≠ colon)).tail }
            (buf.retrieveUntil (crlf + 2))
        else
          -- an empty line, or any other line without a colon
          .ok (true, { c with state := .kGotAll }, buf.retrieveUntil (crlf + 2))
    | .kExpectBody => .error .endless
    | .kGotAll => .error .endless

/-- `parseRequest`, with its result: each round but the last takes a line. -/
def parseRequest (receiveTime : Timestamp) (c : HttpContext) (buf : Buffer) :
    Except Fault (Bool × HttpContext × Buffer) :=
  parseLoop receiveTime (buf.readableBytes + 1) c buf

/-! ## On bytes -/

/-- In the other states `parseRequest` does not look at the buffer. -/
def ExpectsLine (c : HttpContext) : Prop :=
  c.state = .kExpectRequestLine ∨ c.state = .kExpectHeaders

theorem expectsLine_new : new.ExpectsLine := .inl rfl

/-- What `parseRequest` makes of a line. -/
def consume (receiveTime : Timestamp) (c : HttpContext) (line : List UInt8) :
    Verdict HttpContext (Except Fault Bool) :=
  match c.state with
  | .kExpectRequestLine =>
    match c.processRequestLine line with
    | none => .stop (.error .assertion) c false
    | some (false, c) => .stop (.ok false) c false
    | some (true, c) =>
      .next { state := .kExpectHeaders, request := c.request.setReceiveTime receiveTime }
  | .kExpectHeaders =>
    if colon ∈ line then
      .next { c with request :=
        c.request.addHeader (line.takeWhile (· ≠ colon)) (line.dropWhile (· ≠ colon)).tail }
    else .stop (.ok true) { c with state := .kGotAll } true
  | _ => .stop (.error .endless) c false

/-- What `parseRequest` returns, and the bytes it leaves. -/
def outcome : Parsed HttpContext (Except Fault Bool) UInt8 →
    Except Fault (Bool × HttpContext × List UInt8)
  | ⟨none, c, rest⟩ => .ok (true, c, rest)
  | ⟨some result, c, rest⟩ => result.map fun ok => (ok, c, rest)

def onBytes (called : Except Fault (Bool × HttpContext × Buffer)) :
    Except Fault (Bool × HttpContext × List UInt8) :=
  called.map fun (ok, c, buf) => (ok, c, buf.readable)

/-- On the bytes `parseRequest` is a parser that reads line by line; it returns, unless its
assertion fails. -/
theorem parseRequest_eq (t : Timestamp) {c : HttpContext} (expects : c.ExpectsLine) (buf : Buffer) :
    onBytes (c.parseRequest t buf) = outcome (parse kCRLF (consume t) c buf.readable) := by
  have rounds (fuel : Nat) {c : HttpContext} (expects : c.ExpectsLine) (buf : Buffer)
      (enough : buf.readableBytes < fuel) :
      onBytes (parseLoop t fuel c buf) =
        outcome (parseLines kCRLF (consume t) fuel c buf.readable) := by
    induction fuel generalizing c buf with
    | zero => contradiction
    | succ fuel ih =>
      unfold parseLoop parseLines Buffer.findCRLF
      cases found : search kCRLF buf.readable with
      | none => rcases expects with state | state <;> simp only [state] <;> rfl
      | some crlf =>
        have fits : crlf + 2 ≤ buf.readableBytes := buf.readable_length ▸ search_le found
        have shorter : (buf.retrieveUntil (crlf + 2)).readableBytes < fuel := by
          rw [Buffer.retrieveUntil, Buffer.readableBytes_retrieve]
          omega
        have left : (buf.retrieveUntil (crlf + 2)).readable =
            buf.readable.drop (crlf + kCRLF.length) := Buffer.readable_retrieve ..
        rcases expects with state | state
        · simp only [state, consume, ← left]
          rcases c.processRequestLine (buf.readable.take crlf) with _ | ⟨ok, c'⟩
          · rfl
          · cases ok with
            | false => rfl
            | true => exact ih (.inr rfl) _ shorter
        · simp only [state, consume, ← left]
          split
          · exact ih (.inr rfl) _ shorter
          · rfl
  rw [parseRequest, parse, Buffer.readable_length]
  exact rounds _ expects buf (Nat.lt_succ_self _)

end HttpContext

end NewFramework.Net.Http
