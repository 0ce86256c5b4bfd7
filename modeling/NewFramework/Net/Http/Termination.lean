import NewFramework.Lib.Loop
import NewFramework.Lib.Run
import NewFramework.Net.Http.HttpContext

/-!
# When `parseRequest` ends

The `while (hasMore)` of `parseRequest` (`muduo/net/http/HttpContext.cc`) has no branch for
`kGotAll` and an empty one for `kExpectBody`: in these states a round changes nothing.  A context
that has got all is in the first of them until it is reset; no context gets into the second.
-/

namespace NewFramework.Net.Http

open NewFramework.Lib

namespace HttpContext

/-- What `parseRequest` returns: the result, the context and the buffer, or a failed assertion. -/
abbrev Returned := Except Fault (Bool × HttpContext × Buffer)

/-- One round of `while (hasMore)`. -/
def parseRound (receiveTime : Timestamp) : HttpContext × Buffer → (HttpContext × Buffer) ⊕ Returned
  | (c, buf) =>
    match c.state with
    | .kExpectRequestLine =>
      match buf.findCRLF with
      | none => .inr (.ok (true, c, buf))
      | some crlf =>
        match c.processRequestLine (buf.readable.take crlf) with
        | none => .inr (.error .assertion)
        | some (false, c) => .inr (.ok (false, c, buf))
        | some (true, c) =>
          .inl ({ state := .kExpectHeaders, request := c.request.setReceiveTime receiveTime },
            buf.retrieveUntil (crlf + 2))
    | .kExpectHeaders =>
      match buf.findCRLF with
      | none => .inr (.ok (true, c, buf))
      | some crlf =>
        let line := buf.readable.take crlf
        if colon ∈ line then
          .inl ({ c with request :=
            c.request.addHeader (line.takeWhile (· ≠ colon)) (line.dropWhile (· ≠ colon)).tail },
            buf.retrieveUntil (crlf + 2))
        else .inr (.ok (true, { c with state := .kGotAll }, buf.retrieveUntil (crlf + 2)))
    | .kExpectBody | .kGotAll => .inl (c, buf)

/-- The calls on a context. -/
inductive ContextCall where
  | parseRequest (receiveTime : Timestamp) (buf : Buffer)
  | reset

/-- A call that returns. -/
def step (c : HttpContext) : ContextCall → Option HttpContext
  | .parseRequest receiveTime buf =>
    match c.parseRequest receiveTime buf with
    | .ok (_, c, _) => some c
    | .error _ => none
  | .reset => some new

variable {t : Timestamp} {c : HttpContext} {buf : Buffer}

/-! ## One round -/

/-- In a state that has no branch, or an empty one, a round changes nothing. -/
theorem parseRound_stuck (stuck : ¬c.ExpectsLine) : parseRound t (c, buf) = .inl (c, buf) := by
  cases state : c.state with
  | kExpectRequestLine => exact absurd (.inl state) stuck
  | kExpectHeaders => exact absurd (.inr state) stuck
  | kExpectBody => simp only [parseRound, state]
  | kGotAll => simp only [parseRound, state]

/-- Where a round goes on, it has taken a line and headers are next. -/
theorem parseRound_next {next : HttpContext × Buffer} (expects : c.ExpectsLine)
    (round : parseRound t (c, buf) = .inl next) :
    next.1.state = .kExpectHeaders ∧ next.2.readableBytes < buf.readableBytes := by
  unfold parseRound Buffer.findCRLF at round
  cases found : search kCRLF buf.readable with
  | none => rcases expects with state | state <;> simp [state, found] at round
  | some crlf =>
    have fits : crlf + 2 ≤ buf.readableBytes := buf.readable_length ▸ search_le found
    have shorter : (buf.retrieveUntil (crlf + 2)).readableBytes < buf.readableBytes := by
      rw [Buffer.retrieveUntil, Buffer.readableBytes_retrieve]
      omega
    rcases expects with state | state
    · simp only [state, found] at round
      rcases processed : c.processRequestLine (buf.readable.take crlf) with _ | ⟨ok, c'⟩
      · simp [processed] at round
      · cases ok with
        | false => simp [processed] at round
        | true =>
          simp only [processed, Sum.inl.injEq] at round
          subst round
          exact ⟨rfl, shorter⟩
    · simp only [state, found] at round
      split at round
      · rw [← Sum.inl.inj round]
        exact ⟨rfl, shorter⟩
      · simp at round

/-- A request line does not change the state by itself. -/
theorem state_processRequestLine {line : List UInt8} {ok : Bool} {c' : HttpContext}
    (processed : c.processRequestLine line = some (ok, c')) : c'.state = c.state := by
  unfold processRequestLine at processed
  split at processed
  · cases processed
    rfl
  · split at processed
    · contradiction
    · cases processed
      rfl
    · split at processed
      · cases processed
        rfl
      · dsimp only at processed
        split at processed
        · cases processed
          rfl
        · cases processed
          rfl

/-- Where a round ends the loop, no context waits for a body. -/
theorem parseRound_done {ok : Bool} {c' : HttpContext} {buf' : Buffer} (expects : c.ExpectsLine)
    (round : parseRound t (c, buf) = .inr (.ok (ok, c', buf'))) : c'.state ≠ .kExpectBody := by
  have waiting : c.state ≠ .kExpectBody := by
    rcases expects with state | state <;> rw [state] <;> decide
  unfold parseRound at round
  cases found : buf.findCRLF with
  | none =>
    rcases expects with state | state <;>
      simp only [state, found, Sum.inr.injEq, Except.ok.injEq, Prod.mk.injEq] at round <;>
      exact round.2.1 ▸ waiting
  | some crlf =>
    rcases expects with state | state
    · simp only [state, found] at round
      rcases processed : c.processRequestLine (buf.readable.take crlf) with _ | ⟨ok, c''⟩
      · simp [processed] at round
      · cases ok with
        | true => simp [processed] at round
        | false =>
          simp only [processed, Sum.inr.injEq, Except.ok.injEq, Prod.mk.injEq] at round
          rw [← round.2.1, state_processRequestLine processed]
          exact waiting
    · simp only [state, found] at round
      split at round
      · simp at round
      · simp only [Sum.inr.injEq, Except.ok.injEq, Prod.mk.injEq] at round
        rw [← round.2.1]
        simp

/-- A round is a round of `parseLoop`. -/
theorem parseLoop_succ (expects : c.ExpectsLine) (n : Nat) :
    parseLoop t (n + 1) c buf =
      match parseRound t (c, buf) with
      | .inl next => parseLoop t n next.1 next.2
      | .inr r => r := by
  rw [parseLoop, parseRound]
  cases buf.findCRLF with
  | none => rcases expects with state | state <;> simp only [state]
  | some crlf =>
    rcases expects with state | state
    · simp only [state]
      rcases c.processRequestLine (buf.readable.take crlf) with _ | ⟨ok, c'⟩
      · rfl
      · cases ok <;> rfl
    · simp only [state]
      split <;> rfl

/-! ## The loop -/

/-- The loop that has fewer than `n` bytes before it ends within `n` rounds, with what `parseLoop`
returns. -/
theorem rounds_eq_parseLoop {n : Nat} (expects : c.ExpectsLine) (enough : buf.readableBytes < n) :
    rounds (parseRound t) n (c, buf) = some (parseLoop t n c buf) := by
  induction n generalizing c buf with
  | zero => contradiction
  | succ n ih =>
    rw [parseLoop_succ expects, rounds]
    cases round : parseRound t (c, buf) with
    | inl next =>
      obtain ⟨state, shorter⟩ := parseRound_next expects round
      exact ih (.inr state) (by omega)
    | inr r => rfl

/-- The loop ends exactly in the states that look at the buffer. -/
theorem ends_iff_expectsLine : Ends (parseRound t) (c, buf) ↔ c.ExpectsLine := by
  constructor
  · intro ends
    by_contra stuck
    exact not_ends_of_stuck (parseRound_stuck stuck) ends
  · intro expects
    -- every further round has taken a line from the buffer
    have lowers : ∀ s s' : HttpContext × Buffer, s.1.ExpectsLine → parseRound t s = .inl s' →
        s'.1.ExpectsLine ∧ s'.2.readableBytes < s.2.readableBytes := by
      intro s s' expects round
      obtain ⟨state, shorter⟩ := parseRound_next expects round
      exact ⟨.inr state, shorter⟩
    exact ends_of_measure (fun s => s.2.readableBytes) lowers expects

/-- Where the loop ends, `parseRequest` returns what it ends with. -/
theorem rounds_eq_parseRequest {n : Nat} {r : Returned}
    (ended : rounds (parseRound t) n (c, buf) = some r) : c.parseRequest t buf = r := by
  have expects : c.ExpectsLine := ends_iff_expectsLine.mp ⟨n, by rw [ended]; rfl⟩
  exact rounds_unique (rounds_eq_parseLoop expects (Nat.lt_succ_self _)) ended

/-- A call that returns leaves no context waiting for a body. -/
theorem parseLoop_state {n : Nat} {ok : Bool} {c' : HttpContext} {buf' : Buffer}
    (expects : c.ExpectsLine) (returned : parseLoop t n c buf = .ok (ok, c', buf')) :
    c'.state ≠ .kExpectBody := by
  induction n generalizing c buf with
  | zero => simp [parseLoop] at returned
  | succ n ih =>
    rw [parseLoop_succ expects] at returned
    cases round : parseRound t (c, buf) with
    | inl next =>
      rw [round] at returned
      exact ih (.inr (parseRound_next expects round).1) returned
    | inr r =>
      rw [round] at returned
      obtain rfl : r = .ok (ok, c', buf') := returned
      exact parseRound_done expects round

/-- No context gets to wait for a body. -/
theorem state_step {c' : HttpContext} {call : ContextCall} (inv : c.state ≠ .kExpectBody)
    (moved : c.step call = some c') : c'.state ≠ .kExpectBody := by
  cases call with
  | reset =>
    obtain rfl := Option.some.inj moved
    simp [new]
  | parseRequest t buf =>
    simp only [step] at moved
    cases returned : c.parseRequest t buf with
    | error fault =>
      rw [returned] at moved
      contradiction
    | ok result =>
      obtain ⟨ok, c'', buf'⟩ := result
      rw [returned] at moved
      obtain rfl := Option.some.inj moved
      have expects : c.ExpectsLine := by
        by_contra stuck
        cases state : c.state with
        | kExpectRequestLine => exact stuck (.inl state)
        | kExpectHeaders => exact stuck (.inr state)
        | kExpectBody => exact inv state
        | kGotAll => simp [parseRequest, parseLoop, state] at returned
      exact parseLoop_state expects returned

/-- In every state that calls of `parseRequest` and `reset` lead to, with whatever buffers, the
loop of the next `parseRequest` ends iff the context has not got all; it then ends whatever its
buffer holds. -/
theorem always_ends_iff (calls : List ContextCall) :
    Always step (fun c => ∀ t buf, Ends (parseRound t) (c, buf) ↔ ¬c.gotAll) new calls := by
  have keeps : ∀ c call c', c.state ≠ .kExpectBody → True → step c call = some c' →
      c'.state ≠ .kExpectBody := fun _ _ _ inv _ moved => state_step inv moved
  have ends : ∀ c : HttpContext, c.state ≠ .kExpectBody →
      ∀ t buf, Ends (parseRound t) (c, buf) ↔ ¬c.gotAll := by
    intro c inv t buf
    rw [ends_iff_expectsLine]
    cases state : c.state with
    | kExpectRequestLine => simp [ExpectsLine, gotAll, state]
    | kExpectHeaders => simp [ExpectsLine, gotAll, state]
    | kExpectBody => exact absurd state inv
    | kGotAll => simp [ExpectsLine, gotAll, state]
  exact Always.of_invariant keeps ends (by simp [new]) (EachStep.trivial _ _)

/-- The buffer of a new connection with a request in it. -/
def requestBuffer : Buffer := (Buffer.ofSize kInitialSize).append (ascii "GET / HTTP/1.1\r\n\r\n")

/-- A whole request has been parsed, and `parseRequest` is called once more without `reset`. -/
theorem not_always_ends :
    ¬Always step (fun c => ∀ t buf, Ends (parseRound t) (c, buf)) new
      [.parseRequest 0 requestBuffer] := by
  intro always
  have parsed : (step new (.parseRequest 0 requestBuffer)).map (·.state) = some .kGotAll := by
    decide +kernel
  obtain ⟨c, moved, state⟩ := Option.map_eq_some_iff.mp parsed
  have expects := ends_iff_expectsLine.mp ((always.2 c moved).1 0 requestBuffer)
  simp [ExpectsLine, state] at expects

end HttpContext

end NewFramework.Net.Http
