import NewFramework.Net.Http.HttpContext

/-!
# A request that arrives in pieces

For `parseRequest` of `muduo/net/http/HttpContext.cc` the time of the call is the only thing of a
request that depends on which call took a line.
-/

namespace NewFramework.Net.Http
open NewFramework.Lib

def HttpRequest.untimed (r : HttpRequest) : HttpRequest := { r with receiveTime := 0 }

namespace HttpContext

/-- The context but for the receive time. -/
def untimed (c : HttpContext) : HttpContext := { c with request := c.request.untimed }

/-- A request line is expected by a context that has not looked at one. -/
structure Ready (c : HttpContext) : Prop where
  expects : c.ExpectsLine
  unread : c.state = .kExpectRequestLine → c.request.method = .kInvalid

theorem ready_new : new.Ready := ⟨.inl rfl, fun _ => rfl⟩

theorem setMethod_untimed (m : List UInt8) (r : HttpRequest) :
    r.untimed.setMethod m = (r.setMethod m).map fun (ok, r) => (ok, r.untimed) := by
  have method : r.untimed.method = r.method := rfl
  unfold HttpRequest.setMethod
  rw [method]
  split <;> rfl

theorem setTarget_untimed (target : List UInt8) (r : HttpRequest) :
    setTarget target r.untimed = (setTarget target r).untimed := by
  unfold setTarget
  split <;> rfl

theorem processRequestLine_untimed (line : List UInt8) (c : HttpContext) :
    c.untimed.processRequestLine line =
      (c.processRequestLine line).map fun (ok, c) => (ok, c.untimed) := by
  have request : c.untimed.request = c.request.untimed := rfl
  unfold processRequestLine
  rw [request]
  cases line.dropWhile (· ≠ space) with
  | nil => rfl
  | cons _ afterMethod =>
    dsimp only
    rw [setMethod_untimed]
    rcases c.request.setMethod (line.takeWhile (· ≠ space)) with _ | ⟨ok, r⟩
    · rfl
    cases ok with
    | false => rfl
    | true =>
      dsimp only [Option.map_some]
      cases afterMethod.dropWhile (· ≠ space) with
      | nil => rfl
      | cons _ text =>
        dsimp only
        rw [setTarget_untimed]
        cases versionOf text <;> rfl

theorem consume_untimed (t : Timestamp) (c : HttpContext) (line : List UInt8) :
    consume 0 c.untimed line = (consume t c line).map untimed := by
  have state : c.untimed.state = c.state := rfl
  unfold consume
  rw [state, processRequestLine_untimed]
  cases c.state with
  | kExpectRequestLine =>
    rcases c.processRequestLine line with _ | ⟨ok, c'⟩
    · rfl
    · cases ok <;> rfl
  | kExpectHeaders =>
    dsimp only
    split <;> rfl
  | kExpectBody | kGotAll => rfl

/-! ## A call -/

theorem processRequestLine_state (line : List UInt8) {c : HttpContext}
    (unread : c.request.method = .kInvalid) :
    ∃ ok c', c.processRequestLine line = some (ok, c') ∧ c'.state = c.state := by
  unfold processRequestLine HttpRequest.setMethod
  rw [if_pos unread]
  cases line.dropWhile (· ≠ space) with
  | nil => exact ⟨_, _, rfl, rfl⟩
  | cons _ afterMethod =>
    dsimp only
    cases decide (Method.ofText (line.takeWhile (· ≠ space)) ≠ .kInvalid) with
    | false => exact ⟨_, _, rfl, rfl⟩
    | true =>
      dsimp only
      cases afterMethod.dropWhile (· ≠ space) with
      | nil => exact ⟨_, _, rfl, rfl⟩
      | cons _ text =>
        dsimp only
        cases versionOf text <;> exact ⟨_, _, rfl, rfl⟩

/-- How a parser stops that was ready: it has got everything, or rejected a request line. -/
def Stopped (result : Except Fault Bool) (c : HttpContext) : Prop :=
  result = .ok true ∧ c.state = .kGotAll ∨ result = .ok false ∧ c.state = .kExpectRequestLine

theorem Ready.consume {c : HttpContext} (ready : c.Ready) (t : Timestamp) (line : List UInt8) :
    (c.consume t line).Keeps Ready Stopped := by
  unfold HttpContext.consume
  rcases ready.expects with state | state
  · obtain ⟨ok, c', processed, same⟩ := processRequestLine_state line (ready.unread state)
    simp only [state, processed]
    cases ok with
    | false => exact .inr ⟨rfl, same.trans state⟩
    | true => exact ⟨.inr rfl, nofun⟩
  · simp only [state]
    split
    · exact ⟨.inr rfl, nofun⟩
    · exact .inl ⟨rfl, rfl⟩

/-- The result of a call, where it ends the request. -/
def ends (ok : Bool) (c : HttpContext) : Option (Except Fault Bool) :=
  if ok = false ∨ c.gotAll then some (.ok ok) else none

theorem onBytes_eq_ok {called : Except Fault (Bool × HttpContext × Buffer)} {ok : Bool}
    {c : HttpContext} {rest : List UInt8} (eq : onBytes called = .ok (ok, c, rest)) :
    ∃ buf, called = .ok (ok, c, buf) ∧ buf.readable = rest := by
  cases called with
  | error => contradiction
  | ok result =>
    obtain ⟨ok', c', buf⟩ := result
    simp only [onBytes, Except.map, Except.ok.injEq, Prod.mk.injEq] at eq
    obtain ⟨rfl, rfl, left⟩ := eq
    exact ⟨buf, rfl, left⟩

/-- A call on a context that is ready returns, and but for the time does what the parser does. -/
theorem Ready.parseRequest {c : HttpContext} (ready : c.Ready) (t : Timestamp) (buf : Buffer) :
    ∃ ok c' buf', c.parseRequest t buf = .ok (ok, c', buf') ∧
      parse kCRLF (HttpContext.consume 0) c.untimed buf.readable =
        ⟨ends ok c', c'.untimed, buf'.readable⟩ ∧
      (ends ok c' = none → c'.Ready) := by
  have called := parseRequest_eq t ready.expects buf
  have kept : (parse kCRLF (HttpContext.consume t) c buf.readable).Keeps Ready Stopped :=
    parse_keeps (fun _ line ready => Ready.consume ready t line) ready buf.readable
  rw [parse_map (consume_untimed t)]
  rcases parsed : parse kCRLF (HttpContext.consume t) c buf.readable with ⟨_ | result, c', rest⟩ <;>
    rw [parsed] at called kept
  · obtain ⟨buf', returned, rfl⟩ := onBytes_eq_ok called
    have waits : ends true c' = none := by
      rcases Ready.expects kept with state | state <;> simp [ends, gotAll, state]
    exact ⟨true, c', buf', returned, by rw [waits]; rfl, fun _ => kept⟩
  · rcases kept with ⟨rfl, state⟩ | ⟨rfl, state⟩
    · obtain ⟨buf', returned, rfl⟩ := onBytes_eq_ok called
      have stops : ends true c' = some (.ok true) := if_pos (.inr state)
      exact ⟨true, c', buf', returned, by rw [stops]; rfl, by rw [stops]; nofun⟩
    · obtain ⟨buf', returned, rfl⟩ := onBytes_eq_ok called
      have stops : ends false c' = some (.ok false) := if_pos (.inl rfl)
      exact ⟨false, c', buf', returned, by rw [stops]; rfl, by rw [stops]; nofun⟩

/-! ## Chunks -/

/-- The chunks are appended one by one and `parseRequest` is called after each, up to the first
call that fails or leaves the context in `kGotAll`; with the chunks that are left. -/
def parseInChunks (c : HttpContext) (buf : Buffer) :
    List (Timestamp × List UInt8) → Except Fault (Bool × HttpContext × Buffer × List (List UInt8))
  | [] => .ok (true, c, buf, [])
  | (t, chunk) :: chunks =>
    match c.parseRequest t (buf.append chunk) with
    | .error fault => .error fault
    | .ok (ok, c', buf') =>
      if ok = false ∨ c'.gotAll then .ok (ok, c', buf', chunks.map Prod.snd)
      else parseInChunks c' buf' chunks

theorem Ready.parseInChunks {c : HttpContext} (ready : c.Ready) (buf : Buffer)
    (chunks : List (Timestamp × List UInt8)) :
    ∃ ok c' buf' left, c.parseInChunks buf chunks = .ok (ok, c', buf', left) ∧
      parseChunks kCRLF (HttpContext.consume 0) c.untimed buf.readable (chunks.map Prod.snd) =
        (⟨ends ok c', c'.untimed, buf'.readable⟩, left) := by
  induction chunks generalizing c buf with
  | nil =>
    have waits : ends true c = none := by
      rcases ready.expects with state | state <;> simp [ends, gotAll, state]
    exact ⟨true, c, buf, [], rfl, by rw [waits]; rfl⟩
  | cons first chunks ih =>
    obtain ⟨t, chunk⟩ := first
    obtain ⟨ok, c', buf', returned, parsed, still⟩ := ready.parseRequest t (buf.append chunk)
    rw [Buffer.readable_append] at parsed
    unfold HttpContext.parseInChunks
    rw [List.map_cons, parseChunks, returned, parsed]
    dsimp only
    split
    · next stops =>
      have stops : ends ok c' = some (.ok ok) := if_pos stops
      exact ⟨ok, c', buf', _, rfl, by rw [stops]⟩
    · next waits =>
      have waits : ends ok c' = none := if_neg waits
      rw [waits]
      exact ih (still waits) buf'

theorem ends_inj {ok ok' : Bool} {c c' : HttpContext} (same : ends ok c = ends ok' c') :
    ok = ok' := by
  unfold ends at same
  split at same <;> split at same
  · exact Except.ok.inj (Option.some.inj same)
  · contradiction
  · contradiction
  · next left right =>
    have := (not_or.mp left).1
    have := (not_or.mp right).1
    simp_all

/-- However a request is cut into chunks, parsing it as it arrives does what one call does: with
the same verdict, the same context but for the receive time, and the same bytes left. -/
theorem parseInChunks_eq_parseRequest (initialSize initialSize' : Nat) (t : Timestamp)
    (chunks : List (Timestamp × List UInt8)) :
    ∃ ok c c' buf buf' left,
      new.parseInChunks (.ofSize initialSize) chunks = .ok (ok, c, buf, left) ∧
      new.parseRequest t ((Buffer.ofSize initialSize').append (chunks.map Prod.snd).flatten) =
        .ok (ok, c', buf') ∧
      c.untimed = c'.untimed ∧ buf.readable ++ left.flatten = buf'.readable := by
  obtain ⟨ok, c, buf, left, returned, parsed⟩ :=
    ready_new.parseInChunks (.ofSize initialSize) chunks
  obtain ⟨ok', c', buf', returned', parsed', -⟩ := ready_new.parseRequest t
    ((Buffer.ofSize initialSize').append (chunks.map Prod.snd).flatten)
  have whole := parseChunks_eq (by decide) (by simp [search, kCRLF]) parsed
  rw [Buffer.readable_ofSize, List.nil_append] at whole
  rw [Buffer.readable_append, Buffer.readable_ofSize, List.nil_append, whole] at parsed'
  obtain ⟨result, state, rest⟩ := Parsed.mk.inj parsed'
  obtain rfl := ends_inj result
  exact ⟨ok, c, c', buf, buf', left, returned, returned', state, rest⟩

end HttpContext

end NewFramework.Net.Http
