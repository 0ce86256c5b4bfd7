import NewFramework.Net.Http.Grammar
import NewFramework.Net.Http.HttpServer

/-!
# After a rejected request line

A rejected request line (`muduo/net/http/HttpContext.cc`) stays in the input buffer, and the context
keeps what it has read of it.  Where that is a method, the next chunk makes the parser set the
method again.  No request is made of a rejected line.
-/

namespace NewFramework.Net.Http
open NewFramework.Lib HttpContext

/-- A line that begins with a known method and a space. -/
def BeginsWithMethod (line : List UInt8) : Prop :=
  space ∈ line ∧ Method.ofText (line.takeWhile (· ≠ space)) ≠ .kInvalid

instance (line : List UInt8) : Decidable (BeginsWithMethod line) :=
  inferInstanceAs (Decidable (_ ∧ _))

/-- The method, the path and the query are those of a well-formed request line that was received. -/
def FromAccepted (received : List UInt8) (req : HttpRequest) : Prop :=
  ∃ line : RequestLine, line.text ++ kCRLF <:+: received ∧ req.method = line.request.method ∧
    req.path = line.request.path ∧ req.query = line.request.query

theorem FromAccepted.append {received : List UInt8} {req : HttpRequest}
    (accepted : FromAccepted received req) (data : List UInt8) :
    FromAccepted (received ++ data) req := by
  obtain ⟨line, inside, same⟩ := accepted
  exact ⟨line, inside.trans (List.prefix_append received data).isInfix, same⟩

namespace HttpContext

/-- What a rejected line leaves of a new context. -/
theorem processRequestLine_rejects {line : List UInt8} {c : HttpContext}
    (processed : new.processRequestLine line = some (false, c)) :
    c.state = .kExpectRequestLine ∧
      (BeginsWithMethod line ∧ c.request.method ≠ .kInvalid ∨
        ¬ BeginsWithMethod line ∧ c = new) := by
  unfold processRequestLine at processed
  cases afterFirst : line.dropWhile (· ≠ space) with
  | nil =>
    rw [afterFirst] at processed
    cases processed
    refine ⟨rfl, .inr ⟨?_, rfl⟩⟩
    intro begins
    rw [dropWhile_ne_of_mem begins.1] at afterFirst
    cases afterFirst
  | cons x afterMethod =>
    rw [afterFirst] at processed
    dsimp only at processed
    rw [HttpRequest.setMethod, if_pos (show new.request.method = .kInvalid from rfl)] at processed
    by_cases known : Method.ofText (line.takeWhile (· ≠ space)) = .kInvalid
    · rw [decide_eq_false (not_not_intro known), known] at processed
      cases processed
      exact ⟨rfl, .inr ⟨fun begins => begins.2 known, rfl⟩⟩
    · have begins : BeginsWithMethod line := by
        refine ⟨?_, known⟩
        rw [dropWhile_ne_cons afterFirst]
        simp
      rw [decide_eq_true known] at processed
      dsimp only at processed
      have read : ∀ target (r : HttpRequest), (setTarget target r).method = r.method := by
        intro target r
        unfold setTarget
        split <;> rfl
      cases afterSecond : afterMethod.dropWhile (· ≠ space) with
      | nil =>
        rw [afterSecond] at processed
        cases processed
        exact ⟨rfl, .inl ⟨begins, known⟩⟩
      | cons y text =>
        rw [afterSecond] at processed
        dsimp only at processed
        cases named : versionOf text with
        | none =>
          rw [named] at processed
          cases processed
          exact ⟨rfl, .inl ⟨begins, by rw [read]; exact known⟩⟩
        | some v =>
          rw [named] at processed
          cases processed

/-- Where a method has been read, the next one is not. -/
theorem parse_again {c : HttpContext} (state : c.state = .kExpectRequestLine)
    (read : c.request.method ≠ .kInvalid) (t : Timestamp) {line : List UInt8}
    (oneLine : ¬ kCRLF <:+: line) (mem : space ∈ line) (rest : List UInt8) :
    parse kCRLF (consume t) c (line ++ 13 :: 10 :: rest) =
      ⟨some (.error .assertion), c, line ++ 13 :: 10 :: rest⟩ := by
  have processed : c.processRequestLine line = none := by
    unfold processRequestLine
    rw [dropWhile_ne_of_mem mem]
    dsimp only
    rw [HttpRequest.setMethod, if_neg read]
  have verdict : c.consume t line = .stop (.error .assertion) c false := by
    unfold HttpContext.consume
    rw [state, processed]
  rw [kCRLF, parse_pair cr_ne_lf c oneLine, verdict]
  rfl

/-- The header lines leave alone what the request line has set. -/
theorem parse_headers {P : HttpRequest → Prop}
    (keeps : ∀ field value q, P q → P (q.addHeader field value)) {q : HttpRequest} (holds : P q)
    (t : Timestamp) (input : List UInt8) :
    (parse kCRLF (consume t) ⟨.kExpectHeaders, q⟩ input).Keeps
      (fun c => c.state = .kExpectHeaders ∧ P c.request)
      (fun result c => result = .ok true ∧ c.gotAll ∧ P c.request) := by
  refine parse_keeps ?_ ⟨rfl, holds⟩ input
  intro c line inv
  obtain ⟨state, holds⟩ := inv
  unfold HttpContext.consume
  rw [state]
  dsimp only
  split
  · exact ⟨rfl, keeps _ _ _ holds⟩
  · exact ⟨rfl, rfl, holds⟩

end HttpContext

/-! ## The connection -/

namespace HttpConn

variable {γ : Type*} {callback : HttpCallback γ}

/-- The parser has not failed, and the requests are those that were accepted. -/
def Guarded (c : HttpConn γ) : Prop :=
  c.fault = none ∧ ∀ req ∈ c.requests, FromAccepted c.received req

/-- A request line was answered with 400 that begins with a known method and a space. -/
def HalfRead (c : HttpConn γ) : Prop := ∃ line ∈ c.rejected, BeginsWithMethod line

instance (c : HttpConn γ) : Decidable c.HalfRead := inferInstanceAs (Decidable (∃ _ ∈ _, _))

/-- Where the parser is between two chunks. -/
inductive Phase (c : HttpConn γ) : Prop where
  | fresh (context : c.context = .new) (read : ¬ c.HalfRead)
  | headers (state : c.context.state = .kExpectHeaders) (read : ¬ c.HalfRead)
      (accepted : FromAccepted c.received c.context.request)
  | stuck (state : c.context.state = .kExpectRequestLine) (read : c.HalfRead)
      (method : c.context.request.method ≠ .kInvalid) (line rest : List UInt8)
      (buffer : c.conn.inputBuffer.readable = line ++ 13 :: 10 :: rest)
      (oneLine : ¬ kCRLF <:+: line) (mem : space ∈ line)

structure Tracks (c : HttpConn γ) : Prop where
  guarded : c.Guarded
  unread : c.conn.inputBuffer.readable <:+ c.received
  phase : c.Phase

theorem firstLine_eq {buf : Buffer} {line rest : List UInt8}
    (split : buf.readable = line ++ 13 :: 10 :: rest) (oneLine : ¬ kCRLF <:+: line) :
    firstLine buf = line := by
  rw [firstLine, Buffer.findCRLF, split, kCRLF, search_pair cr_ne_lf oneLine]
  exact List.take_left

theorem tracks_new (s : γ) : (new s).Tracks where
  guarded := ⟨rfl, nofun⟩
  unread := by simp [new, TcpConnection.connectEstablished, TcpConnection.push,
    TcpConnection.mapChannel, TcpConnection.setState, TcpConnection.new]
  phase := .fresh rfl (by simp [HalfRead, new])

/-- A call that goes on in the header lines. -/
theorem tracks_headers {c : HttpConn γ} (guarded : c.Guarded)
    (unread : c.conn.inputBuffer.readable <:+ c.received) (read : ¬ c.HalfRead)
    (expects : c.context.ExpectsLine) {k : KernelWrite} {t : Timestamp} {q : HttpRequest}
    {input : List UInt8} (accepted : FromAccepted c.received q)
    (goes : parse kCRLF (HttpContext.consume t) c.context c.conn.inputBuffer.readable =
      parse kCRLF (HttpContext.consume t) ⟨.kExpectHeaders, q⟩ input) :
    (c.onMessage callback k t).Tracks := by
  have kept := parse_headers (P := FromAccepted c.received) (fun _ _ _ holds => holds) accepted t
    input
  have left : (parse kCRLF (HttpContext.consume t) c.context c.conn.inputBuffer.readable).rest <:+
      c.conn.inputBuffer.readable := parse_rest_suffix ..
  rw [← goes] at kept
  rcases parsed : parse kCRLF (HttpContext.consume t) c.context c.conn.inputBuffer.readable with
    ⟨_ | result, context, rest⟩ <;> rw [parsed] at kept left
  · obtain ⟨state, holds⟩ := kept
    obtain ⟨buf, rfl, called⟩ := onMessage_waits callback k expects parsed (.inr state)
    rw [called]
    exact ⟨guarded, left.trans unread, .headers state read holds⟩
  · obtain ⟨rfl, gotAll, holds⟩ := kept
    obtain ⟨buf, rfl, called⟩ := onMessage_request callback k expects parsed gotAll
    rw [called, onRequest_same]
    refine ⟨⟨guarded.1, ?_⟩, ?_, .fresh rfl read⟩
    · intro req mem
      rcases List.mem_append.mp mem with old | new
      · exact guarded.2 req old
      · rw [List.mem_singleton.mp new]
        exact holds
    · dsimp only
      rw [(onRequest_conn ..).1]
      exact left.trans unread

theorem halfRead_reject {c : HttpConn γ} (context : HttpContext) (buf : Buffer) (k : KernelWrite) :
    ((c.parsed context buf).reject k).HalfRead ↔ c.HalfRead ∨ BeginsWithMethod (firstLine buf) := by
  rw [reject_same]
  constructor
  · rintro ⟨line, mem, begins⟩
    rcases List.mem_append.mp mem with old | new
    · exact .inl ⟨line, old, begins⟩
    · exact .inr (List.mem_singleton.mp new ▸ begins)
  · rintro (⟨line, mem, begins⟩ | begins)
    · exact ⟨line, List.mem_append_left _ mem, begins⟩
    · exact ⟨firstLine buf, List.mem_append_right _ (List.mem_singleton_self _), begins⟩

/-- A call that rejects the request line. -/
theorem tracks_rejects {c : HttpConn γ} (guarded : c.Guarded)
    (unread : c.conn.inputBuffer.readable <:+ c.received) (read : ¬ c.HalfRead) {buf : Buffer}
    {context : HttpContext} {line rest : List UInt8}
    (same : buf.readable = c.conn.inputBuffer.readable)
    (split : buf.readable = line ++ 13 :: 10 :: rest) (oneLine : ¬ kCRLF <:+: line)
    (processed : HttpContext.new.processRequestLine line = some (false, context))
    (k : KernelWrite) : ((c.parsed context buf).reject k).Tracks := by
  have input : ((c.parsed context buf).reject k).conn.inputBuffer = buf := (reject_conn ..).1
  have half := halfRead_reject (c := c) context buf k
  rw [or_iff_right read, firstLine_eq split oneLine] at half
  refine ⟨guarded, ?_, ?_⟩
  · rw [input, same]
    exact unread
  obtain ⟨state, ⟨begins, method⟩ | ⟨other, rfl⟩⟩ := processRequestLine_rejects processed
  · exact .stuck state (half.mpr begins) method line rest (by rw [input, split]) oneLine begins.1
  · exact .fresh rfl (half.not.mpr other)

theorem Tracks.receive {c : HttpConn γ} (tracks : c.Tracks) (read : ¬ c.HalfRead) (chunk : Chunk) :
    (c.receive callback chunk).Tracks := by
  have guarded : (c.readFd chunk).Guarded :=
    ⟨tracks.guarded.1, fun req mem => (tracks.guarded.2 req mem).append chunk.data⟩
  have unread : (c.readFd chunk).conn.inputBuffer.readable <:+ (c.readFd chunk).received := by
    obtain ⟨before, eq⟩ := tracks.unread
    rw [readable_readFd]
    exact ⟨before, by rw [← List.append_assoc, eq]; rfl⟩
  have read' : ¬ (c.readFd chunk).HalfRead := read
  cases tracks.phase with
  | stuck _ half => exact absurd half read
  | headers state _ accepted =>
    have expects : (c.readFd chunk).context.ExpectsLine := .inr state
    have here : (c.readFd chunk).context = ⟨.kExpectHeaders, c.context.request⟩ := by
      rw [← state]
      rfl
    exact tracks_headers guarded unread read' expects (accepted.append chunk.data)
      (congrArg (parse _ _ · _) here)
  | fresh context =>
    have fresh : (c.readFd chunk).context = .new := context
    have expects : (c.readFd chunk).context.ExpectsLine := fresh ▸ expectsLine_new
    have cases := parse_new chunk.receiveTime (c.readFd chunk).conn.inputBuffer.readable
    rw [← fresh] at cases
    rcases cases with waits | ⟨r, rest, split, goes⟩ |
      ⟨line, rest, context', split, oneLine, processed, rejects⟩
    · obtain ⟨buf, same, called⟩ := onMessage_waits callback chunk.write expects waits expects
      unfold HttpConn.receive
      rw [called]
      exact ⟨guarded, same ▸ unread, .fresh fresh read'⟩
    · have accepted : FromAccepted (c.readFd chunk).received
          { r.request with receiveTime := chunk.receiveTime } := by
        have inside : r.text ++ kCRLF <:+: (c.readFd chunk).conn.inputBuffer.readable := by
          rw [split]
          exact ⟨[], rest, by simp [kCRLF]⟩
        exact ⟨r, inside.trans unread.isInfix, rfl, rfl, rfl⟩
      exact tracks_headers guarded unread read' expects accepted goes
    · rw [fresh] at processed
      have state := (processRequestLine_rejects processed).1
      obtain ⟨buf, same, called⟩ := onMessage_rejects callback chunk.write expects rejects
        state
      unfold HttpConn.receive
      rw [called]
      exact tracks_rejects guarded unread read' same (same.trans split) oneLine processed _

/-- The next chunk after a half-read line. -/
theorem receive_halfRead {c : HttpConn γ} (tracks : c.Tracks) (read : c.HalfRead) (chunk : Chunk) :
    (c.receive callback chunk).fault = some .assertion := by
  cases tracks.phase with
  | fresh _ unread => exact absurd read unread
  | headers _ unread => exact absurd read unread
  | stuck state _ method line rest buffer oneLine mem =>
    have again : parse kCRLF _ (c.readFd chunk).context _ = _ :=
      parse_again state method chunk.receiveTime oneLine mem (rest ++ chunk.data)
    have split : line ++ 13 :: 10 :: (rest ++ chunk.data) =
        (c.readFd chunk).conn.inputBuffer.readable := by
      rw [readable_readFd, buffer]
      simp
    rw [split] at again
    have expects : (c.readFd chunk).context.ExpectsLine := .inl state
    unfold HttpConn.receive
    rw [onMessage_fault callback chunk.write expects again]

/-- The parser's assertion holds in every call, and no request is made of a rejected line, exactly
where no chunk arrives after a rejected line that begins with a known method and a space. -/
theorem always_guarded_iff (callback : HttpCallback γ) (s : γ) (chunks : List Chunk) :
    Always (step callback) Guarded (new s) chunks ↔
      EachStep (step callback) (fun c _ _ => ¬ c.HalfRead) (new s) chunks := by
  have keeps : ∀ c chunk c', Tracks c → ¬ c.HalfRead → step callback c chunk = some c' →
      Tracks c' ∧ c'.Guarded := by
    intro c chunk c' tracks read moved
    obtain ⟨-, rfl⟩ := some_of_guard moved
    have tracks' : (c.receive callback chunk).Tracks := tracks.receive read chunk
    exact ⟨tracks', tracks'.guarded⟩
  have only : ∀ c chunk c', Tracks c → step callback c chunk = some c' → c'.Guarded →
      ¬ c.HalfRead := by
    intro c chunk c' tracks moved guarded read
    obtain ⟨-, rfl⟩ := some_of_guard moved
    exact absurd (guarded.1.symm.trans (receive_halfRead tracks read chunk)) nofun
  have exact_steps : EachStep (step callback) (fun _ _ c => c.Guarded) (new s) chunks ↔ _ :=
    EachStep.iff_of_invariant keeps only (tracks_new s)
  exact ⟨fun always => exact_steps.mp always.2,
    fun run => ⟨(tracks_new s).guarded, exact_steps.mpr run⟩⟩

theorem not_halfRead_new (s : γ) : ¬ (new s).HalfRead := by simp [HalfRead, new]

/-- A line whose method is known and whose version is missing. -/
def badLine : Chunk := ⟨0, ascii "GET /bad\r\n\r\n", by decide, ⟨some 100, .eagain⟩⟩

/-- It is sent twice. -/
theorem not_always_guarded_badLine :
    ¬ Always (step defaultHttpCallback) Guarded (new ()) [badLine, badLine] := by
  intro always
  have tracks : ((new ()).receive defaultHttpCallback badLine).Tracks :=
    (tracks_new ()).receive (not_halfRead_new ()) badLine
  have read : ((new ()).receive defaultHttpCallback badLine).HalfRead := by decide +kernel
  have first : step defaultHttpCallback (new ()) badLine = some _ := if_pos rfl
  have second : step defaultHttpCallback _ badLine = some _ := if_pos tracks.guarded.1
  have guarded := ((always.2 _ first).2 _ second).1
  exact absurd (guarded.1.symm.trans (receive_halfRead tracks read badLine)) nofun

end HttpConn

end NewFramework.Net.Http
