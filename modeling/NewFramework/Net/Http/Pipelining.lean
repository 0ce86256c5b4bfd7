import NewFramework.Net.Http.RejectedLine

/-!
# How the stream is cut

`messages` says what a stream asks for, as if all of it had arrived at once: the requests in it, and
behind them a rejected request line, if it is still answered.  `onMessage`
(`muduo/net/http/HttpServer.cc`) answers at most one message, however many have arrived; so the
answers to a stream depend on how many calls there were, and on nothing else.
-/

namespace NewFramework.Net.Http
open NewFramework.Lib HttpContext

/-- What the server answers. -/
inductive Item where
  | request (req : HttpRequest)
  | rejected

/-- What the callback and the peer see of a connection. -/
structure Answers (γ : Type*) where
  callbackState : γ
  connected : Bool
  requests : List HttpRequest
  sent : List (List UInt8)

namespace Answers

variable {γ : Type*} {callback : HttpCallback γ}

def start (s : γ) : Answers γ := ⟨s, true, [], []⟩

/-- A connection is shut by its first 400. -/
def reject (a : Answers γ) : Answers γ :=
  { a with
    connected := false
    sent := a.sent ++ if a.connected then [HttpConn.badRequest] else [] }

/-- The answer to one message. -/
def serve (callback : HttpCallback γ) (a : Answers γ) : Item → Answers γ
  | .request req =>
    let (s, response) := callback a.callbackState req (.new (HttpConn.closes req))
    { callbackState := s
      connected := a.connected && !response.closeConnection
      requests := a.requests ++ [req]
      sent := a.sent ++ if a.connected then [response.bytes] else [] }
  | .rejected => a.reject

theorem reject_shut {a : Answers γ} (shut : a.connected = false) : a.reject = a := by
  obtain ⟨s, connected, requests, sent⟩ := a
  obtain rfl : connected = false := shut
  simp [reject]

/-- The messages of a stream, at most `fuel` of them. -/
def messagesUpTo (callback : HttpCallback γ) : Nat → Answers γ → List UInt8 → List Item
  | 0, _, _ => []
  | fuel + 1, a, stream =>
    match parse kCRLF (consume 0) new stream with
    | ⟨some (.ok true), c, rest⟩ =>
      .request c.request :: messagesUpTo callback fuel (a.serve callback (.request c.request)) rest
    | ⟨some (.ok false), _, _⟩ => if a.connected then [.rejected] else []
    | _ => []

def messages (callback : HttpCallback γ) (a : Answers γ) (stream : List UInt8) : List Item :=
  messagesUpTo callback (stream.length + 1) a stream

theorem length_rest_lt {stream rest : List UInt8} {c : HttpContext}
    (parsed : parse kCRLF (consume 0) new stream = ⟨some (.ok true), c, rest⟩) :
    rest.length < stream.length := by
  obtain ⟨m, last, rfl, -⟩ := Message.exists_of_parse parsed
  simp [kCRLF]
  omega

theorem messagesUpTo_fuel {fuel fuel' : Nat} {stream : List UInt8} (a : Answers γ)
    (enough : stream.length < fuel) (enough' : stream.length < fuel') :
    messagesUpTo callback fuel a stream = messagesUpTo callback fuel' a stream := by
  induction fuel generalizing fuel' a stream with
  | zero => omega
  | succ fuel ih =>
    obtain ⟨fuel', rfl⟩ := Nat.exists_eq_succ_of_ne_zero (Nat.ne_of_gt (Nat.zero_lt_of_lt enough'))
    unfold messagesUpTo
    rcases parsed : parse kCRLF (consume 0) new stream with ⟨_ | _ | _ | _, c, rest⟩
    · rfl
    · rfl
    · rfl
    · have shorter := length_rest_lt parsed
      exact congrArg _ (ih _ (by omega) (by omega))

theorem messages_eq (a : Answers γ) (stream : List UInt8) :
    messages callback a stream =
      match parse kCRLF (consume 0) new stream with
      | ⟨some (.ok true), c, rest⟩ =>
        .request c.request :: messages callback (a.serve callback (.request c.request)) rest
      | ⟨some (.ok false), _, _⟩ => if a.connected then [.rejected] else []
      | _ => [] := by
  unfold messages
  rw [messagesUpTo]
  rcases parsed : parse kCRLF (consume 0) new stream with ⟨_ | _ | _ | _, c, rest⟩
  · rfl
  · rfl
  · rfl
  · have shorter := length_rest_lt parsed
    dsimp only
    rw [messagesUpTo_fuel _ shorter (Nat.lt_succ_self _)]

section

variable (a : Answers γ) {xs rest : List UInt8} {c : HttpContext}

theorem messages_waits (parsed : parse kCRLF (consume 0) new xs = ⟨none, c, rest⟩) :
    messages callback a xs = [] := by
  rw [messages_eq, parsed]

theorem messages_request (parsed : parse kCRLF (consume 0) new xs = ⟨some (.ok true), c, rest⟩)
    (ys : List UInt8) :
    messages callback a (xs ++ ys) =
      .request c.request ::
        messages callback (a.serve callback (.request c.request)) (rest ++ ys) := by
  rw [messages_eq, parse_append (by decide), parsed]

theorem messages_rejects (parsed : parse kCRLF (consume 0) new xs = ⟨some (.ok false), c, rest⟩)
    (ys : List UInt8) :
    messages callback a (xs ++ ys) = if a.connected then [.rejected] else [] := by
  rw [messages_eq, parse_append (by decide), parsed]

end

/-! ## Each message is seen -/

/-- The callback or the peer can tell how many messages were answered. -/
def weight (a : Answers γ) : Nat := a.requests.length + a.sent.length

/-- Every item but a rejected line on a shut connection is seen. -/
inductive Seen (callback : HttpCallback γ) : Answers γ → List Item → Prop where
  | nil (a : Answers γ) : Seen callback a []
  | request {a : Answers γ} {req : HttpRequest} {items : List Item}
      (later : Seen callback (a.serve callback (.request req)) items) :
      Seen callback a (.request req :: items)
  | rejected {a : Answers γ} (connected : a.connected = true) : Seen callback a [.rejected]

theorem seen_messages (a : Answers γ) (stream : List UInt8) :
    Seen callback a (messages callback a stream) := by
  induction len : stream.length using Nat.strong_induction_on generalizing a stream with
  | _ len ih =>
    subst len
    rw [messages_eq]
    rcases parsed : parse kCRLF (consume 0) new stream with ⟨_ | _ | _ | _, c, rest⟩
    · exact .nil a
    · exact .nil a
    · dsimp only
      split
      · next connected => exact .rejected connected
      · exact .nil a
    · exact .request (ih _ (length_rest_lt parsed) _ _ rfl)

theorem weight_le_serve (a : Answers γ) (item : Item) :
    a.weight ≤ (a.serve callback item).weight := by
  cases item with
  | request => simp [serve, weight]; omega
  | rejected => simp [serve, reject, weight]

theorem Seen.weight_lt {a : Answers γ} {item : Item} {items : List Item}
    (seen : Seen callback a (item :: items)) :
    a.weight < (a.serve callback item).weight ∧ Seen callback (a.serve callback item) items := by
  cases seen with
  | request later => exact ⟨by simp [serve, weight]; omega, later⟩
  | rejected connected => exact ⟨by simp [serve, reject, weight, connected], .nil _⟩

theorem weight_le_foldl (a : Answers γ) (items : List Item) :
    a.weight ≤ (items.foldl (serve callback) a).weight := by
  induction items generalizing a with
  | nil => exact Nat.le_refl _
  | cons item items ih => exact (a.weight_le_serve item).trans (ih _)

/-- The number of answers can be read off. -/
theorem Seen.eq_of_weight {a : Answers γ} {items : List Item} (seen : Seen callback a items)
    {m n : Nat} (m_le : m ≤ items.length) (n_le : n ≤ items.length)
    (same : ((items.take m).foldl (serve callback) a).weight =
      ((items.take n).foldl (serve callback) a).weight) : m = n := by
  induction items generalizing a m n with
  | nil =>
    rw [List.length_nil] at m_le n_le
    omega
  | cons item items ih =>
    obtain ⟨more, later⟩ := seen.weight_lt
    rw [List.length_cons] at m_le n_le
    cases m with
    | zero =>
      cases n with
      | zero => rfl
      | succ n =>
        have := @weight_le_foldl γ callback (a.serve callback item) (items.take n)
        simp only [List.take_succ_cons, List.foldl_cons, List.take_zero, List.foldl_nil] at same
        omega
    | succ m =>
      cases n with
      | zero =>
        have := @weight_le_foldl γ callback (a.serve callback item) (items.take m)
        simp only [List.take_succ_cons, List.foldl_cons, List.take_zero, List.foldl_nil] at same
        omega
      | succ n => rw [ih later (Nat.le_of_succ_le_succ m_le) (Nat.le_of_succ_le_succ n_le) same]

end Answers

/-! ## The connection -/

/-- The callback does not look at the time. -/
def Timeless {γ : Type*} (callback : HttpCallback γ) : Prop :=
  ∀ s req resp, callback s req.untimed resp = callback s req resp

namespace HttpConn

variable {γ : Type*} {callback : HttpCallback γ}

/-- What is seen of a connection, receive times aside. -/
def answers (c : HttpConn γ) : Answers γ where
  callbackState := c.callbackState
  connected := c.conn.state = .kConnected
  requests := c.requests.map HttpRequest.untimed
  sent := c.sent

theorem answers_onRequest (timeless : Timeless callback) (k : KernelWrite) (req : HttpRequest)
    (c : HttpConn γ) :
    (c.onRequest callback k req).answers = c.answers.serve callback (.request req.untimed) := by
  obtain ⟨-, state, given⟩ := c.onRequest_conn callback k req
  have closes : closes req.untimed = closes req := rfl
  unfold Answers.serve answers
  dsimp only
  rw [timeless, closes, given, state, onRequest_same]
  congr 1
  · by_cases connected : c.conn.state = .kConnected <;>
      cases (callback c.callbackState req (.new (HttpConn.closes req))).2.closeConnection <;>
      simp [connected]
  · simp
  · simp

theorem answers_reject (k : KernelWrite) (c : HttpConn γ) :
    (c.reject k).answers = c.answers.reject := by
  obtain ⟨-, state, given⟩ := c.reject_conn k
  unfold Answers.reject answers
  dsimp only
  rw [given, state]
  congr 1
  · by_cases connected : c.conn.state = .kConnected <;> simp [connected]
  · simp

theorem getD_step {c : HttpConn γ} (fault : c.fault = none) (chunk : Chunk) :
    (c.step callback chunk).getD c = c.receive callback chunk := by
  rw [HttpConn.step, if_pos fault]
  rfl

/-- A rejected line stays where it is. -/
inductive Stuck (c : HttpConn γ) : Prop where
  | gone (fault : c.fault ≠ none)
  | again (context : c.context = .new) (line rest : List UInt8)
      (buffer : c.conn.inputBuffer.readable = line ++ 13 :: 10 :: rest)
      (oneLine : ¬ kCRLF <:+: line)
      (processed : HttpContext.new.processRequestLine line = some (false, .new))
  | halfRead (state : c.context.state = .kExpectRequestLine)
      (method : c.context.request.method ≠ .kInvalid) (line rest : List UInt8)
      (buffer : c.conn.inputBuffer.readable = line ++ 13 :: 10 :: rest)
      (oneLine : ¬ kCRLF <:+: line) (mem : space ∈ line)

/-- The first call that rejects a line. -/
theorem stuck_reject {c : HttpConn γ} {context : HttpContext} {line rest : List UInt8}
    {buf : Buffer}
    (split : buf.readable = line ++ 13 :: 10 :: rest) (oneLine : ¬ kCRLF <:+: line)
    (processed : HttpContext.new.processRequestLine line = some (false, context))
    (k : KernelWrite) : ((c.parsed context buf).reject k).Stuck := by
  have input : ((c.parsed context buf).reject k).conn.inputBuffer = buf := (reject_conn ..).1
  obtain ⟨state, ⟨begins, method⟩ | ⟨-, rfl⟩⟩ := processRequestLine_rejects processed
  · exact .halfRead state method line rest (by rw [input, split]) oneLine begins.1
  · exact .again rfl line rest (by rw [input, split]) oneLine processed

/-- Later calls answer nothing. -/
theorem Stuck.step {c : HttpConn γ} (stuck : c.Stuck) (shut : c.answers.connected = false)
    (chunk : Chunk) : ((c.step callback chunk).getD c).Stuck ∧
      ((c.step callback chunk).getD c).answers = c.answers := by
  by_cases fault : c.fault = none
  · rw [getD_step fault, receive]
    cases stuck with
    | gone gone => exact absurd fault gone
    | again context line rest buffer oneLine processed =>
      have split : (c.readFd chunk).conn.inputBuffer.readable =
          line ++ 13 :: 10 :: (rest ++ chunk.data) := by
        rw [readable_readFd, buffer]
        simp
      have expects : (c.readFd chunk).context.ExpectsLine := .inl (by rw [readFd, context]; rfl)
      have verdict : HttpContext.new.consume chunk.receiveTime line =
          .stop (.ok false) .new false := by
        unfold HttpContext.consume
        rw [processed]
        rfl
      have rejects : parse kCRLF (consume chunk.receiveTime) (c.readFd chunk).context
          (c.readFd chunk).conn.inputBuffer.readable =
            ⟨some (.ok false), .new, line ++ 13 :: 10 :: (rest ++ chunk.data)⟩ := by
        rw [split, readFd, context, kCRLF, parse_pair cr_ne_lf _ oneLine, verdict]
        rfl
      obtain ⟨buf, same, called⟩ := onMessage_rejects callback chunk.write expects rejects rfl
      rw [called]
      refine ⟨stuck_reject same oneLine processed _, ?_⟩
      rw [answers_reject]
      exact Answers.reject_shut shut
    | halfRead state method line rest buffer oneLine mem =>
      have split : (c.readFd chunk).conn.inputBuffer.readable =
          line ++ 13 :: 10 :: (rest ++ chunk.data) := by
        rw [readable_readFd, buffer]
        simp
      have expects : (c.readFd chunk).context.ExpectsLine := .inl state
      have again : parse kCRLF _ (c.readFd chunk).context _ = _ :=
        parse_again state method chunk.receiveTime oneLine mem (rest ++ chunk.data)
      rw [← split] at again
      rw [onMessage_fault callback chunk.write expects again]
      exact ⟨.gone (by simp), rfl⟩
  · have stays : (c.step callback chunk).getD c = c := by
      rw [HttpConn.step, if_neg fault]
      rfl
    rw [stays]
    exact ⟨.gone fault, rfl⟩

/-! ## A chunk -/

/-- Where the parser is between two chunks, until a line is rejected. -/
def Going (context : HttpContext) : Prop :=
  context = .new ∨ context.state = .kExpectHeaders

theorem Going.expects {context : HttpContext} (going : Going context) : context.ExpectsLine := by
  rcases going with rfl | state
  · exact expectsLine_new
  · exact .inr state

/-- What a call of the parser can come to. -/
theorem Going.parse {context : HttpContext} (going : Going context) (t : Timestamp)
    (input : List UInt8) :
    (∃ context' rest, Going context' ∧
      parse kCRLF (consume t) context input = ⟨none, context', rest⟩) ∨
    (∃ context' rest, context'.gotAll ∧
      parse kCRLF (consume t) context input = ⟨some (.ok true), context', rest⟩) ∨
    ∃ line rest context', input = line ++ 13 :: 10 :: rest ∧ ¬ kCRLF <:+: line ∧
      HttpContext.new.processRequestLine line = some (false, context') ∧
      Lib.parse kCRLF (consume t) context input = ⟨some (.ok false), context', input⟩ := by
  have headers (q : HttpRequest) (input' : List UInt8)
      (goes : Lib.parse kCRLF (consume t) context input =
        Lib.parse kCRLF (consume t) ⟨.kExpectHeaders, q⟩ input') :
      (∃ context' rest, Going context' ∧
        Lib.parse kCRLF (consume t) context input = ⟨none, context', rest⟩) ∨
      ∃ context' rest, context'.gotAll ∧
        Lib.parse kCRLF (consume t) context input = ⟨some (.ok true), context', rest⟩ := by
    have kept :=
      parse_headers (P := fun _ => True) (fun _ _ _ _ => trivial) (q := q) trivial t input'
    rw [← goes] at kept
    rcases parsed : Lib.parse kCRLF (consume t) context input with ⟨_ | result, context', rest⟩ <;>
      rw [parsed] at kept
    · exact .inl ⟨context', rest, .inr kept.1, rfl⟩
    · obtain ⟨rfl, gotAll, -⟩ := kept
      exact .inr ⟨context', rest, gotAll, rfl⟩
  rcases going with rfl | state
  · rcases parse_new t input with waits | ⟨r, rest, -, goes⟩ | rejects
    · exact .inl ⟨.new, input, .inl rfl, waits⟩
    · rcases headers _ rest goes with waits | gets
      · exact .inl waits
      · exact .inr (.inl gets)
    · exact .inr (.inr rejects)
  · have here : context = ⟨.kExpectHeaders, context.request⟩ := by
      rw [← state]
    rcases headers context.request input (congrArg (Lib.parse _ _ · _) here) with waits | gets
    · exact .inl waits
    · exact .inr (.inl gets)

/-- `n` messages of the stream have been answered. -/
inductive Serves (callback : HttpCallback γ) (a : Answers γ) (stream : List UInt8) (n : Nat)
    (c : HttpConn γ) : Prop where
  | going (done : List Item) (rest : List UInt8) (length : done.length = n)
      (answers : c.answers = done.foldl (Answers.serve callback) a)
      (ahead : ∀ more, Answers.messages callback a (stream ++ more) =
        done ++ Answers.messages callback c.answers (rest ++ more))
      (fault : c.fault = none) (going : Going c.context)
      (read : ∀ more, parse kCRLF (consume 0) HttpContext.new (rest ++ more) =
        parse kCRLF (consume 0) c.context.untimed (c.conn.inputBuffer.readable ++ more))
  | stopped (done : List Item) (length : done.length = n)
      (answers : c.answers = done.foldl (Answers.serve callback) a)
      (all : ∀ more, Answers.messages callback a (stream ++ more) = done)
      (shut : c.answers.connected = false) (stuck : c.Stuck)

theorem serves_new (s : γ) : Serves callback (.start s) [] 0 (new s) := by
  refine .going [] [] rfl rfl (fun _ => rfl) rfl (.inl rfl) ?_
  intro more
  have empty : (new s).conn.inputBuffer.readable = [] := Buffer.readable_ofSize _
  rw [empty]
  rfl

section

variable {a : Answers γ} {stream : List UInt8} {n : Nat} {c : HttpConn γ} {chunk : Chunk}
  {done : List Item} {rest : List UInt8} {context : HttpContext} {buf : Buffer}
  (length : done.length = n) (answers : c.answers = done.foldl (Answers.serve callback) a)
  (ahead : ∀ more, Answers.messages callback a (stream ++ chunk.data ++ more) =
    done ++ Answers.messages callback c.answers (rest ++ chunk.data ++ more))

include length ahead in
/-- Of the messages ahead one more may be answered. -/
theorem min_length_messages :
    min (n + 1) (Answers.messages callback a (stream ++ chunk.data)).length =
      n + min 1 (Answers.messages callback c.answers (rest ++ chunk.data)).length := by
  have now := ahead []
  rw [List.append_nil, List.append_nil] at now
  rw [now, List.length_append, length]
  omega

include length answers ahead

/-- The chunk ends inside a message. -/
theorem serves_waits (fault : c.fault = none) (going : Going context)
    (whole : parse kCRLF (consume 0) HttpContext.new (rest ++ chunk.data) =
      ⟨none, context.untimed, buf.readable⟩) :
    Serves callback a (stream ++ chunk.data)
      (min (n + 1) (Answers.messages callback a (stream ++ chunk.data)).length)
      ((c.readFd chunk).parsed context buf) := by
  rw [min_length_messages length ahead, Answers.messages_waits c.answers whole]
  refine .going done (rest ++ chunk.data) length answers ahead fault going ?_
  intro more
  rw [parse_append (by decide), whole]
  rfl

/-- The chunk ends a request; what follows it in the chunk stays in the buffer. -/
theorem serves_request (timeless : Timeless callback) (fault : c.fault = none)
    (whole : parse kCRLF (consume 0) HttpContext.new (rest ++ chunk.data) =
      ⟨some (.ok true), context.untimed, buf.readable⟩) :
    Serves callback a (stream ++ chunk.data)
      (min (n + 1) (Answers.messages callback a (stream ++ chunk.data)).length)
      { ((c.readFd chunk).parsed context buf).onRequest callback chunk.write context.request with
        context := .new } := by
  have first := @Answers.messages_request γ callback c.answers _ _ _ whole
  have here := first []
  rw [List.append_nil] at here
  rw [min_length_messages length ahead, here, List.length_cons, Nat.min_eq_left (by omega)]
  have served : (((c.readFd chunk).parsed context buf).onRequest callback chunk.write
      context.request).answers = c.answers.serve callback (.request context.request.untimed) :=
    answers_onRequest timeless ..
  refine .going (done ++ [.request context.request.untimed]) buf.readable (by simp [length]) ?_ ?_
    ?_ (.inl rfl) ?_
  · rw [List.foldl_concat, ← answers]
    exact served
  · intro more
    have after := congrArg (fun a => Answers.messages callback a (buf.readable ++ more)) served
    rw [ahead, first, List.append_assoc, List.singleton_append]
    exact congrArg (done ++ .request context.request.untimed :: ·) after.symm
  · rw [onRequest_same]
    exact fault
  · intro more
    rw [(onRequest_conn ..).1]
    rfl

/-- The chunk ends a request line that is rejected: it is answered, unless the connection was shut
down before. -/
theorem serves_rejects
    (whole : parse kCRLF (consume 0) HttpContext.new (rest ++ chunk.data) =
      ⟨some (.ok false), context.untimed, buf.readable⟩)
    (stuck : (((c.readFd chunk).parsed context buf).reject chunk.write).Stuck) :
    Serves callback a (stream ++ chunk.data)
      (min (n + 1) (Answers.messages callback a (stream ++ chunk.data)).length)
      (((c.readFd chunk).parsed context buf).reject chunk.write) := by
  have served : (((c.readFd chunk).parsed context buf).reject chunk.write).answers =
      c.answers.reject := answers_reject ..
  have only := @Answers.messages_rejects γ callback c.answers _ _ _ whole
  have here := only []
  rw [List.append_nil] at here
  rw [min_length_messages length ahead, here]
  cases connected : c.answers.connected with
  | false =>
    rw [connected, if_neg Bool.false_ne_true] at only
    rw [Answers.reject_shut connected] at served
    refine .stopped done length (served.trans answers) ?_ (served ▸ connected) stuck
    intro more
    rw [ahead, only, List.append_nil]
  | true =>
    rw [connected, if_pos rfl] at only
    refine .stopped (done ++ [.rejected]) (by simp [length]) ?_ ?_ (served ▸ rfl) stuck
    · rw [List.foldl_concat, ← answers]
      exact served
    · intro more
      rw [ahead, only]

end

theorem Serves.step (timeless : Timeless callback) {a : Answers γ} {stream : List UInt8} {n : Nat}
    {c : HttpConn γ} (serves : Serves callback a stream n c) (chunk : Chunk) :
    Serves callback a (stream ++ chunk.data)
      (min (n + 1) (Answers.messages callback a (stream ++ chunk.data)).length)
      ((c.step callback chunk).getD c) := by
  cases serves with
  | stopped done length answers all shut stuck =>
    obtain ⟨stuck', same⟩ := @Stuck.step γ callback c stuck shut chunk
    have count : min (n + 1) (Answers.messages callback a (stream ++ chunk.data)).length = n := by
      rw [all]
      omega
    rw [count]
    refine .stopped done length (same ▸ answers) ?_ (same ▸ shut) stuck'
    intro more
    rw [List.append_assoc, all]
  | going done rest length answers ahead fault going read =>
    have whole : parse kCRLF (consume 0) HttpContext.new (rest ++ chunk.data) =
        (parse kCRLF (consume chunk.receiveTime) (c.readFd chunk).context
          (c.readFd chunk).conn.inputBuffer.readable).map untimed := by
      rw [← parse_map (consume_untimed _), read, readable_readFd]
      rfl
    have later (more : List UInt8) : Answers.messages callback a (stream ++ chunk.data ++ more) =
        done ++ Answers.messages callback c.answers (rest ++ chunk.data ++ more) := by
      rw [List.append_assoc, ahead, List.append_assoc]
    have going : Going (c.readFd chunk).context := going
    have expects := going.expects
    rw [getD_step fault, receive]
    rcases going.parse chunk.receiveTime (c.readFd chunk).conn.inputBuffer.readable with
      ⟨context, left, going', waits⟩ | ⟨context, left, gotAll, gets⟩ |
      ⟨line, left, context, split, oneLine, processed, rejects⟩
    · obtain ⟨buf, rfl, called⟩ := onMessage_waits callback chunk.write expects waits going'.expects
      rw [waits] at whole
      rw [called]
      exact serves_waits length answers later fault going' whole
    · obtain ⟨buf, rfl, called⟩ := onMessage_request callback chunk.write expects gets gotAll
      rw [gets] at whole
      rw [called]
      exact serves_request length answers later timeless fault whole
    · have state := (processRequestLine_rejects processed).1
      obtain ⟨buf, same, called⟩ := onMessage_rejects callback chunk.write expects rejects state
      rw [rejects, ← same] at whole
      rw [called]
      exact serves_rejects length answers later whole
        (stuck_reject (same.trans split) oneLine processed _)

/-! ## All chunks -/

/-- The bytes of the chunks. -/
def stream (chunks : List Chunk) : List UInt8 := chunks.flatMap Chunk.data

/-- How many messages are answered: with each chunk one more, if it is there. -/
def servedFrom (callback : HttpCallback γ) (a : Answers γ) :
    List UInt8 → Nat → List Chunk → Nat
  | _, n, [] => n
  | before, n, chunk :: chunks =>
    servedFrom callback a (before ++ chunk.data)
      (min (n + 1) (Answers.messages callback a (before ++ chunk.data)).length) chunks

def served (callback : HttpCallback γ) (s : γ) (chunks : List Chunk) : Nat :=
  servedFrom callback (.start s) [] 0 chunks

theorem Serves.run (timeless : Timeless callback) {a : Answers γ} {before : List UInt8} {n : Nat}
    {c : HttpConn γ} (serves : Serves callback a before n c) (chunks : List Chunk) :
    Serves callback a (before ++ stream chunks) (servedFrom callback a before n chunks)
      (c.run callback chunks) := by
  induction chunks generalizing before n c with
  | nil =>
    rw [stream, List.flatMap_nil, List.append_nil]
    exact serves
  | cons chunk chunks ih =>
    rw [stream, List.flatMap_cons, ← List.append_assoc]
    exact ih (serves.step timeless chunk)

/-- What was answered are the first messages of the stream. -/
theorem Serves.answers_eq {a : Answers γ} {stream : List UInt8} {n : Nat} {c : HttpConn γ}
    (serves : Serves callback a stream n c) :
    n ≤ (Answers.messages callback a stream).length ∧
      c.answers =
        ((Answers.messages callback a stream).take n).foldl (Answers.serve callback) a := by
  cases serves with
  | going done rest length answers ahead =>
    have whole := ahead []
    rw [List.append_nil] at whole
    rw [whole, ← length, List.take_left, List.length_append]
    exact ⟨Nat.le_add_right _ _, answers⟩
  | stopped done length answers all =>
    have whole := all []
    rw [List.append_nil] at whole
    rw [whole, ← length, List.take_length]
    exact ⟨Nat.le_refl _, answers⟩

theorem answers_run (timeless : Timeless callback) (s : γ) (chunks : List Chunk) :
    served callback s chunks ≤ (Answers.messages callback (.start s) (stream chunks)).length ∧
      ((new s).run callback chunks).answers =
        ((Answers.messages callback (.start s) (stream chunks)).take
          (served callback s chunks)).foldl (Answers.serve callback) (.start s) := by
  have serves := (@serves_new γ callback s).run timeless chunks
  rw [List.nil_append] at serves
  exact serves.answers_eq

/-- The same requests were passed to the callback, receive times aside, and the same responses
were sent. -/
def SameAnswers (c c' : HttpConn γ) : Prop :=
  c.requests.map HttpRequest.untimed = c'.requests.map HttpRequest.untimed ∧ c.sent = c'.sent

/-- Two ways to cut a stream have the same answers exactly if they answer as many messages. -/
theorem sameAnswers_iff (timeless : Timeless callback) (s : γ) {chunks chunks' : List Chunk}
    (same : stream chunks = stream chunks') :
    SameAnswers ((new s).run callback chunks) ((new s).run callback chunks') ↔
      served callback s chunks = served callback s chunks' := by
  obtain ⟨le, answers⟩ := answers_run timeless s chunks
  obtain ⟨le', answers'⟩ := answers_run timeless s chunks'
  rw [← same] at le' answers'
  constructor
  · rintro ⟨requests, sent⟩
    apply (Answers.seen_messages (.start s) (stream chunks)).eq_of_weight le le'
    rw [← answers, ← answers']
    exact congrArg₂ (·.length + ·.length) requests sent
  · intro equal
    have all : ((new s).run callback chunks).answers = ((new s).run callback chunks').answers := by
      rw [answers, answers', equal]
    exact ⟨congrArg Answers.requests all, congrArg Answers.sent all⟩

/-- Each chunk brings at most one message to its end. -/
def Single (callback : HttpCallback γ) (a : Answers γ) : List UInt8 → List Chunk → Prop
  | _, [] => True
  | before, chunk :: chunks =>
    (Answers.messages callback a (before ++ chunk.data)).length ≤
        (Answers.messages callback a before).length + 1 ∧
      Single callback a (before ++ chunk.data) chunks

/-- Without pipelining every message is answered. -/
theorem served_of_single {a : Answers γ} {before : List UInt8} {chunks : List Chunk}
    (single : Single callback a before chunks) :
    servedFrom callback a before (Answers.messages callback a before).length chunks =
      (Answers.messages callback a (before ++ stream chunks)).length := by
  induction chunks generalizing before with
  | nil => rw [stream, List.flatMap_nil, List.append_nil, servedFrom]
  | cons chunk chunks ih =>
    rw [servedFrom, Nat.min_eq_right single.1, ih single.2, stream, stream, List.flatMap_cons,
      List.append_assoc]

theorem timeless_defaultHttpCallback : Timeless defaultHttpCallback := fun _ _ _ => rfl

/-- A chunk of ASCII text. -/
def textChunk (text : String) (nonempty : ascii text ≠ []) : Chunk :=
  ⟨0, ascii text, nonempty, ⟨some 1000, .eagain⟩⟩

def whole : List Chunk := [textChunk "GET /a HTTP/1.1\r\n\r\nGET /b HTTP/1.1\r\n\r\n" (by decide)]

def oneByOne : List Chunk :=
  [textChunk "GET /a HTTP/1.1\r\n\r\n" (by decide), textChunk "GET /b HTTP/1.1\r\n\r\n" (by decide)]

def inPieces : List Chunk :=
  [textChunk "GET /a HTTP/1.1\r" (by decide), textChunk "\n\r\nGET /b" (by decide),
    textChunk " HTTP/1.1\r\n\r\n" (by decide)]

theorem sameAnswers_inPieces :
    SameAnswers ((new ()).run defaultHttpCallback oneByOne)
      ((new ()).run defaultHttpCallback inPieces) :=
  (sameAnswers_iff timeless_defaultHttpCallback () (by decide)).mpr (by decide +kernel)

/-- Two requests in one chunk: the second is not passed to the callback. -/
theorem not_sameAnswers_whole :
    stream whole = stream oneByOne ∧
      ¬ SameAnswers ((new ()).run defaultHttpCallback whole)
        ((new ()).run defaultHttpCallback oneByOne) := by
  refine ⟨by decide, ?_⟩
  intro same
  have requests := congrArg List.length same.1
  rw [List.length_map, List.length_map] at requests
  exact absurd requests (by decide +kernel)

end HttpConn

end NewFramework.Net.Http
