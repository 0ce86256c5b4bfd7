import NewFramework.Lib.Run
import NewFramework.Net.Http.Incremental
import NewFramework.Net.TcpConnection
import NewFramework.Net.TcpServer

/-!
# `HttpServer`

One connection of the server (`muduo/net/http/HttpServer.cc`), with
`muduo/net/http/HttpResponse.cc`.  `handleRead` calls `onMessage` each time it has read some bytes;
between these calls the connection may write, which changes neither its state nor what the parser
works on.  What happened is kept beside the connection: the bytes received, the requests passed to
the callback and the request lines that were answered with 400.
-/

namespace NewFramework.Net.Http
open NewFramework.Lib

/-! ## `HttpResponse` -/

inductive HttpStatusCode where
  | kUnknown
  | k200Ok
  | k301MovedPermanently
  | k400BadRequest
  | k404NotFound
  deriving DecidableEq, Repr

def HttpStatusCode.code : HttpStatusCode → Nat
  | .kUnknown => 0
  | .k200Ok => 200
  | .k301MovedPermanently => 301
  | .k400BadRequest => 400
  | .k404NotFound => 404

structure HttpResponse where
  headers : Headers
  statusCode : HttpStatusCode
  statusMessage : List UInt8
  closeConnection : Bool
  body : List UInt8

namespace HttpResponse

/-- `HttpResponse(close)` -/
def new (close : Bool) : HttpResponse where
  headers := ∅
  statusCode := .kUnknown
  statusMessage := []
  closeConnection := close
  body := []

def setStatusCode (code : HttpStatusCode) (r : HttpResponse) : HttpResponse :=
  { r with statusCode := code }

def setStatusMessage (message : List UInt8) (r : HttpResponse) : HttpResponse :=
  { r with statusMessage := message }

def setCloseConnection (on : Bool) (r : HttpResponse) : HttpResponse :=
  { r with closeConnection := on }

def addHeader (key value : List UInt8) (r : HttpResponse) : HttpResponse :=
  { r with headers := r.headers.insert key value }

def setContentType (contentType : List UInt8) (r : HttpResponse) : HttpResponse :=
  r.addHeader (ascii "Content-Type") contentType

def setBody (body : List UInt8) (r : HttpResponse) : HttpResponse := { r with body := body }

/-- `snprintf(buf, 32, ...)` around one number. -/
def printed (before : String) (n : Nat) (behind : String) : List UInt8 :=
  (snprintf 32 (before.toList ++ decimal n ++ behind.toList)).map Char.toUInt8

def appendHeader (output : Buffer) (key value : List UInt8) : Buffer :=
  (((output.append key).append (ascii ": ")).append value).append kCRLF

def appendToBuffer (r : HttpResponse) (output : Buffer) : Buffer :=
  let output := output.append (printed "HTTP/1.1 " r.statusCode.code " ")
  let output := (output.append r.statusMessage).append kCRLF
  let output :=
    if r.closeConnection then output.append (ascii "Connection: close\r\n")
    else
      (output.append (printed "Content-Length: " r.body.length "\r\n")).append
        (ascii "Connection: Keep-Alive\r\n")
  let output := r.headers.foldl appendHeader output
  (output.append kCRLF).append r.body

/-- What `onRequest` sends. -/
def bytes (r : HttpResponse) : List UInt8 :=
  (r.appendToBuffer (.ofSize kInitialSize)).readable

end HttpResponse

/-- The callback of the user, with a state of its own.  The first response is the one it is given
to fill in. -/
abbrev HttpCallback (γ : Type*) := γ → HttpRequest → HttpResponse → γ × HttpResponse

def defaultHttpCallback : HttpCallback Unit := fun s _ resp =>
  (s, ((resp.setStatusCode .k404NotFound).setStatusMessage (ascii "Not Found")).setCloseConnection
    true)

/-! ## The connection -/

/-- What one call of `handleRead` reads, and when. -/
structure Chunk where
  receiveTime : Timestamp
  data : List UInt8
  nonempty : data ≠ []
  /-- the answer of the kernel, should the server write -/
  write : KernelWrite

structure HttpConn (γ : Type*) where
  conn : TcpConnection
  context : HttpContext
  callbackState : γ
  /-- how often the server has called `send` -/
  calls : Nat
  received : List UInt8
  requests : List HttpRequest
  rejected : List (List UInt8)
  fault : Option Fault

namespace HttpConn

variable {γ : Type*}

/-- The connection is established and `onConnection` has given it a context. -/
def new (s : γ) : HttpConn γ where
  conn := (TcpConnection.new false false (64 * 1024 * 1024)).connectEstablished
  context := .new
  callbackState := s
  calls := 0
  received := []
  requests := []
  rejected := []
  fault := none

def send (k : KernelWrite) (message : List UInt8) (c : HttpConn γ) : HttpConn γ :=
  { c with conn := c.conn.api true k (.send c.calls message), calls := c.calls + 1 }

def shutdown (k : KernelWrite) (c : HttpConn γ) : HttpConn γ :=
  { c with conn := c.conn.api true k .shutdown }

def badRequest : List UInt8 := ascii "HTTP/1.1 400 Bad Request\r\n\r\n"

/-- `close` of `onRequest` -/
def closes (req : HttpRequest) : Bool :=
  let connection := req.getHeader (ascii "Connection")
  connection = ascii "close" || (req.version = .kHttp10 && connection ≠ ascii "Keep-Alive")

def onRequest (callback : HttpCallback γ) (k : KernelWrite) (req : HttpRequest)
    (c : HttpConn γ) : HttpConn γ :=
  let (s, response) := callback c.callbackState req (.new (closes req))
  let c := { c with callbackState := s, requests := c.requests ++ [req] }
  let c := c.send k response.bytes
  if response.closeConnection then c.shutdown k else c

/-- The line that the parser looks at first. -/
def firstLine (buf : Buffer) : List UInt8 := buf.readable.take (buf.findCRLF.getD 0)

/-- The answer to a request line that is not accepted. -/
def reject (k : KernelWrite) (c : HttpConn γ) : HttpConn γ :=
  ({ c with rejected := c.rejected ++ [firstLine c.conn.inputBuffer] }.send k badRequest).shutdown k

def onMessage (callback : HttpCallback γ) (k : KernelWrite) (receiveTime : Timestamp)
    (c : HttpConn γ) : HttpConn γ :=
  match c.context.parseRequest receiveTime c.conn.inputBuffer with
  | .error fault => { c with fault := some fault }
  | .ok (ok, context, buf) =>
    let c := { c with context := context, conn := { c.conn with inputBuffer := buf } }
    let c := if ok then c else c.reject k
    if c.context.gotAll then
      { c.onRequest callback k c.context.request with context := .new }
    else c

def readFd (chunk : Chunk) (c : HttpConn γ) : HttpConn γ :=
  { c with
    conn := { c.conn with inputBuffer := c.conn.inputBuffer.readFd chunk.data }
    received := c.received ++ chunk.data }

/-- `handleRead` with a chunk. -/
def receive (callback : HttpCallback γ) (c : HttpConn γ) (chunk : Chunk) : HttpConn γ :=
  (c.readFd chunk).onMessage callback chunk.write chunk.receiveTime

/-- The process is gone after a fault. -/
def step (callback : HttpCallback γ) (c : HttpConn γ) (chunk : Chunk) : Option (HttpConn γ) :=
  if c.fault = none then some (c.receive callback chunk) else none

/-- The state after the chunks, or that of a process which did not live so long. -/
def run (callback : HttpCallback γ) (c : HttpConn γ) (chunks : List Chunk) : HttpConn γ :=
  chunks.foldl (fun c chunk => (c.step callback chunk).getD c) c

@[simp] theorem readable_readFd (c : HttpConn γ) (chunk : Chunk) :
    (c.readFd chunk).conn.inputBuffer.readable = c.conn.inputBuffer.readable ++ chunk.data :=
  Buffer.readable_readFd ..

/-! ## What is sent -/

/-- The messages that the connection took to send. -/
def sent (c : HttpConn γ) : List (List UInt8) :=
  c.conn.notes.filterMap fun
    | .given _ message => some message
    | _ => none

/-- `send` of a connection in its own loop. -/
theorem send_eq (k : KernelWrite) (message : List UInt8) (c : HttpConn γ) :
    (c.send k message).conn.state = c.conn.state ∧
      (c.send k message).conn.inputBuffer = c.conn.inputBuffer ∧
      (c.send k message).sent =
        c.sent ++ if c.conn.state = .kConnected then [message] else [] := by
  unfold send TcpConnection.api TcpConnection.runInLoop TcpConnection.callFunctor
  dsimp only
  split
  · next connected =>
    have alive : c.conn.state ≠ .kDisconnected := by rw [connected]; decide
    have taken := TcpConnection.sendInLoop_sent alive k c.calls message
    obtain ⟨queued, -, noted, callbacks, -⟩ := taken.queue
    rw [if_pos rfl]
    refine ⟨by rw [taken.same], by rw [taken.same], ?_⟩
    have none : (queued.map Note.queued).filterMap (fun
        | .given _ message => some message
        | _ => none) = [] := by
      rw [List.filterMap_eq_nil_iff]
      intro n mem
      obtain ⟨f, -, rfl⟩ := List.mem_map.mp mem
      rfl
    simp only [sent, noted, List.filterMap_append, List.filterMap_cons, none]
    split <;> simp
  · simp [sent]

theorem shutdown_eq (k : KernelWrite) (c : HttpConn γ) :
    (c.shutdown k).conn.state =
        (if c.conn.state = .kConnected then .kDisconnecting else c.conn.state) ∧
      (c.shutdown k).conn.inputBuffer = c.conn.inputBuffer ∧ (c.shutdown k).sent = c.sent := by
  unfold shutdown TcpConnection.api TcpConnection.runInLoop TcpConnection.callFunctor
  dsimp only
  split
  · rw [if_pos rfl]
    unfold TcpConnection.shutdownInLoop
    split <;> simp [TcpConnection.setState, TcpConnection.note, sent]
  · exact ⟨rfl, rfl, rfl⟩

/-! ## One call -/

theorem onRequest_same (callback : HttpCallback γ) (k : KernelWrite) (req : HttpRequest)
    (c : HttpConn γ) :
    c.onRequest callback k req =
      { c with
        conn := (c.onRequest callback k req).conn
        calls := c.calls + 1
        callbackState := (callback c.callbackState req (.new (closes req))).1
        requests := c.requests ++ [req] } := by
  unfold onRequest
  dsimp only
  split <;> rfl

theorem onRequest_conn (callback : HttpCallback γ) (k : KernelWrite) (req : HttpRequest)
    (c : HttpConn γ) :
    (c.onRequest callback k req).conn.inputBuffer = c.conn.inputBuffer ∧
      (c.onRequest callback k req).conn.state =
        (if (callback c.callbackState req (.new (closes req))).2.closeConnection ∧
            c.conn.state = .kConnected then .kDisconnecting else c.conn.state) ∧
      (c.onRequest callback k req).sent = c.sent ++
        if c.conn.state = .kConnected then
          [(callback c.callbackState req (.new (closes req))).2.bytes] else [] := by
  unfold onRequest
  dsimp only
  obtain ⟨state, input, given⟩ := send_eq k
    (callback c.callbackState req (.new (closes req))).2.bytes
    { c with
      callbackState := (callback c.callbackState req (.new (closes req))).1
      requests := c.requests ++ [req] }
  split
  · next close =>
    obtain ⟨state', input', given'⟩ := shutdown_eq k _
    rw [state', input', given', state, input, given]
    simp [close, sent]
  · next keep =>
    rw [state, input, given]
    simp [keep, sent]

theorem reject_same (k : KernelWrite) (c : HttpConn γ) :
    c.reject k =
      { c with
        conn := (c.reject k).conn
        calls := c.calls + 1
        rejected := c.rejected ++ [firstLine c.conn.inputBuffer] } := rfl

theorem reject_conn (k : KernelWrite) (c : HttpConn γ) :
    (c.reject k).conn.inputBuffer = c.conn.inputBuffer ∧
      (c.reject k).conn.state =
        (if c.conn.state = .kConnected then .kDisconnecting else c.conn.state) ∧
      (c.reject k).sent = c.sent ++ if c.conn.state = .kConnected then [badRequest] else [] := by
  obtain ⟨state, input, given⟩ := send_eq k badRequest
    { c with rejected := c.rejected ++ [firstLine c.conn.inputBuffer] }
  obtain ⟨state', input', given'⟩ := shutdown_eq k
    ({ c with rejected := c.rejected ++ [firstLine c.conn.inputBuffer] }.send k badRequest)
  unfold reject
  rw [state', input', given', state, input, given]
  exact ⟨rfl, rfl, rfl⟩

/-- What `parseRequest` has left. -/
def parsed (context : HttpContext) (buf : Buffer) (c : HttpConn γ) : HttpConn γ :=
  { c with context := context, conn := { c.conn with inputBuffer := buf } }

variable (callback : HttpCallback γ) (k : KernelWrite) {t : Timestamp} {c : HttpConn γ}
  {context : HttpContext} {rest : List UInt8}

theorem onMessage_waits (expects : c.context.ExpectsLine)
    (parse_eq : parse kCRLF (HttpContext.consume t) c.context c.conn.inputBuffer.readable =
      ⟨none, context, rest⟩) (more : context.ExpectsLine) :
    ∃ buf, buf.readable = rest ∧ c.onMessage callback k t = c.parsed context buf := by
  have called := HttpContext.parseRequest_eq t expects c.conn.inputBuffer
  rw [parse_eq] at called
  obtain ⟨buf, returned, left⟩ := HttpContext.onBytes_eq_ok called
  have waits : ¬ context.gotAll := by
    rcases more with state | state <;> simp [HttpContext.gotAll, state]
  refine ⟨buf, left, ?_⟩
  unfold onMessage
  rw [returned]
  exact if_neg waits

theorem onMessage_request (expects : c.context.ExpectsLine)
    (parse_eq : parse kCRLF (HttpContext.consume t) c.context c.conn.inputBuffer.readable =
      ⟨some (.ok true), context, rest⟩) (gotAll : context.gotAll) :
    ∃ buf, buf.readable = rest ∧ c.onMessage callback k t =
      { (c.parsed context buf).onRequest callback k context.request with context := .new } := by
  have called := HttpContext.parseRequest_eq t expects c.conn.inputBuffer
  rw [parse_eq] at called
  obtain ⟨buf, returned, left⟩ := HttpContext.onBytes_eq_ok called
  refine ⟨buf, left, ?_⟩
  unfold onMessage
  rw [returned]
  exact if_pos gotAll

theorem onMessage_rejects (expects : c.context.ExpectsLine)
    (parse_eq : parse kCRLF (HttpContext.consume t) c.context c.conn.inputBuffer.readable =
      ⟨some (.ok false), context, rest⟩) (stuck : context.state = .kExpectRequestLine) :
    ∃ buf, buf.readable = rest ∧ c.onMessage callback k t = (c.parsed context buf).reject k := by
  have called := HttpContext.parseRequest_eq t expects c.conn.inputBuffer
  rw [parse_eq] at called
  obtain ⟨buf, returned, left⟩ := HttpContext.onBytes_eq_ok called
  have none : ¬ ((c.parsed context buf).reject k).context.gotAll := by
    rw [reject_same]
    simp [parsed, HttpContext.gotAll, stuck]
  refine ⟨buf, left, ?_⟩
  unfold onMessage
  rw [returned]
  exact if_neg none

theorem onMessage_fault {fault : Fault} (expects : c.context.ExpectsLine)
    (parse_eq : parse kCRLF (HttpContext.consume t) c.context c.conn.inputBuffer.readable =
      ⟨some (.error fault), context, rest⟩) :
    c.onMessage callback k t = { c with fault := some fault } := by
  have called := HttpContext.parseRequest_eq t expects c.conn.inputBuffer
  rw [parse_eq] at called
  unfold onMessage
  cases returned : c.context.parseRequest t c.conn.inputBuffer with
  | ok => rw [returned] at called; cases called
  | error => rw [returned] at called; cases called; rfl

end HttpConn

end NewFramework.Net.Http
