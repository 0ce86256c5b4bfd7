import NewFramework.Base.LogStream
import NewFramework.Net.Http.Pipelining

/-!
# The responses on the wire

A client that reads a connection line by line takes the status line, the header fields up to an
empty line, and then as many bytes as `Content-Length` says, or all there are without it.
`appendToBuffer` (`muduo/net/http/HttpResponse.cc`) is written so that this client finds the
responses again, each with its own body.
-/

namespace NewFramework.Net.Http
open NewFramework.Lib HttpContext Base.LogStream

/-! ## What a client reads -/

structure Reply where
  statusCode : Nat
  statusMessage : List UInt8
  fields : List (List UInt8 × List UInt8)
  body : List UInt8
  deriving DecidableEq

namespace Reply

/-- What stands in front of the body. -/
inductive Head where
  | expectStatusLine
  | expectFields (statusCode : Nat) (statusMessage : List UInt8)
      (fields : List (List UInt8 × List UInt8))

/-- `HTTP/1.1 `, a number, a space and the message. -/
def readStatusLine (line : List UInt8) : Option (Nat × List UInt8) :=
  let version := ascii "HTTP/1.1 "
  if version <+: line then
    let code := line.drop version.length
    (parseNumeral 10 decimalDigit (code.takeWhile (· ≠ space))).map
      (·, (code.dropWhile (· ≠ space)).tail)
  else none

/-- A name, `: ` and a value. -/
def readField (line : List UInt8) : Option (List UInt8 × List UInt8) :=
  (search (ascii ": ") line).map fun n => (line.take n, line.drop (n + 2))

/-- One line of the head; `false` says that it is none. -/
def readLine : Head → List UInt8 → Verdict Head Bool
  | .expectStatusLine, line =>
    match readStatusLine line with
    | some (code, message) => .next (.expectFields code message [])
    | none => .stop false .expectStatusLine false
  | .expectFields code message fields, line =>
    if line = [] then .stop true (.expectFields code message fields) true
    else
      match readField line with
      | some field => .next (.expectFields code message (fields ++ [field]))
      | none => .stop false (.expectFields code message fields) false

/-- How long the body is, or `none` when it goes on to the end of the stream. -/
def bodyLength (fields : List (List UInt8 × List UInt8)) (behind : List UInt8) : Option Nat :=
  match fields.lookup (ascii "Content-Length") with
  | some text => parseNumeral 10 decimalDigit text
  | none => some behind.length

/-- The first reply of a stream, and what follows it. -/
def read (stream : List UInt8) : Option (Reply × List UInt8) :=
  match parse kCRLF readLine .expectStatusLine stream with
  | ⟨some true, .expectFields code message fields, behind⟩ =>
    (bodyLength fields behind).bind fun n =>
      if n ≤ behind.length then some (⟨code, message, fields, behind.take n⟩, behind.drop n)
      else none
  | _ => none

/-- All replies of a stream, at most `fuel` of them. -/
def readAllUpTo : Nat → List UInt8 → Option (List Reply)
  | _, [] => some []
  | 0, _ => none
  | fuel + 1, stream =>
    (read stream).bind fun (reply, rest) => (readAllUpTo fuel rest).map (reply :: ·)

def readAll (stream : List UInt8) : Option (List Reply) := readAllUpTo stream.length stream

end Reply

/-! ## What a response should be read as -/

namespace HttpResponse

/-- The fields that `appendToBuffer` writes before those of the user. -/
def connectionFields (r : HttpResponse) : List (List UInt8 × List UInt8) :=
  if r.closeConnection then [(ascii "Connection", ascii "close")]
  else
    [(ascii "Content-Length", (numeral 10 r.body.length).map digitChar),
      (ascii "Connection", ascii "Keep-Alive")]

def fields (r : HttpResponse) : List (List UInt8 × List UInt8) :=
  r.connectionFields ++ r.headers.toList

def reply (r : HttpResponse) : Reply := ⟨r.statusCode.code, r.statusMessage, r.fields, r.body⟩

/-- Nothing of the user reads as an end of its line or of its name, the body has a length that
`buf` can hold, and a response that closes has no length of its own. -/
structure Plain (r : HttpResponse) : Prop where
  message : ¬ kCRLF <:+: r.statusMessage
  name : ∀ field ∈ r.headers.toList, ¬ kCRLF <:+: field.1 ∧ ¬ ascii ": " <:+: field.1
  value : ∀ field ∈ r.headers.toList, ¬ kCRLF <:+: field.2
  length : r.closeConnection = true →
    r.headers.toList.lookup (ascii "Content-Length") = none
  body : r.body.length < 10 ^ 13

/-- The bytes of a header line. -/
def fieldLine (field : List UInt8 × List UInt8) : List UInt8 := field.1 ++ 58 :: 32 :: field.2

def statusLine (r : HttpResponse) : List UInt8 :=
  ascii "HTTP/1.1 " ++ (numeral 10 r.statusCode.code).map digitChar ++ space :: r.statusMessage

theorem toDigits_eq (n : Nat) :
    (Nat.toDigits 10 n).map Char.toUInt8 = (numeral 10 n).map digitChar := by
  have digit : ∀ d < 10, (Nat.digitChar d).toUInt8 = digitChar d := by decide
  induction n using Nat.strong_induction_on with
  | _ n ih =>
    rcases Nat.lt_or_ge n 10 with small | large
    · rw [Nat.toDigits_of_lt_base small, numeral_of_lt small, List.map_singleton,
        List.map_singleton, digit n small]
    · rw [Nat.toDigits_of_base_le (by decide) large, numeral_of_le (by decide) large,
        List.map_append, List.map_append, ih (n / 10) (by omega), List.map_singleton,
        List.map_singleton, digit _ (Nat.mod_lt n (by decide))]

/-- What fits in `buf` is written whole. -/
theorem printed_eq {before behind : String} {n k : Nat} (pos : 0 < k) (small : n < 10 ^ k)
    (room : before.toList.length + k + behind.toList.length < 32) :
    printed before n behind =
      ascii before ++ (numeral 10 n).map digitChar ++ ascii behind := by
  have digits : (decimal n).length ≤ k := length_decimal_le pos small
  unfold printed
  rw [snprintf_of_lt (by simp only [List.length_append]; omega), List.map_append, List.map_append,
    Net.decimal, toDigits_eq]
  rfl

theorem code_lt (code : HttpStatusCode) : code.code < 10 ^ 3 := by
  cases code <;> decide

theorem readable_foldl_appendHeader (fields : List (List UInt8 × List UInt8)) (output : Buffer) :
    (fields.foldl (fun output field => appendHeader output field.1 field.2) output).readable =
      output.readable ++ fields.flatMap fun field => fieldLine field ++ kCRLF := by
  induction fields generalizing output with
  | nil => simp
  | cons field fields ih =>
    rw [List.foldl_cons, ih]
    have separator : ascii ": " = [58, 32] := rfl
    simp [appendHeader, fieldLine, separator]

/-- The status line, a line for each field, an empty line and the body. -/
theorem bytes_eq {r : HttpResponse} (short : r.body.length < 10 ^ 13) :
    r.bytes = r.statusLine ++ 13 :: 10 ::
      ((r.fields.flatMap fun field => fieldLine field ++ kCRLF) ++ 13 :: 10 :: r.body) := by
  have status := @printed_eq "HTTP/1.1 " " " _ 3 (by decide) (code_lt r.statusCode) (by decide)
  have length := @printed_eq "Content-Length: " "\r\n" _ 13 (by decide) short (by decide)
  unfold bytes appendToBuffer
  dsimp only
  rw [Std.TreeMap.foldl_eq_foldl_toList, status, length, Buffer.readable_append,
    Buffer.readable_append, readable_foldl_appendHeader]
  unfold fields connectionFields statusLine
  cases r.closeConnection <;>
    simp [fieldLine, ascii, kCRLF, space] <;> decide

theorem decimalDigit_of_mem {n : Nat} {b : UInt8} (mem : b ∈ (numeral 10 n).map digitChar) :
    decimalDigit b ≠ none := by
  obtain ⟨d, there, rfl⟩ := List.mem_map.mp mem
  rw [decimalDigit_digitChar (lt_of_mem_numeral (by decide) there)]
  exact Option.some_ne_none d

namespace Plain

variable {r : HttpResponse} (plain : r.Plain)

include plain

theorem statusLine : ¬ kCRLF <:+: r.statusLine := by
  have digits : 13 ∉ ascii "HTTP/1.1 " ++ (numeral 10 r.statusCode.code).map digitChar := by
    cases r.statusCode <;> decide
  refine not_infix_pair (by decide) ?_ plain.message
  intro inner
  exact digits (inner.subset List.mem_cons_self)

/-- Each field stands on a line of its own and is read as itself. -/
theorem field {field : List UInt8 × List UInt8} (mem : field ∈ r.fields) :
    ¬ kCRLF <:+: fieldLine field ∧ ¬ ascii ": " <:+: field.1 := by
  have line {field : List UInt8 × List UInt8} (name : ¬ kCRLF <:+: field.1)
      (value : ¬ kCRLF <:+: field.2) : ¬ kCRLF <:+: fieldLine field := by
    have behind : ¬ kCRLF <:+: [] ++ 32 :: field.2 := not_infix_pair (by decide) (by decide) value
    exact not_infix_pair (by decide) name behind
  rcases List.mem_append.mp mem with own | given
  · unfold connectionFields at own
    split at own
    · obtain rfl := List.mem_singleton.mp own
      decide
    · have contentLength : ¬ kCRLF <:+: ascii "Content-Length" ∧
          ¬ ascii ": " <:+: ascii "Content-Length" := by decide
      rcases List.mem_pair.mp own with rfl | rfl
      · refine ⟨line contentLength.1 ?_, contentLength.2⟩
        intro inner
        exact decimalDigit_of_mem (inner.subset List.mem_cons_self) rfl
      · decide
  · obtain ⟨name, separator⟩ := plain.name field given
    exact ⟨line name (plain.value field given), separator⟩

end Plain

end HttpResponse

/-! ## Reading it again -/

namespace Reply

theorem parseNumeral_digits (n : Nat) :
    parseNumeral 10 decimalDigit ((numeral 10 n).map digitChar) = some n :=
  parseNumeral_map (by decide) (fun _ => decimalDigit_digitChar) n

theorem readStatusLine_statusLine (r : HttpResponse) :
    readStatusLine r.statusLine = some (r.statusCode.code, r.statusMessage) := by
  have free : space ∉ (numeral 10 r.statusCode.code).map digitChar :=
    fun mem => HttpResponse.decimalDigit_of_mem mem rfl
  unfold readStatusLine HttpResponse.statusLine
  rw [List.append_assoc, if_pos (List.prefix_append _ _), List.drop_left]
  dsimp only
  rw [takeWhile_ne_append free, dropWhile_ne_append free,
    parseNumeral_digits]
  rfl

theorem readField_fieldLine {field : List UInt8 × List UInt8} (free : ¬ ascii ": " <:+: field.1) :
    readField (HttpResponse.fieldLine field) = some field := by
  have found : search (ascii ": ") (HttpResponse.fieldLine field) = some field.1.length :=
    search_pair (by decide) free field.2
  unfold readField HttpResponse.fieldLine
  rw [HttpResponse.fieldLine] at found
  rw [found, Option.map_some, List.take_left, List.drop_length_add_append]
  rfl

/-- The lines of the fields, and the empty one. -/
theorem parse_fields (code : Nat) (message : List UInt8) (fields : List (List UInt8 × List UInt8))
    {lines : List (List UInt8 × List UInt8)} (behind : List UInt8)
    (plain : ∀ field ∈ lines, ¬ kCRLF <:+: HttpResponse.fieldLine field ∧
      ¬ ascii ": " <:+: field.1) :
    parse kCRLF readLine (.expectFields code message fields)
        ((lines.flatMap fun field => HttpResponse.fieldLine field ++ kCRLF) ++ 13 :: 10 :: behind) =
      ⟨some true, .expectFields code message (fields ++ lines), behind⟩ := by
  induction lines generalizing fields with
  | nil =>
    have last := @parse_pair UInt8 Head Bool _ readLine 13 10 cr_ne_lf
      (.expectFields code message fields) [] (by decide) behind
    rw [List.nil_append] at last
    rw [List.flatMap_nil, List.nil_append, kCRLF, last, List.append_nil]
    rfl
  | cons field lines ih =>
    obtain ⟨oneLine, name⟩ := plain field List.mem_cons_self
    have taken : readLine (.expectFields code message fields) (HttpResponse.fieldLine field) =
        .next (.expectFields code message (fields ++ [field])) := by
      have more : HttpResponse.fieldLine field ≠ [] := by simp [HttpResponse.fieldLine]
      unfold readLine
      dsimp only
      rw [if_neg more, readField_fieldLine name]
    have later := ih (fields ++ [field]) fun other mem => plain other (List.mem_cons_of_mem _ mem)
    rw [List.flatMap_cons, List.append_assoc, List.append_assoc, kCRLF, List.cons_append,
      List.cons_append, List.nil_append, parse_pair cr_ne_lf _ oneLine, taken]
    rw [List.append_assoc, List.singleton_append] at later
    exact later

variable {r : HttpResponse}

theorem parse_bytes (plain : r.Plain) (behind : List UInt8) :
    parse kCRLF readLine .expectStatusLine (r.bytes ++ behind) =
      ⟨some true, .expectFields r.statusCode.code r.statusMessage r.fields, r.body ++ behind⟩ := by
  have taken : readLine .expectStatusLine r.statusLine =
      .next (.expectFields r.statusCode.code r.statusMessage []) := by
    unfold readLine
    dsimp only
    rw [readStatusLine_statusLine]
  have fields := parse_fields r.statusCode.code r.statusMessage [] (r.body ++ behind)
    fun field mem => plain.field mem
  rw [HttpResponse.bytes_eq plain.body, List.append_assoc, List.cons_append, List.cons_append,
    List.append_assoc, kCRLF, parse_pair cr_ne_lf _ plain.statusLine, taken]
  exact fields

/-- A response that keeps the connection ends where its body does. -/
theorem read_kept (plain : r.Plain) (kept : r.closeConnection = false) (behind : List UInt8) :
    read (r.bytes ++ behind) = some (r.reply, behind) := by
  have length : bodyLength r.fields (r.body ++ behind) = some r.body.length := by
    unfold bodyLength HttpResponse.fields HttpResponse.connectionFields
    rw [kept]
    exact parseNumeral_digits _
  unfold read
  rw [parse_bytes plain]
  dsimp only
  rw [length, Option.bind_some, if_pos (by simp), List.take_left, List.drop_left]
  rfl

/-- A response that closes it goes on to the end of the stream. -/
theorem read_last (plain : r.Plain) (close : r.closeConnection = true) :
    read r.bytes = some (r.reply, []) := by
  have length : bodyLength r.fields r.body = some r.body.length := by
    unfold bodyLength HttpResponse.fields HttpResponse.connectionFields
    rw [close, if_pos rfl, List.singleton_append, List.lookup_cons, plain.length close]
    rfl
  have parsed := parse_bytes plain []
  rw [List.append_nil, List.append_nil] at parsed
  unfold read
  rw [parsed]
  dsimp only
  rw [length, Option.bind_some, if_pos (Nat.le_refl _), List.take_length, List.drop_length]
  rfl

/-- What a client makes of the answer to a rejected request line. -/
def badRequest : Reply := ⟨400, ascii "Bad Request", [], []⟩

theorem read_badRequest : read HttpConn.badRequest = some (badRequest, []) := by decide +kernel

/-! ## All that a connection sends -/

/-- What is sent for these responses: all up to the first that closes, and behind them the answer
to a rejected line, if there is one and the connection is still open. -/
def wire (rejected : Bool) : List HttpResponse → List (List UInt8)
  | [] => if rejected then [HttpConn.badRequest] else []
  | r :: rs => if r.closeConnection then [r.bytes] else r.bytes :: wire rejected rs

/-- What the client should find. -/
def replies (rejected : Bool) : List HttpResponse → List Reply
  | [] => if rejected then [badRequest] else []
  | r :: rs => if r.closeConnection then [r.reply] else r.reply :: replies rejected rs

theorem readAllUpTo_succ {fuel : Nat} {stream : List UInt8} (more : stream ≠ []) :
    readAllUpTo (fuel + 1) stream =
      (read stream).bind fun (reply, rest) => (readAllUpTo fuel rest).map (reply :: ·) := by
  cases stream with
  | nil => contradiction
  | cons => rfl

theorem length_bytes_pos (plain : r.Plain) : 0 < r.bytes.length := by
  rw [HttpResponse.bytes_eq plain.body]
  simp

/-- The responses are found again, each with its own body. -/
theorem readAllUpTo_wire (rejected : Bool) {rs : List HttpResponse} (plain : ∀ r ∈ rs, r.Plain)
    {fuel : Nat} (enough : (wire rejected rs).flatten.length ≤ fuel) :
    readAllUpTo fuel (wire rejected rs).flatten = some (replies rejected rs) := by
  induction rs generalizing fuel with
  | nil =>
    cases rejected with
    | false => exact readAllUpTo.eq_1 fuel
    | true =>
      have length : 0 < HttpConn.badRequest.length := by decide
      unfold wire at enough ⊢
      rw [if_pos rfl, List.flatten_singleton] at enough ⊢
      obtain ⟨fuel, rfl⟩ := Nat.exists_eq_succ_of_ne_zero (n := fuel) (by omega)
      rw [readAllUpTo_succ (List.ne_nil_of_length_pos length), read_badRequest, Option.bind_some]
      dsimp only
      rw [readAllUpTo]
      rfl
  | cons r rs ih =>
    have first := plain r List.mem_cons_self
    have length := length_bytes_pos first
    rw [wire] at enough ⊢
    rw [replies]
    cases close : r.closeConnection with
    | true =>
      rw [close, if_pos rfl, List.flatten_singleton] at enough
      rw [if_pos rfl, if_pos rfl, List.flatten_singleton]
      obtain ⟨fuel, rfl⟩ := Nat.exists_eq_succ_of_ne_zero (n := fuel) (by omega)
      rw [readAllUpTo_succ (List.ne_nil_of_length_pos length), read_last first close,
        Option.bind_some]
      dsimp only
      rw [readAllUpTo]
      rfl
    | false =>
      have later := fun other mem => plain other (List.mem_cons_of_mem r mem)
      rw [close, if_neg Bool.false_ne_true, List.flatten_cons] at enough
      rw [if_neg Bool.false_ne_true, if_neg Bool.false_ne_true, List.flatten_cons]
      rw [List.length_append] at enough
      obtain ⟨fuel, rfl⟩ := Nat.exists_eq_succ_of_ne_zero (n := fuel) (by omega)
      have rest := @ih later fuel (by omega)
      rw [readAllUpTo_succ (List.append_ne_nil_of_left_ne_nil (List.ne_nil_of_length_pos length) _),
        read_kept first close, Option.bind_some]
      dsimp only
      rw [rest]
      rfl

/-- No response so far has closed the connection. -/
def Keeps (rs : List HttpResponse) : Prop := ∀ r ∈ rs, r.closeConnection = false

theorem wire_of_keeps {rs : List HttpResponse} (keeps : Keeps rs) (rejected : Bool)
    (more : List HttpResponse) :
    wire rejected (rs ++ more) = rs.map HttpResponse.bytes ++ wire rejected more := by
  induction rs with
  | nil => rfl
  | cons r rs ih =>
    have first := keeps r List.mem_cons_self
    have later := ih fun other mem => keeps other (List.mem_cons_of_mem _ mem)
    rw [List.cons_append, wire, first, if_neg Bool.false_ne_true, later]
    rfl

/-- Behind a response that closes nothing is sent. -/
theorem wire_of_closed {rs : List HttpResponse} (closed : ¬ Keeps rs) (rejected rejected' : Bool)
    (more : List HttpResponse) : wire rejected (rs ++ more) = wire rejected' rs := by
  induction rs with
  | nil => exact absurd (fun _ mem => absurd mem List.not_mem_nil) closed
  | cons r rs ih =>
    rw [List.cons_append, wire, wire]
    cases close : r.closeConnection with
    | true => rfl
    | false =>
      have later : ¬ Keeps rs := by
        intro keeps
        apply closed
        intro other mem
        rcases List.mem_cons.mp mem with rfl | mem
        · exact close
        · exact keeps other mem
      rw [if_neg Bool.false_ne_true, if_neg Bool.false_ne_true, ih later]

theorem keeps_concat {rs : List HttpResponse} {r : HttpResponse} :
    Keeps (rs ++ [r]) ↔ Keeps rs ∧ r.closeConnection = false := by
  unfold Keeps
  rw [List.forall_mem_append, List.forall_mem_singleton]

end Reply

namespace HttpConn

variable {γ : Type*} {callback : HttpCallback γ}

/-- The state of the callback and the responses it has made, after these requests. -/
def serveAll (callback : HttpCallback γ) (s : γ) (requests : List HttpRequest) :
    γ × List HttpResponse :=
  requests.foldl (fun (s, rs) req =>
    let (s', r) := callback s req (.new (closes req))
    (s', rs ++ [r])) (s, [])

/-- The responses to the requests. -/
def responses (callback : HttpCallback γ) (s : γ) (requests : List HttpRequest) :
    List HttpResponse :=
  (serveAll callback s requests).2

theorem serveAll_concat (s : γ) (requests : List HttpRequest) (req : HttpRequest) :
    serveAll callback s (requests ++ [req]) =
      ((callback (serveAll callback s requests).1 req (.new (closes req))).1,
        (serveAll callback s requests).2 ++
          [(callback (serveAll callback s requests).1 req (.new (closes req))).2]) := by
  unfold serveAll
  rw [List.foldl_concat]

/-- A connection that was served from the state `s` of the callback on has sent what these
responses come to, and is open while it may send more. -/
structure Responds (callback : HttpCallback γ) (s : γ) (c : HttpConn γ) : Prop where
  callbackState : c.callbackState = (serveAll callback s c.requests).1
  sent : c.sent = Reply.wire (c.rejected ≠ []) (responses callback s c.requests)
  connected : c.conn.state = .kConnected ↔
    Reply.Keeps (responses callback s c.requests) ∧ c.rejected = []

section

variable (callback) (k : KernelWrite) (req : HttpRequest) (c : HttpConn γ)

theorem onRequest_requests : (c.onRequest callback k req).requests = c.requests ++ [req] := by
  rw [onRequest_same]

theorem onRequest_rejected : (c.onRequest callback k req).rejected = c.rejected := by
  rw [onRequest_same]

theorem onRequest_callbackState : (c.onRequest callback k req).callbackState =
    (callback c.callbackState req (.new (closes req))).1 := by
  rw [onRequest_same]

end

/-- What was read and answered stays so. -/
theorem step_grows (c : HttpConn γ) (chunk : Chunk) :
    c.requests <+: ((c.step callback chunk).getD c).requests ∧
      c.rejected <+: ((c.step callback chunk).getD c).rejected := by
  by_cases fault : c.fault = none
  · rw [getD_step fault, receive, onMessage]
    split
    · exact ⟨List.prefix_rfl, List.prefix_rfl⟩
    · dsimp only
      split <;> split
      · rw [onRequest_requests, onRequest_rejected]
        exact ⟨List.prefix_append _ _, List.prefix_rfl⟩
      · exact ⟨List.prefix_rfl, List.prefix_rfl⟩
      · rw [onRequest_requests, onRequest_rejected]
        exact ⟨List.prefix_append _ _, List.prefix_append _ _⟩
      · exact ⟨List.prefix_rfl, List.prefix_append _ _⟩
  · have stays : (c.step callback chunk).getD c = c := by
      rw [HttpConn.step, if_neg fault]
      rfl
    rw [stays]
    exact ⟨List.prefix_rfl, List.prefix_rfl⟩

namespace Responds

variable {s : γ} {c : HttpConn γ}

theorem new (s : γ) : Responds callback s (new s) where
  callbackState := rfl
  sent := rfl
  connected := ⟨fun _ => ⟨fun _ mem => absurd mem List.not_mem_nil, rfl⟩, fun _ => rfl⟩

/-- Reading changes nothing that counts. -/
theorem parsed (responds : Responds callback s c) (chunk : Chunk) (context : HttpContext)
    (buf : Buffer) : Responds callback s ((c.readFd chunk).parsed context buf) :=
  ⟨responds.callbackState, responds.sent, responds.connected⟩

variable (responds : Responds callback s c) (none : c.rejected = [])

include responds none

theorem open_iff : c.conn.state = .kConnected ↔ Reply.Keeps (responses callback s c.requests) :=
  responds.connected.trans (and_iff_left none)

theorem sent_of_open (isOpen : c.conn.state = .kConnected) :
    c.sent = (responses callback s c.requests).map HttpResponse.bytes := by
  have whole := Reply.wire_of_keeps ((open_iff responds none).mp isOpen) false []
  rw [List.append_nil] at whole
  rw [responds.sent, none]
  exact whole.trans (List.append_nil _)

theorem onRequest (k : KernelWrite) (req : HttpRequest) (context : HttpContext) :
    Responds callback s { c.onRequest callback k req with context := context } := by
  obtain ⟨-, state, sent⟩ := c.onRequest_conn callback k req
  have made : responses callback s (c.requests ++ [req]) =
      responses callback s c.requests ++
        [(callback c.callbackState req (.new (closes req))).2] := by
    unfold responses
    rw [serveAll_concat, responds.callbackState]
  constructor
  · dsimp only
    rw [onRequest_requests, onRequest_callbackState, serveAll_concat, responds.callbackState]
  · change (c.onRequest callback k req).sent = _
    dsimp only
    rw [onRequest_requests, onRequest_rejected, made, sent]
    by_cases isOpen : c.conn.state = .kConnected
    · have keeps := (open_iff responds none).mp isOpen
      rw [if_pos isOpen, sent_of_open responds none isOpen, Reply.wire_of_keeps keeps, none,
        Reply.wire]
      split <;> rfl
    · have closed := mt (open_iff responds none).mpr isOpen
      rw [if_neg isOpen, List.append_nil, responds.sent]
      exact (Reply.wire_of_closed closed _ _ _).symm
  · dsimp only
    rw [onRequest_requests, onRequest_rejected, made, state, none, Reply.keeps_concat,
      ← open_iff responds none]
    by_cases isOpen : c.conn.state = .kConnected <;>
      cases (callback c.callbackState req (.new (closes req))).2.closeConnection <;>
      simp [isOpen]

theorem reject (k : KernelWrite) : Responds callback s (c.reject k) := by
  obtain ⟨-, state, sent⟩ := c.reject_conn k
  have rejected : (c.reject k).rejected ≠ [] := by
    rw [reject_same]
    simp
  constructor
  · exact responds.callbackState
  · change (c.reject k).sent = Reply.wire _ (responses callback s c.requests)
    rw [sent, decide_eq_true rejected]
    by_cases isOpen : c.conn.state = .kConnected
    · have keeps := (open_iff responds none).mp isOpen
      have whole := Reply.wire_of_keeps keeps true []
      rw [List.append_nil] at whole
      rw [if_pos isOpen, sent_of_open responds none isOpen, whole]
      rfl
    · have closed := mt (open_iff responds none).mpr isOpen
      have same := Reply.wire_of_closed closed (decide (c.rejected ≠ [])) true []
      rw [List.append_nil] at same
      rw [if_neg isOpen, List.append_nil, responds.sent, same]
  · rw [state]
    have shut : (if c.conn.state = .kConnected then StateE.kDisconnecting else c.conn.state) ≠
        .kConnected := by
      split
      · decide
      · assumption
    exact iff_of_false shut fun both => rejected both.2

end Responds

/-- Where the parser may be. -/
structure Served (callback : HttpCallback γ) (s : γ) (c : HttpConn γ) : Prop where
  responds : Responds callback s c
  parser : c.fault = none ∧ Going c.context ∧ c.rejected = [] ∨
    c.Stuck ∧ c.conn.state ≠ .kConnected

theorem Served.step {s : γ} {c : HttpConn γ} (served : Served callback s c) (chunk : Chunk) :
    Served callback s ((c.step callback chunk).getD c) := by
  obtain ⟨responds, ⟨fault, going, none⟩ | ⟨stuck, shut⟩⟩ := served
  · have read := responds.parsed chunk
    have expects := going.expects
    rw [getD_step fault, receive]
    rcases going.parse chunk.receiveTime (c.readFd chunk).conn.inputBuffer.readable with
      ⟨context, left, going', waits⟩ | ⟨context, left, gotAll, gets⟩ |
      ⟨line, left, context, split, oneLine, processed, rejects⟩
    · obtain ⟨buf, rfl, called⟩ := @onMessage_waits γ callback chunk.write _ (c.readFd chunk) _ _
        expects waits going'.expects
      rw [called]
      exact ⟨read context buf, .inl ⟨fault, going', none⟩⟩
    · obtain ⟨buf, rfl, called⟩ := @onMessage_request γ callback chunk.write _ (c.readFd chunk) _ _
        expects gets gotAll
      rw [called]
      refine ⟨(read context buf).onRequest none chunk.write context.request .new,
        .inl ⟨?_, .inl rfl, ?_⟩⟩
      · rw [onRequest_same]
        exact fault
      · rw [onRequest_same]
        exact none
    · have state := (processRequestLine_rejects processed).1
      obtain ⟨buf, same, called⟩ := @onMessage_rejects γ callback chunk.write _ (c.readFd chunk) _ _
        expects rejects state
      rw [called]
      have after := (read context buf).reject none chunk.write
      refine ⟨after, .inr ⟨stuck_reject (same.trans split) oneLine processed _, ?_⟩⟩
      intro isOpen
      have none_rejected := (after.connected.mp isOpen).2
      rw [reject_same] at none_rejected
      simp at none_rejected
  · -- a rejected line is read again and again, and answered no more
    have isShut : c.answers.connected = false := decide_eq_false shut
    obtain ⟨stuck', same⟩ := @Stuck.step γ callback c stuck isShut chunk
    obtain ⟨more, rejected⟩ := @step_grows γ callback c chunk
    have requests : ((c.step callback chunk).getD c).requests = c.requests := by
      have length := congrArg (fun a => a.requests.length) same
      simp only [answers, List.length_map] at length
      exact (more.eq_of_length length.symm).symm
    have shut' : ((c.step callback chunk).getD c).conn.state ≠ .kConnected := by
      have connected := congrArg Answers.connected same
      exact of_decide_eq_false (connected.trans isShut)
    have sent : ((c.step callback chunk).getD c).sent = c.sent := congrArg Answers.sent same
    have callbackState : ((c.step callback chunk).getD c).callbackState = c.callbackState :=
      congrArg Answers.callbackState same
    have was : Reply.Keeps (responses callback s c.requests) → c.rejected ≠ [] :=
      fun keeps none => shut (responds.connected.mpr ⟨keeps, none⟩)
    have still : Reply.Keeps (responses callback s c.requests) →
        ((c.step callback chunk).getD c).rejected ≠ [] := by
      intro keeps none
      rw [none] at rejected
      exact was keeps (List.prefix_nil.mp rejected)
    refine ⟨⟨?_, ?_, iff_of_false shut' ?_⟩, .inr ⟨stuck', shut'⟩⟩
    · rw [callbackState, requests]
      exact responds.callbackState
    · rw [sent, requests, responds.sent]
      by_cases keeps : Reply.Keeps (responses callback s c.requests)
      · rw [decide_eq_true (was keeps), decide_eq_true (still keeps)]
      · have same_wire := Reply.wire_of_closed keeps
          (decide (((c.step callback chunk).getD c).rejected ≠ [])) (decide (c.rejected ≠ [])) []
        rw [List.append_nil] at same_wire
        exact same_wire.symm
    · rw [requests]
      exact fun both => still both.1 both.2

theorem Served.run {s : γ} {c : HttpConn γ} (served : Served callback s c)
    (chunks : List Chunk) : Served callback s (c.run callback chunks) := by
  induction chunks generalizing c with
  | nil => exact served
  | cons chunk chunks ih => exact ih (served.step chunk)

theorem served_new (s : γ) : Served callback s (new s) :=
  ⟨.new s, .inl ⟨rfl, .inl rfl, rfl⟩⟩

/-- Each response of the callback can be written. -/
def PlainCallback (callback : HttpCallback γ) : Prop :=
  ∀ s req close, (callback s req (.new close)).2.Plain

theorem plain_responses (plain : PlainCallback callback) (s : γ) (requests : List HttpRequest) :
    ∀ r ∈ responses callback s requests, r.Plain := by
  induction requests using List.reverseRecOn with
  | nil => exact fun _ mem => absurd mem List.not_mem_nil
  | append_singleton requests req ih =>
    unfold responses at ih ⊢
    rw [serveAll_concat]
    intro r mem
    rcases List.mem_append.mp mem with before | last
    · exact ih r before
    · rw [List.mem_singleton.mp last]
      exact plain ..

/-- However the requests were cut, a client that reads what was sent finds the responses to the
requests that were taken, in order and each with its own body, up to the first that closes, and the
answer to a rejected line behind them if none does. -/
theorem readAll_run (plain : PlainCallback callback) (s : γ) (chunks : List Chunk) :
    Reply.readAll ((new s).run callback chunks).sent.flatten =
      some (Reply.replies (((new s).run callback chunks).rejected ≠ [])
        (responses callback s ((new s).run callback chunks).requests)) := by
  have served := (@served_new γ callback s).run chunks
  rw [served.responds.sent, Reply.readAll]
  exact Reply.readAllUpTo_wire _ (plain_responses plain s _) (Nat.le_refl _)

theorem plain_defaultHttpCallback : PlainCallback defaultHttpCallback := by
  intro s req close
  have message : ¬ kCRLF <:+: ascii "Not Found" := by decide
  have short : 0 < 10 ^ 13 := by decide
  constructor
  · exact message
  · intro field mem
    cases mem
  · intro field mem
    cases mem
  · exact fun _ => rfl
  · exact short

/-- What the callback below answers where it has a page. -/
def page (contentType body : String) (resp : HttpResponse) : HttpResponse :=
  ((((resp.setStatusCode .k200Ok).setStatusMessage (ascii "OK")).setContentType
    (ascii contentType)).addHeader (ascii "Server") (ascii "Muduo")).setBody (ascii body)

/-- The callback of `muduo/net/http/tests/HttpServer_test.cc`, less the icon and the time. -/
def helloHttpCallback : HttpCallback Unit := fun s req resp =>
  if req.path = ascii "/" then
    (s, page "text/html" "<html><body><h1>Hello</h1></body></html>" resp)
  else if req.path = ascii "/hello" then (s, page "text/plain" "hello, world!\n" resp)
  else defaultHttpCallback s req resp

theorem plain_helloHttpCallback : PlainCallback helloHttpCallback := by
  intro s req close
  unfold helloHttpCallback
  split
  · show (page _ _ _).Plain
    constructor
    all_goals cases close <;> decide +kernel
  · split
    · show (page _ _ _).Plain
      constructor
      all_goals cases close <;> decide +kernel
    · exact plain_defaultHttpCallback s req close

/-- Two requests, the second in two pieces. -/
def twoPages : List Chunk :=
  [textChunk "GET /hello HTTP/1.1\r\n\r\n" (by decide), textChunk "GET / HT" (by decide),
    textChunk "TP/1.1\r\n\r\n" (by decide)]

/-- The fields of a response that keeps the connection, with so long a body. -/
def helloFields (length contentType : String) : List (List UInt8 × List UInt8) :=
  [(ascii "Content-Length", ascii length), (ascii "Connection", ascii "Keep-Alive"),
    (ascii "Content-Type", ascii contentType), (ascii "Server", ascii "Muduo")]

theorem readAll_run_twoPages :
    Reply.readAll ((new ()).run helloHttpCallback twoPages).sent.flatten =
      some [⟨200, ascii "OK", helloFields "14" "text/plain", ascii "hello, world!\n"⟩,
        ⟨200, ascii "OK", helloFields "40" "text/html",
          ascii "<html><body><h1>Hello</h1></body></html>"⟩] :=
  (readAll_run plain_helloHttpCallback () twoPages).trans (by decide +kernel)

end HttpConn

end NewFramework.Net.Http
