import NewFramework.Net.Http.Incremental

/-!
# What a request is

The grammar of a request, as values that carry their well-formedness, and the bytes each of them
stands for.  A target is whatever stands between the first two spaces of the line, so it may be
empty.  `parseRequest` (`muduo/net/http/HttpContext.cc`) reads every request back.  It also takes a
line without a colon for the empty line, and this is the only way in which it accepts too much.
-/

namespace NewFramework.Net.Http
open NewFramework.Lib HttpContext

def Version.text : Version → List UInt8
  | .kHttp10 => ascii "HTTP/1.0"
  | .kHttp11 => ascii "HTTP/1.1"
  | .kUnknown => []

structure RequestLine where
  method : Method
  target : List UInt8
  version : Version
  known : method ≠ .kInvalid
  versioned : version ≠ .kUnknown
  noSpace : space ∉ target
  oneLine : ¬ kCRLF <:+: target

def RequestLine.text (r : RequestLine) : List UInt8 :=
  r.method.methodString ++ space :: (r.target ++ space :: r.version.text)

/-- A header line: what stands before its first colon, and the rest. -/
structure Field where
  name : List UInt8
  value : List UInt8
  noColon : colon ∉ name
  oneLine : ¬ kCRLF <:+: name ++ colon :: value

def Field.text (f : Field) : List UInt8 := f.name ++ colon :: f.value

structure Message where
  line : RequestLine
  fields : List Field

namespace Message

/-- The bytes up to the empty line. -/
def text (m : Message) : List UInt8 :=
  m.line.text ++ kCRLF ++ m.fields.flatMap fun f => f.text ++ kCRLF

def bytes (m : Message) : List UInt8 := m.text ++ kCRLF

/-- The request a message stands for: a later field of the same name replaces an earlier one. -/
def request (t : Timestamp) (m : Message) : HttpRequest where
  method := m.line.method
  version := m.line.version
  path := m.line.target.takeWhile (· ≠ question)
  query := m.line.target.dropWhile (· ≠ question)
  receiveTime := t
  headers := m.fields.foldl (fun headers f => headers.insert f.name (HttpRequest.trim f.value)) ∅

end Message

theorem cr_ne_lf : (13 : UInt8) ≠ 10 := by decide

/-! ## The request line -/

theorem versionOf_text {v : Version} (versioned : v ≠ .kUnknown) : versionOf v.text = some v := by
  cases v with
  | kUnknown => contradiction
  | kHttp10 | kHttp11 => decide

theorem text_of_versionOf {text : List UInt8} {v : Version} (named : versionOf text = some v) :
    v ≠ .kUnknown ∧ text = v.text := by
  unfold versionOf at named
  split at named
  · next start =>
    have split := List.take_append_drop 7 text
    split_ifs at named with one zero
    · obtain rfl := Option.some.inj named
      exact ⟨nofun, by rw [← split, start.2, one]; rfl⟩
    · obtain rfl := Option.some.inj named
      exact ⟨nofun, by rw [← split, start.2, zero]; rfl⟩
  · contradiction

theorem setTarget_eq (target : List UInt8) (r : HttpRequest) (query : r.query = []) :
    setTarget target r =
      { r with
        path := target.takeWhile (· ≠ question)
        query := target.dropWhile (· ≠ question) } := by
  unfold setTarget
  split
  · rfl
  · next none =>
    have all : ∀ c ∈ target, decide (c ≠ question) = true := fun c mem =>
      decide_eq_true (ne_of_mem_of_not_mem mem none)
    rw [List.takeWhile_eq_self_iff.mpr all, List.dropWhile_eq_nil_iff.mpr all, ← query]
    rfl

namespace RequestLine

/-- What the parser makes of a request line. -/
def request (r : RequestLine) : HttpRequest :=
  { HttpRequest.new with
    method := r.method
    version := r.version
    path := r.target.takeWhile (· ≠ question)
    query := r.target.dropWhile (· ≠ question) }

theorem space_notMem_methodString (m : Method) : space ∉ m.methodString := by
  cases m <;> decide

theorem text_oneLine (r : RequestLine) : ¬ kCRLF <:+: r.text := by
  have other : space ≠ 13 ∧ space ≠ 10 := by decide
  refine not_infix_pair other ?_ (not_infix_pair other r.oneLine ?_)
  · cases r.method <;> decide
  · cases r.version <;> decide

theorem processRequestLine (r : RequestLine) :
    new.processRequestLine r.text = some (true, { new with request := r.request }) := by
  have method := space_notMem_methodString r.method
  have known : decide (Method.ofText r.method.methodString ≠ .kInvalid) = true := by
    rw [Method.ofText_methodString r.known]
    exact decide_eq_true r.known
  unfold HttpContext.processRequestLine text
  rw [dropWhile_ne_append method, takeWhile_ne_append method]
  dsimp only
  rw [HttpRequest.setMethod, if_pos (show new.request.method = .kInvalid from rfl), known]
  dsimp only
  rw [dropWhile_ne_append r.noSpace, takeWhile_ne_append r.noSpace]
  dsimp only
  rw [versionOf_text r.versioned, setTarget_eq _ _ rfl, Method.ofText_methodString r.known]
  rfl

/-- The parser takes nothing else for a request line. -/
theorem exists_of_processRequestLine {line : List UInt8} {c : HttpContext}
    (oneLine : ¬ kCRLF <:+: line) (processed : new.processRequestLine line = some (true, c)) :
    ∃ r : RequestLine, line = r.text := by
  unfold HttpContext.processRequestLine at processed
  cases afterFirst : line.dropWhile (· ≠ space) with
  | nil =>
    rw [afterFirst] at processed
    cases processed
  | cons x afterMethod =>
    have split := dropWhile_ne_cons afterFirst
    rw [afterFirst] at processed
    dsimp only at processed
    rw [HttpRequest.setMethod, if_pos (show new.request.method = .kInvalid from rfl)] at processed
    cases known : decide (Method.ofText (line.takeWhile (· ≠ space)) ≠ .kInvalid) with
    | false =>
      rw [known] at processed
      cases processed
    | true =>
      rw [known] at processed
      dsimp only at processed
      cases afterSecond : afterMethod.dropWhile (· ≠ space) with
      | nil =>
        rw [afterSecond] at processed
        cases processed
      | cons y text =>
        have split' := dropWhile_ne_cons afterSecond
        rw [afterSecond] at processed
        dsimp only at processed
        cases named : versionOf text with
        | none =>
          rw [named] at processed
          cases processed
        | some v =>
          obtain ⟨versioned, rfl⟩ := text_of_versionOf named
          have known := of_decide_eq_true known
          refine ⟨⟨_, _, v, known, versioned, not_mem_takeWhile_ne afterMethod, ?_⟩, ?_⟩
          · intro inner
            have behind : afterMethod <:+ line := by
              rw [split]
              exact (List.suffix_cons space afterMethod).trans (List.suffix_append ..)
            exact oneLine (inner.trans ((List.takeWhile_prefix _).isInfix.trans behind.isInfix))
          · rw [text, Method.methodString_ofText known, ← split', ← split]

theorem consume (r : RequestLine) (t : Timestamp) :
    new.consume t r.text = .next ⟨.kExpectHeaders, { r.request with receiveTime := t }⟩ := by
  unfold HttpContext.consume
  rw [processRequestLine]
  rfl

end RequestLine

/-- What the parser makes of the first line. -/
theorem parse_new (t : Timestamp) (input : List UInt8) :
    parse kCRLF (consume t) new input = ⟨none, new, input⟩ ∨
      (∃ (r : RequestLine) (rest : List UInt8), input = r.text ++ 13 :: 10 :: rest ∧
        parse kCRLF (consume t) new input =
          parse kCRLF (consume t) ⟨.kExpectHeaders, { r.request with receiveTime := t }⟩ rest) ∨
      ∃ line rest c, input = line ++ 13 :: 10 :: rest ∧ ¬ kCRLF <:+: line ∧
        new.processRequestLine line = some (false, c) ∧
        parse kCRLF (consume t) new input = ⟨some (.ok false), c, input⟩ := by
  cases found : search kCRLF input with
  | none => exact .inl (parse_waits found)
  | some n =>
    obtain ⟨line, rest, rfl, -, oneLine⟩ := (search_pair_eq_some cr_ne_lf).mp found
    have first : parse kCRLF (consume t) new (line ++ 13 :: 10 :: rest) = _ :=
      parse_pair cr_ne_lf new oneLine rest
    obtain ⟨ok, c, processed, -⟩ := processRequestLine_state line (c := new) rfl
    have verdict : new.consume t line = match (ok, c) with
        | (false, c) => .stop (.ok false) c false
        | (true, c) => .next ⟨.kExpectHeaders, c.request.setReceiveTime t⟩ := by
      unfold HttpContext.consume
      rw [processed]
      cases ok <;> rfl
    rw [verdict] at first
    cases ok with
    | false => exact .inr (.inr ⟨line, rest, c, rfl, oneLine, processed, first⟩)
    | true =>
      obtain ⟨r, rfl⟩ := RequestLine.exists_of_processRequestLine oneLine processed
      rw [r.processRequestLine] at processed
      cases processed
      exact .inr (.inl ⟨r, rest, rfl, first⟩)

/-! ## The header lines -/

namespace Field

theorem text_oneLine (f : Field) : ¬ kCRLF <:+: f.text := f.oneLine

theorem consume (f : Field) (t : Timestamp) (q : HttpRequest) :
    HttpContext.consume t ⟨.kExpectHeaders, q⟩ f.text =
      .next ⟨.kExpectHeaders, q.addHeader f.name f.value⟩ := by
  have here : colon ∈ f.text := by simp [text]
  unfold HttpContext.consume
  dsimp only
  rw [if_pos here, text, takeWhile_ne_append f.noColon, dropWhile_ne_append f.noColon,
    List.tail_cons]

theorem exists_of_mem {line : List UInt8} (oneLine : ¬ kCRLF <:+: line) (mem : colon ∈ line) :
    ∃ f : Field, line = f.text := by
  have split := dropWhile_ne_cons (dropWhile_ne_of_mem mem)
  exact ⟨⟨_, _, not_mem_takeWhile_ne line, fun inner => oneLine (split ▸ inner)⟩, split⟩

end Field

/-- The bytes of the header lines. -/
def fieldBytes (fields : List Field) : List UInt8 := fields.flatMap fun f => f.text ++ kCRLF

theorem parse_fields (t : Timestamp) (fields : List Field) (q : HttpRequest) (rest : List UInt8) :
    parse kCRLF (consume t) ⟨.kExpectHeaders, q⟩ (fieldBytes fields ++ rest) =
      parse kCRLF (consume t)
        ⟨.kExpectHeaders, fields.foldl (fun q f => q.addHeader f.name f.value) q⟩ rest := by
  induction fields generalizing q with
  | nil => rfl
  | cons f fields ih =>
    have first : fieldBytes (f :: fields) ++ rest =
        f.text ++ 13 :: 10 :: (fieldBytes fields ++ rest) := by
      simp [fieldBytes, kCRLF]
    rw [first, kCRLF, parse_pair cr_ne_lf _ f.text_oneLine, f.consume]
    exact ih _

theorem parse_last (t : Timestamp) (q : HttpRequest) {last : List UInt8}
    (oneLine : ¬ kCRLF <:+: last) (noColon : colon ∉ last) (rest : List UInt8) :
    parse kCRLF (consume t) ⟨.kExpectHeaders, q⟩ (last ++ kCRLF ++ rest) =
      ⟨some (.ok true), ⟨.kGotAll, q⟩, rest⟩ := by
  have split : last ++ kCRLF ++ rest = last ++ 13 :: 10 :: rest := by simp [kCRLF]
  rw [split, kCRLF, parse_pair cr_ne_lf _ oneLine]
  unfold consume
  dsimp only
  rw [if_neg noColon]
  rfl

/-- The header section ends with the first line that has no colon. -/
theorem exists_fields {t : Timestamp} {q : HttpRequest} {input : List UInt8}
    (stops : (parse kCRLF (consume t) ⟨.kExpectHeaders, q⟩ input).result ≠ none) :
    ∃ fields last rest, input = fieldBytes fields ++ last ++ kCRLF ++ rest ∧
      ¬ kCRLF <:+: last ∧ colon ∉ last := by
  induction len : input.length using Nat.strong_induction_on generalizing q input with
  | _ len ih =>
    subst len
    obtain ⟨line, rest, rfl, oneLine⟩ := exists_line cr_ne_lf stops
    by_cases mem : colon ∈ line
    · obtain ⟨f, rfl⟩ := Field.exists_of_mem oneLine mem
      rw [kCRLF, parse_pair cr_ne_lf _ oneLine, f.consume] at stops
      obtain ⟨fields, last, rest, rfl, oneLine, noColon⟩ := ih _ (by simp; omega) stops rfl
      exact ⟨f :: fields, last, rest, by simp [fieldBytes, kCRLF], oneLine, noColon⟩
    · exact ⟨[], line, rest, by simp [fieldBytes, kCRLF], oneLine, mem⟩

/-! ## The message -/

namespace Message

theorem request_eq (t : Timestamp) (m : Message) :
    m.request t = m.fields.foldl (fun q f => q.addHeader f.name f.value)
      { m.line.request with receiveTime := t } := by
  have fold (fields : List Field) (q : HttpRequest) :
      fields.foldl (fun q f => q.addHeader f.name f.value) q =
        { q with headers := fields.foldl (fun headers f =>
            headers.insert f.name (HttpRequest.trim f.value)) q.headers } := by
    induction fields generalizing q with
    | nil => rfl
    | cons f fields ih => exact ih _
  rw [fold]
  rfl

/-- A header has the value of its last field. -/
theorem headers_getElem? (t : Timestamp) (m : Message) (name : List UInt8) :
    (m.request t).headers[name]? =
      (m.fields.reverse.find? (·.name = name)).map fun f => HttpRequest.trim f.value := by
  unfold request
  dsimp only
  induction m.fields using List.reverseRecOn with
  | nil => simp
  | append_singleton fields f ih =>
    rw [List.foldl_concat, Std.TreeMap.getElem?_insert, List.reverse_concat, List.find?_cons, ih]
    by_cases same : f.name = name
    · simp [same]
    · simp [same]

theorem crlf_suffix_text (m : Message) : kCRLF <:+ m.text := by
  unfold text
  rcases List.eq_nil_or_concat m.fields with none | ⟨fields, f, some⟩
  · rw [none]
    exact ⟨m.line.text, by simp⟩
  · rw [some]
    exact ⟨m.line.text ++ kCRLF ++ fieldBytes fields ++ f.text, by simp [fieldBytes]⟩

/-- The parser reads a message back that ends with an empty line, or another without a colon. -/
theorem parse_last_line (t : Timestamp) (m : Message) {last : List UInt8}
    (oneLine : ¬ kCRLF <:+: last)
    (noColon : colon ∉ last) (rest : List UInt8) :
    parse kCRLF (consume t) new (m.text ++ last ++ kCRLF ++ rest) =
      ⟨some (.ok true), ⟨.kGotAll, m.request t⟩, rest⟩ := by
  have split : m.text ++ last ++ kCRLF ++ rest =
      m.line.text ++ 13 :: 10 :: (fieldBytes m.fields ++ (last ++ kCRLF ++ rest)) := by
    simp [text, fieldBytes, kCRLF]
  rw [split, kCRLF, parse_pair cr_ne_lf _ m.line.text_oneLine, m.line.consume]
  dsimp only
  rw [← kCRLF, parse_fields, ← request_eq, parse_last t _ oneLine noColon]

theorem parse_bytes (t : Timestamp) (m : Message) (rest : List UInt8) :
    parse kCRLF (consume t) new (m.bytes ++ rest) =
      ⟨some (.ok true), ⟨.kGotAll, m.request t⟩, rest⟩ := by
  have parsed := m.parse_last_line t (by decide) List.not_mem_nil rest
  rwa [List.append_nil] at parsed

/-- What the parser takes for a request. -/
theorem exists_of_parse {t : Timestamp} {input rest : List UInt8} {c : HttpContext}
    (parsed : parse kCRLF (consume t) new input = ⟨some (.ok true), c, rest⟩) :
    ∃ (m : Message) (last : List UInt8), input = m.text ++ last ++ kCRLF ++ rest ∧
      ¬ kCRLF <:+: last ∧ colon ∉ last ∧ c = ⟨.kGotAll, m.request t⟩ := by
  rcases parse_new t input with waits | ⟨r, afterLine, rfl, goes⟩ | ⟨_, _, _, _, _, _, rejects⟩
  · rw [parsed] at waits
    cases waits
  · have stops : (parse kCRLF (consume t)
        ⟨.kExpectHeaders, { r.request with receiveTime := t }⟩ afterLine).result ≠ none := by
      rw [← goes, parsed]
      nofun
    obtain ⟨fields, last, rest', rfl, oneLine, noColon⟩ := exists_fields stops
    have split : r.text ++ 13 :: 10 :: (fieldBytes fields ++ last ++ kCRLF ++ rest') =
        (Message.mk r fields).text ++ last ++ kCRLF ++ rest' := by
      simp [text, fieldBytes, kCRLF]
    rw [split] at parsed ⊢
    rw [parse_last_line t _ oneLine noColon] at parsed
    obtain ⟨-, rfl, rfl⟩ := Parsed.mk.inj parsed
    exact ⟨⟨r, fields⟩, last, rfl, oneLine, noColon, rfl⟩
  · rw [parsed] at rejects
    cases rejects

end Message

/-! ## What is accepted -/

/-- `parseRequest` on a new context gets a whole request exactly where the bytes begin with one;
then it records that request and takes its bytes. -/
def AcceptsGrammar (t : Timestamp) (buf : Buffer) : Prop :=
  (∀ ok c buf', new.parseRequest t buf = .ok (ok, c, buf') → c.gotAll →
    ∃ m : Message, m.bytes <+: buf.readable) ∧
  ∀ (m : Message) (rest : List UInt8), buf.readable = m.bytes ++ rest →
    ∃ buf', new.parseRequest t buf = .ok (true, ⟨.kGotAll, m.request t⟩, buf') ∧
      buf'.readable = rest

/-- The first line behind the request line that has no colon is not empty. -/
def EndsWithoutColon (input : List UInt8) : Prop :=
  ∃ (m : Message) (last rest : List UInt8), input = m.text ++ last ++ kCRLF ++ rest ∧
    ¬ kCRLF <:+: last ∧ colon ∉ last ∧ last ≠ []

theorem parse_of_gotAll {t : Timestamp} {buf buf' : Buffer} {ok : Bool} {c : HttpContext}
    (returned : new.parseRequest t buf = .ok (ok, c, buf')) (gotAll : c.gotAll) :
    parse kCRLF (consume t) new buf.readable = ⟨some (.ok true), c, buf'.readable⟩ := by
  have called := parseRequest_eq t expectsLine_new buf
  have kept : (parse kCRLF (consume t) new buf.readable).Keeps Ready Stopped :=
    parse_keeps (fun _ line ready => Ready.consume ready t line) ready_new buf.readable
  rw [returned] at called
  rcases parsed : parse kCRLF (consume t) new buf.readable with ⟨_ | result, c', rest⟩ <;>
    rw [parsed] at called kept
  · cases called
    rcases Ready.expects kept with state | state <;> cases state.symm.trans gotAll
  · rcases kept with ⟨rfl, -⟩ | ⟨rfl, state⟩ <;> cases called
    · rfl
    · cases state.symm.trans gotAll

theorem returns_of_parse {t : Timestamp} {buf : Buffer} {c : HttpContext} {rest : List UInt8}
    (parsed : parse kCRLF (consume t) new buf.readable = ⟨some (.ok true), c, rest⟩) :
    ∃ buf', new.parseRequest t buf = .ok (true, c, buf') ∧ buf'.readable = rest := by
  have called := parseRequest_eq t expectsLine_new buf
  rw [parsed] at called
  exact onBytes_eq_ok called

theorem not_acceptsGrammar {t : Timestamp} {buf : Buffer} (ends : EndsWithoutColon buf.readable) :
    ¬ AcceptsGrammar t buf := by
  rintro ⟨only, -⟩
  obtain ⟨m, last, rest, input, oneLine, noColon, nonempty⟩ := ends
  have parsed := m.parse_last_line t oneLine noColon rest
  rw [← input] at parsed
  obtain ⟨buf', returned, left⟩ := returns_of_parse parsed
  obtain ⟨m', rest', input'⟩ := only _ _ _ returned rfl
  have parsed' := m'.parse_bytes t rest'
  rw [input', parsed] at parsed'
  obtain ⟨-, -, rfl⟩ := Parsed.mk.inj parsed'
  have same : m.text ++ last = m'.text := by
    rw [input, Message.bytes, List.append_cancel_right_eq, List.append_cancel_right_eq] at input'
    exact input'.symm
  have suffix := m'.crlf_suffix_text
  rw [← same] at suffix
  exact nonempty (eq_nil_of_pair_suffix cr_ne_lf m.crlf_suffix_text oneLine suffix)

/-- The parser accepts the grammar, but for the inputs whose header section ends with a line that
is not empty and has no colon. -/
theorem acceptsGrammar_iff (t : Timestamp) (buf : Buffer) :
    AcceptsGrammar t buf ↔ ¬ EndsWithoutColon buf.readable := by
  constructor
  · exact fun accepts ends => not_acceptsGrammar ends accepts
  · intro exact_end
    constructor
    · intro ok c buf' returned gotAll
      obtain ⟨m, last, input, oneLine, noColon, -⟩ :=
        Message.exists_of_parse (parse_of_gotAll returned gotAll)
      have empty : last = [] := by
        by_contra nonempty
        exact exact_end ⟨m, last, _, input, oneLine, noColon, nonempty⟩
      refine ⟨m, buf'.readable, ?_⟩
      rw [input, empty, List.append_nil, Message.bytes]
    · intro m rest input
      have parsed := m.parse_bytes t rest
      rw [← input] at parsed
      exact returns_of_parse parsed

/-- `foo` is not an empty line, and the input has no other. -/
theorem not_acceptsGrammar_foo :
    ¬ AcceptsGrammar 0
      ((Buffer.ofSize kInitialSize).append (ascii "GET / HTTP/1.1\r\nfoo\r\n")) := by
  refine not_acceptsGrammar
    ⟨⟨⟨.kGet, ascii "/", .kHttp11, ?_, ?_, ?_, ?_⟩, []⟩, ascii "foo", [], ?_⟩
  · decide
  · decide
  · decide
  · decide
  · rw [Buffer.readable_append, Buffer.readable_ofSize]
    decide

end NewFramework.Net.Http
