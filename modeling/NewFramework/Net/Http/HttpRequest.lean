import Mathlib.Data.List.DropRight
import NewFramework.Net.Buffer

/-!
# `HttpRequest`

What the parser fills in, from `muduo/net/http/HttpRequest.h`.  A string is the list of its bytes,
and `headers_` is a `TreeMap`, the `std::map` of the source.
-/

namespace NewFramework.Net.Http

/-- The bytes of an ASCII text. -/
def ascii (text : String) : List UInt8 := text.toList.map Char.toUInt8

/-- Microseconds since the epoch; `Timestamp()` is 0. -/
abbrev Timestamp := Int

inductive Method where
  | kInvalid
  | kGet
  | kPost
  | kHead
  | kPut
  | kDelete
  deriving DecidableEq, Repr

inductive Version where
  | kUnknown
  | kHttp10
  | kHttp11
  deriving DecidableEq, Repr

abbrev Headers := Std.TreeMap (List UInt8) (List UInt8)

structure HttpRequest where
  method : Method
  version : Version
  path : List UInt8
  query : List UInt8
  receiveTime : Timestamp
  headers : Headers

/-- The method that a text names. -/
def Method.ofText (m : List UInt8) : Method :=
  if m = ascii "GET" then .kGet
  else if m = ascii "POST" then .kPost
  else if m = ascii "HEAD" then .kHead
  else if m = ascii "PUT" then .kPut
  else if m = ascii "DELETE" then .kDelete
  else .kInvalid

/-- `methodString` -/
def Method.methodString : Method → List UInt8
  | .kGet => ascii "GET"
  | .kPost => ascii "POST"
  | .kHead => ascii "HEAD"
  | .kPut => ascii "PUT"
  | .kDelete => ascii "DELETE"
  | .kInvalid => ascii "UNKNOWN"

theorem Method.ofText_methodString {m : Method} (known : m ≠ .kInvalid) :
    Method.ofText m.methodString = m := by
  cases m with
  | kInvalid => contradiction
  | kGet | kPost | kHead | kPut | kDelete => decide

theorem Method.methodString_ofText {text : List UInt8} (known : Method.ofText text ≠ .kInvalid) :
    (Method.ofText text).methodString = text := by
  unfold Method.ofText at known ⊢
  split_ifs at known ⊢ with get post head put delete
  · exact get.symm
  · exact post.symm
  · exact head.symm
  · exact put.symm
  · exact delete.symm
  · contradiction

/-- `isspace` in the C locale. -/
def isspace (c : UInt8) : Bool := c == 32 || (9 ≤ c && c ≤ 13)

namespace HttpRequest

/-- `HttpRequest()` -/
def new : HttpRequest where
  method := .kInvalid
  version := .kUnknown
  path := []
  query := []
  receiveTime := 0
  headers := ∅

def setVersion (v : Version) (r : HttpRequest) : HttpRequest := { r with version := v }

/-- `setMethod`; `none` where `assert(method_ == kInvalid)` fails. -/
def setMethod (m : List UInt8) (r : HttpRequest) : Option (Bool × HttpRequest) :=
  if r.method = .kInvalid then
    some (Method.ofText m ≠ .kInvalid, { r with method := .ofText m })
  else none

def setPath (path : List UInt8) (r : HttpRequest) : HttpRequest := { r with path := path }

def setQuery (query : List UInt8) (r : HttpRequest) : HttpRequest := { r with query := query }

def setReceiveTime (t : Timestamp) (r : HttpRequest) : HttpRequest := { r with receiveTime := t }

/-- The value of a header: what follows the colon, without the spaces around it. -/
def trim (value : List UInt8) : List UInt8 := (value.dropWhile isspace).rdropWhile isspace

/-- `addHeader(start, colon, end)`, with the bytes before the colon and those behind it. -/
def addHeader (field value : List UInt8) (r : HttpRequest) : HttpRequest :=
  { r with headers := r.headers.insert field (trim value) }

/-- `getHeader`, empty where there is none. -/
def getHeader (field : List UInt8) (r : HttpRequest) : List UInt8 := r.headers.getD field []

end HttpRequest

end NewFramework.Net.Http
