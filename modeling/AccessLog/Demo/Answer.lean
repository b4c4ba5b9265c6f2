import AccessLog.Demo.Host
import AccessLog.Demo.Location
import AccessLog.Demo.Route
import AccessLog.Json.Printer
import AccessLog.Settings.Field
import AccessLog.Value.Table

/-!
# Answers of the demo service

An answer is sent in two messages, a start with the status and the headers and a
body. An answer that cannot be made is a failure of the application.
-/

namespace AccessLog.Demo

structure Request where
  method : String
  path : String
  query : List UInt8
  rootPath : String
  headers : List (String × String)
  deriving Repr

structure Answer where
  status : Nat
  headers : List (String × String)
  body : List UInt8
  deriving Repr

/-- A text as bytes, one for each character. -/
def headerBytes (s : String) : List UInt8 := s.toList.map fun c => c.toNat.toUInt8

def headerPair (h : String × String) : Value :=
  .tuple [.bytes (headerBytes h.1), .bytes (headerBytes h.2)]

namespace Request

/-- The scope of the request. It holds the path as a text and as bytes. -/
def scope (r : Request) : Table := [
  (.text "type", .text "http"),
  (.text "http_version", .text "1.1"),
  (.text "method", .text r.method),
  (.text "scheme", .text "http"),
  (.text "path", .text r.path),
  (.text "raw_path", .bytes (utf8 r.path)),
  (.text "query_string", .bytes r.query),
  (.text "root_path", .text r.rootPath),
  (.text "headers", .list (r.headers.map headerPair)),
  (.text "client", .tuple [.text "10.0.0.1", .int 5000]),
  (.text "server", .tuple [.text "testserver", .int 80]),
  (.text "state", .table [])]

/-- The host that the request is addressed to: the one in its first `host`
header, or the server's own when that one is missing or malformed. -/
def host (r : Request) : String :=
  match r.headers.lookup "host" with
  | some h => if Host.isWellFormed h.toList then h else "testserver"
  | none => "testserver"

end Request

namespace Answer

/-- An answer with a body of some type, whose length is stated. -/
def ofBody (status : Nat) (more : List (String × String)) (type : String) (body : List UInt8) :
    Answer :=
  ⟨status, more ++ [("content-length", Number.natText body.length), ("content-type", type)], body⟩

def ofJson (status : Nat) (more : List (String × String)) (v : Value) : Except Fault Answer := do
  return ofBody status more "application/json" (utf8 (← Json.print v))

/-- An answer that explains what is wrong. -/
def ofDetail (status : Nat) (more : List (String × String)) (detail : String) :
    Except Fault Answer :=
  ofJson status more (.table [(.text "detail", .text detail)])

/-- The answer to a request that the application has failed to answer. -/
def serverError : Answer :=
  ofBody 500 [] "text/plain; charset=utf-8" (utf8 "Internal Server Error")

def start (a : Answer) : Table := [
  (.text "type", .text "http.response.start"),
  (.text "status", .int a.status),
  (.text "headers", .list (a.headers.map headerPair))]

def content (a : Answer) : Table := [
  (.text "type", .text "http.response.body"),
  (.text "body", .bytes a.body)]

/-- The answer of an endpoint, which may draw a random number. -/
def ofEndpoint (random : Value) : Endpoint → Except Fault Answer
  | .health => ofJson 200 [] (.table [(.text "status", .text "ok")])
  | .icon => .ok ⟨204, [], []⟩
  | .index => ofJson 201 [] (.table [(.text "message", random)])

def redirect (r : Request) (path : String) : Except Fault Answer :=
  match Setting.ofUtf8? r.query with
  | some query =>
    .ok ⟨307, [("content-length", "0"), ("location", location r.host path query)], []⟩
  | none => .error .undecodable

def ofRequest (r : Request) (random : Value) : Except Fault Answer :=
  match route r.rootPath r.path r.method with
  | .endpoint e => ofEndpoint random e
  | .wrongMethod allowed =>
    ofDetail 405 [("allow", ", ".intercalate allowed)] "Method Not Allowed"
  | .redirect path => redirect r path
  | .nowhere => ofDetail 404 [] "Not Found"

end Answer

/-- Does the request draw a random number? -/
def Request.draws (r : Request) : Bool :=
  route r.rootPath r.path r.method == .endpoint .index

end AccessLog.Demo
