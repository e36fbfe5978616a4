import LayeredSettings.Format
import LayeredSettings.Json.Answer
import LayeredSettings.Octets.Base64
import LayeredSettings.Text.Template
import LayeredSettings.World.Network

set_option autoImplicit false

/-! # Key-value store sources

A key-value store serves a document under a key. The two protocols differ in the request and in how
the answer carries the document: as it is, or in base64 inside a JSON map. -/

namespace LayeredSettings

/-- The protocol of a store. -/
inductive Protocol where
  | consul
  | etcd3
deriving DecidableEq, Repr

/-- The protocol that a name stands for, blanks around it and letter case ignored. -/
def Protocol.ofName (text : String) : Except Error Protocol :=
  match Text.lower (Text.trim text) with
  | "consul" => .ok .consul
  | "etcd3" => .ok .etcd3
  | "etcd" => .ok .etcd3
  | other => .error (.unsupportedRemoteProvider other)

/-! ## Range answers -/

namespace RangeAnswer

/-- The value of a stored pair: a map, or a list of its one field; a value left out is empty. -/
def value? : Json.Written → Option String
  | .map entries => Json.Written.textField? "value" entries
  | .list [] => some ""
  | .list [w] => w.text?
  | _ => none

/-- The values of a list of stored pairs. -/
def valuesOfList? : Json.Written → Option (List String)
  | .list pairs => pairs.mapM value?
  | _ => none

/-- The values of a range answer: a map, or a list of its one field; pairs left out are none. -/
def values? : Json.Written → Option (List String)
  | .map entries => do
    match ← Json.Written.field? "kvs" entries with
    | none => some []
    | some w => valuesOfList? w
  | .list [] => some []
  | .list [w] => valuesOfList? w
  | _ => none

/-- The values of the range answer that a body carries, if it is well formed. -/
def ofBody? (body : List UInt8) : Option (List String) :=
  (Json.ofBody? body).bind values?

end RangeAnswer

/-! ## The source -/

/-- A document under a key of a store. -/
structure KeyValueSource where
  /-- The name of the protocol. -/
  protocol : String
  address : String
  path : String
  format : Format
  token : Option String := none
deriving DecidableEq, Repr

namespace KeyValueSource

/-- The address with a scheme and without slashes at its end. -/
def base (s : KeyValueSource) : String :=
  let address := Text.dropTrailing '/' s.address
  if Text.contains "://" address then address else "http://" ++ address

/-- The key, which does not start with a slash. -/
def key (s : KeyValueSource) : String :=
  Text.dropLeading '/' s.path

/-- How parse errors name the source. -/
def label (s : KeyValueSource) : String :=
  s.protocol ++ " key '" ++ s.key ++ "'"

/-- The request for the document. -/
def request (s : KeyValueSource) : Protocol → Request
  | .consul =>
    { method := "GET"
      url := s.base ++ "/v1/kv/" ++ s.key ++ "?raw"
      consulToken := s.token }
  | .etcd3 =>
    { method := "POST"
      url := s.base ++ "/v3/kv/range"
      authorization := s.token.toList
      body := some ("\x7b\"key\":\"" ++ Base64.encode (Utf8.encode s.key) ++ "\"\x7d") }

/-- The document of the first pair of a range answer. -/
def firstDocument (s : KeyValueSource) (body : List UInt8) : Except Error String :=
  match RangeAnswer.ofBody? body with
  | none => .error .http
  | some [] => .error (.remoteStatus s.protocol s.key 404)
  | some (encoded :: _) =>
    match (Base64.decode? encoded).bind Utf8.decode? with
    | none => .error .decode
    | some text => .ok text

/-- The document of an answer. -/
def document (s : KeyValueSource) (p : Protocol) (r : Response) : Except Error String :=
  if !r.isSuccess then .error (.remoteStatus s.protocol s.key r.status)
  else
    match p with
    | .consul => .ok (Utf8.decodeLossy r.body)
    | .etcd3 => s.firstDocument r.body

/-- The settings of an answer. -/
def treeOf (s : KeyValueSource) (p : Protocol) (r : Response) : Except Error Tree := do
  let text ← s.document p r
  s.format.tree text s.label

/-- Ask for the document and read its settings. -/
def loadVia (send : Transport) (s : KeyValueSource) : Outcome Tree := do
  let protocol ← .ofExcept (Protocol.ofName s.protocol)
  let response ← send (s.request protocol)
  .ofExcept (s.treeOf protocol response)

end KeyValueSource

end LayeredSettings
