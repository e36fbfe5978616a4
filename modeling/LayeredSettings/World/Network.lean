import LayeredSettings.Error
import LayeredSettings.World.Url

set_option autoImplicit false

/-! # Requests and answers

An `Outcome` is what a step gives together with the requests that it sent, in order. `Network.send`
sends one request: an address or header that cannot be sent fails without a trace, and so does
everything where nobody can be reached; any other request goes out once and is answered. What a
network answers is up to it; `Network.serving` answers plain requests from a list. -/

namespace LayeredSettings

/-- A request. -/
structure Request where
  method : String
  url : String
  /-- The values of the authorization header, which may be repeated. -/
  authorization : List String := []
  consulToken : Option String := none
  body : Option String := none
deriving DecidableEq, Repr

/-- An answer: its status and its body. It names no other address, so no request is redirected. -/
structure Response where
  status : Nat
  body : List UInt8

/-! ## Outcomes -/

/-- The result of a step, and the requests it sent. -/
structure Outcome (α : Type) where
  requests : List Request
  result : Except Error α

namespace Outcome

variable {α β : Type}

/-- No request and a result. -/
def ofExcept (result : Except Error α) : Outcome α :=
  ⟨[], result⟩

/-- Fail without a request. -/
def fail (e : Error) : Outcome α :=
  ⟨[], .error e⟩

/-- Go on with a result; the requests of both steps stand in order. -/
def bind (x : Outcome α) (f : α → Outcome β) : Outcome β :=
  match x.result with
  | .ok a => ⟨x.requests ++ (f a).requests, (f a).result⟩
  | .error e => ⟨x.requests, .error e⟩

instance : Monad Outcome where
  pure a := ⟨[], .ok a⟩
  bind := Outcome.bind

end Outcome

/-! ## The network -/

/-- How a request is answered. -/
inductive Answer where
  /-- The connection closes without an answer. -/
  | dropped
  | status (code : Nat) (body : List UInt8)

/-- A request that is served, by method and address. -/
structure Exchange where
  method : String
  url : String
  answer : Answer

/-- Whether a text may stand in a header: it holds no control other than a tab. -/
def isHeaderText (s : String) : Bool :=
  s.toList.all fun c => c == '\t' || (0x20 ≤ c.toNat && c.toNat != 0x7F)

/-- Whether the header texts of a request can be sent. -/
def Request.hasSendableHeaders (r : Request) : Bool :=
  r.authorization.all isHeaderText && r.consulToken.all isHeaderText

/-- The request as it goes to an address: the user of the address is sent in front of what else the
    request says of its authorization. -/
def Request.sentTo (r : Request) (url : Url) : Request :=
  { r with url := url.text, authorization := url.authority.basic?.toList ++ r.authorization }

/-- An answer of a status; two of them carry no body. -/
def Response.ofStatus (code : Nat) (body : List UInt8) : Response :=
  ⟨code, if code = 204 ∨ code = 304 then [] else body⟩

/-- A status of success. -/
def Response.isSuccess (r : Response) : Bool :=
  200 ≤ r.status && r.status < 300

/-- What the sender of a request receives of its answer. -/
def Answer.received : Answer → Except Error Response
  | .dropped => .error .http
  | .status code body => .ok (Response.ofStatus code body)

/-- A way to send requests. -/
abbrev Transport := Request → Outcome Response

/-- A network: how names of hosts are written, and how the hosts answer. -/
structure Network where
  /-- How host names beyond ASCII are written. -/
  names : HostNames := fun _ => none
  /-- The answer to a request as it is sent, or none where nobody can be reached. -/
  answer? : Request → Option Answer

namespace Network

/-- Nobody can be reached. -/
def unreachable : Network where
  answer? _ := none

/-- Send a request to the address that its text writes. -/
def send (network : Network) : Transport := fun r =>
  match Url.ofText? network.names r.url with
  | none => .fail .http
  | some url =>
    if r.hasSendableHeaders then
      match network.answer? (r.sentTo url) with
      | none => .fail .http
      | some answer => ⟨[r.sentTo url], answer.received⟩
    else .fail .http

/-- Plain requests are answered by the first exchange that fits, or by status 404 if none does; with
    encryption nobody can be reached. -/
def serving (exchanges : List Exchange) : Network where
  answer? r :=
    if (Text.behind? "http://" r.url).isSome then
      match exchanges.find? fun e => e.method == r.method && e.url == r.url with
      | some exchange => some exchange.answer
      | none => some (.status 404 [])
    else none

end Network

end LayeredSettings
