import LayeredSettings.Format
import LayeredSettings.Json.Answer
import LayeredSettings.Octets.Base64
import LayeredSettings.Octets.Crc32c
import LayeredSettings.Text.Template
import LayeredSettings.World.Network

set_option autoImplicit false

/-! # Secret manager sources

A secret manager serves versions of secrets. The answer holds the secret in base64 and its CRC32C
checksum; a secret without a checksum, or with a wrong one, is refused as damaged before anything of
it is read. -/

namespace LayeredSettings

/-! ## Answers -/

/-- The payload of an answer. -/
structure SecretPayload where
  data : String := ""
  checksum : Option Value := none
deriving DecidableEq

namespace SecretPayload

/-- The value of a checksum field, null counting as absent. The maps of the answer and of its payload
    are open around it. -/
def checksum? : Json.Written → Option (Option Value)
  | .null => some none
  | w => (w.value? (Json.Written.depthLimit - 2)).map some

/-- The payload that is written: a map, or a list of the fields in order. Fields may be left out, and
    the data must be a text. -/
def ofWritten? : Json.Written → Option SecretPayload
  | .map entries => do
    let data ← Json.Written.textField? "data" entries
    match ← Json.Written.field? "dataCrc32c" entries with
    | none => some ⟨data, none⟩
    | some w => (checksum? w).map fun checksum => ⟨data, checksum⟩
  | .list [] => some {}
  | .list [data] => data.text?.map fun data => ⟨data, none⟩
  | .list [data, w] => do
    let data ← data.text?
    let checksum ← checksum? w
    some ⟨data, checksum⟩
  | _ => none

/-- The payload field of an answer, which may be null. -/
def ofField? : Json.Written → Option (Option SecretPayload)
  | .null => some none
  | w => (ofWritten? w).map some

/-- The payload of an answer, if the answer is well formed and has one. -/
def ofAnswer? : Json.Written → Option (Option SecretPayload)
  | .map entries => do
    match ← Json.Written.field? "payload" entries with
    | none => some none
    | some w => ofField? w
  | .list [w] => ofField? w
  | _ => none

/-- The payload that the body of an answer carries, if it is well formed and carries one. -/
def ofBody? (body : List UInt8) : Option (Option SecretPayload) :=
  (Json.ofBody? body).bind ofAnswer?

/-- The checksum that was sent: a number of the unsigned 64-bit range, or a text that writes one. -/
def expectedChecksum? : Option Value → Option Nat
  | some (.text s) => Text.unsigned64? (Text.trim s)
  | some (.number n) => n.unsigned64?
  | _ => none

end SecretPayload

/-- Refuse octets whose checksum is not the one that was sent. -/
def verifyChecksum (resource : String) (octets : List UInt8) (sent : Option Value) :
    Except Error Unit :=
  match SecretPayload.expectedChecksum? sent with
  | none => .error (.dataCorruption resource .noChecksum)
  | some expected =>
    let computed := Crc32c.checksum octets
    if computed = expected then .ok ()
    else .error (.dataCorruption resource (.mismatch expected computed))

/-! ## The source -/

/-- A document that is kept as a version of a secret. -/
structure SecretManagerSource where
  /-- The project, perhaps with `projects/` in front of it. -/
  project : String
  /-- The secret, perhaps with its version or as a full resource name. -/
  secret : String
  format : Format
  endpoint : Option String := none
  token : Option String := none
deriving DecidableEq, Repr

namespace SecretManagerSource

/-- Where secrets are served if no endpoint is given. -/
def defaultEndpoint : String := "https://secretmanager.googleapis.com"

/-- The endpoint without slashes at its end. -/
def base (s : SecretManagerSource) : String :=
  match s.endpoint with
  | some endpoint => Text.dropTrailing '/' endpoint
  | none => defaultEndpoint

/-- The resource of the secret, perhaps without its version. -/
def secretResource (s : SecretManagerSource) : String :=
  let secret := Text.stripChar '/' s.secret
  if (Text.behind? "projects/" secret).isSome then secret
  else
    let project := Text.stripChar '/' s.project
    let bare := (Text.behind? "projects/" project).getD project
    "projects/" ++ bare ++ "/secrets/" ++ secret

/-- The full resource name: the latest version unless one is named. -/
def resourceName (s : SecretManagerSource) : String :=
  let resource := s.secretResource
  if Text.contains "/versions/" resource then resource else resource ++ "/versions/latest"

/-- The request for the secret. -/
def request (s : SecretManagerSource) : Request where
  method := "GET"
  url := s.base ++ "/v1/" ++ s.resourceName ++ ":access"
  authorization := (s.token.map ("Bearer " ++ ·)).toList

/-- The payload of an answer. -/
def payload (s : SecretManagerSource) (r : Response) : Except Error SecretPayload :=
  if !r.isSuccess then .error (.remoteStatus "secret manager" s.resourceName r.status)
  else
    match SecretPayload.ofBody? r.body with
    | none => .error .http
    | some none => .error (.dataCorruption s.resourceName .noPayload)
    | some (some payload) => .ok payload

/-- The text of a payload, once its checksum is verified. -/
def document (s : SecretManagerSource) (payload : SecretPayload) : Except Error String :=
  match Base64.decode? payload.data with
  | none => .error .decode
  | some octets => do
    verifyChecksum s.resourceName octets payload.checksum
    match Utf8.decode? octets with
    | none => .error .decode
    | some text => .ok text

/-- The settings of an answer. -/
def treeOf (s : SecretManagerSource) (r : Response) : Except Error Tree := do
  let payload ← s.payload r
  let text ← s.document payload
  s.format.tree text s.resourceName

/-- Ask for the secret and read its settings. -/
def loadVia (send : Transport) (s : SecretManagerSource) : Outcome Tree := do
  let response ← send s.request
  .ofExcept (s.treeOf response)

end SecretManagerSource

end LayeredSettings
