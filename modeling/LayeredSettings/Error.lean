import LayeredSettings.Text.Quoted

set_option autoImplicit false

/-! # Errors

What can go wrong between the environment and a settings tree. An `Error` is the cause; `summary`
and `detail` are its wording, joined by `message`. -/

namespace LayeredSettings

/-- Why a document gives no settings. -/
inductive DocumentFault where
  /-- The text is not of the declared format. This one fault stands for all that a reader can say
      against a text, so faults of two texts say nothing of each other; that one text is refused for
      the same reason wherever it is served rests on its being read by the same reader. -/
  | malformed
  /-- The root is of this kind, not a map. -/
  | notAMap (kind : String)
deriving DecidableEq, Repr

/-- What is wrong with a secret's payload. -/
inductive Corruption where
  | noPayload
  | noChecksum
  | mismatch (expected computed : Nat)
deriving DecidableEq, Repr

/-- A setting of the environment that rules a mode out. -/
inductive Misconfiguration where
  /-- The remote mode is forced without both addresses. -/
  | noAddressPair
  /-- This variable of the remote pair is empty. -/
  | emptyVariable (key : String)
deriving DecidableEq, Repr

/-- Why loading settings failed. -/
inductive Error where
  | fileRead (path : String)
  | configNotFound (name : String) (paths : List String)
  | parse (source : String) (fault : DocumentFault)
  | unsupportedFormat (name : String)
  | unmarshal
  | http
  | remoteStatus (provider resource : String) (status : Nat)
  | dataCorruption (resource : String) (reason : Corruption)
  | decode
  | unsupportedRemoteProvider (name : String)
  | database
  | unsupportedDriver (name : String)
  | invalidIdentifier (text : String)
  | config (reason : Misconfiguration)
deriving DecidableEq, Repr

/-- The wording of a corruption. -/
def Corruption.text : Corruption → String
  | .noPayload => "response has no payload"
  | .noChecksum => "payload has no usable CRC32C checksum"
  | .mismatch expected computed =>
    "CRC32C mismatch (expected " ++ toString expected ++ ", computed " ++ toString computed ++ ")"

/-- The wording of a misconfiguration. -/
def Misconfiguration.text : Misconfiguration → String
  | .noAddressPair =>
    "USE_CONFIG=remote needs both CONFIG_REMOTE_ADDRESS and SECRET_REMOTE_ADDRESS"
  | .emptyVariable key => key ++ " is required for the legacy remote pair"

namespace Error

/-- What failed. -/
def summary : Error → String
  | .fileRead path => "Failed to read file '" ++ path ++ "'"
  | .configNotFound name paths =>
    "Config file '" ++ name ++ "' not found in " ++ Text.quotedList paths
  | .parse source _ => "Failed to parse " ++ source
  | .unsupportedFormat name => "Unsupported config type: " ++ name
  | .unmarshal => "Failed to unmarshal settings"
  | .http => "HTTP request failed"
  | .remoteStatus provider resource status =>
    provider ++ " returned " ++ toString status ++ " for '" ++ resource ++ "'"
  | .dataCorruption resource reason =>
    "Data corruption detected in '" ++ resource ++ "': " ++ reason.text
  | .decode => "Failed to decode remote payload"
  | .unsupportedRemoteProvider name => "Unsupported remote provider: " ++ name
  | .database => "Database error"
  | .unsupportedDriver name => "Unsupported database driver: " ++ name
  | .invalidIdentifier text => "Invalid SQL identifier: " ++ text
  | .config reason => "Configuration error: " ++ reason.text

/-- Why it failed, where the summary does not say all. -/
def detail? : Error → Option String
  | .fileRead _ => some "it is no readable UTF-8 text"
  | .parse _ .malformed => some "the text is not of the declared format"
  | .parse _ (.notAMap kind) => some ("expected a map at the document root, found " ++ kind)
  | .unmarshal => some "a value does not fit"
  | .http => some "no usable answer"
  | .decode => some "not base64 of UTF-8 text"
  | .database => some "the table cannot be read"
  | _ => none

/-- The wording of an error. -/
def message (e : Error) : String :=
  match e.detail? with
  | some detail => e.summary ++ ": " ++ detail
  | none => e.summary

/-- Whether the error says that a source is not there. -/
def isNotFound : Error → Bool
  | .configNotFound _ _ => true
  | .remoteStatus _ _ status => status == 404
  | _ => false

/-- Whether the error says that a payload was damaged. -/
def isCorruption : Error → Bool
  | .dataCorruption _ _ => true
  | _ => false

end Error

end LayeredSettings
