import ServerOperator.Decoder.Record
import ServerOperator.Text.Utf8

/-!
Errors of calls to the cluster.
-/

namespace ServerOperator

open Json

structure Refusal where
  status : String
  message : String
  reason : String
  code : UInt16
deriving DecidableEq, Repr, Inhabited

namespace Refusal

def decoder : Decoder Refusal :=
  .record true "ErrorResponse" ⟨"", "", "", 0⟩ [
    .required "status" .string fun value refusal => { refusal with status := value },
    .defaulted "message" .string fun value refusal => { refusal with message := value },
    .defaulted "reason" .string fun value refusal => { refusal with reason := value },
    .required "code" .uint16 fun value refusal => { refusal with code := value }]

/-- All fields, for messages. -/
def details (refusal : Refusal) : String :=
  "ErrorResponse \x7b status: " ++ Text.quoted refusal.status ++
    ", message: " ++ Text.quoted refusal.message ++
    ", reason: " ++ Text.quoted refusal.reason ++
    ", code: " ++ toString refusal.code ++ " \x7d"

end Refusal

inductive RequestError where
  | emptyName
  | invalidCharacter
  | tooLong
deriving DecidableEq, Repr

def RequestError.message : RequestError → String
  | emptyName => "failed to validate request: A non-empty name is required"
  | invalidCharacter => "failed to build request: invalid uri character"
  | tooLong => "failed to build request: uri too long"

inductive ClusterError where
  | refused (refusal : Refusal)
  | service (text : String)
  | events (text : String)
  | unreadable (error : ReadError)
  | notUtf8 (fault : Text.Utf8Fault)
  | unterminatedLine
  | noTls
  | request (error : RequestError)
deriving DecidableEq, Repr

namespace ClusterError

def message : ClusterError → String
  | refused refusal =>
      "ApiError: " ++ refusal.message ++ ": " ++ refusal.reason ++ " (" ++ refusal.details ++ ")"
  | service text => "ServiceError: " ++ text
  | events text => "Error reading events stream: " ++ text
  | unreadable error => "Error deserializing response: " ++ error.message
  | notUtf8 fault => "UTF-8 Error: " ++ fault.message
  | unterminatedLine => "Error finding newline character"
  | noTls => "TLS required but no TLS stack selected"
  | request error => "Failed to build request: " ++ error.message

def hasCode (code : UInt16) : ClusterError → Bool
  | refused refusal => refusal.code = code
  | _ => false

def isNotFound (error : ClusterError) : Bool :=
  error.hasCode 404

def isAlreadyExists (error : ClusterError) : Bool :=
  error.hasCode 409

end ClusterError

end ServerOperator
