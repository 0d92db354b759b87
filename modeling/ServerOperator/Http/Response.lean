import ServerOperator.Http.Request
import ServerOperator.Pass.Run

/-!
Responses: what the cluster's interface answers, and what that means for the call.
-/

namespace ServerOperator

/-- What becomes of a request: it never reaches the cluster, or a response comes back. -/
inductive Reply where
  | failure (text : String)
  | response (status : Nat) (body : List UInt8)
deriving Inhabited

/-- The phrases that go with the status codes of refusals. -/
def statusPhrases : List (Nat × String) := [
  (400, "Bad Request"), (401, "Unauthorized"), (402, "Payment Required"), (403, "Forbidden"),
  (404, "Not Found"), (405, "Method Not Allowed"), (406, "Not Acceptable"),
  (407, "Proxy Authentication Required"), (408, "Request Timeout"), (409, "Conflict"),
  (410, "Gone"), (411, "Length Required"), (412, "Precondition Failed"),
  (413, "Payload Too Large"), (414, "URI Too Long"), (415, "Unsupported Media Type"),
  (416, "Range Not Satisfiable"), (417, "Expectation Failed"), (418, "I'm a teapot"),
  (421, "Misdirected Request"), (422, "Unprocessable Entity"), (423, "Locked"),
  (424, "Failed Dependency"), (425, "Too Early"), (426, "Upgrade Required"),
  (428, "Precondition Required"), (429, "Too Many Requests"),
  (431, "Request Header Fields Too Large"), (451, "Unavailable For Legal Reasons"),
  (500, "Internal Server Error"), (501, "Not Implemented"), (502, "Bad Gateway"),
  (503, "Service Unavailable"), (504, "Gateway Timeout"), (505, "HTTP Version Not Supported"),
  (506, "Variant Also Negotiates"), (507, "Insufficient Storage"), (508, "Loop Detected"),
  (510, "Not Extended"), (511, "Network Authentication Required")]

def statusText (status : Nat) : String :=
  toString status ++ " " ++ (statusPhrases.lookup status).getD "<unknown status code>"

namespace Reply

/-- A refusal is taken from the body if it describes one; otherwise the body is quoted in it. -/
def refusal (status : Nat) (text : String) : Refusal :=
  match Refusal.decoder.parse text with
  | .ok refusal => refusal
  | .error _ => {
      status := statusText status
      message := Text.quoted text
      reason := "Failed to parse error data"
      code := UInt16.ofNat status }

def text : Reply → Except ClusterError String
  | failure text => .error (.service text)
  | response status body => do
      let text ← (Text.decodeUtf8 body).mapError .notUtf8
      if 400 ≤ status ∧ status < 600 then .error (.refused (refusal status text))
      else return text

def read (decoder : Decoder α) (reply : Reply) : Except ClusterError α := do
  (decoder.parse (← reply.text)).mapError .unreadable

end Reply

namespace ClusterError

def isAbsence : ClusterError → Bool
  | refused refusal => refusal.reason = "NotFound"
  | _ => false

/-- What an error means when an object was asked for: perhaps that there is none. -/
def orAbsent (error : ClusterError) : Except ClusterError (Option α) :=
  if error.isAbsence then .ok none else .error error

def answer (error : ClusterError) : (call : Call) → call.Answer
  | .fetch _ => error.orAbsent
  | .get _ _ => error.orAbsent
  | .create _ _ => .error error
  | .writeStatus _ _ => .error error

end ClusterError

namespace Reply

def readIfPresent (decoder : Decoder α) (reply : Reply) : Except ClusterError (Option α) :=
  match reply.read decoder with
  | .ok object => .ok (some object)
  | .error error => error.orAbsent

/-- The answer to a call that a reply to its request amounts to. -/
def answer (reply : Reply) : (call : Call) → call.Answer
  | .fetch _ => reply.readIfPresent Server.decoder
  | .get kind _ => reply.readIfPresent kind.decoder
  | .create kind _ => reply.read kind.decoder
  | .writeStatus _ _ => (reply.read Server.decoder).map fun _ => ()

end Reply

/-- A conversation with the interface whose replies are given beforehand. -/
structure Conversation where
  replies : List Reply
  requests : List HttpRequest
deriving Inhabited

namespace Conversation

/-- Sends a request; when no reply is left it fails. -/
def exchange (request : HttpRequest) (conversation : Conversation) : Reply × Conversation :=
  let requests := conversation.requests ++ [request]
  match conversation.replies with
  | [] => (.failure "no response left", ⟨[], requests⟩)
  | reply :: rest => (reply, ⟨rest, requests⟩)

def perform (call : Call) (conversation : Conversation) : call.Answer × Conversation :=
  match call.request with
  | .error error => (.error (.request error), conversation)
  | .ok request =>
      let (reply, after) := conversation.exchange request
      (reply.answer call, after)

def backend : Backend Conversation where
  isCancelled _ := false
  perform call conversation :=
    let (answer, after) := conversation.perform call
    (some answer, after)

end Conversation

end ServerOperator
