import VersionedStore.Wire.Item

/-!
# Failures of clients

What can go wrong for a client: a refusal of the store, a failure on the way to it, an answer
that cannot be read, or a use of a session or a repository that is not allowed.

## Main definitions

* `AnswerFault` — what can be wrong with an answer
* `ClientError` — the failures
* `ClientError.message`, `ClientError.failureKind`, `ClientError.isRetryable` — their words and
  their classes
* `ClientError.ofReply` — the failure that a reply with an error status stands for
* `ClientError.ofWire` — the failure that a fault of a message is
-/

namespace VersionedStore

/-- What can be wrong with an answer. -/
inductive AnswerFault
  /-- It has not the form of its message. -/
  | unreadable
  /-- A document came without its version. -/
  | noVersion (id : String)
  /-- A bulk reply has not one outcome per action. -/
  | misaligned (received sent : Nat)
  /-- A message is wrong. -/
  | wire (error : Wire.Error)
  /-- Anything else, in words. -/
  | stated (words : String)
deriving DecidableEq

/-- The words for what is wrong with an answer. -/
def AnswerFault.message : AnswerFault → String
  | unreadable => s!"failed to decode response: {Json.faultText}"
  | noVersion id => s!"get of {id} returned no version"
  | misaligned received sent =>
    s!"bulk response has {Decimal.text received} items for {Decimal.text sent} actions"
  | wire error => error.message
  | stated words => words

/-- What can go wrong for a client. -/
inductive ClientError
  /-- The document has not the expected version, or exists already. -/
  | conflict (id reason : String)
  /-- There is no such document or index. -/
  | notFound (id : String)
  /-- The request did not get through. -/
  | transport (reason : String) (retryable : Bool)
  /-- The store refused the request. -/
  | server (status : UInt16) (reason : String)
  /-- The answer is wrong. -/
  | answer (fault : AnswerFault)
  /-- A document could not be encoded or decoded. -/
  | codec (reason : String)
  /-- The session takes no more items. -/
  | sessionClosed
  /-- An update met a conflict in every attempt. -/
  | exhausted (id : String) (attempts : Nat)
  /-- A version is incomplete. -/
  | invalidVersion (reason : String)
  /-- The repository must not be refreshed. -/
  | refreshNotAllowed
  /-- The caller gave up. -/
  | cancelled
deriving DecidableEq, Inhabited

namespace ClientError

/-- The words for a failure. -/
def message : ClientError → String
  | conflict id reason => s!"version conflict on document {id}: {reason}"
  | notFound id => s!"document not found: {id}"
  | transport reason _ => s!"transport error: {reason}"
  | server status reason => s!"server error {Decimal.text status.toNat}: {reason}"
  | answer fault => s!"protocol error: {fault.message}"
  | codec reason => s!"codec error: {reason}"
  | sessionClosed => "bulk session is closed"
  | exhausted id attempts => s!"update of {id} failed after {Decimal.text attempts} attempts"
  | invalidVersion reason => s!"invalid concurrency token: {reason}"
  | refreshNotAllowed => "refresh is not allowed on this repository"
  | cancelled => "operation cancelled"

def failureKind : ClientError → FailureKind
  | conflict .. | exhausted .. => .conflict
  | notFound _ => .notFound
  | server status _ => .ofStatus status
  | _ => .other

/-- Whether the failure is a conflict of versions. -/
def isConflict : ClientError → Bool
  | conflict .. => true
  | _ => false

/-- Whether the request may be sent again. -/
def isRetryable : ClientError → Bool
  | transport _ retryable => retryable
  | server status _ => 500 ≤ status
  | _ => false

/-- The reason that the body of a reply gives: its cause, or the body itself. -/
def reasonOf (body : Bytes) : String :=
  match Wire.parse? Wire.Failure.read body with
  | some f => f.cause.message
  | none => Utf8.decodeLossy body

/-- The failure that a reply with an error status stands for, for a request about the document
`id`, if it was about one. -/
def ofReply (status : UInt16) (body : Bytes) (id : Option String) : ClientError :=
  let reason := reasonOf body
  match FailureKind.ofStatus status with
  | .conflict => conflict (id.getD "") reason
  | .notFound => notFound (id.getD reason)
  | .other => server status reason

/-- The failure that a fault of a message is. -/
def ofWire : Wire.Error → ClientError
  | .halfVersion => invalidVersion (Wire.Error.message .halfVersion)
  | e => answer (.wire e)

end ClientError

end VersionedStore
