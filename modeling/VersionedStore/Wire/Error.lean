import VersionedStore.Action
import VersionedStore.Json.Record

/-!
# Faults of messages

What can be wrong with a message or a part of one, and the words for it.

## Main definitions

* `Wire.BulkFault` — what can be wrong with a line of a bulk body
* `Wire.Error` — what can be wrong with a message
* `Wire.Error.message` — the words for it
-/

namespace VersionedStore.Wire

/-- What can be wrong with a line of a bulk body. -/
inductive BulkFault
  /-- The line is no JSON, or is no action. -/
  | json
  /-- Only one half of a version is given. -/
  | halfVersion
  /-- The document of the action is missing. -/
  | noSourceLine
  /-- The action must name its document. -/
  | noId (kind : Action.Kind)
  /-- Anything else, in words. -/
  | stated (words : String)
deriving DecidableEq

/-- What can be wrong with a message. -/
inductive Error
  /-- A text is no JSON, or has not the form of the message. -/
  | json
  /-- A line of a bulk body is wrong; lines count from one. -/
  | bulk (line : Nat) (fault : BulkFault)
  /-- Only one half of a version is given. -/
  | halfVersion
  /-- An action lacks its document. -/
  | noSource (kind : Action.Kind)
  /-- A word stands for no refresh policy. -/
  | refreshPolicy (word : String)
  /-- A text stands for no duration. -/
  | duration (text : String)
deriving DecidableEq

/-- The words for half a version. -/
def halfVersionText : String :=
  "incomplete concurrency token: sequence and epoch must be supplied together"

/-- The words for a fault of a line. -/
def BulkFault.message : BulkFault → String
  | json => Json.faultText
  | halfVersion => halfVersionText
  | noSourceLine => "action is missing its source line"
  | noId kind => s!"{kind.word} action requires an _id"
  | stated words => words

/-- The words for a fault of a message. -/
def Error.message : Error → String
  | json => s!"json error: {Json.faultText}"
  | bulk line fault => s!"invalid bulk body at line {Decimal.text line}: {fault.message}"
  | halfVersion => halfVersionText
  | noSource kind => s!"missing source for {kind.word} action"
  | refreshPolicy word => s!"invalid refresh policy: {word}"
  | duration text => s!"invalid duration: {text}"

end VersionedStore.Wire
