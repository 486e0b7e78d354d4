import VersionedStore.Data.Pieces
import VersionedStore.Wire.Error

/-!
# Bulk bodies

A bulk body is a sequence of lines. An action is a line of its own, an object with one
member whose key is the kind of the action; the document of the action, if it has one, is
the next line. Blank lines are passed over, and a document is only checked for its form.

## Main definitions

* `Bulk.actionLine` — the line of an action
* `Bulk.encode` — the body of a list of actions
* `Bulk.decode` — the actions of a body
-/

namespace VersionedStore.Bulk

open Json

/-! ### Action lines -/

/-- The text of the line of an action. -/
def actionText (a : Action) : Text :=
  .ofMembers [(a.kind.word, .ofMembers (
    Record.given "_index" .ofString a.index ++
    Record.given "_id" .ofString a.id ++
    Record.given "if_seq_no" (fun n => .ofNat n.toNat) (Version.sequence? a.version) ++
    Record.given "if_primary_term" (fun n => .ofNat n.toNat) (Version.epoch? a.version)))]

/-- The line of an action, without the line feed. -/
def actionLine (a : Action) : Bytes := (actionText a).write

/-- What the line of an action tells. -/
structure Target where
  /-- What the action does. -/
  kind : Action.Kind
  /-- The index, if it is not the default one of the request. -/
  index : Option String
  id : Option String
  /-- The sequence number of the expected version. -/
  sequence : Option UInt64
  /-- The epoch of the expected version. -/
  epoch : Option UInt64

/-- The fields of an action. -/
def targetFields : List Field :=
  [.omitted "_index", .omitted "_id", .omitted "if_seq_no", .omitted "if_primary_term"]

/-- Reads what is below the kind in the line of an action. -/
def readTarget (key : String) : Reader Target := fun level t => do
  let kind ← Action.Kind.ofWord? key
  let r ← Record.ofText? targetFields level t
  return {
    kind
    index := ← r.optional "_index" Reader.string
    id := ← r.optional "_id" Reader.string
    sequence := ← r.optional "if_seq_no" Reader.word64
    epoch := ← r.optional "if_primary_term" Reader.word64 }

/-- Reads the line of an action. -/
def parseTarget? (line : Bytes) : Option Target := do
  Record.tagged? readTarget nestingLimit (← Text.parse? line)

/-! ### Encoding -/

/-- The line of a document. One that has line feeds is written anew, without white space. -/
def sourceLine (source : Bytes) : Except Wire.Error Bytes :=
  if octet '\n' ∈ source then
    match Value.parse? source with
    | none => .error .json
    | some v => .ok v.write
  else .ok source

/-- The lines of an action, each with its line feed. -/
def encodeAction (a : Action) : Except Wire.Error Bytes :=
  if a.kind.hasSource then
    match a.source with
    | none => .error (.noSource a.kind)
    | some source =>
      (sourceLine source).map fun line => actionLine a ++ octet '\n' :: line ++ [octet '\n']
  else .ok (actionLine a ++ [octet '\n'])

/-- The body of a list of actions. -/
def encode : List Action → Except Wire.Error Bytes
  | [] => .ok []
  | a :: as => do
    let lines ← encodeAction a
    return lines ++ (← encode as)

/-! ### Decoding -/

/-- A line of a body, with its number from one. -/
structure Line where
  /-- The number of the line. -/
  number : Nat
  /-- The octets, without the line feed. -/
  content : Bytes

/-- The lines of a body, numbered from `number`, without the blank ones. -/
def linesFrom (number : Nat) : List Bytes → List Line
  | [] => []
  | l :: ls =>
    if Bytes.isBlank l then linesFrom (number + 1) ls else ⟨number, l⟩ :: linesFrom (number + 1) ls

/-- The action of a line that has been read, with its document. -/
def finish (line : Nat) (t : Target) (version : Option Version) (source : Option Bytes) :
    Except Wire.Error Action :=
  -- A fault of the document is told before a missing id.
  if t.kind ≠ .create ∧ t.id = none then .error (.bulk line (.noId t.kind))
  else .ok ⟨t.kind, t.index, t.id, version, source⟩

/-- What the line of an action tells, and the version it names. -/
def readAction (l : Line) : Except Wire.Error (Target × Option Version) :=
  match parseTarget? l.content with
  | none => .error (.bulk l.number .json)
  | some t =>
    match Version.ofParts? t.sequence t.epoch with
    | none => .error (.bulk l.number .halfVersion)
    | some version => .ok (t, version)

/-- The actions of the lines of a body. -/
def decodeLines : List Line → Except Wire.Error (List Action)
  | [] => .ok []
  | l :: ls => do
    let (target, version) ← readAction l
    if target.kind.hasSource then
      match ls with
      | [] => throw (.bulk l.number .noSourceLine)
      | s :: ls =>
        -- The document is checked in form only; it is handed on octet for octet.
        if (Text.parse? s.content).isNone then throw (.bulk s.number .json)
        let action ← finish l.number target version (some s.content)
        return action :: (← decodeLines ls)
    else
      let action ← finish l.number target version none
      return action :: (← decodeLines ls)

/-- The actions of a body. -/
def decode (body : Bytes) : Except Wire.Error (List Action) :=
  decodeLines (linesFrom 1 (pieces (octet '\n') body))

end VersionedStore.Bulk
