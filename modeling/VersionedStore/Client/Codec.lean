import VersionedStore.Client.Error

/-!
# Codecs

A codec writes the documents of a type as JSON and reads them back.

## Main definitions

* `Codec` — encoding and decoding of the documents of a type
* `Codec.ofReader` — the codec of a JSON reader and a JSON writer
* `Codec.json` — documents that are any JSON value
* `Codec.revise` — the encoding of a document after a change
-/

namespace VersionedStore

open Json

/-- Writes the documents of a type as JSON and reads them back. -/
structure Codec (α : Type) where
  /-- The JSON of a document. -/
  encode : α → Except ClientError Bytes
  /-- The document of some JSON. -/
  decode : Bytes → Except ClientError α

namespace Codec

variable {α : Type}

/-- The codec of a reader and a writer. -/
def ofReader (read : Reader α) (toText : α → Text) : Codec α where
  encode a := .ok (toText a).write
  decode body :=
    match Wire.parse? read body with
    | none => .error (.codec faultText)
    | some a => .ok a

/-- Documents that are any JSON value. -/
def json : Codec Value := ofReader Reader.value Value.toText

/-- The encoding of what a change makes of an encoded document. -/
def revise (c : Codec α) (change : α → α) (source : Bytes) : Except ClientError Bytes :=
  match c.decode source with
  | .error e => .error e
  | .ok a => c.encode (change a)

end Codec

end VersionedStore
