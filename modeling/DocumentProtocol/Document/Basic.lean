import DocumentProtocol.Bytes.Text

/-!
# Documents and their values

A document is an ordered list of named values. The order is part of the document: the first name of
a command says what the command is. Values come in the twenty-one kinds of the binary format; a
binary64 number is kept as its bits, so that every NaN survives, and a decimal128 number as its
sixteen bytes.

Inserting under a name that the document already has replaces the value where it stands, and a new
name goes to the end. `Document.ofFields` inserts a list of fields from left to right: a repeated
name keeps its first place and takes its last value.
-/

namespace DocumentProtocol

/-- A byte string of a fixed size. -/
structure FixedBytes (size : Nat) where
  bytes : Bytes
  length_eq : bytes.length = size := by decide
  deriving DecidableEq

def FixedBytes.ofBytes? (size : Nat) (bytes : Bytes) : Option (FixedBytes size) :=
  if length_eq : bytes.length = size then some ⟨bytes, length_eq⟩ else none

abbrev ObjectId := FixedBytes 12

abbrev Decimal128 := FixedBytes 16

inductive Kind where
  | double
  | string
  | document
  | array
  | binary
  | undefined
  | objectId
  | boolean
  | dateTime
  | null
  | regex
  | dbPointer
  | code
  | symbol
  | codeWithScope
  | int32
  | timestamp
  | int64
  | decimal128
  | minKey
  | maxKey
  deriving DecidableEq, Repr

/-- A value of a document. -/
inductive Value where
  /-- A binary64 number, given by its bits. -/
  | double (bits : UInt64)
  | string (text : String)
  | document (fields : List (String × Value))
  | array (items : List Value)
  | binary (subtype : UInt8) (data : Bytes)
  | undefined
  | objectId (id : ObjectId)
  | boolean (flag : Bool)
  /-- Milliseconds since 1970 began. -/
  | dateTime (milliseconds : Int64)
  | null
  | regex (pattern options : String)
  | dbPointer (collection : String) (id : ObjectId)
  | code (source : String)
  | symbol (text : String)
  | codeWithScope (source : String) (scope : List (String × Value))
  | int32 (number : Int32)
  | timestamp (time increment : UInt32)
  | int64 (number : Int64)
  | decimal128 (digits : Decimal128)
  | minKey
  | maxKey
  deriving Inhabited

/-- A document: its named values in order. -/
abbrev Document := List (String × Value)

namespace Value

def kind : Value → Kind
  | .double _ => .double
  | .string _ => .string
  | .document _ => .document
  | .array _ => .array
  | .binary _ _ => .binary
  | .undefined => .undefined
  | .objectId _ => .objectId
  | .boolean _ => .boolean
  | .dateTime _ => .dateTime
  | .null => .null
  | .regex _ _ => .regex
  | .dbPointer _ _ => .dbPointer
  | .code _ => .code
  | .symbol _ => .symbol
  | .codeWithScope _ _ => .codeWithScope
  | .int32 _ => .int32
  | .timestamp _ _ => .timestamp
  | .int64 _ => .int64
  | .decimal128 _ => .decimal128
  | .minKey => .minKey
  | .maxKey => .maxKey

def text? : Value → Option String
  | .string text => some text
  | _ => none

def document? : Value → Option Document
  | .document fields => some fields
  | _ => none

end Value

namespace Document

def keys (document : Document) : List String := document.map Prod.fst

def find? (document : Document) (key : String) : Option Value := document.lookup key

def hasKey (document : Document) (key : String) : Bool := (document.find? key).isSome

/-- Puts a value under a name: in place of the value that is there, else at the end. -/
def insert : Document → String → Value → Document
  | [], key, value => [(key, value)]
  | (name, old) :: rest, key, value =>
      if name = key then (key, value) :: rest else (name, old) :: insert rest key value

def insertAll (document : Document) (fields : List (String × Value)) : Document :=
  fields.foldl (fun document field => document.insert field.1 field.2) document

/-- The document of some fields, of which several may have one name. -/
def ofFields (fields : List (String × Value)) : Document := insertAll [] fields

def commandName (document : Document) : String := (document.keys.head?).getD ""

end Document

end DocumentProtocol
