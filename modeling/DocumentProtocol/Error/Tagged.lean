import DocumentProtocol.Error

/-!
# Errors as tagged data

An error travels between programs as plain data: the name of its cause, and under that name what
the cause carries. A cause that carries nothing is its bare name, and may also be read from the
name over null. The three causes that hold a failure of another layer have names but are neither
written nor read.

Reading is strict about kinds and ranges: a number with a fraction is no size, a size is a natural
number of sixty-four bits, a code is a signed word. What is written is read back.
-/

namespace DocumentProtocol

/-- Plain data as other programs exchange it. -/
inductive PlainData where
  | null
  | boolean (flag : Bool)
  | integer (number : Int)
  /-- A number that is not written as an integer. -/
  | fraction
  | text (text : String)
  | list (items : List PlainData)
  | record (fields : List (String × PlainData))
  deriving Inhabited

namespace PlainData

def int32? : PlainData → Option Int32
  | integer number =>
      if -(Bytes.wordLimit : Int) ≤ number ∧ number < Bytes.wordLimit then some (Int32.ofInt number)
      else none
  | _ => none

def size? : PlainData → Option Nat
  | integer number => if 0 ≤ number ∧ number < UInt64.size then some number.toNat else none
  | _ => none

def text? : PlainData → Option String
  | text content => some content
  | _ => none

end PlainData

namespace HandlerError

def toData (error : HandlerError) : PlainData :=
  .record [("code", .integer error.code.toInt), ("code_name", .text error.codeName),
    ("message", .text error.message)]

/-- The handler's failure that some data describe: by name, or as a list in order. -/
def ofData? : PlainData → Option HandlerError
  | .record fields => do
      let code ← (← fields.lookup "code").int32?
      let codeName ← (← fields.lookup "code_name").text?
      let message ← (← fields.lookup "message").text?
      return ⟨code, codeName, message⟩
  | .list [code, codeName, message] => do
      return ⟨← code.int32?, ← codeName.text?, ← message.text?⟩
  | _ => none

end HandlerError

namespace ProtocolError

def name : ProtocolError → String
  | .io => "Io"
  | .document => "Document"
  | .documentEncode => "DocumentEncode"
  | .connectionClosed => "ConnectionClosed"
  | .cancelled => "Cancelled"
  | .invalidHeader => "InvalidHeader"
  | .oversizedFrame _ => "OversizedFrame"
  | .malformed _ => "Malformed"
  | .unsupportedOpcode _ => "UnsupportedOpcode"
  | .documentTooLarge _ _ => "DocumentTooLarge"
  | .noMatchingResponder _ => "NoMatchingResponder"
  | .handler _ => "Handler"
  | .timeout => "Timeout"
  | .configuration _ => "ConfigError"

/-- What a cause carries, if the error can be written; nothing is null. -/
def content? : ProtocolError → Option PlainData
  | .io => none
  | .document => none
  | .documentEncode => none
  | .connectionClosed => some .null
  | .cancelled => some .null
  | .invalidHeader => some .null
  | .oversizedFrame size => some (.integer size)
  | .malformed cause => some (.text cause.message)
  | .unsupportedOpcode code => some (.integer code.toInt)
  | .documentTooLarge size limit =>
      some (.record [("size", .integer size), ("max", .integer limit)])
  | .noMatchingResponder command => some (.text command)
  | .handler error => some error.toData
  | .timeout => some .null
  | .configuration reason => some (.text reason)

def toData? (error : ProtocolError) : Option PlainData :=
  error.content?.map fun content =>
    match content with
    | .null => .text error.name
    | content => .record [(error.name, content)]

def bare : List ProtocolError := [.connectionClosed, .cancelled, .invalidHeader, .timeout]

def ofName? (name : String) : Option ProtocolError := bare.find? fun error => error.name = name

def tooLarge? : PlainData → Option ProtocolError
  | .record fields => do
      let size ← (← fields.lookup "size").size?
      let limit ← (← fields.lookup "max").size?
      return .documentTooLarge size limit
  | _ => none

def ofContent? (name : String) (content : PlainData) : Option ProtocolError :=
  match name with
  | "OversizedFrame" => content.size?.map .oversizedFrame
  | "Malformed" => content.text?.map fun reason => .malformed (.stated reason)
  | "UnsupportedOpcode" => content.int32?.map .unsupportedOpcode
  | "DocumentTooLarge" => tooLarge? content
  | "NoMatchingResponder" => content.text?.map .noMatchingResponder
  | "Handler" => (HandlerError.ofData? content).map .handler
  | "ConfigError" => content.text?.map .configuration
  | name =>
      match content with
      | .null => ofName? name
      | _ => none

def ofData? : PlainData → Option ProtocolError
  | .text name => ofName? name
  | .record [(name, content)] => ofContent? name content
  | _ => none

end ProtocolError

end DocumentProtocol
