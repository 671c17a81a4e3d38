import DocumentProtocol.Decimal.Binary64
import DocumentProtocol.Document.Basic

/-!
# Extended keys

A document can stand for a value of another kind by holding a reserved key such as `$oid`. When the
reader of a document meets one of these keys, what it has read of the document so far is dropped,
the value under the key decides what the document stands for, and the rest of the document is not
read. Other names that begin with a dollar sign are ordinary.

`ExtendedKey.standIn?` gives the value for the keys that a single value decides. The two keys of
code need the next element as well and are treated where elements are read. A value of the wrong
kind or form is refused, and so is each of the reserved keys that no reader here interprets.
-/

namespace DocumentProtocol

/-- The reserved keys. -/
inductive ExtendedKey where
  | oid
  | symbol
  | numberInt
  | numberLong
  | numberDouble
  | code
  | scope
  | maxKey
  | minKey
  | undefined
  /-- A key that is reserved and always refused. -/
  | refused
  deriving DecidableEq, Repr

namespace ExtendedKey

def table : List (String × ExtendedKey) :=
  [("$oid", .oid), ("$symbol", .symbol), ("$numberInt", .numberInt),
   ("$numberLong", .numberLong), ("$numberDouble", .numberDouble), ("$code", .code),
   ("$scope", .scope), ("$maxKey", .maxKey), ("$minKey", .minKey), ("$undefined", .undefined),
   ("$binary", .refused), ("$uuid", .refused), ("$timestamp", .refused),
   ("$regularExpression", .refused), ("$dbPointer", .refused), ("$date", .refused),
   ("$numberDecimal", .refused), ("$numberDecimalBytes", .refused)]

def ofName? (name : String) : Option ExtendedKey := table.lookup name

def hexBytes? : List Char → Option Bytes
  | [] => some []
  | high :: low :: rest =>
      (Numeral.digits? 16 [high, low]).bind fun byte =>
        (hexBytes? rest).map (UInt8.ofNat byte :: ·)
  | [_] => none

def objectId? (text : String) : Option ObjectId :=
  (hexBytes? text.toList).bind (FixedBytes.ofBytes? 12)

def double? (text : String) : Option UInt64 :=
  if text = "Infinity" then some (UInt64.ofNat Binary64.infinity)
  else if text = "-Infinity" then some (UInt64.ofNat Binary64.infinity ||| Binary64.signBit)
  else if text = "NaN" then some Binary64.nan
  else Binary64.parse? text

def isOne : Value → Bool
  | .int32 number => number = 1
  | .int64 number => number = 1
  | _ => false

/-- The value that a document with a reserved key stands for, from the value under the key. -/
def standIn? (key : ExtendedKey) (value : Value) : Option Value :=
  match key, value with
  | .oid, .string text => (objectId? text).map .objectId
  | .symbol, .string text => some (.symbol text)
  | .numberInt, .string text => (Numeral.int32? text).map .int32
  | .numberLong, .string text => (Numeral.int64? text).map .int64
  | .numberDouble, .string text => (double? text).map .double
  | .maxKey, value => if isOne value then some .maxKey else none
  | .minKey, value => if isOne value then some .minKey else none
  | .undefined, .boolean true => some .undefined
  | _, _ => none

end ExtendedKey

end DocumentProtocol
