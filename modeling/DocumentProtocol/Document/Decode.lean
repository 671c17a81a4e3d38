import DocumentProtocol.Document.Encode
import DocumentProtocol.Document.Extended

/-!
# Decoding documents

`Document.decodeExact?` reads a document that occupies all of some bytes. It takes the elements in
order until only the closing zero is left, reads each payload as a value of its kind, and inserts
the fields from left to right. The names in an array must be text and are otherwise ignored.

A payload may reach over the closing zero, since its own last byte can be that zero. Nothing is left
to close the document then, and it is refused, unless a reserved key has ended the reading before.

Recursion is on the number of bytes: a payload and the bytes after it are both shorter than the
contents they were cut from, and the contents of an enclosed document are shorter than its payload.
-/

namespace DocumentProtocol

namespace Document

def text? (payload : Bytes) : Option String :=
  (Kind.announcedLength? 1 payload).bind fun length =>
    if payload.length = length + 4 ∧ payload.getLast? = some 0 then
      Text.decode? ((payload.drop 4).dropLast)
    else none

/-- The elements and the closing zero of an enclosed document that occupies all of a payload. -/
def contents? (payload : Bytes) : Option Bytes :=
  (Kind.announcedLength? 5 payload).bind fun length =>
    if payload.length = length ∧ payload.getLast? = some 0 then some (payload.drop 4) else none

/-- Binary data without the length that subtype 2 repeats. -/
def binary? (payload : Bytes) : Option Value :=
  match payload.drop 4 with
  | [] => none
  | subtype :: data =>
      if subtype = 2 then
        (Kind.announcedLength? 0 data).bind fun length =>
          if data.length = length + 4 then some (.binary subtype (data.drop 4)) else none
      else some (.binary subtype data)

def regex? (payload : Bytes) : Option Value :=
  match Text.readTerminated payload with
  | .ok (pattern, rest) =>
      match Text.readTerminated rest with
      | .ok (options, []) => some (.regex pattern (Text.sorted options))
      | _ => none
  | .error _ => none

def dbPointer? (payload : Bytes) : Option Value :=
  (payload.cut? (payload.length - 12)).bind fun (name, id) =>
    (text? name).bind fun collection =>
      (FixedBytes.ofBytes? 12 id).map fun id => .dbPointer collection id

def boolean? : Bytes → Option Value
  | [0] => some (.boolean false)
  | [1] => some (.boolean true)
  | _ => none

def scoped? (payload : Bytes) : Option (String × Bytes) :=
  let inner := payload.drop 4
  (Kind.extent? .string inner).bind fun size =>
    (Bytes.cut? size inner).bind fun (source, scope) =>
      (text? source).map fun source => (source, scope)

/-- A value of a kind that holds no other value. -/
def leaf? (kind : Kind) (payload : Bytes) : Option Value :=
  match kind with
  | .double => some (.double (Bytes.toUInt64 payload))
  | .string => (text? payload).map .string
  | .binary => binary? payload
  | .undefined => some .undefined
  | .objectId => (FixedBytes.ofBytes? 12 payload).map .objectId
  | .boolean => boolean? payload
  | .dateTime => some (.dateTime (Bytes.toInt64 payload))
  | .null => some .null
  | .regex => regex? payload
  | .dbPointer => dbPointer? payload
  | .code => (text? payload).map .code
  | .symbol => (text? payload).map .symbol
  | .int32 => some (.int32 (Bytes.toInt32 payload))
  | .timestamp =>
      some (.timestamp (Bytes.toUInt32 (payload.drop 4)) (Bytes.toUInt32 (payload.take 4)))
  | .int64 => some (.int64 (Bytes.toInt64 payload))
  | .decimal128 => (FixedBytes.ofBytes? 16 payload).map .decimal128
  | .minKey => some .minKey
  | .maxKey => some .maxKey
  | .document | .array | .codeWithScope => none

/-- What the elements of a document come to. -/
inductive Reading where
  /-- The fields in wire order, of which several may have one name. -/
  | fields (fields : List (String × Value))
  /-- The value that a reserved key made of the document. -/
  | standIn (value : Value)

namespace Reading

def cons (key : String) (value : Value) : Reading → Reading
  | .fields rest => .fields ((key, value) :: rest)
  | .standIn value => .standIn value

def toValue : Reading → Value
  | .fields read => .document (Document.ofFields read)
  | .standIn value => value

def document? : Reading → Option Document
  | .fields read => some (Document.ofFields read)
  | .standIn _ => none

end Reading

theorem contents?_length {payload contents : Bytes} (found : contents? payload = some contents) :
    contents.length < payload.length := by
  simp only [contents?, Option.bind_eq_some_iff] at found
  rcases found with ⟨length, announced, found⟩
  split at found
  · rename_i fits
    simp only [Option.some.injEq] at found
    subst found
    have nonempty : payload ≠ [] := by
      intro empty
      simp [empty] at fits
    have := List.length_pos_iff.mpr nonempty
    simp
    omega
  · simp at found

theorem scoped?_length {payload scope : Bytes} {source : String}
    (found : scoped? payload = some (source, scope)) : scope.length ≤ payload.length := by
  simp only [scoped?, Option.bind_eq_some_iff, Option.map_eq_some_iff, Prod.mk.injEq] at found
  rcases found with ⟨_, _, ⟨_, _⟩, cut, _, _, _, rfl⟩
  have shape := congrArg List.length (Bytes.cut?_eq_some cut).1
  simp only [List.length_drop, List.length_append] at shape
  simp only
  omega

end Document

open Document in
mutual

/-- Reads the payload of a value. -/
def Value.ofPayload? (kind : Kind) (payload : Bytes) : Option Value :=
  match kind with
  | .document =>
      match found : contents? payload with
      | none => none
      | some contents =>
          have := contents?_length found
          (Value.readFields? contents).map Reading.toValue
  | .array =>
      match found : contents? payload with
      | none => none
      | some contents =>
          have := contents?_length found
          (Value.readItems? contents).map .array
  | .codeWithScope =>
      match found : scoped? payload with
      | none => none
      | some (source, scope) =>
          have := scoped?_length found
          match inside : contents? scope with
          | none => none
          | some contents =>
              have := contents?_length inside
              ((Value.readFields? contents).bind Reading.document?).map (.codeWithScope source)
  | kind => leaf? kind payload
termination_by payload.length

def Value.readFields? (contents : Bytes) : Option Reading :=
  if contents = [0] then some (.fields [])
  else
    match next : Element.next? contents with
    | none => none
    | some (element, rest) =>
        have := Element.next?_length next
        match ExtendedKey.ofName? element.key with
        | none =>
            (Value.ofPayload? element.kind element.payload).bind fun value =>
              (Value.readFields? rest).map (Reading.cons element.key value)
        | some .code =>
            ((Value.ofPayload? element.kind element.payload).bind Value.text?).bind fun source =>
              if rest = [0] then some (.standIn (.code source))
              else
                match after : Element.next? rest with
                | none => none
                | some (second, _) =>
                    have := Element.next?_length after
                    if second.key = "$scope" then
                      let scope :=
                        (Value.ofPayload? second.kind second.payload).bind Value.document?
                      scope.map fun scope => .standIn (.codeWithScope source scope)
                    else none
        | some .scope =>
            ((Value.ofPayload? element.kind element.payload).bind Value.document?).bind fun scope =>
              match after : Element.next? rest with
              | none => none
              | some (second, _) =>
                  have := Element.next?_length after
                  if second.key = "$code" then
                    let source :=
                      (Value.ofPayload? second.kind second.payload).bind Value.text?
                    source.map fun source => .standIn (.codeWithScope source scope)
                  else none
        | some key =>
            ((Value.ofPayload? element.kind element.payload).bind key.standIn?).map .standIn
termination_by contents.length

def Value.readItems? (contents : Bytes) : Option (List Value) :=
  if contents = [0] then some []
  else
    match next : Element.next? contents with
    | none => none
    | some (element, rest) =>
        have := Element.next?_length next
        (Value.ofPayload? element.kind element.payload).bind fun value =>
          (Value.readItems? rest).map (value :: ·)
termination_by contents.length

end

namespace Document

/-- The document that occupies all of some bytes. -/
def decodeExact? (bytes : Bytes) : Option Document :=
  ((contents? bytes).bind Value.readFields?).bind Reading.document?

end Document

end DocumentProtocol
