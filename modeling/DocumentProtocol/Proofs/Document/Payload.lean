import DocumentProtocol.Document.Decode

/-!
# Payloads come back

A *plain* value is one that its bytes can bring back: at every depth the names of a document are
different from each other, none of them is reserved or holds a zero, and the two parts of a regular
expression hold no zero and its options are in order. Each kind of payload with a shape of its own
is read as what was written, as long as every length in it fits a signed word: texts, enclosed
documents, binary data, regular expressions, references to objects and code with its scope.
`Value.extent?_payload` says that the end of a payload is found from its beginning, whatever follows
it, and `Element.next?_append` that the first element is therefore cut off where it ends.
-/

namespace DocumentProtocol

def Text.isSorted (text : String) : Bool := text.toList.Pairwise (· ≤ ·)

theorem Text.sorted_eq_self {text : String} (sorted : Text.isSorted text = true) :
    Text.sorted text = text := by
  have pairwise : text.toList.Pairwise fun first second => decide (first ≤ second) = true := by
    simpa [isSorted] using sorted
  rw [Text.sorted, List.mergeSort_of_pairwise pairwise, String.ofList_toList]

/-- Whether a name ends where its terminator is and stands for nothing but itself. -/
def Document.isPlainKey (key : String) : Bool :=
  !Text.holdsZero key && (ExtendedKey.ofName? key).isNone

def Document.areDistinct (fields : List (String × Value)) : Bool := (fields.map Prod.fst).Nodup

mutual

/-- Whether everything inside a value comes back from its bytes as it is. -/
def Value.isPlain : Value → Bool
  | .document fields => Document.areDistinct fields && Value.fieldsPlain fields
  | .array items => Value.itemsPlain items
  | .regex pattern options =>
      !Text.holdsZero pattern && !Text.holdsZero options && Text.isSorted options
  | .codeWithScope _ scope => Document.areDistinct scope && Value.fieldsPlain scope
  | _ => true
termination_by structural value => value

def Value.fieldsPlain : List (String × Value) → Bool
  | [] => true
  | field :: rest => Value.fieldPlain field && Value.fieldsPlain rest
termination_by structural fields => fields

def Value.fieldPlain : String × Value → Bool
  | (key, value) => Document.isPlainKey key && value.isPlain
termination_by structural field => field

def Value.itemsPlain : List Value → Bool
  | [] => true
  | value :: rest => value.isPlain && Value.itemsPlain rest
termination_by structural items => items

end

/-- Whether a document comes back from its bytes as it is. -/
def Document.isPlain (document : Document) : Bool :=
  Document.areDistinct document && Value.fieldsPlain document

theorem Kind.announcedLength?_ofInt32 {minimum length : Nat} (atLeast : minimum ≤ length)
    (small : length < Bytes.wordLimit) (rest : Bytes) :
    Kind.announcedLength? minimum (Bytes.ofInt32 (Int32.ofNat length) ++ rest) = some length := by
  have value : (Int32.ofNat length).toInt = length := Bytes.toInt_ofNat small
  have clamped : (Int32.ofNat length).toNatClampNeg = length := by
    simpa [Int32.toNatClampNeg] using congrArg Int.toNat value
  simp [announcedLength?, Bytes.cut?_append, value, atLeast, clamped]

namespace Document

theorem length_textPayload (text : String) :
    (textPayload text).length = (Text.encode text).length + 5 := by
  simp only [textPayload, List.length_append, Bytes.length_ofInt32, Text.length_terminated]
  omega

theorem length_enclose (contents : Bytes) : (enclose contents).length = contents.length + 5 := by
  simp only [enclose, List.length_append, Bytes.length_ofInt32, List.length_singleton]
  omega

theorem length_scopedPayload (source : String) (scope : Bytes) :
    (scopedPayload source scope).length = (textPayload source ++ scope).length + 4 := by
  rw [scopedPayload, List.length_append, Bytes.length_ofInt32, Nat.add_comm]

theorem text?_textPayload {text : String} (small : (textPayload text).length < Bytes.wordLimit) :
    text? (textPayload text) = some text := by
  rw [length_textPayload] at small
  have positive : 1 ≤ (Text.encode text).length + 1 := by omega
  have announced := Kind.announcedLength?_ofInt32 positive (by omega) (Text.terminated text)
  have length : (textPayload text).length = (Text.encode text).length + 1 + 4 := by
    rw [length_textPayload]
  have closed : (textPayload text).getLast? = some 0 := by
    simp [textPayload, Text.terminated]
  have inner : ((textPayload text).drop 4).dropLast = Text.encode text := by
    rw [textPayload, List.drop_left' (by simp), Text.terminated, List.dropLast_concat]
  rw [text?]
  conv => lhs; rw [textPayload]
  rw [announced, Option.bind_some, ← textPayload, if_pos ⟨length, closed⟩, inner,
    Text.decode?_encode]

theorem contents?_enclose {contents : Bytes} (small : (enclose contents).length < Bytes.wordLimit) :
    contents? (enclose contents) = some (contents ++ [0]) := by
  rw [length_enclose] at small
  have atLeast : 5 ≤ contents.length + 5 := by omega
  have announced := Kind.announcedLength?_ofInt32 atLeast small (contents ++ [0])
  have closed : (enclose contents).getLast? = some 0 := by simp [enclose]
  have inner : (enclose contents).drop 4 = contents ++ [0] := by
    rw [enclose, List.append_assoc, List.drop_left' (by simp)]
  rw [contents?]
  conv => lhs; rw [enclose, List.append_assoc]
  rw [announced, Option.bind_some, ← List.append_assoc, ← enclose,
    if_pos ⟨length_enclose contents, closed⟩, inner]

theorem binary?_binaryPayload {subtype : UInt8} {data : Bytes}
    (small : (binaryPayload subtype data).length < Bytes.wordLimit) :
    binary? (binaryPayload subtype data) = some (.binary subtype data) := by
  unfold binary? binaryPayload
  rw [List.drop_left' (by simp)]
  by_cases old : subtype = 2
  · have bound : data.length < Bytes.wordLimit := by
      simp only [binaryPayload, old, ↓reduceIte, List.length_append, Bytes.length_ofInt32,
        List.length_cons] at small
      omega
    simp only [old, ↓reduceIte]
    rw [Kind.announcedLength?_ofInt32 (Nat.zero_le _) bound, Option.bind_some]
    simp [Nat.add_comm]
  · simp [old]

theorem regex?_terminated {pattern options : String} (patternFree : Text.holdsZero pattern = false)
    (optionsFree : Text.holdsZero options = false) :
    regex? (Text.terminated pattern ++ Text.terminated options) =
      some (.regex pattern (Text.sorted options)) := by
  have last : Text.readTerminated (Text.terminated options) = .ok (options, []) := by
    simpa using Text.readTerminated_terminated optionsFree []
  simp [regex?, Text.readTerminated_terminated patternFree, last]

theorem dbPointer?_append {collection : String} {id : ObjectId}
    (small : (textPayload collection ++ id.bytes).length < Bytes.wordLimit) :
    dbPointer? (textPayload collection ++ id.bytes) = some (.dbPointer collection id) := by
  have size : id.bytes.length = 12 := id.length_eq
  have front : (textPayload collection).length =
      (textPayload collection ++ id.bytes).length - 12 := by
    rw [List.length_append, size]
    omega
  have bound : (textPayload collection).length < Bytes.wordLimit := by
    rw [List.length_append] at small
    omega
  rw [dbPointer?, Bytes.cut?_append front]
  simp [text?_textPayload bound, FixedBytes.ofBytes?, id.length_eq]

theorem scoped?_scopedPayload {source : String} {scope : Bytes}
    (small : (scopedPayload source scope).length < Bytes.wordLimit) :
    scoped? (scopedPayload source scope) = some (source, scope) := by
  have inner : (scopedPayload source scope).drop 4 = textPayload source ++ scope := by
    rw [scopedPayload, List.drop_left' (by simp)]
  have bound : (textPayload source).length < Bytes.wordLimit := by
    simp only [scopedPayload, List.length_append] at small
    omega
  have size : Kind.extent? .string (textPayload source ++ scope) =
      some (textPayload source).length := by
    rw [length_textPayload] at bound ⊢
    rw [Kind.extent?, textPayload, List.append_assoc,
      Kind.announcedLength?_ofInt32 (by omega) (by omega)]
    simp
    omega
  simp only [scoped?, inner, size, Option.bind_some, Bytes.cut?_append rfl,
    text?_textPayload bound, Option.map_some]

end Document

namespace Value

open Document

/-- The end of a payload is found from its beginning. -/
theorem extent?_payload {value : Value} (plain : value.isPlain = true)
    (small : value.payload.length < Bytes.wordLimit) (rest : Bytes) :
    value.kind.extent? (value.payload ++ rest) = some value.payload.length := by
  have text (text : String) (bound : (textPayload text).length < Bytes.wordLimit) (rest : Bytes) :
      Kind.announcedLength? 1 (textPayload text ++ rest) =
        some ((Text.encode text).length + 1) := by
    rw [length_textPayload] at bound
    rw [textPayload, List.append_assoc, Kind.announcedLength?_ofInt32 (by omega) (by omega)]
  have enclosed (contents : Bytes) (bound : (enclose contents).length < Bytes.wordLimit) :
      Kind.announcedLength? 5 (enclose contents ++ rest) = some (enclose contents).length := by
    rw [length_enclose] at bound ⊢
    rw [enclose, List.append_assoc, List.append_assoc,
      Kind.announcedLength?_ofInt32 (by omega) bound]
  cases value with
  | double | undefined | boolean | dateTime | null | int32 | timestamp | int64 | minKey | maxKey =>
      simp [kind, payload, Kind.extent?]
  | objectId id => simp [kind, payload, Kind.extent?, id.length_eq]
  | decimal128 digits => simp [kind, payload, Kind.extent?, digits.length_eq]
  | string source | code source | symbol source =>
      simp only [payload] at small ⊢
      simp only [kind, Kind.extent?, text source small, length_textPayload, Option.map_some]
      congr 1
      omega
  | document fields =>
      simp only [payload] at small ⊢
      simp only [kind, Kind.extent?, enclosed _ small]
  | array items =>
      simp only [payload] at small ⊢
      simp only [kind, Kind.extent?, enclosed _ small]
  | binary subtype data =>
      simp only [payload, binaryPayload] at small ⊢
      rw [List.length_append, List.length_cons, Bytes.length_ofInt32] at small ⊢
      rw [kind, Kind.extent?, List.append_assoc,
        Kind.announcedLength?_ofInt32 (by omega) (by omega)]
      simp only [Option.map_some]
      congr 1
      omega
  | regex pattern options =>
      simp only [isPlain, Bool.and_eq_true, Bool.not_eq_true'] at plain
      rcases plain with ⟨⟨patternFree, optionsFree⟩, sorted⟩
      have first : 0 ∉ Text.encode pattern := by simpa [Text.holdsZero] using patternFree
      have second : 0 ∉ Text.encode options := by simpa [Text.holdsZero] using optionsFree
      simp [payload, kind, Kind.extent?, Text.sorted_eq_self sorted, Text.terminated,
        Text.splitZero?_append first, Text.splitZero?_append second]
      omega
  | dbPointer collection id =>
      simp only [payload] at small ⊢
      have bound : (textPayload collection).length < Bytes.wordLimit := by
        rw [List.length_append] at small
        omega
      have size : id.bytes.length = 12 := id.length_eq
      rw [kind, Kind.extent?, List.append_assoc, text collection bound, List.length_append, size,
        length_textPayload]
      simp only [Option.map_some]
      congr 1
      omega
  | codeWithScope source scope =>
      simp only [payload] at small ⊢
      have atLeast : 14 ≤ (textPayload source ++ enclose (fieldsBytes scope)).length + 4 := by
        simp only [List.length_append, length_textPayload, length_enclose]
        omega
      rw [length_scopedPayload] at small ⊢
      rw [kind, Kind.extent?, scopedPayload, List.append_assoc,
        Kind.announcedLength?_ofInt32 atLeast small]

theorem leaf?_payload {value : Value} (plain : value.isPlain = true)
    (small : value.payload.length < Bytes.wordLimit) (leaf : value.kind ≠ .document)
    (notArray : value.kind ≠ .array) (notScoped : value.kind ≠ .codeWithScope) :
    leaf? value.kind value.payload = some value := by
  cases value with
  | double | undefined | dateTime | null | int32 | int64 | minKey | maxKey =>
      simp [kind, payload, leaf?]
  | boolean flag => cases flag <;> rfl
  | timestamp time increment =>
      simp [kind, payload, leaf?, List.take_left', List.drop_left']
  | objectId id => simp [kind, payload, leaf?, FixedBytes.ofBytes?, id.length_eq]
  | decimal128 digits => simp [kind, payload, leaf?, FixedBytes.ofBytes?, digits.length_eq]
  | string source | code source | symbol source =>
      simp only [payload] at small ⊢
      simp [kind, leaf?, text?_textPayload small]
  | binary subtype data =>
      simp only [payload] at small ⊢
      simp only [kind, leaf?, binary?_binaryPayload small]
  | regex pattern options =>
      simp only [isPlain, Bool.and_eq_true, Bool.not_eq_true'] at plain
      rcases plain with ⟨⟨patternFree, optionsFree⟩, sorted⟩
      simp only [payload, Text.sorted_eq_self sorted, kind, leaf?,
        regex?_terminated patternFree optionsFree]
  | dbPointer collection id =>
      simp only [payload] at small ⊢
      simp only [kind, leaf?, dbPointer?_append small]
  | document fields => exact absurd rfl leaf
  | array items => exact absurd rfl notArray
  | codeWithScope source scope => exact absurd rfl notScoped

end Value

/-- The first element of some contents ends where its payload ends. -/
theorem Element.next?_append {key : String} {value : Value} (free : Text.holdsZero key = false)
    (plain : value.isPlain = true) (small : value.payload.length < Bytes.wordLimit) (rest : Bytes) :
    Element.next? (Value.fieldBytes (key, value) ++ rest) =
      some (⟨value.kind, key, value.payload⟩, rest) := by
  have shape : Value.fieldBytes (key, value) ++ rest =
      value.kind.tag :: (Text.terminated key ++ (value.payload ++ rest)) := by
    simp [Value.fieldBytes]
  rw [shape, Element.next?]
  simp [Text.readTerminated_terminated free, Value.extent?_payload plain small,
    Bytes.cut?_append]

end DocumentProtocol
