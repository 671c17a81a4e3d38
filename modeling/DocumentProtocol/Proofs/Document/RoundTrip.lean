import DocumentProtocol.Proofs.Bytes.Zero
import DocumentProtocol.Proofs.Document.Blocks
import DocumentProtocol.Proofs.Document.Insertion
import DocumentProtocol.Proofs.Document.Payload
import Mathlib

/-!
# Documents come back

The main statement is that a plain document whose bytes fit a signed length can be written, that
its bytes begin with their own number, and that reading them gives the document, with its fields in
their order.

The proof is one induction over values, fields and items together. It needs of a field only that
its element is cut off where it ends and that its name is no reserved key; a bound on the length of
the whole bounds the length of every part.
-/

namespace DocumentProtocol

namespace Value

open Document

theorem length_fieldBytes (key : String) (value : Value) :
    (fieldBytes (key, value)).length = (Text.encode key).length + value.payload.length + 2 := by
  simp only [fieldBytes, List.length_cons, List.length_append, Text.length_terminated]
  omega

theorem fieldBytes_append_ne (field : String × Value) (rest : Bytes) :
    fieldBytes field ++ rest ≠ [0] := by
  rcases field with ⟨key, value⟩
  intro equal
  have length := congrArg List.length equal
  simp only [List.length_append, length_fieldBytes, List.length_singleton] at length
  omega

/-- Reading takes a plain field off the front of the contents of a document. -/
theorem readFields?_append {key : String} {value : Value} (plainKey : isPlainKey key = true)
    (plain : value.isPlain = true) (small : value.payload.length < Bytes.wordLimit)
    (read : ofPayload? value.kind value.payload = some value) (rest : Bytes) :
    readFields? (fieldBytes (key, value) ++ rest) =
      (readFields? rest).map (Reading.cons key value) := by
  simp only [isPlainKey, Bool.and_eq_true, Bool.not_eq_true', Option.isNone_iff_eq_none] at plainKey
  have cut := Element.next?_append plainKey.1 plain small rest
  rw [readFields?, if_neg (fieldBytes_append_ne (key, value) rest)]
  split
  · rename_i missing
    rw [cut] at missing
    cases missing
  · rename_i element after next
    rw [cut] at next
    simp only [Option.some.injEq, Prod.mk.injEq] at next
    rcases next with ⟨rfl, rfl⟩
    simp only [plainKey.2, read, Option.bind_some]

theorem readItems?_append {key : String} {value : Value} (free : Text.holdsZero key = false)
    (plain : value.isPlain = true) (small : value.payload.length < Bytes.wordLimit)
    (read : ofPayload? value.kind value.payload = some value) (rest : Bytes) :
    readItems? (fieldBytes (key, value) ++ rest) = (readItems? rest).map (value :: ·) := by
  have cut := Element.next?_append free plain small rest
  rw [readItems?, if_neg (fieldBytes_append_ne (key, value) rest)]
  split
  · rename_i missing
    rw [cut] at missing
    cases missing
  · rename_i element after next
    rw [cut] at next
    simp only [Option.some.injEq, Prod.mk.injEq] at next
    rcases next with ⟨rfl, rfl⟩
    simp only [read, Option.bind_some]

theorem length_payload_of_fieldBytes {key : String} {value : Value}
    (small : (fieldBytes (key, value)).length < Bytes.wordLimit) :
    value.payload.length < Bytes.wordLimit := by
  rw [length_fieldBytes] at small
  omega

theorem ofPayload?_document (bytes : Bytes) :
    ofPayload? .document bytes =
      (contents? bytes).bind fun contents => (readFields? contents).map Reading.toValue := by
  rw [ofPayload?]
  split
  · rename_i missing
    simp only [missing, Option.bind_none]
  · rename_i contents found
    simp only [found, Option.bind_some]

theorem ofPayload?_array (bytes : Bytes) :
    ofPayload? .array bytes =
      (contents? bytes).bind fun contents => (readItems? contents).map .array := by
  rw [ofPayload?]
  split
  · rename_i missing
    simp only [missing, Option.bind_none]
  · rename_i contents found
    simp only [found, Option.bind_some]

theorem ofPayload?_codeWithScope (bytes : Bytes) :
    ofPayload? .codeWithScope bytes =
      (scoped? bytes).bind fun (source, scope) => (contents? scope).bind fun contents =>
        ((readFields? contents).bind Reading.document?).map (.codeWithScope source) := by
  rw [ofPayload?]
  split
  · rename_i missing
    simp only [missing, Option.bind_none]
  · rename_i source scope found
    simp only [found, Option.bind_some]
    split
    · rename_i missing
      simp only [missing, Option.bind_none]
    · rename_i contents inside
      simp only [inside, Option.bind_some]

mutual

/-- A plain value is read from its payload. -/
theorem ofPayload?_payload (value : Value) (plain : value.isPlain = true)
    (small : value.payload.length < Bytes.wordLimit) :
    ofPayload? value.kind value.payload = some value := by
  cases value with
  | document fields =>
      simp only [isPlain, Bool.and_eq_true] at plain
      simp only [payload] at small ⊢
      have bound : (fieldsBytes fields).length < Bytes.wordLimit := by
        rw [length_enclose] at small
        omega
      have distinct : (fields.map Prod.fst).Nodup := by simpa [areDistinct] using plain.1
      have read := readFields?_fieldsBytes fields plain.2 bound
      rw [kind, ofPayload?_document, contents?_enclose small, Option.bind_some, read]
      simp [Reading.toValue, ofFields_of_nodup distinct]
  | array items =>
      simp only [isPlain] at plain
      simp only [payload] at small ⊢
      have bound : (itemsBytes 0 items).length < Bytes.wordLimit := by
        rw [length_enclose] at small
        omega
      have read := readItems?_itemsBytes 0 items plain bound
      rw [kind, ofPayload?_array, contents?_enclose small, Option.bind_some, read]
      rfl
  | codeWithScope source scope =>
      simp only [isPlain, Bool.and_eq_true] at plain
      simp only [payload] at small ⊢
      have enclosed : (enclose (fieldsBytes scope)).length < Bytes.wordLimit := by
        rw [length_scopedPayload, List.length_append] at small
        omega
      have bound : (fieldsBytes scope).length < Bytes.wordLimit := by
        rw [length_enclose] at enclosed
        omega
      have distinct : (scope.map Prod.fst).Nodup := by simpa [areDistinct] using plain.1
      have read := readFields?_fieldsBytes scope plain.2 bound
      rw [kind, ofPayload?_codeWithScope, scoped?_scopedPayload small, Option.bind_some]
      dsimp only
      rw [contents?_enclose enclosed, Option.bind_some, read]
      simp [Reading.document?, ofFields_of_nodup distinct]
  | _ =>
      rw [ofPayload?]
      · exact leaf?_payload plain small (by simp [kind]) (by simp [kind]) (by simp [kind])
      all_goals simp [kind]
termination_by structural value

theorem readFields?_fieldsBytes (fields : List (String × Value))
    (plain : fieldsPlain fields = true) (small : (fieldsBytes fields).length < Bytes.wordLimit) :
    readFields? (fieldsBytes fields ++ [0]) = some (.fields fields) := by
  cases fields with
  | nil => simp [fieldsBytes, readFields?]
  | cons field rest =>
      simp only [fieldsPlain, Bool.and_eq_true] at plain
      simp only [fieldsBytes, List.length_append] at small
      have read := ofPayload?_field field plain.1 (by omega)
      have others := readFields?_fieldsBytes rest plain.2 (by omega)
      rcases field with ⟨key, value⟩
      simp only [fieldPlain, Bool.and_eq_true] at plain
      have bound : value.payload.length < Bytes.wordLimit :=
        length_payload_of_fieldBytes (Nat.lt_of_le_of_lt (Nat.le_add_right _ _) small)
      rw [fieldsBytes, List.append_assoc, readFields?_append plain.1.1 plain.1.2 bound read, others]
      rfl
termination_by structural fields

theorem ofPayload?_field (field : String × Value) (plain : fieldPlain field = true)
    (small : (fieldBytes field).length < Bytes.wordLimit) :
    ofPayload? field.2.kind field.2.payload = some field.2 := by
  rcases field with ⟨key, value⟩
  simp only [fieldPlain, Bool.and_eq_true] at plain
  exact ofPayload?_payload value plain.2 (length_payload_of_fieldBytes small)
termination_by structural field

theorem readItems?_itemsBytes (index : Nat) (items : List Value) (plain : itemsPlain items = true)
    (small : (itemsBytes index items).length < Bytes.wordLimit) :
    readItems? (itemsBytes index items ++ [0]) = some items := by
  cases items with
  | nil => simp [itemsBytes, readItems?]
  | cons value rest =>
      have shape : itemsBytes index (value :: rest) =
          fieldBytes (toString index, value) ++ itemsBytes (index + 1) rest := by
        simp [itemsBytes, fieldBytes]
      simp only [itemsPlain, Bool.and_eq_true] at plain
      rw [shape, List.length_append] at small
      have bound : value.payload.length < Bytes.wordLimit :=
        length_payload_of_fieldBytes (Nat.lt_of_le_of_lt (Nat.le_add_right _ _) small)
      have read := ofPayload?_payload value plain.1 bound
      have others := readItems?_itemsBytes (index + 1) rest plain.2 (by omega)
      rw [shape, List.append_assoc,
        readItems?_append (Text.holdsZero_toString index) plain.1 bound read, others]
      rfl
termination_by structural items

end

mutual

theorem isWritable_of_isPlain (value : Value) (plain : value.isPlain = true) :
    value.isWritable = true := by
  cases value with
  | document fields =>
      simp only [isPlain, Bool.and_eq_true] at plain
      simpa only [isWritable] using fieldsWritable_of_fieldsPlain fields plain.2
  | array items =>
      simp only [isPlain] at plain
      simpa only [isWritable] using itemsWritable_of_itemsPlain items plain
  | codeWithScope source scope =>
      simp only [isPlain, Bool.and_eq_true] at plain
      simpa only [isWritable] using fieldsWritable_of_fieldsPlain scope plain.2
  | regex pattern options =>
      simp only [isPlain, Bool.and_eq_true] at plain
      simpa only [isWritable, Bool.and_eq_true] using plain.1
  | _ => rfl
termination_by structural value

theorem fieldsWritable_of_fieldsPlain (fields : List (String × Value))
    (plain : fieldsPlain fields = true) : fieldsWritable fields = true := by
  cases fields with
  | nil => rfl
  | cons field rest =>
      simp only [fieldsPlain, Bool.and_eq_true] at plain
      simp only [fieldsWritable, Bool.and_eq_true]
      exact ⟨fieldWritable_of_fieldPlain field plain.1, fieldsWritable_of_fieldsPlain rest plain.2⟩
termination_by structural fields

theorem fieldWritable_of_fieldPlain (field : String × Value) (plain : fieldPlain field = true) :
    fieldWritable field = true := by
  rcases field with ⟨key, value⟩
  simp only [fieldPlain, isPlainKey, Bool.and_eq_true] at plain
  simp only [fieldWritable, Bool.and_eq_true]
  exact ⟨plain.1.1, isWritable_of_isPlain value plain.2⟩
termination_by structural field

theorem itemsWritable_of_itemsPlain (items : List Value) (plain : itemsPlain items = true) :
    itemsWritable items = true := by
  cases items with
  | nil => rfl
  | cons value rest =>
      simp only [itemsPlain, Bool.and_eq_true] at plain
      simp only [itemsWritable, Bool.and_eq_true]
      exact ⟨isWritable_of_isPlain value plain.1, itemsWritable_of_itemsPlain rest plain.2⟩
termination_by structural items

end

end Value

namespace Document

theorem encode_of_isPlain {document : Document} (plain : document.isPlain = true) :
    encode document = .ok document.bytes := by
  simp only [isPlain, Bool.and_eq_true] at plain
  have writable : document.isWritable = true :=
    Value.fieldsWritable_of_fieldsPlain document plain.2
  simp [encode, encode?, writable]

/-- The bytes of a document begin with their own number. -/
theorem announcedSize_bytes {document : Document}
    (small : document.bytes.length < Bytes.wordLimit) :
    announcedSize document.bytes = .ok document.bytes.length := by
  have value : (Int32.ofNat document.bytes.length).toInt = document.bytes.length :=
    Bytes.toInt_ofNat small
  have front : document.bytes.take 4 = Bytes.ofInt32 (Int32.ofNat document.bytes.length) := by
    rw [bytes, length_enclose, enclose, List.append_assoc, List.take_left' (by simp)]
  rw [announcedSize_eq_ok_iff, front, Bytes.toInt32_ofInt32]
  refine ⟨value, ?_, Nat.le_refl _⟩
  rw [bytes, length_enclose, minimumSize]
  omega

theorem decode_bytes {document : Document} (plain : document.isPlain = true)
    (small : document.bytes.length < Bytes.wordLimit) : decode document.bytes = .ok document := by
  simp only [isPlain, areDistinct, Bool.and_eq_true, decide_eq_true_eq] at plain
  have bound : (Value.fieldsBytes document).length < Bytes.wordLimit := by
    rw [bytes, length_enclose] at small
    omega
  rw [decode_eq_ok_iff]
  refine ⟨announcedSize_bytes small, ?_⟩
  rw [decodeExact?, bytes, contents?_enclose small, Option.bind_some,
    Value.readFields?_fieldsBytes document plain.2 bound]
  simp [Reading.document?, ofFields_of_nodup plain.1]

/-- Writing documents in a row is appending them to a buffer one by one. -/
theorem foldlM_appendTo (buffer : Bytes) (documents : List Document) :
    documents.foldlM appendTo buffer = (encodeAll documents).map (buffer ++ ·) := by
  induction documents generalizing buffer with
  | nil => simp [encodeAll, Except.map, pure, Except.pure]
  | cons document documents ih =>
      rw [List.foldlM_cons, encodeAll, appendTo]
      cases encode document with
      | error error => rfl
      | ok bytes =>
          simp only [Except.map, bind, Except.bind, ih]
          cases encodeAll documents with
          | error error => rfl
          | ok rest => simp [pure, Except.pure]

/--
A plain document whose bytes fit a signed length can be written, alone or behind other bytes; the
bytes begin with their own number, and reading them gives the document.
-/
theorem decode_encode_of_isPlain (document : Document) (plain : document.isPlain = true)
    (small : document.bytes.length < Bytes.wordLimit) :
    ∃ bytes, encode document = .ok bytes ∧
      (Bytes.toInt32 (bytes.take 4)).toInt = bytes.length ∧
      (∀ buffer : Bytes, document.appendTo buffer = .ok (buffer ++ bytes)) ∧
      decode bytes = .ok document := by
  have encoded := encode_of_isPlain plain
  refine ⟨document.bytes, encoded, ?_, ?_, decode_bytes plain small⟩
  · exact (announcedSize_eq_ok_iff.1 (announcedSize_bytes small)).1
  · intro buffer
    rw [appendTo, encoded]
    rfl

/-- A document with values inside values, a zero inside a text and a number that is none. -/
def nested : Document :=
  [("ratio", .double 0x7FF8000000000001),
   ("list", .array [.string "a\x00b", .regex "^x" "im", .binary 2 [1, 2, 3]]),
   ("run", .codeWithScope "f(x)" [("x", .document [("y", .null)])])]

theorem decode_encode_nested :
    nested.isPlain = true ∧ nested.bytes.length < Bytes.wordLimit ∧
      ∃ bytes, encode nested = .ok bytes ∧
        (Bytes.toInt32 (bytes.take 4)).toInt = bytes.length ∧
        (∀ buffer : Bytes, nested.appendTo buffer = .ok (buffer ++ bytes)) ∧
        decode bytes = .ok nested := by
  have plain : nested.isPlain = true := by decide
  have length : nested.bytes.length = 100 := by cbv
  have small : nested.bytes.length < Bytes.wordLimit := by
    rw [length]
    decide
  exact ⟨plain, small, decode_encode_of_isPlain nested plain small⟩

end Document

end DocumentProtocol
