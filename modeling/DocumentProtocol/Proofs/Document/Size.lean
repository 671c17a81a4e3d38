import DocumentProtocol.Proofs.Document.Canonical

/-!
# The size of what is written

How many bytes a document is written in, when it was put together by inserting fields, and when it
was read.

Inserting adds the bytes of the field at most: a value that is replaced makes room. Reading and
writing again can make a document longer, since the names in an array, which need not be anything,
become its indices. Each item takes two bytes besides its name, so that an index has as many digits
as half the size of the array at most, and the growth is bounded by the size.

A merge of documents is therefore as large as they are together at most, without the frames of all
but one.
-/

namespace DocumentProtocol

namespace Text

/-- A number is written in as many bytes as it has digits. -/
theorem length_encode_toString_le {number digits : Nat} (positive : 0 < digits)
    (small : number < 10 ^ digits) : (encode (toString number)).length ≤ digits := by
  have single : ∀ character ∈ Nat.toDigits 10 number,
      (String.utf8EncodeChar character).length = 1 := by
    intro character mem
    have digit := Nat.isDigit_of_mem_toDigits (by decide) (by decide) mem
    rw [String.length_utf8EncodeChar, Char.utf8Size_eq_one_iff]
    exact UInt32.le_trans (Char.isDigit_iff_toNat.1 digit).2 (by decide)
  have count := Nat.repr_length number digits positive small
  rw [← String.length_toList, Nat.toList_repr] at count
  rw [encode_eq_flatMap, Nat.toString_eq_repr, Nat.toList_repr, List.length_flatMap,
    List.map_congr_left single]
  simpa using count

theorem length_encode_sorted (text : String) :
    (encode (sorted text)).length = (encode text).length := by
  rw [encode_eq_flatMap, encode_eq_flatMap, sorted, String.toList_ofList]
  exact ((List.mergeSort_perm _ _).flatMap_right _).length_eq

end Text

/-! ### Inserting -/

namespace Document

theorem length_of_contents? {payload contents : Bytes} (found : contents? payload = some contents) :
    payload.length = contents.length + 4 := by
  simp only [contents?, Option.bind_eq_some_iff, Option.ite_none_right_eq_some,
    Option.some.injEq] at found
  rcases found with ⟨_, announced, _, rfl⟩
  have enough := (Kind.announcedLength?_eq_some announced).2.1
  rw [List.length_drop]
  omega

theorem length_bytes (document : Document) :
    document.bytes.length = (Value.fieldsBytes document).length + 5 :=
  length_enclose _

theorem length_fieldsBytes_insert_le (document : Document) (key : String) (value : Value) :
    (Value.fieldsBytes (document.insert key value)).length ≤
      (Value.fieldsBytes document).length + (Value.fieldBytes (key, value)).length := by
  induction document with
  | nil => simp [insert, Value.fieldsBytes]
  | cons field rest ih =>
      rcases field with ⟨name, old⟩
      rw [insert]
      split
      all_goals
        simp only [Value.fieldsBytes, List.length_append]
        omega

theorem fieldsBytes_append (first second : List (String × Value)) :
    Value.fieldsBytes (first ++ second) = Value.fieldsBytes first ++ Value.fieldsBytes second := by
  induction first with
  | nil => rfl
  | cons field rest ih =>
      rw [List.cons_append, Value.fieldsBytes, ih, Value.fieldsBytes, List.append_assoc]

/-- Inserted fields take up their own bytes at most. -/
theorem length_fieldsBytes_insertAll_le (document : Document) (fields : List (String × Value)) :
    (Value.fieldsBytes (document.insertAll fields)).length ≤
      (Value.fieldsBytes document).length + (Value.fieldsBytes fields).length := by
  induction fields generalizing document with
  | nil => simp
  | cons field fields ih =>
      rcases field with ⟨key, value⟩
      have inserted := length_fieldsBytes_insert_le document key value
      have others := ih (document.insert key value)
      rw [insertAll_cons, Value.fieldsBytes, List.length_append]
      dsimp only
      omega

end Document

/-! ### Reading and writing again -/

/-- Whether a size has grown by a number of digits for each two bytes at most. -/
def GrowsTo (digits before after : Nat) : Prop := 2 * after ≤ (digits + 2) * before

namespace GrowsTo

variable {digits before after more added : Nat}

theorem add (grows : GrowsTo digits before after) (also : GrowsTo digits more added) :
    GrowsTo digits (before + more) (after + added) := by
  rw [GrowsTo, Nat.mul_add, Nat.mul_add]
  exact Nat.add_le_add grows also

theorem mono (grows : GrowsTo digits before after) (less : before ≤ more) (least : added ≤ after) :
    GrowsTo digits more added :=
  calc
    2 * added ≤ 2 * after := Nat.mul_le_mul_left 2 least
    _ ≤ (digits + 2) * before := grows
    _ ≤ (digits + 2) * more := Nat.mul_le_mul_left _ less

theorem of_le (le : after ≤ before) : GrowsTo digits before after :=
  Nat.mul_le_mul (Nat.le_add_left 2 digits) le

theorem sum {limit : Nat} {sizes : List Nat} (each : ∀ size ∈ sizes, GrowsTo digits limit size) :
    GrowsTo digits (sizes.length * limit) sizes.sum := by
  induction sizes with
  | nil => simp [GrowsTo]
  | cons size sizes ih =>
      rw [List.forall_mem_cons] at each
      rw [List.length_cons, Nat.succ_mul, List.sum_cons, Nat.add_comm size]
      exact (ih each.2).add each.1

/-- The two bytes around a name leave room for the digits of an index. -/
theorem of_index (digits : Nat) : GrowsTo digits 2 (digits + 2) :=
  (Nat.mul_comm 2 (digits + 2)).le

/-- A reserved name leaves room for the value that the document stands for. -/
theorem of_reserved (positive : 0 < digits) : GrowsTo digits 6 7 := by
  rw [GrowsTo]
  omega

end GrowsTo

/-- A reserved name has four bytes at least. -/
theorem ExtendedKey.length_of_ofName? {name : String} {key : ExtendedKey}
    (reserved : ofName? name = some key) : 4 ≤ (Text.encode name).length := by
  have all : ∀ entry ∈ table, 4 ≤ (Text.encode entry.1).length := by decide
  rcases List.lookup_eq_some_iff.1 reserved with ⟨front, behind, table_eq, _⟩
  apply all (name, key)
  simp [table_eq]

namespace Value

open Document

theorem length_payload_of_standIn? {key : ExtendedKey} {value standIn : Value}
    (found : key.standIn? value = some standIn) :
    standIn.payload.length ≤ value.payload.length + 7 := by
  unfold ExtendedKey.standIn? at found
  split at found
  case h_1 | h_3 | h_4 | h_5 =>
    rcases Option.map_eq_some_iff.1 found with ⟨_, _, rfl⟩
    simp only [payload, length_textPayload, FixedBytes.length_eq, Bytes.length_ofInt32,
      Bytes.length_ofInt64, Bytes.length_ofUInt64]
    omega
  case h_2 =>
    cases found
    exact Nat.le_add_right _ 7
  case h_6 | h_7 =>
    split at found <;> cases found
    exact Nat.zero_le _
  case h_8 =>
    cases found
    exact Nat.zero_le _
  case h_9 => cases found

end Value

/-- How many bytes what the elements of a document come to is written in, with the closing zero. -/
def Document.Reading.size : Document.Reading → Nat
  | .fields read => (Value.fieldsBytes read).length + 1
  | .standIn value => value.payload.length

namespace Document.Reading

theorem length_payload_toValue_le (reading : Reading) :
    reading.toValue.payload.length ≤ reading.size + 4 := by
  cases reading with
  | fields read =>
      have inserted := length_fieldsBytes_insertAll_le [] read
      rw [Value.fieldsBytes, List.length_nil, Nat.zero_add] at inserted
      rw [toValue, Value.payload, length_enclose, ofFields, size]
      omega
  | standIn value => exact Nat.le_add_right _ 4

theorem length_payload_of_document? {reading : Reading} {document : Document}
    (found : reading.document? = some document) :
    (Value.document document).payload.length ≤ reading.size + 4 := by
  cases reading with
  | fields read =>
      cases found
      exact length_payload_toValue_le (.fields read)
  | standIn value => cases found

theorem size_cons_le (key : String) (value : Value) (reading : Reading) :
    (cons key value reading).size ≤ (Value.fieldBytes (key, value)).length + reading.size := by
  cases reading with
  | fields read =>
      rw [cons, size, size, Value.fieldsBytes, List.length_append, Nat.add_assoc]
  | standIn value => exact Nat.le_add_left _ _

end Document.Reading

theorem Element.length_of_next? {contents rest : Bytes} {element : Element}
    (next : Element.next? contents = some (element, rest)) :
    contents.length =
      2 + (Text.encode element.key).length + element.payload.length + rest.length := by
  have shape := congrArg List.length (next?_eq_some next).1
  simp only [Element.bytes, List.length_append, List.length_cons, Text.length_terminated] at shape
  omega

namespace Value

open Document

theorem length_payload_of_text? {value : Value} {text : String} (found : value.text? = some text) :
    value.payload.length = (textPayload text).length := by
  cases value <;> cases found
  rw [payload]

theorem length_payload_of_document? {value : Value} {document : Document}
    (found : value.document? = some document) :
    value.payload.length = (enclose (fieldsBytes document)).length := by
  cases value <;> cases found
  rw [payload]

theorem length_payload_codeWithScope (source : String) (scope : Document) :
    (codeWithScope source scope).payload.length =
      4 + (textPayload source).length + (enclose (fieldsBytes scope)).length := by
  rw [payload, length_scopedPayload, List.length_append]
  omega

theorem length_payload_of_regex? {payload : Bytes} {value : Value}
    (read : regex? payload = some value) : value.payload.length = payload.length := by
  unfold regex? at read
  split at read
  · rename_i pattern rest first
    split at read
    · rename_i options second
      cases read
      rw [(Text.readTerminated_eq_ok first).1, (Text.readTerminated_eq_ok second).1]
      simp [Value.payload, Text.length_encode_sorted]
    · cases read
  · cases read

theorem length_payload_of_leaf? {kind : Kind} {payload : Bytes} {value : Value}
    (read : leaf? kind payload = some value) (sized : kind.IsSized payload) :
    value.payload.length = payload.length := by
  by_cases regex : kind = .regex
  · subst regex
    exact length_payload_of_regex? read
  · rw [(payload_of_leaf? read regex sized).2]

variable {digits : Nat}

theorem growsTo_codeWithScope {source : String} {scope : Document} {own other whole : Nat}
    (source_grows : GrowsTo digits own (textPayload source).length)
    (scope_grows : GrowsTo digits other (enclose (fieldsBytes scope)).length)
    (room : own + other + 4 ≤ whole) :
    GrowsTo digits whole (codeWithScope source scope).payload.length := by
  have shape := length_payload_codeWithScope source scope
  have grows := (source_grows.add scope_grows).add (.of_le (Nat.le_refl 4))
  exact grows.mono room (by omega)

/--
What the reader returns is written in as many bytes as it was read from, or grows by its names in
arrays: a value, the items of an array from an index on, and what the elements of a document come
to.
-/
theorem growsTo_of_reading (positive : 0 < digits) :
    (∀ kind payload value, ofPayload? kind payload = some value → kind.IsSized payload →
        payload.length ≤ 2 * 10 ^ digits →
          GrowsTo digits payload.length value.payload.length) ∧
      (∀ contents items, readItems? contents = some items → ∀ index,
        2 * index + contents.length ≤ 2 * 10 ^ digits →
          GrowsTo digits contents.length ((itemsBytes index items).length + 1)) ∧
      ∀ contents reading, readFields? contents = some reading →
        contents.length ≤ 2 * 10 ^ digits → GrowsTo digits contents.length reading.size := by
  apply reading_induction
  case leaf =>
    intro kind payload value read sized _
    exact .of_le (length_payload_of_leaf? read sized).le
  case document =>
    intro payload contents reading found ih _ few
    have shape := length_of_contents? found
    have grows := ih (by omega)
    rw [shape]
    exact (grows.add (.of_le (Nat.le_refl 4))).mono (Nat.le_refl _)
      reading.length_payload_toValue_le
  case array =>
    intro payload contents items found ih _ few
    have shape := length_of_contents? found
    have grows := ih 0 (by omega)
    rw [shape, Value.payload, length_enclose]
    exact grows.add (.of_le (Nat.le_refl 4))
  case codeWithScope =>
    intro payload source scope contents reading document found inside ih document_eq sized few
    have shape := length_payload_codeWithScope source document
    have scope_le := Reading.length_payload_of_document? document_eq
    have scope_eq := length_of_contents? inside
    have whole := congrArg List.length (scopedPayload_of_scoped? found sized)
    rw [length_scopedPayload, List.length_append, scope_eq] at whole
    have grows := (ih (by omega)).add (.of_le (Nat.le_refl ((textPayload source).length + 8)))
    rw [Value.payload] at scope_le
    exact grows.mono (by omega) (by omega)
  -- Items: the index is carried along, and grows by one for the two bytes of an item or more.
  case noItem =>
    intro index _
    exact .of_le (Nat.le_refl 1)
  case item =>
    intro contents rest element value items next first others index few
    have shape := Element.length_of_next? next
    have sized := (Element.next?_eq_some next).2
    have name_le : (Text.encode (toString index)).length ≤ digits :=
      Text.length_encode_toString_le positive (by omega)
    have grows := ((GrowsTo.of_index digits).add (first sized (by omega))).add
      (others (index + 1) (by omega))
    apply grows.mono (by omega)
    simp only [itemsBytes, List.length_append, List.length_cons, Text.length_terminated]
    omega
  -- Fields: a name that is kept is written as it was, and a reserved one gives way to less.
  case noField =>
    intro _
    exact .of_le (Nat.le_refl 1)
  case field =>
    intro contents rest element value reading next _ first others few
    have shape := Element.length_of_next? next
    have sized := (Element.next?_eq_some next).2
    have size_le := Reading.size_cons_le element.key value reading
    rw [length_fieldBytes] at size_le
    have grows := ((first sized (by omega)).add (others (by omega))).add
      (.of_le (Nat.le_refl (2 + (Text.encode element.key).length)))
    exact grows.mono (by omega) (by omega)
  case code =>
    intro contents element value source next first source_eq few
    have shape := Element.length_of_next? next
    have sized := (Element.next?_eq_some next).2
    have source_grows := first sized (by omega)
    rw [length_payload_of_text? source_eq] at source_grows
    exact source_grows.mono (by omega) (Nat.le_refl _)
  case codeThenScope =>
    intro contents rest after element second value scopeValue source scope next followed first
      source_eq others scope_eq few
    have shape := Element.length_of_next? next
    have rest_shape := Element.length_of_next? followed
    have source_grows := first (Element.next?_eq_some next).2 (by omega)
    have scope_grows := others (Element.next?_eq_some followed).2 (by omega)
    rw [length_payload_of_text? source_eq] at source_grows
    rw [length_payload_of_document? scope_eq] at scope_grows
    exact growsTo_codeWithScope source_grows scope_grows (by omega)
  case scopeThenCode =>
    intro contents rest after element second value codeValue source scope next followed first
      scope_eq others source_eq few
    have shape := Element.length_of_next? next
    have rest_shape := Element.length_of_next? followed
    have scope_grows := first (Element.next?_eq_some next).2 (by omega)
    have source_grows := others (Element.next?_eq_some followed).2 (by omega)
    rw [length_payload_of_document? scope_eq] at scope_grows
    rw [length_payload_of_text? source_eq] at source_grows
    exact growsTo_codeWithScope source_grows scope_grows (by omega)
  case standIn =>
    intro contents rest element key value standIn next reserved first standIn_eq few
    have shape := Element.length_of_next? next
    have name_le := ExtendedKey.length_of_ofName? reserved
    have grows := (first (Element.next?_eq_some next).2 (by omega)).add
      (GrowsTo.of_reserved positive)
    exact grows.mono (by omega) (length_payload_of_standIn? standIn_eq)

end Value

namespace Document

variable {digits : Nat} {bytes : Bytes} {document : Document}

/-- A document that was read grows by its names in arrays at most when it is written again. -/
theorem growsTo_of_decode (decoded : decode bytes = .ok document)
    (few : bytes.length ≤ 2 * 10 ^ digits) : GrowsTo digits bytes.length document.bytes.length := by
  have enough := length_of_decode decoded
  have positive : 0 < digits := by
    apply Nat.pos_of_ne_zero
    rintro rfl
    simp only [minimumSize] at enough
    omega
  rcases ofPayload?_of_decode decoded with ⟨read, sized⟩
  have grows := (Value.growsTo_of_reading positive).1 _ _ _ read sized few
  rwa [Value.payload, ← Document.bytes] at grows

/-! ### Merging -/

/-- The fields of some documents, inserted one document after the other. -/
def merge (documents : List Document) : Document := documents.foldl insertAll []

theorem merge_eq_ofFields (documents : List Document) :
    merge documents = ofFields documents.flatten := by
  have join (start : Document) :
      documents.foldl insertAll start = start.insertAll documents.flatten := by
    induction documents generalizing start with
    | nil => rfl
    | cons first others ih => rw [List.foldl_cons, ih, List.flatten_cons, insertAll_append]
  exact join []

theorem isPlain_merge {documents : List Document}
    (plain : ∀ document ∈ documents, document.isPlain = true) :
    (merge documents).isPlain = true := by
  rw [merge_eq_ofFields]
  apply isPlain_ofFields
  rw [Value.fieldsPlain_iff]
  intro field mem
  rcases List.mem_flatten.1 mem with ⟨document, document_mem, field_mem⟩
  exact (isPlain_iff.1 (plain document document_mem)).2 field field_mem

/-- The sizes of some documents count five bytes for each besides its fields. -/
theorem sum_length_bytes (documents : List Document) :
    (documents.map fun document => document.bytes.length).sum =
      (Value.fieldsBytes documents.flatten).length + 5 * documents.length := by
  induction documents with
  | nil => rfl
  | cons first others ih =>
      rw [List.map_cons, List.sum_cons, ih, List.flatten_cons, fieldsBytes_append, length_bytes,
        List.length_append, List.length_cons]
      omega

theorem length_bytes_merge_le (documents : List Document) :
    (merge documents).bytes.length + 5 * documents.length ≤
      (documents.map fun document => document.bytes.length).sum + 5 := by
  have inserted := length_fieldsBytes_insertAll_le [] documents.flatten
  rw [Value.fieldsBytes, List.length_nil, Nat.zero_add] at inserted
  rw [sum_length_bytes, merge_eq_ofFields, ofFields, length_bytes]
  omega

theorem length_bytes_merge_of_nodup {documents : List Document}
    (distinct : (documents.flatMap keys).Nodup) :
    (merge documents).bytes.length + 5 * documents.length =
      (documents.map fun document => document.bytes.length).sum + 5 := by
  have distinct : (documents.flatten.map Prod.fst).Nodup := by
    rw [List.map_flatten]
    exact distinct
  rw [sum_length_bytes, merge_eq_ofFields, ofFields_of_nodup distinct, length_bytes]
  omega

end Document

end DocumentProtocol
