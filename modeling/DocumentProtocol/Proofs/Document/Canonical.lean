import DocumentProtocol.Proofs.Document.Exactness

/-!
# Canonical bytes

Reading a document and writing it again loses four things: a repeated name is merged into the first,
the names in an array become its indices, the options of a regular expression are put in order, and
a document with a reserved name gives way to the value it stands for. `Kind.IsCanonical` says of the
bytes of a value that at no depth there is any of the four to lose.

The main statement is that nothing else is lost and that it is lost only once: whatever bytes are
read as a document, the document can be written, what is written is read as the same document as
long as its length fits, and it is the bytes that were read just when these are canonical.

One half is an induction over the canonical form, which follows the depth of the bytes; inside it,
one over the elements in a row. The other half is an induction over the value that was read, which
is plain, and what is written of a plain value is canonical.
-/

namespace DocumentProtocol

/-- The contents of a document are some elements one after the other and the closing zero. -/
inductive Element.Row : Bytes → List Element → Prop where
  | nil : Row [0] []
  | cons {contents rest : Bytes} {first : Element} {others : List Element}
      (next : Element.next? contents = some (first, rest)) (row : Row rest others) :
      Row contents (first :: others)

/--
Bytes of a value of a kind in which reading finds nothing to lose. At every depth no name of a
document is repeated or reserved, the names in an array are its indices in order, and the options of
a regular expression are sorted.
-/
inductive Kind.IsCanonical : Kind → Bytes → Prop where
  | leaf {kind : Kind} {payload : Bytes} (notDocument : kind ≠ .document) (notArray : kind ≠ .array)
      (notScoped : kind ≠ .codeWithScope) (notRegex : kind ≠ .regex) : IsCanonical kind payload
  | regex {pattern options : String} (patternFree : Text.holdsZero pattern = false)
      (optionsFree : Text.holdsZero options = false) (sorted : Text.isSorted options = true) :
      IsCanonical .regex (Text.terminated pattern ++ Text.terminated options)
  | document {payload contents : Bytes} {elements : List Element}
      (found : Document.contents? payload = some contents) (row : Element.Row contents elements)
      (distinct : (elements.map Element.key).Nodup)
      (ordinary : ∀ element ∈ elements, ExtendedKey.ofName? element.key = none)
      (inside : ∀ element ∈ elements, IsCanonical element.kind element.payload) :
      IsCanonical .document payload
  | array {payload contents : Bytes} {elements : List Element}
      (found : Document.contents? payload = some contents) (row : Element.Row contents elements)
      (numbered : elements.map Element.key = (List.range elements.length).map toString)
      (inside : ∀ element ∈ elements, IsCanonical element.kind element.payload) :
      IsCanonical .array payload
  | codeWithScope {payload scope : Bytes} {source : String}
      (parts : Document.scoped? payload = some (source, scope))
      (inside : IsCanonical .document scope) : IsCanonical .codeWithScope payload

/-- Whether some bytes, read as a document, have nothing to lose at any depth. -/
def Document.IsCanonical (bytes : Bytes) : Prop := Kind.document.IsCanonical bytes

/-! ### Canonical bytes are written again -/

/-- Whether what is read of a payload is written as that payload. -/
def Kind.Returns (kind : Kind) (payload : Bytes) : Prop :=
  ∀ value, Value.ofPayload? kind payload = some value → kind.IsSized payload →
    value.kind = kind ∧ value.payload = payload

namespace Value

open Document

theorem ofPayload?_leaf {kind : Kind} (payload : Bytes) (notDocument : kind ≠ .document)
    (notArray : kind ≠ .array) (notScoped : kind ≠ .codeWithScope) :
    ofPayload? kind payload = leaf? kind payload := by
  rw [ofPayload?] <;> assumption

theorem readFields?_closing : readFields? [0] = some (.fields []) := by
  rw [readFields?, if_pos rfl]

theorem readItems?_closing : readItems? [0] = some [] := by
  rw [readItems?, if_pos rfl]

theorem readFields?_cons {contents rest : Bytes} {element : Element}
    (next : Element.next? contents = some (element, rest))
    (ordinary : ExtendedKey.ofName? element.key = none) :
    readFields? contents = (ofPayload? element.kind element.payload).bind fun value =>
      (readFields? rest).map (Reading.cons element.key value) := by
  simp only [readFields?_eq (Element.ne_closing_of_next? next), next, ordinary, Option.bind_some]

theorem readItems?_cons {contents rest : Bytes} {element : Element}
    (next : Element.next? contents = some (element, rest)) :
    readItems? contents = (ofPayload? element.kind element.payload).bind fun value =>
      (readItems? rest).map (value :: ·) := by
  simp only [readItems?_eq (Element.ne_closing_of_next? next), next, Option.bind_some]

theorem fieldBytes_eq {element : Element} {value : Value}
    (returned : value.kind = element.kind ∧ value.payload = element.payload) :
    fieldBytes (element.key, value) = element.bytes := by
  rw [fieldBytes, returned.1, returned.2, Element.bytes]

theorem readFields?_of_row {contents : Bytes} {elements : List Element} {reading : Reading}
    (row : Element.Row contents elements)
    (ordinary : ∀ element ∈ elements, ExtendedKey.ofName? element.key = none)
    (inside : ∀ element ∈ elements, element.kind.Returns element.payload)
    (read : readFields? contents = some reading) :
    ∃ fields, reading = .fields fields ∧ fields.map Prod.fst = elements.map Element.key ∧
      contents = fieldsBytes fields ++ [0] := by
  induction row generalizing reading with
  | nil =>
      rw [readFields?_closing] at read
      cases read
      exact ⟨[], rfl, rfl, rfl⟩
  | @cons contents rest first others next row ih =>
      rcases Element.next?_eq_some next with ⟨contents_eq, sized⟩
      simp only [List.forall_mem_cons] at ordinary inside
      simp only [readFields?_cons next ordinary.1, Option.bind_eq_some_iff,
        Option.map_eq_some_iff] at read
      rcases read with ⟨value, value_eq, reading, rest_eq, rfl⟩
      rcases ih ordinary.2 inside.2 rest_eq with ⟨fields, rfl, keys, rfl⟩
      refine ⟨(first.key, value) :: fields, rfl, ?_, ?_⟩
      · rw [List.map_cons, List.map_cons, keys]
      · rw [fieldsBytes, fieldBytes_eq (inside.1 value value_eq sized), List.append_assoc]
        exact contents_eq

theorem readItems?_of_row {contents : Bytes} {elements : List Element} {items : List Value}
    {index : Nat} (row : Element.Row contents elements)
    (numbered : elements.map Element.key = (List.range' index elements.length).map toString)
    (inside : ∀ element ∈ elements, element.kind.Returns element.payload)
    (read : readItems? contents = some items) : contents = itemsBytes index items ++ [0] := by
  induction row generalizing index items with
  | nil =>
      rw [readItems?_closing] at read
      cases read
      rfl
  | @cons contents rest first others next row ih =>
      rcases Element.next?_eq_some next with ⟨contents_eq, sized⟩
      rw [List.length_cons, List.range'_succ, List.map_cons, List.map_cons,
        List.cons.injEq] at numbered
      simp only [List.forall_mem_cons] at inside
      simp only [readItems?_cons next, Option.bind_eq_some_iff, Option.map_eq_some_iff] at read
      rcases read with ⟨value, value_eq, items, rest_eq, rfl⟩
      have written := fieldBytes_eq (inside.1 value value_eq sized)
      rw [numbered.1, fieldBytes] at written
      rw [itemsBytes, List.append_assoc, ← ih numbered.2 inside.2 rest_eq, written]
      exact contents_eq

/-- What is read of canonical bytes is written as these bytes. -/
theorem payload_of_isCanonical {kind : Kind} {payload : Bytes}
    (canonical : kind.IsCanonical payload) : kind.Returns payload := by
  induction canonical with
  | leaf notDocument notArray notScoped notRegex =>
      intro value read sized
      rw [ofPayload?_leaf _ notDocument notArray notScoped] at read
      exact payload_of_leaf? read notRegex sized
  | regex patternFree optionsFree sorted =>
      intro value read _
      rw [ofPayload?_leaf _ (by decide) (by decide) (by decide), leaf?,
        regex?_terminated patternFree optionsFree, Text.sorted_eq_self sorted] at read
      cases read
      refine ⟨rfl, ?_⟩
      rw [Value.payload, Text.sorted_eq_self sorted]
  | document found row distinct ordinary _ ih =>
      intro value read _
      rw [ofPayload?_document, found, Option.bind_some] at read
      rcases Option.map_eq_some_iff.1 read with ⟨reading, reading_eq, rfl⟩
      rcases readFields?_of_row row ordinary ih reading_eq with ⟨fields, rfl, keys, contents_eq⟩
      rw [← keys] at distinct
      rw [Reading.toValue, ofFields_of_nodup distinct]
      exact ⟨rfl, enclose_of_contents? found contents_eq⟩
  | array found row numbered _ ih =>
      intro value read _
      rw [ofPayload?_array, found, Option.bind_some] at read
      rcases Option.map_eq_some_iff.1 read with ⟨items, items_eq, rfl⟩
      rw [List.range_eq_range'] at numbered
      exact ⟨rfl, enclose_of_contents? found (readItems?_of_row row numbered ih items_eq)⟩
  | @codeWithScope payload scope source parts _ ih =>
      intro value read sized
      simp only [ofPayload?_codeWithScope, parts, Option.bind_some, Option.bind_eq_some_iff,
        Option.map_eq_some_iff] at read
      rcases read with ⟨contents, found, document, ⟨reading, reading_eq, document_eq⟩, rfl⟩
      cases reading with
      | standIn value => cases document_eq
      | fields fields =>
          cases document_eq
          refine ⟨rfl, ?_⟩
          have scope_read : ofPayload? .document scope = some (.document (ofFields fields)) := by
            rw [ofPayload?_document, found, Option.bind_some, reading_eq]
            rfl
          have scope_eq : enclose (fieldsBytes (ofFields fields)) = scope :=
            (ih _ scope_read (isSized_of_contents? found)).2
          rw [Value.payload, scope_eq]
          exact scopedPayload_of_scoped? parts sized

end Value

/-! ### What is written is canonical -/

namespace Element

def ofField (field : String × Value) : Element := ⟨field.2.kind, field.1, field.2.payload⟩

/-- The elements of an array from an index on. -/
def ofItems (index : Nat) : List Value → List Element
  | [] => []
  | value :: rest => ofField (toString index, value) :: ofItems (index + 1) rest

theorem map_key_ofItems (index : Nat) (items : List Value) :
    (ofItems index items).map key =
      (List.range' index (ofItems index items).length).map toString := by
  induction items generalizing index with
  | nil => rfl
  | cons value rest ih =>
      rw [ofItems, List.length_cons, List.range'_succ, List.map_cons, List.map_cons, ih]
      rfl

theorem row_fieldsBytes {fields : List (String × Value)} (plain : Value.fieldsPlain fields = true)
    (small : (Value.fieldsBytes fields).length < Bytes.wordLimit) :
    Row (Value.fieldsBytes fields ++ [0]) (fields.map ofField) := by
  induction fields with
  | nil => exact .nil
  | cons field rest ih =>
      rcases field with ⟨key, value⟩
      simp only [Value.fieldsPlain, Value.fieldPlain, Document.isPlainKey, Bool.and_eq_true,
        Bool.not_eq_true'] at plain
      simp only [Value.fieldsBytes, List.length_append] at small
      have bound : value.payload.length < Bytes.wordLimit :=
        Value.length_payload_of_fieldBytes (Nat.lt_of_le_of_lt (Nat.le_add_right _ _) small)
      rw [Value.fieldsBytes, List.append_assoc]
      exact .cons (next?_append plain.1.1.1 plain.1.2 bound _) (ih plain.2 (by omega))

theorem row_itemsBytes {index : Nat} {items : List Value} (plain : Value.itemsPlain items = true)
    (small : (Value.itemsBytes index items).length < Bytes.wordLimit) :
    Row (Value.itemsBytes index items ++ [0]) (ofItems index items) := by
  induction items generalizing index with
  | nil => exact .nil
  | cons value rest ih =>
      have shape : Value.itemsBytes index (value :: rest) =
          Value.fieldBytes (toString index, value) ++ Value.itemsBytes (index + 1) rest := by
        simp [Value.itemsBytes, Value.fieldBytes]
      simp only [Value.itemsPlain, Bool.and_eq_true] at plain
      rw [shape, List.length_append] at small
      have bound : value.payload.length < Bytes.wordLimit :=
        Value.length_payload_of_fieldBytes (Nat.lt_of_le_of_lt (Nat.le_add_right _ _) small)
      rw [shape, List.append_assoc]
      exact .cons (next?_append (Text.holdsZero_toString index) plain.1 bound _)
        (ih plain.2 (by omega))

end Element

namespace Value

open Document

theorem ordinary_of_fieldsPlain {fields : List (String × Value)}
    (plain : fieldsPlain fields = true) :
    ∀ element ∈ fields.map Element.ofField, ExtendedKey.ofName? element.key = none := by
  intro element mem
  rcases List.mem_map.1 mem with ⟨⟨key, value⟩, field_mem, rfl⟩
  have field := fieldsPlain_iff.1 plain (key, value) field_mem
  simp only [fieldPlain, isPlainKey, Bool.and_eq_true, Option.isNone_iff_eq_none] at field
  exact field.1.2

theorem isCanonical_enclose_fieldsBytes {fields : List (String × Value)}
    (distinct : areDistinct fields = true) (plain : fieldsPlain fields = true)
    (small : (enclose (fieldsBytes fields)).length < Bytes.wordLimit)
    (inside : ∀ element ∈ fields.map Element.ofField, element.kind.IsCanonical element.payload) :
    Kind.document.IsCanonical (enclose (fieldsBytes fields)) := by
  have bound : (fieldsBytes fields).length < Bytes.wordLimit := by
    rw [length_enclose] at small
    omega
  refine .document (contents?_enclose small) (Element.row_fieldsBytes plain bound) ?_
    (ordinary_of_fieldsPlain plain) inside
  simpa [areDistinct, List.map_map, Function.comp_def, Element.ofField] using distinct

mutual

/-- The bytes of a plain value are canonical. -/
theorem isCanonical_payload (value : Value) (plain : value.isPlain = true)
    (small : value.payload.length < Bytes.wordLimit) : value.kind.IsCanonical value.payload := by
  cases value with
  | document fields =>
      simp only [isPlain, Bool.and_eq_true] at plain
      simp only [payload] at small ⊢
      have bound : (fieldsBytes fields).length < Bytes.wordLimit := by
        rw [length_enclose] at small
        omega
      exact isCanonical_enclose_fieldsBytes plain.1 plain.2 small
        (isCanonical_of_fields fields plain.2 bound)
  | array items =>
      simp only [isPlain] at plain
      simp only [payload] at small ⊢
      have bound : (itemsBytes 0 items).length < Bytes.wordLimit := by
        rw [length_enclose] at small
        omega
      refine .array (contents?_enclose small) (Element.row_itemsBytes plain bound) ?_
        (isCanonical_of_items 0 items plain bound)
      rw [Element.map_key_ofItems, List.range_eq_range']
  | codeWithScope source scope =>
      simp only [isPlain, Bool.and_eq_true] at plain
      simp only [payload] at small ⊢
      have enclosed : (enclose (fieldsBytes scope)).length < Bytes.wordLimit := by
        rw [length_scopedPayload, List.length_append] at small
        omega
      have bound : (fieldsBytes scope).length < Bytes.wordLimit := by
        rw [length_enclose] at enclosed
        omega
      exact .codeWithScope (scoped?_scopedPayload small)
        (isCanonical_enclose_fieldsBytes plain.1 plain.2 enclosed
          (isCanonical_of_fields scope plain.2 bound))
  | regex pattern options =>
      simp only [isPlain, Bool.and_eq_true, Bool.not_eq_true'] at plain
      simp only [payload, Text.sorted_eq_self plain.2]
      exact .regex plain.1.1 plain.1.2 plain.2
  | _ => apply Kind.IsCanonical.leaf <;> exact nofun
termination_by structural value

theorem isCanonical_of_fields (fields : List (String × Value)) (plain : fieldsPlain fields = true)
    (small : (fieldsBytes fields).length < Bytes.wordLimit) :
    ∀ element ∈ fields.map Element.ofField, element.kind.IsCanonical element.payload := by
  cases fields with
  | nil => exact nofun
  | cons field rest =>
      simp only [fieldsPlain, Bool.and_eq_true] at plain
      simp only [fieldsBytes, List.length_append] at small
      rw [List.map_cons, List.forall_mem_cons]
      exact ⟨isCanonical_of_field field plain.1 (by omega),
        isCanonical_of_fields rest plain.2 (by omega)⟩
termination_by structural fields

theorem isCanonical_of_field (field : String × Value) (plain : fieldPlain field = true)
    (small : (fieldBytes field).length < Bytes.wordLimit) :
    (Element.ofField field).kind.IsCanonical (Element.ofField field).payload := by
  rcases field with ⟨key, value⟩
  simp only [fieldPlain, Bool.and_eq_true] at plain
  exact isCanonical_payload value plain.2 (length_payload_of_fieldBytes small)
termination_by structural field

theorem isCanonical_of_items (index : Nat) (items : List Value) (plain : itemsPlain items = true)
    (small : (itemsBytes index items).length < Bytes.wordLimit) :
    ∀ element ∈ Element.ofItems index items, element.kind.IsCanonical element.payload := by
  cases items with
  | nil => exact nofun
  | cons value rest =>
      simp only [itemsPlain, Bool.and_eq_true] at plain
      simp only [itemsBytes, List.length_append, List.length_cons] at small
      rw [Element.ofItems, List.forall_mem_cons]
      exact ⟨isCanonical_payload value plain.1 (by omega),
        isCanonical_of_items (index + 1) rest plain.2 (by omega)⟩
termination_by structural items

end

end Value

namespace Document

variable {bytes : Bytes} {document : Document}

theorem ofPayload?_of_decode (decoded : decode bytes = .ok document) :
    Value.ofPayload? .document bytes = some (.document document) ∧
      Kind.document.IsSized bytes := by
  have read := (decode_eq_ok_iff.1 decoded).2
  simp only [decodeExact?, Option.bind_eq_some_iff] at read
  rcases read with ⟨reading, ⟨contents, found, reading_eq⟩, document_eq⟩
  refine ⟨?_, isSized_of_contents? found⟩
  rw [Value.ofPayload?_document, found, Option.bind_some, reading_eq]
  cases reading <;> cases document_eq
  rfl

theorem bytes_eq_iff_isCanonical (decoded : decode bytes = .ok document) :
    document.bytes = bytes ↔ IsCanonical bytes := by
  constructor
  · intro same
    have small : document.bytes.length < Bytes.wordLimit := same ▸ length_lt_of_decode decoded
    have plain : (Value.document document).isPlain = true := by
      rw [Value.isPlain_document]
      exact isPlain_of_decode decoded
    have canonical := Value.isCanonical_payload (.document document) plain small
    rwa [Value.payload, ← Document.bytes, same] at canonical
  · intro canonical
    rcases ofPayload?_of_decode decoded with ⟨read, sized⟩
    exact (Value.payload_of_isCanonical canonical _ read sized).2

/-- What is written of a document that survives is canonical. -/
theorem Survives.isCanonical (survives : document.Survives) : IsCanonical document.bytes :=
  (bytes_eq_iff_isCanonical survives.decode_eq).1 rfl

/--
Whatever bytes are read as a document, the document can be written. What is written is read as the
same document, and it is the bytes that were read just when these are canonical.
-/
theorem encode_of_decode (decoded : decode bytes = .ok document) :
    ∃ written, encode document = .ok written ∧
      (written.length < Bytes.wordLimit → decode written = .ok document) ∧
      (written = bytes ↔ IsCanonical bytes) := by
  have plain := isPlain_of_decode decoded
  exact ⟨document.bytes, encode_of_isPlain plain, decode_bytes plain,
    bytes_eq_iff_isCanonical decoded⟩

/-- Bytes with a repeated name, an array whose only item is named 7, and options out of order. -/
def untidy : Bytes :=
  [28, 0, 0, 0,
    0x10, 0x61, 0, 1, 0, 0, 0,
    0x04, 0x61, 0, 13, 0, 0, 0, 0x0B, 0x37, 0, 0x78, 0, 0x6D, 0x69, 0, 0,
    0]

def tidied : Document := [("a", .array [.regex "x" "im"])]

theorem decode_untidy : decode untidy = .ok tidied := by
  have number : Element.next? (untidy.drop 4) =
      some (⟨.int32, "a", [1, 0, 0, 0]⟩, untidy.drop 11) := by cbv
  have list : Element.next? (untidy.drop 11) =
      some (⟨.array, "a", (untidy.drop 14).take 13⟩, [0]) := by cbv
  have item : Element.next? [0x0B, 0x37, 0, 0x78, 0, 0x6D, 0x69, 0, 0] =
      some (⟨.regex, "7", [0x78, 0, 0x6D, 0x69, 0]⟩, [0]) := by cbv
  have number_read : Value.ofPayload? .int32 [1, 0, 0, 0] = some (.int32 1) :=
    (Value.ofPayload?_leaf _ (by decide) (by decide) (by decide)).trans (by cbv)
  have item_read : Value.ofPayload? .regex [0x78, 0, 0x6D, 0x69, 0] = some (.regex "x" "im") :=
    (Value.ofPayload?_leaf _ (by decide) (by decide) (by decide)).trans (by cbv)
  have list_read : Value.ofPayload? .array ((untidy.drop 14).take 13) =
      some (.array [.regex "x" "im"]) := by
    have inner : contents? ((untidy.drop 14).take 13) =
        some [0x0B, 0x37, 0, 0x78, 0, 0x6D, 0x69, 0, 0] := by cbv
    rw [Value.ofPayload?_array, inner, Option.bind_some, Value.readItems?_cons item, item_read,
      Option.bind_some, Value.readItems?_closing]
    rfl
  have outer : contents? untidy = some (untidy.drop 4) := by cbv
  rw [decode_eq_ok_iff, decodeExact?, outer, Option.bind_some,
    Value.readFields?_cons number (by cbv), number_read, Option.bind_some,
    Value.readFields?_cons list (by cbv), list_read, Option.bind_some, Value.readFields?_closing]
  exact ⟨by cbv, by cbv⟩

theorem encode_of_decode_untidy :
    decode untidy = .ok tidied ∧ ∃ written, encode tidied = .ok written ∧
      (written.length < Bytes.wordLimit → decode written = .ok tidied) ∧
      (written = untidy ↔ IsCanonical untidy) :=
  ⟨decode_untidy, encode_of_decode decode_untidy⟩

end Document

end DocumentProtocol
