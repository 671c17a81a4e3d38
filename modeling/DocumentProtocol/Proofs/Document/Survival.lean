import DocumentProtocol.Proofs.Document.RoundTrip

/-!
# Documents that survive

A document *survives* when it can be written and its bytes are read as the document itself. The main
statement is that the documents that survive are the plain ones whose bytes fit a signed length.

One half is `Document.decode_bytes`. The other half is that the reader returns nothing but plain
documents, whatever bytes it is given: a name that it keeps is not reserved and ends where its
terminator is, a repeated name is merged into the first, and options are put in order. This is one
induction along the recursion of the reader, in which a document and the value that it may stand for
are both plain.

Survival therefore does not depend on how a document came about, and inserting a plain field keeps
it as long as the bytes still fit.
-/

namespace DocumentProtocol

theorem Text.isSorted_sorted (text : String) : Text.isSorted (Text.sorted text) = true := by
  have pairwise : (text.toList.mergeSort (· ≤ ·)).Pairwise
      fun first second => decide (first ≤ second) = true := by
    apply List.pairwise_mergeSort
    · intro first second third
      simpa using le_trans
    · intro first second
      simpa using le_total first second
  simpa [Text.isSorted, Text.sorted] using pairwise

theorem Text.holdsZero_sorted {text : String} (free : Text.holdsZero text = false) :
    Text.holdsZero (Text.sorted text) = false := by
  rw [Text.holdsZero_eq_false_iff] at free ⊢
  simpa [Text.sorted, List.mem_mergeSort] using free

namespace Value

theorem fieldsPlain_iff {fields : List (String × Value)} :
    fieldsPlain fields = true ↔ ∀ field ∈ fields, fieldPlain field = true := by
  induction fields with
  | nil => simp [fieldsPlain]
  | cons field rest ih => simp [fieldsPlain, ih]

end Value

namespace Document

theorem nodup_keys_insert {document : Document} (nodup : document.keys.Nodup) (key : String)
    (value : Value) : (document.insert key value).keys.Nodup := by
  rw [keys_insert]
  split
  · exact nodup
  · rename_i absent
    apply nodup.append (List.nodup_singleton key)
    simpa using absent

theorem mem_insert {document : Document} {key : String} {value : Value} {field : String × Value}
    (mem : field ∈ document.insert key value) : field ∈ document ∨ field = (key, value) := by
  induction document with
  | nil =>
      right
      simpa [insert] using mem
  | cons first rest ih =>
      simp only [insert] at mem
      split at mem
      · rcases List.mem_cons.1 mem with rfl | mem
        · right
          rfl
        · left
          exact List.mem_cons_of_mem _ mem
      · rcases List.mem_cons.1 mem with rfl | mem
        · left
          exact List.mem_cons_self
        · rcases ih mem with old | new
          · left
            exact List.mem_cons_of_mem _ old
          · right
            exact new

theorem isPlain_iff {document : Document} :
    document.isPlain = true ↔
      document.keys.Nodup ∧ ∀ field ∈ document, Value.fieldPlain field = true := by
  simp only [isPlain, areDistinct, Bool.and_eq_true, decide_eq_true_eq, Value.fieldsPlain_iff]
  rfl

/-- Inserting a plain field keeps a document plain, also where it replaces a value. -/
theorem isPlain_insert {document : Document} {key : String} {value : Value}
    (plain : document.isPlain = true) (field : Value.fieldPlain (key, value) = true) :
    (document.insert key value).isPlain = true := by
  rw [isPlain_iff] at plain ⊢
  refine ⟨nodup_keys_insert plain.1 key value, ?_⟩
  intro other mem
  rcases mem_insert mem with old | rfl
  · exact plain.2 other old
  · exact field

theorem isPlain_insertAll {document : Document} {fields : List (String × Value)}
    (plain : document.isPlain = true) (others : Value.fieldsPlain fields = true) :
    (document.insertAll fields).isPlain = true := by
  induction fields generalizing document with
  | nil => exact plain
  | cons field fields ih =>
      simp only [Value.fieldsPlain, Bool.and_eq_true] at others
      exact ih (isPlain_insert plain others.1) others.2

theorem isPlain_ofFields {fields : List (String × Value)}
    (plain : Value.fieldsPlain fields = true) : (ofFields fields).isPlain = true :=
  isPlain_insertAll rfl plain

end Document

/-! ### What the reader returns -/

namespace Value

open Document

theorem isPlain_document {document : Document} :
    (Value.document document).isPlain = document.isPlain := by
  simp only [isPlain, Document.isPlain]

theorem isPlain_codeWithScope {source : String} {scope : Document} :
    (Value.codeWithScope source scope).isPlain = scope.isPlain := by
  simp only [isPlain, Document.isPlain]

theorem isPlain_of_document? {value : Value} {document : Document} (plain : value.isPlain = true)
    (found : value.document? = some document) : document.isPlain = true := by
  cases value <;> simp only [document?, reduceCtorEq, Option.some.injEq] at found
  subst found
  rwa [isPlain_document] at plain

theorem isPlain_of_standIn? {key : ExtendedKey} {value standIn : Value}
    (found : key.standIn? value = some standIn) : standIn.isPlain = true := by
  unfold ExtendedKey.standIn? at found
  split at found
  case h_1 | h_3 | h_4 | h_5 =>
    rcases Option.map_eq_some_iff.1 found with ⟨_, _, rfl⟩
    rfl
  case h_6 | h_7 =>
    split at found <;> cases found
    rfl
  all_goals
    cases found
    try rfl

theorem isPlain_of_binary? {payload : Bytes} {value : Value}
    (read : binary? payload = some value) : value.isPlain = true := by
  unfold binary? at read
  split at read
  · cases read
  · split at read
    · simp only [Option.bind_eq_some_iff, Option.ite_none_right_eq_some, Option.some.injEq] at read
      rcases read with ⟨_, _, _, rfl⟩
      rfl
    · cases read
      rfl

theorem isPlain_of_regex? {payload : Bytes} {value : Value}
    (read : regex? payload = some value) : value.isPlain = true := by
  unfold regex? at read
  split at read
  · rename_i pattern rest first
    split at read
    · rename_i options second
      cases read
      have patternFree := (Text.readTerminated_eq_ok first).2
      have optionsFree := Text.holdsZero_sorted (Text.readTerminated_eq_ok second).2
      simp [isPlain, patternFree, optionsFree, Text.isSorted_sorted]
    · cases read
  · cases read

theorem isPlain_of_leaf? {kind : Kind} {payload : Bytes} {value : Value}
    (read : leaf? kind payload = some value) : value.isPlain = true := by
  cases kind with
  | binary => exact isPlain_of_binary? read
  | regex => exact isPlain_of_regex? read
  | boolean =>
      simp only [leaf?] at read
      unfold boolean? at read
      split at read <;> cases read <;> rfl
  | dbPointer =>
      simp only [leaf?, dbPointer?, Option.bind_eq_some_iff, Option.map_eq_some_iff] at read
      rcases read with ⟨_, _, _, _, _, _, rfl⟩
      rfl
  | string | objectId | code | symbol | decimal128 =>
      simp only [leaf?, Option.map_eq_some_iff] at read
      rcases read with ⟨_, _, rfl⟩
      rfl
  | document | array | codeWithScope => cases read
  | _ =>
      simp only [leaf?, Option.some.injEq] at read
      subst read
      rfl

end Value

/-- Whether what the elements of a document come to is plain. -/
def Document.Reading.IsPlain : Document.Reading → Prop
  | .fields read => Value.fieldsPlain read = true
  | .standIn value => value.isPlain = true

namespace Document.Reading

theorem IsPlain.toValue {reading : Reading} (plain : reading.IsPlain) :
    reading.toValue.isPlain = true := by
  cases reading with
  | fields read =>
      rw [Reading.toValue, Value.isPlain_document]
      exact isPlain_ofFields plain
  | standIn value => exact plain

theorem IsPlain.document? {reading : Reading} {document : Document} (plain : reading.IsPlain)
    (found : reading.document? = some document) : document.isPlain = true := by
  cases reading with
  | fields read =>
      simp only [Reading.document?, Option.some.injEq] at found
      subst found
      exact isPlain_ofFields plain
  | standIn value => cases found

theorem IsPlain.cons {key : String} {value : Value} {reading : Reading}
    (plain : reading.IsPlain) (field : Value.fieldPlain (key, value) = true) :
    (Reading.cons key value reading).IsPlain := by
  cases reading with
  | fields read =>
      change Value.fieldsPlain ((key, value) :: read) = true
      simp only [Value.fieldsPlain, Bool.and_eq_true]
      exact ⟨field, plain⟩
  | standIn value => exact plain

end Document.Reading

theorem Element.holdsZero_key {contents rest : Bytes} {element : Element}
    (next : Element.next? contents = some (element, rest)) :
    Text.holdsZero element.key = false := by
  cases contents with
  | nil => cases next
  | cons tag bytes =>
      simp only [Element.next?] at next
      split at next
      · rename_i kind key after _ read
        split at next
        · simp only [Option.map_eq_some_iff, Prod.mk.injEq] at next
          rcases next with ⟨_, _, rfl, _⟩
          exact (Text.readTerminated_eq_ok read).2
        · cases next
      · cases next

namespace Value

open Document

theorem readItems?_eq {contents : Bytes} (notLast : contents ≠ [0]) :
    readItems? contents = (Element.next? contents).bind fun (element, rest) =>
      (ofPayload? element.kind element.payload).bind fun value =>
        (readItems? rest).map (value :: ·) := by
  rw [readItems?, if_neg notLast]
  split
  · rename_i missing
    simp only [missing, Option.bind_none]
  · rename_i next
    simp only [next, Option.bind_some]

/-- Code that is followed by its scope, as a reserved name in front of a rest says. -/
def codeBefore? (source : String) (rest : Bytes) : Option Reading :=
  (Element.next? rest).bind fun (second, _) =>
    if second.key = "$scope" then
      ((ofPayload? second.kind second.payload).bind document?).map fun scope =>
        .standIn (.codeWithScope source scope)
    else none

def scopeBefore? (scope : Document) (rest : Bytes) : Option Reading :=
  (Element.next? rest).bind fun (second, _) =>
    if second.key = "$code" then
      ((ofPayload? second.kind second.payload).bind text?).map fun source =>
        .standIn (.codeWithScope source scope)
    else none

theorem readFields?_eq {contents : Bytes} (notLast : contents ≠ [0]) :
    readFields? contents = (Element.next? contents).bind fun (element, rest) =>
      (ofPayload? element.kind element.payload).bind fun value =>
        match ExtendedKey.ofName? element.key with
        | none => (readFields? rest).map (Reading.cons element.key value)
        | some .code => value.text?.bind fun source =>
            if rest = [0] then some (.standIn (.code source)) else codeBefore? source rest
        | some .scope => value.document?.bind fun scope => scopeBefore? scope rest
        | some key => (key.standIn? value).map .standIn := by
  rw [readFields?, if_neg notLast]
  split
  · rename_i missing
    simp only [missing, Option.bind_none]
  · rename_i element rest next
    simp only [next, Option.bind_some]
    cases ofPayload? element.kind element.payload with
    | none => split <;> rfl
    | some value =>
        simp only [Option.bind_some]
        cases ExtendedKey.ofName? element.key with
        | none => rfl
        | some key =>
            cases key with
            | code =>
                change value.text?.bind _ = value.text?.bind _
                congr 1
                funext source
                simp only [codeBefore?]
                split
                · rfl
                · split
                  · rename_i missing
                    simp only [missing, Option.bind_none]
                  · rename_i followed
                    simp only [followed, Option.bind_some]
            | scope =>
                change value.document?.bind _ = value.document?.bind _
                congr 1
                funext scope
                simp only [scopeBefore?]
                split
                · rename_i missing
                  simp only [missing, Option.bind_none]
                · rename_i followed
                  simp only [followed, Option.bind_some]
            | _ => rfl

/--
What each step of the reader keeps holds of whatever the reader returns: of a value, of the items of
an array, and of what the elements of a document come to.
-/
theorem reading_induction {ofValue : Kind → Bytes → Value → Prop}
    {ofItems : Bytes → List Value → Prop} {ofFields : Bytes → Reading → Prop}
    (leaf : ∀ {kind payload value}, leaf? kind payload = some value →
      ofValue kind payload value)
    (document : ∀ {payload contents reading}, contents? payload = some contents →
      ofFields contents reading → ofValue .document payload reading.toValue)
    (array : ∀ {payload contents items}, contents? payload = some contents →
      ofItems contents items → ofValue .array payload (.array items))
    (codeWithScope : ∀ {payload source scope contents reading document},
      scoped? payload = some (source, scope) → contents? scope = some contents →
        ofFields contents reading → reading.document? = some document →
          ofValue .codeWithScope payload (.codeWithScope source document))
    (noItem : ofItems [0] [])
    (item : ∀ {contents rest element value items},
      Element.next? contents = some (element, rest) →
        ofValue element.kind element.payload value → ofItems rest items →
          ofItems contents (value :: items))
    (noField : ofFields [0] (.fields []))
    (field : ∀ {contents rest element value reading},
      Element.next? contents = some (element, rest) → ExtendedKey.ofName? element.key = none →
        ofValue element.kind element.payload value → ofFields rest reading →
          ofFields contents (.cons element.key value reading))
    (code : ∀ {contents element value source}, Element.next? contents = some (element, [0]) →
      ofValue element.kind element.payload value → value.text? = some source →
        ofFields contents (.standIn (.code source)))
    (codeThenScope : ∀ {contents rest after element second value scopeValue source scope},
      Element.next? contents = some (element, rest) →
        Element.next? rest = some (second, after) →
          ofValue element.kind element.payload value → value.text? = some source →
            ofValue second.kind second.payload scopeValue → scopeValue.document? = some scope →
              ofFields contents (.standIn (.codeWithScope source scope)))
    (scopeThenCode : ∀ {contents rest after element second value codeValue source scope},
      Element.next? contents = some (element, rest) →
        Element.next? rest = some (second, after) →
          ofValue element.kind element.payload value → value.document? = some scope →
            ofValue second.kind second.payload codeValue → codeValue.text? = some source →
              ofFields contents (.standIn (.codeWithScope source scope)))
    (standIn : ∀ {contents rest element key value standIn},
      Element.next? contents = some (element, rest) →
        ExtendedKey.ofName? element.key = some key →
          ofValue element.kind element.payload value → key.standIn? value = some standIn →
            ofFields contents (.standIn standIn)) :
    (∀ kind payload value, ofPayload? kind payload = some value → ofValue kind payload value) ∧
      (∀ contents items, readItems? contents = some items → ofItems contents items) ∧
      ∀ contents reading, readFields? contents = some reading → ofFields contents reading := by
  apply ofPayload?.mutual_induct
  -- The cases are numbered as the reader branches; where it fails there is nothing to show.
  case case1 =>
    intro payload missing value read
    simp [ofPayload?_document, missing] at read
  case case2 =>
    intro payload contents found _ ih value read
    rw [ofPayload?_document, found, Option.bind_some] at read
    rcases Option.map_eq_some_iff.1 read with ⟨reading, fields, rfl⟩
    exact document found (ih reading fields)
  case case3 =>
    intro payload missing value read
    simp [ofPayload?_array, missing] at read
  case case4 =>
    intro payload contents found _ ih value read
    rw [ofPayload?_array, found, Option.bind_some] at read
    rcases Option.map_eq_some_iff.1 read with ⟨items, inside, rfl⟩
    exact array found (ih items inside)
  case case5 =>
    intro payload missing value read
    simp [ofPayload?_codeWithScope, missing] at read
  case case6 =>
    intro payload source scope found _ missing value read
    simp [ofPayload?_codeWithScope, found, missing] at read
  case case7 =>
    intro payload source scope found _ contents inside _ ih value read
    simp only [ofPayload?_codeWithScope, found, inside, Option.bind_some, Option.map_eq_some_iff,
      Option.bind_eq_some_iff] at read
    rcases read with ⟨document, ⟨reading, fields, document_eq⟩, rfl⟩
    exact codeWithScope found inside (ih reading fields) document_eq
  case case8 =>
    intro payload kind notDocument notArray notScoped value read
    rw [ofPayload?] at read
    · exact leaf read
    all_goals assumption
  case case9 =>
    intro items read
    simp only [readItems?, ↓reduceIte, Option.some.injEq] at read
    subst read
    exact noItem
  case case10 =>
    intro contents notLast missing items read
    simp [readItems?_eq notLast, missing] at read
  case case11 =>
    intro contents notLast element rest next _ first others items read
    simp only [readItems?_eq notLast, next, Option.bind_some, Option.bind_eq_some_iff,
      Option.map_eq_some_iff] at read
    rcases read with ⟨value, value_eq, items, items_eq, rfl⟩
    exact item next (first value value_eq) (others items items_eq)
  case case12 =>
    intro reading read
    simp only [readFields?, ↓reduceIte, Option.some.injEq] at read
    subst read
    exact noField
  case case13 =>
    intro contents notLast missing reading read
    simp [readFields?_eq notLast, missing] at read
  case case14 =>
    intro contents notLast element rest next _ ordinary first others reading read
    simp only [readFields?_eq notLast, next, ordinary, Option.bind_some, Option.bind_eq_some_iff,
      Option.map_eq_some_iff] at read
    rcases read with ⟨value, value_eq, rest, rest_eq, rfl⟩
    exact field next ordinary (first value value_eq) (others rest rest_eq)
  case case15 =>
    intro contents notLast element rest next _ reserved first others reading read
    simp only [readFields?_eq notLast, next, reserved, Option.bind_some, Option.bind_eq_some_iff]
      at read
    rcases read with ⟨value, value_eq, source, source_eq, read⟩
    split at read
    · rename_i last
      subst last
      cases read
      exact code next (first value value_eq) source_eq
    · simp only [codeBefore?, Option.bind_eq_some_iff, Option.ite_none_right_eq_some,
        Option.map_eq_some_iff, Prod.exists] at read
      rcases read with ⟨second, after, followed, _, scope, ⟨found, found_eq, scope_eq⟩, rfl⟩
      exact codeThenScope next followed (first value value_eq) source_eq
        (others second after followed found found_eq) scope_eq
  case case16 =>
    intro contents notLast element rest next _ reserved first others reading read
    simp only [readFields?_eq notLast, next, reserved, Option.bind_some, Option.bind_eq_some_iff]
      at read
    rcases read with ⟨value, value_eq, scope, scope_eq, read⟩
    simp only [scopeBefore?, Option.bind_eq_some_iff, Option.ite_none_right_eq_some,
      Option.map_eq_some_iff, Prod.exists] at read
    rcases read with ⟨second, after, followed, _, source, ⟨found, found_eq, source_eq⟩, rfl⟩
    exact scopeThenCode next followed (first value value_eq) scope_eq
      (others second after followed found found_eq) source_eq
  case case17 =>
    intro contents notLast element rest next _ key notCode notScope reserved first reading read
    simp only [readFields?_eq notLast, next, reserved, Option.bind_some, Option.bind_eq_some_iff]
      at read
    rcases read with ⟨value, value_eq, read⟩
    rcases Option.map_eq_some_iff.1 read with ⟨_, standIn_eq, rfl⟩
    exact standIn next reserved (first value value_eq) standIn_eq

/--
Whatever the reader returns is plain: a value, the items of an array, and what the elements of a
document come to.
-/
theorem isPlain_of_reading :
    (∀ kind payload value, ofPayload? kind payload = some value → value.isPlain = true) ∧
      (∀ contents items, readItems? contents = some items → itemsPlain items = true) ∧
      ∀ contents reading, readFields? contents = some reading → reading.IsPlain := by
  apply reading_induction
  case leaf =>
    intro kind payload value read
    exact isPlain_of_leaf? read
  case document =>
    intro payload contents reading _ plain
    exact plain.toValue
  case array =>
    intro payload contents items _ plain
    simpa only [isPlain] using plain
  case codeWithScope =>
    intro payload source scope contents reading document _ _ plain document_eq
    rw [isPlain_codeWithScope]
    exact plain.document? document_eq
  case noItem => rfl
  case item =>
    intro contents rest element value items _ first others
    simp only [itemsPlain, Bool.and_eq_true]
    exact ⟨first, others⟩
  case noField => rfl
  case field =>
    intro contents rest element value reading next ordinary first others
    apply others.cons
    simp only [fieldPlain, isPlainKey, Element.holdsZero_key next, ordinary, first]
    rfl
  case code =>
    intros
    rfl
  case codeThenScope =>
    intro _ _ _ _ _ _ _ source scope _ _ _ _ plain scope_eq
    change (codeWithScope source scope).isPlain = true
    rw [isPlain_codeWithScope]
    exact isPlain_of_document? plain scope_eq
  case scopeThenCode =>
    intro _ _ _ _ _ _ _ source scope _ _ plain scope_eq _ _
    change (codeWithScope source scope).isPlain = true
    rw [isPlain_codeWithScope]
    exact isPlain_of_document? plain scope_eq
  case standIn =>
    intro contents rest element key value standIn _ _ _ standIn_eq
    exact isPlain_of_standIn? standIn_eq

end Value

namespace Document

theorem isPlain_of_decode {bytes : Bytes} {document : Document}
    (decoded : decode bytes = .ok document) : document.isPlain = true := by
  have read := (decode_eq_ok_iff.1 decoded).2
  simp only [decodeExact?, Option.bind_eq_some_iff] at read
  rcases read with ⟨reading, ⟨contents, _, fields⟩, document_eq⟩
  exact (Value.isPlain_of_reading.2.2 contents reading fields).document? document_eq

/-! ### Surviving -/

/-- Whether a document can be written and its bytes are read as the document. -/
def Survives (document : Document) : Prop :=
  ∃ bytes, encode document = .ok bytes ∧ decode bytes = .ok document

theorem eq_bytes_of_encode {document : Document} {bytes : Bytes}
    (written : encode document = .ok bytes) : bytes = document.bytes := by
  simp only [encode, encode?] at written
  split at written
  · rename_i found
    split at found <;> cases found
    cases written
    rfl
  · cases written

theorem length_lt_of_decode {bytes : Bytes} {document : Document}
    (decoded : decode bytes = .ok document) : bytes.length < Bytes.wordLimit := by
  have announced := (announcedSize_eq_ok_iff.1 (announcedSize_of_decode decoded)).1
  have bound := (Bytes.toInt32 (bytes.take 4)).toInt_lt
  simp only [Bytes.wordLimit]
  omega

/-- The plain documents that fit a signed length survive, and no others. -/
theorem survives_iff {document : Document} :
    document.Survives ↔ document.isPlain = true ∧ document.bytes.length < Bytes.wordLimit := by
  constructor
  · rintro ⟨bytes, written, read⟩
    rw [← eq_bytes_of_encode written]
    exact ⟨isPlain_of_decode read, length_lt_of_decode read⟩
  · rintro ⟨plain, small⟩
    exact ⟨document.bytes, encode_of_isPlain plain, decode_bytes plain small⟩

instance (document : Document) : Decidable document.Survives :=
  decidable_of_iff _ survives_iff.symm

namespace Survives

variable {document : Document}

theorem encode_eq (survives : document.Survives) : encode document = .ok document.bytes :=
  encode_of_isPlain (survives_iff.1 survives).1

theorem decode_eq (survives : document.Survives) : decode document.bytes = .ok document :=
  decode_bytes (survives_iff.1 survives).1 (survives_iff.1 survives).2

theorem nodup_keys (survives : document.Survives) : document.keys.Nodup :=
  (isPlain_iff.1 (survives_iff.1 survives).1).1

/-- Reading the fields of a document one by one gives the document. -/
theorem insertAll_eq (survives : document.Survives) : insertAll [] document = document :=
  ofFields_of_nodup survives.nodup_keys

theorem insert {key : String} {value : Value} (survives : document.Survives)
    (field : Value.fieldPlain (key, value) = true)
    (small : (document.insert key value).bytes.length < Bytes.wordLimit) :
    (document.insert key value).Survives :=
  survives_iff.2 ⟨isPlain_insert (survives_iff.1 survives).1 field, small⟩

end Survives

/-! ### In a row -/

def block (document : Document) : Block := ⟨document, document.bytes.length⟩

def rowBytes (documents : List Document) : Bytes := documents.flatMap bytes

theorem documents_map_block (documents : List Document) :
    Block.documents (documents.map block) = documents := by
  rw [Block.documents, List.map_map]
  exact List.map_id documents

variable {documents : List Document}

theorem encodeAll_of_survives (survive : ∀ document ∈ documents, document.Survives) :
    encodeAll documents = .ok (rowBytes documents) := by
  induction documents with
  | nil => rfl
  | cons first others ih =>
      have written := (survive first (by simp)).encode_eq
      have rest := ih fun document mem => survive document (by simp [mem])
      simp [encodeAll, written, rest, rowBytes, bind, Except.bind, pure, Except.pure]

/-- The bytes of documents that survive are read as these documents in a row. -/
theorem row_of_survives (survive : ∀ document ∈ documents, document.Survives) :
    Block.Row (rowBytes documents) (documents.map block) := by
  induction documents with
  | nil => exact .nil
  | cons first others ih =>
      have read := (survive first (by simp)).decode_eq
      have rest := ih fun document mem => survive document (by simp [mem])
      rw [rowBytes, List.flatMap_cons]
      exact .cons read rest

end Document

end DocumentProtocol
