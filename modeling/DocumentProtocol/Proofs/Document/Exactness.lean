import DocumentProtocol.Proofs.Document.Survival

/-!
# Payloads are written as they were read

The other direction of `Payload`: where the reader accepts some bytes, what can be written of the
value it returns. A length in front of accepted bytes is the one that the writer would put there,
so that texts, enclosed documents and code with its scope are put together again from their parts,
and of the values that hold no other value only a regular expression can differ from its bytes, in
the order of its options. `Element.next?_eq_some` says the same of an element that is cut off the
contents of a document.

For the kinds of a fixed size, and for binary data, the reader of the payload does not look at the
length again; `Kind.IsSized` keeps what cutting the element off has established about it.
-/

namespace DocumentProtocol

/-! ### Lengths in front -/

namespace Kind

theorem tag_of_ofTag? {byte : UInt8} {kind : Kind} (found : ofTag? byte = some kind) :
    kind.tag = byte := by
  unfold ofTag? at found
  iterate 21
    rcases ite_eq_iff.1 found with ⟨same, kind_eq⟩ | ⟨_, found⟩
    · cases kind_eq
      exact same.symm
  cases found

/-- A length that is announced stands in the first four bytes and reaches the minimum. -/
theorem announcedLength?_eq_some {minimum length : Nat} {bytes : Bytes}
    (announced : announcedLength? minimum bytes = some length) :
    minimum ≤ length ∧ 4 ≤ bytes.length ∧
      bytes.take 4 = Bytes.ofInt32 (Int32.ofNat length) := by
  simp only [announcedLength?, Option.bind_eq_some_iff, Prod.exists] at announced
  rcases announced with ⟨front, rest, cut, found⟩
  rcases Bytes.cut?_eq_some cut with ⟨rfl, four⟩
  split at found
  · rename_i atLeast
    cases found
    have bound := (Bytes.toInt32 front).toInt_lt
    have number_eq : Int32.ofNat (Bytes.toInt32 front).toInt.toNat = Bytes.toInt32 front := by
      apply Int32.toInt_inj.1
      rw [Bytes.toInt_ofNat (by simp only [Bytes.wordLimit]; omega)]
      omega
    refine ⟨by omega, ?_, ?_⟩
    · rw [List.length_append]
      omega
    · rw [number_eq, List.take_left' four, Bytes.ofInt32_toInt32 four]
  · cases found

theorem take_four_of_announcedLength? {minimum length : Nat} {payload rest : Bytes}
    (enough : 4 ≤ payload.length)
    (announced : announcedLength? minimum (payload ++ rest) = some length) :
    payload.take 4 = Bytes.ofInt32 (Int32.ofNat length) := by
  rw [← (announcedLength?_eq_some announced).2.2, List.take_append_of_le_length enough]

/-- Whether a payload is as long as the bytes that begin with it say. -/
def IsSized (kind : Kind) (payload : Bytes) : Prop :=
  ∃ rest, kind.extent? (payload ++ rest) = some payload.length

end Kind

theorem FixedBytes.bytes_of_ofBytes? {size : Nat} {bytes : Bytes} {fixed : FixedBytes size}
    (found : ofBytes? size bytes = some fixed) : fixed.bytes = bytes := by
  unfold ofBytes? at found
  split at found <;> cases found
  rfl

namespace Document

open Kind

theorem textPayload_of_text? {payload : Bytes} {text : String} (read : text? payload = some text) :
    textPayload text = payload := by
  simp only [text?, Option.bind_eq_some_iff, Option.ite_none_right_eq_some] at read
  rcases read with ⟨length, announced, ⟨length_eq, closed⟩, decoded⟩
  rcases announcedLength?_eq_some announced with ⟨positive, enough, front⟩
  have encoded := Text.encode_of_decode? decoded
  have nonempty : payload.drop 4 ≠ [] := by
    intro empty
    have := congrArg List.length empty
    simp only [List.length_drop, List.length_nil] at this
    omega
  have closing : (payload.drop 4).dropLast ++ [0] = payload.drop 4 := by
    apply List.dropLast_append_getLast?
    rw [Option.mem_def, List.getLast?_drop, if_neg (by omega), closed]
  have size : (Text.encode text).length + 1 = length := by
    rw [encoded, List.length_dropLast, List.length_drop]
    omega
  rw [textPayload, Text.terminated, size, encoded, closing, ← front, List.take_append_drop]

theorem enclose_of_contents? {payload contents inner : Bytes}
    (found : contents? payload = some contents) (contents_eq : contents = inner ++ [0]) :
    enclose inner = payload := by
  simp only [contents?, Option.bind_eq_some_iff, Option.ite_none_right_eq_some,
    Option.some.injEq] at found
  rcases found with ⟨length, announced, ⟨length_eq, _⟩, rest_eq⟩
  rcases announcedLength?_eq_some announced with ⟨_, enough, front⟩
  rw [contents_eq] at rest_eq
  have size : inner.length + 5 = length := by
    have := congrArg List.length rest_eq
    rw [List.length_drop, List.length_append, List.length_singleton] at this
    omega
  rw [enclose, size, ← front, List.append_assoc, ← rest_eq, List.take_append_drop]

theorem isSized_of_contents? {payload contents : Bytes}
    (found : contents? payload = some contents) : Kind.document.IsSized payload := by
  simp only [contents?, Option.bind_eq_some_iff, Option.ite_none_right_eq_some] at found
  rcases found with ⟨length, announced, ⟨rfl, _⟩, _⟩
  refine ⟨[], ?_⟩
  rwa [List.append_nil]

theorem scopedPayload_of_scoped? {payload scope : Bytes} {source : String}
    (parts : scoped? payload = some (source, scope)) (sized : Kind.codeWithScope.IsSized payload) :
    scopedPayload source scope = payload := by
  rcases sized with ⟨rest, announced⟩
  have atLeast := (announcedLength?_eq_some announced).1
  have front := take_four_of_announcedLength? (by omega) announced
  simp only [scoped?, Option.bind_eq_some_iff, Option.map_eq_some_iff, Prod.mk.injEq,
    Prod.exists] at parts
  rcases parts with ⟨_, _, name, after, cut, text, found, rfl, rfl⟩
  have inner : textPayload text ++ after = payload.drop 4 := by
    rw [textPayload_of_text? found]
    exact (Bytes.cut?_eq_some cut).1.symm
  have size : (payload.drop 4).length + 4 = payload.length := by
    rw [List.length_drop]
    omega
  rw [scopedPayload, inner, size, ← front, List.take_append_drop]

/-! ### Values that hold no other value -/

theorem payload_of_binary? {payload : Bytes} {value : Value} (read : binary? payload = some value)
    (sized : Kind.binary.IsSized payload) : value.kind = .binary ∧ value.payload = payload := by
  rcases sized with ⟨rest, extent⟩
  simp only [extent?, Option.map_eq_some_iff] at extent
  rcases extent with ⟨length, announced, length_eq⟩
  have front := take_four_of_announcedLength? (by omega) announced
  have inner_length : (payload.drop 4).length = length + 1 := by
    rw [List.length_drop]
    omega
  unfold binary? at read
  split at read
  · cases read
  · rename_i subtype data inner_eq
    rw [inner_eq, List.length_cons] at inner_length
    have whole : Bytes.ofInt32 (Int32.ofNat data.length) ++ subtype :: data = payload := by
      rw [← inner_eq, ← List.take_append_drop 4 payload, front]
      simp only [List.drop_left' (Bytes.length_ofInt32 _)]
      congr 3
      omega
    split at read
    · rename_i old
      simp only [Option.bind_eq_some_iff, Option.ite_none_right_eq_some, Option.some.injEq] at read
      rcases read with ⟨size, repeated, size_eq, rfl⟩
      refine ⟨rfl, ?_⟩
      have again := (announcedLength?_eq_some repeated).2.2
      have tail_length : (data.drop 4).length = size := by
        rw [List.length_drop]
        omega
      rw [Value.payload, binaryPayload, if_pos old, tail_length, ← again, List.take_append_drop,
        whole]
    · rename_i plain
      cases read
      refine ⟨rfl, ?_⟩
      rw [Value.payload, binaryPayload, if_neg plain, whole]

theorem payload_of_dbPointer? {payload : Bytes} {value : Value}
    (read : dbPointer? payload = some value) :
    value.kind = .dbPointer ∧ value.payload = payload := by
  simp only [dbPointer?, Option.bind_eq_some_iff, Option.map_eq_some_iff, Prod.exists] at read
  rcases read with ⟨name, id, cut, collection, text, found, found_eq, rfl⟩
  refine ⟨rfl, ?_⟩
  rw [Value.payload, textPayload_of_text? text, FixedBytes.bytes_of_ofBytes? found_eq]
  exact (Bytes.cut?_eq_some cut).1.symm

theorem payload_of_boolean? {payload : Bytes} {value : Value}
    (read : boolean? payload = some value) : value.kind = .boolean ∧ value.payload = payload := by
  unfold boolean? at read
  split at read <;> cases read <;> exact ⟨rfl, rfl⟩

/-- Of what holds no other value only a regular expression is not written as it was read. -/
theorem payload_of_leaf? {kind : Kind} {payload : Bytes} {value : Value}
    (read : leaf? kind payload = some value) (notRegex : kind ≠ .regex)
    (sized : kind.IsSized payload) : value.kind = kind ∧ value.payload = payload := by
  cases kind with
  | binary => exact payload_of_binary? read sized
  | dbPointer => exact payload_of_dbPointer? read
  | boolean => exact payload_of_boolean? read
  | regex => exact absurd rfl notRegex
  | document | array | codeWithScope => cases read
  | string | code | symbol =>
      simp only [leaf?, Option.map_eq_some_iff] at read
      rcases read with ⟨text, found, rfl⟩
      exact ⟨rfl, textPayload_of_text? found⟩
  | objectId | decimal128 =>
      simp only [leaf?, Option.map_eq_some_iff] at read
      rcases read with ⟨fixed, found, rfl⟩
      exact ⟨rfl, FixedBytes.bytes_of_ofBytes? found⟩
  | undefined | null | minKey | maxKey =>
      rcases sized with ⟨_, extent⟩
      simp only [extent?, Option.some.injEq] at extent
      cases read
      exact ⟨rfl, (List.length_eq_zero_iff.1 extent.symm).symm⟩
  | double =>
      rcases sized with ⟨_, extent⟩
      simp only [extent?, Option.some.injEq] at extent
      cases read
      exact ⟨rfl, Bytes.ofUInt64_toUInt64 extent.symm⟩
  | dateTime | int64 =>
      rcases sized with ⟨_, extent⟩
      simp only [extent?, Option.some.injEq] at extent
      cases read
      exact ⟨rfl, Bytes.ofInt64_toInt64 extent.symm⟩
  | int32 =>
      rcases sized with ⟨_, extent⟩
      simp only [extent?, Option.some.injEq] at extent
      cases read
      exact ⟨rfl, Bytes.ofInt32_toInt32 extent.symm⟩
  | timestamp =>
      rcases sized with ⟨_, extent⟩
      simp only [extent?, Option.some.injEq] at extent
      cases read
      refine ⟨rfl, ?_⟩
      rw [Value.payload, Bytes.ofUInt32_toUInt32 (by simp; omega),
        Bytes.ofUInt32_toUInt32 (by simp; omega), List.take_append_drop]

end Document

/-! ### Elements -/

namespace Element

/-- What is cut off is the bytes of an element, whose payload is as long as it says. -/
theorem next?_eq_some {contents rest : Bytes} {element : Element}
    (next : next? contents = some (element, rest)) :
    contents = element.bytes ++ rest ∧ element.kind.IsSized element.payload := by
  cases contents with
  | nil => cases next
  | cons tag bytes =>
      simp only [next?] at next
      split at next
      · rename_i kind key after kind_eq read
        split at next
        · rename_i size extent
          simp only [Option.map_eq_some_iff, Prod.mk.injEq, Prod.exists] at next
          rcases next with ⟨payload, tail, cut, rfl, rfl⟩
          rcases Bytes.cut?_eq_some cut with ⟨after_eq, size_eq⟩
          rw [after_eq] at extent
          refine ⟨?_, tail, size_eq ▸ extent⟩
          rw [Element.bytes, Kind.tag_of_ofTag? kind_eq, (Text.readTerminated_eq_ok read).1,
            after_eq, List.cons_append, List.append_assoc]
        · cases next
      · cases next

theorem ne_closing_of_next? {contents rest : Bytes} {element : Element}
    (next : next? contents = some (element, rest)) : contents ≠ [0] := by
  rw [(next?_eq_some next).1]
  intro equal
  have length := congrArg List.length equal
  simp only [Element.bytes, List.length_append, List.length_cons, Text.length_terminated,
    List.length_nil] at length
  omega

end Element

end DocumentProtocol
