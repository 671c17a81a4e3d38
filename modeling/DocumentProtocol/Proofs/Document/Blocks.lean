import DocumentProtocol.Document.Sequence

/-!
# Documents in a row

`Block.Row` says when some bytes are documents one after the other: they are cut into blocks, and
each block is accepted as one document. `Document.decodeAll_eq_ok_iff` says that the reader of a run
of documents accepts just these bytes, with just these documents and sizes.

The cut needs no second reading: a block that is accepted announces its own length, and the length
is seen from the first four bytes, whatever follows.
-/

namespace DocumentProtocol

theorem Except.bind_eq_ok_iff {ε α β : Type} {first : Except ε α} {second : α → Except ε β}
    {result : β} :
    (first >>= second) = .ok result ↔ ∃ value, first = .ok value ∧ second value = .ok result := by
  cases first with
  | error error => simp [bind, Except.bind]
  | ok value => simp [bind, Except.bind]

theorem Except.bind_eq_error_iff {ε α β : Type} {first : Except ε α} {second : α → Except ε β}
    {error : ε} :
    (first >>= second) = .error error ↔
      first = .error error ∨ ∃ value, first = .ok value ∧ second value = .error error := by
  cases first with
  | error found => simp [bind, Except.bind]
  | ok value => simp [bind, Except.bind]

theorem Except.map_bind {ε α β γ : Type} {first : Except ε α} {second : α → Except ε β}
    (change : β → γ) :
    (first >>= second).map change = first >>= fun value => (second value).map change := by
  cases first <;> rfl

theorem Except.map_eq_ok_iff {ε α β : Type} {first : Except ε α} {function : α → β} {result : β} :
    first.map function = .ok result ↔ ∃ value, first = .ok value ∧ function value = result := by
  cases first with
  | error error => simp [Except.map]
  | ok value => simp [Except.map]

theorem Except.mapError_eq_ok_iff {ε δ α : Type} {first : Except ε α} {function : ε → δ}
    {result : α} : first.mapError function = .ok result ↔ first = .ok result := by
  cases first with
  | error error => exact ⟨nofun, nofun⟩
  | ok value =>
      constructor <;> rintro ⟨⟩ <;> rfl

namespace Document

theorem announcedSize_eq_ok_iff {bytes : Bytes} {size : Nat} :
    announcedSize bytes = .ok size ↔
      (Bytes.toInt32 (bytes.take 4)).toInt = size ∧ minimumSize ≤ size ∧ size ≤ bytes.length := by
  unfold announcedSize Bytes.cut?
  by_cases enough : 4 ≤ bytes.length
  · simp only [enough, ↓reduceIte]
    split
    · simp only [reduceCtorEq, false_iff]
      omega
    · split
      · simp only [reduceCtorEq, false_iff]
        omega
      · simp only [Except.ok.injEq]
        omega
  · simp only [enough, ↓reduceIte, reduceCtorEq, false_iff, minimumSize]
    omega

/-- A length that is announced and reached is announced whatever follows. -/
theorem announcedSize_append {bytes : Bytes} {size : Nat}
    (announced : announcedSize bytes = .ok size) (rest : Bytes) :
    announcedSize (bytes ++ rest) = .ok size := by
  rw [announcedSize_eq_ok_iff] at announced ⊢
  rcases announced with ⟨length_eq, atLeast, atMost⟩
  simp only [minimumSize] at atLeast
  refine ⟨?_, by simpa [minimumSize] using atLeast, ?_⟩
  · rwa [List.take_append_of_le_length (by omega)]
  · rw [List.length_append]
    omega

theorem decode_eq_ok_iff {bytes : Bytes} {document : Document} :
    decode bytes = .ok document ↔
      announcedSize bytes = .ok bytes.length ∧ decodeExact? bytes = some document := by
  simp only [decode, Except.bind_eq_ok_iff]
  constructor
  · rintro ⟨size, announced, decoded⟩
    split at decoded
    · cases decoded
    · rename_i size_eq
      have size_eq : size = bytes.length := by simpa using size_eq
      refine ⟨size_eq ▸ announced, ?_⟩
      cases read : decodeExact? bytes with
      | none => simp [read, throw, throwThe, MonadExceptOf.throw] at decoded
      | some found => simpa [read, pure, Except.pure] using decoded
  · rintro ⟨announced, decoded⟩
    exact ⟨bytes.length, announced, by simp [decoded, pure, Except.pure]⟩

/-- An accepted document announces its own length. -/
theorem announcedSize_of_decode {bytes : Bytes} {document : Document}
    (decoded : decode bytes = .ok document) : announcedSize bytes = .ok bytes.length :=
  (decode_eq_ok_iff.1 decoded).1

theorem length_of_decode {bytes : Bytes} {document : Document}
    (decoded : decode bytes = .ok document) : minimumSize ≤ bytes.length :=
  (announcedSize_eq_ok (announcedSize_of_decode decoded)).1

end Document

namespace Block

/-- Some bytes are documents one after the other, each beside its size. -/
inductive Row : Bytes → List Block → Prop where
  | nil : Row [] []
  | cons {bytes rest : Bytes} {document : Document} {blocks : List Block}
      (decoded : Document.decode bytes = .ok document) (row : Row rest blocks) :
      Row (bytes ++ rest) (⟨document, bytes.length⟩ :: blocks)

theorem Row.length_le {bytes : Bytes} {blocks : List Block} (row : Row bytes blocks) :
    Document.minimumSize * blocks.length ≤ bytes.length := by
  induction row with
  | nil => simp
  | cons decoded row ih =>
      have atLeast := Document.length_of_decode decoded
      rw [List.length_cons, List.length_append, Nat.mul_succ]
      omega

end Block

namespace Document

/-- The reader of a run of documents accepts just the documents in a row. -/
theorem decodeAll_eq_ok_iff {bytes : Bytes} {blocks : List Block} :
    decodeAll bytes = .ok blocks ↔ Block.Row bytes blocks := by
  constructor
  · intro decoded
    fun_induction decodeAll bytes generalizing blocks with
    | case1 =>
        simp only [Except.ok.injEq] at decoded
        subst decoded
        exact .nil
    | case2 => cases decoded
    | case3 => cases decoded
    | case4 bytes present size announced _ document first ih =>
        rcases Except.map_eq_ok_iff.1 decoded with ⟨others, rest, rfl⟩
        have size_le := (announcedSize_eq_ok announced).2
        have row := Block.Row.cons first (ih rest)
        rwa [List.take_append_drop, List.length_take, Nat.min_eq_left size_le] at row
  · intro row
    induction row with
    | nil => simp [decodeAll]
    | @cons bytes rest document blocks decoded row ih =>
        have size := announcedSize_append (announcedSize_of_decode decoded) rest
        have present : bytes ++ rest ≠ [] := by
          have := length_of_decode decoded
          rintro empty
          simp [(List.append_eq_nil_iff.1 empty).1, minimumSize] at this
        rw [decodeAll, if_neg present]
        split
        · simp_all
        · rename_i found announced
          rw [size] at announced
          simp only [Except.ok.injEq] at announced
          subst announced
          simp [decoded, ih, Except.map]

end Document

end DocumentProtocol
