import DocumentProtocol.Proofs.Document.Insertion
import DocumentProtocol.Proofs.Document.Number
import DocumentProtocol.Responder.Builtin

/-!
# Truth and numbers

A client is free to write a number in any of the numeric kinds, so whether a field counts as true
should not depend on the kind. Three of the kinds are looked at for a zero. Decimal128 numbers are
not: each of them counts as true, the zeros among them too.

The main statement is that truth goes by the number otherwise, and so does the responder that a
query is routed to: two numbers that are equal can stand for each other at any place of a query,
unless just one of them is a decimal128 zero and stands where the truth of a field is asked for.
-/

namespace DocumentProtocol

namespace Value

variable {value old new before after : Value} {number : Number}

/-- In a numeric kind, what counts as false is zero; decimal128 numbers never count as false. -/
theorem isTruthy_eq_false_iff (numeric : value.kind.isNumeric = true) :
    value.isTruthy = false ↔ value.number? = some 0 ∧ value.kind ≠ .decimal128 := by
  cases value with
  | int32 word =>
      simp [isTruthy, number?, kind, Number.zero_eq, ← Int32.toInt_inj]
  | int64 word =>
      simp [isTruthy, number?, kind, Number.zero_eq, ← Int64.toInt_inj]
  | double bits =>
      simp [isTruthy, number?, kind, Binary64.number?_eq_zero_iff]
  | decimal128 digits => simp [isTruthy, kind]
  | _ => cases numeric

theorem isTruthy_eq_false_iff_of_number? (number_eq : value.number? = some number) :
    value.isTruthy = false ↔ number = 0 ∧ value.kind ≠ .decimal128 := by
  rw [isTruthy_eq_false_iff (isNumeric_of_number? number_eq), number_eq, Option.some.injEq]

theorem isTruthy_eq_iff (old_eq : old.number? = some number) (new_eq : new.number? = some number) :
    old.isTruthy = new.isTruthy ↔ (old.IsDecimalZero ↔ new.IsDecimalZero) := by
  have same_iff : old.isTruthy = new.isTruthy ↔
      (old.isTruthy = false ↔ new.isTruthy = false) := by
    cases old.isTruthy <;> cases new.isTruthy <;> decide
  rw [same_iff, isTruthy_eq_false_iff_of_number? old_eq, isTruthy_eq_false_iff_of_number? new_eq,
    IsDecimalZero, IsDecimalZero, old_eq, new_eq, Option.some.injEq]
  by_cases zero : number = 0
  · simp only [zero, true_and, and_true]
    exact not_iff_not
  · simp only [zero, false_and, and_false]

/-- A value in which one value has been put in place of another at one place, at any depth. -/
inductive Exchanged (old new : Value) : Value → Value → Prop where
  | here : Exchanged old new old new
  | field (front rest : Document) (key : String) {before after : Value}
      (inside : Exchanged old new before after) :
      Exchanged old new (.document (front ++ (key, before) :: rest))
        (.document (front ++ (key, after) :: rest))
  | item (front rest : List Value) {before after : Value}
      (inside : Exchanged old new before after) :
      Exchanged old new (.array (front ++ before :: rest)) (.array (front ++ after :: rest))
  | scope (source : String) (front rest : Document) (key : String) {before after : Value}
      (inside : Exchanged old new before after) :
      Exchanged old new (.codeWithScope source (front ++ (key, before) :: rest))
        (.codeWithScope source (front ++ (key, after) :: rest))

/-- What has been exchanged inside of a value does not show in its truth. -/
theorem Exchanged.isTruthy_eq (exchanged : Exchanged old new before after)
    (old_eq : old.number? = some number) (new_eq : new.number? = some number)
    (zero_iff : before.IsDecimalZero ↔ after.IsDecimalZero) :
    before.isTruthy = after.isTruthy := by
  cases exchanged with
  | here => exact (isTruthy_eq_iff old_eq new_eq).2 zero_iff
  | field => rfl
  | item => rfl
  | scope => rfl

end Value

namespace Document

variable {front rest : Document} {key : String} {first second : Value}

theorem commandName_exchange :
    commandName (front ++ (key, first) :: rest) = commandName (front ++ (key, second) :: rest) := by
  simp [commandName, keys]

/-- Fields of one truth cannot be told apart by the truth under any name. -/
theorem map_isTruthy_find?_exchange (same : first.isTruthy = second.isTruthy) (name : String) :
    (find? (front ++ (key, first) :: rest) name).map Value.isTruthy =
      (find? (front ++ (key, second) :: rest) name).map Value.isTruthy := by
  simp only [find?, List.lookup_append, lookup_cons]
  cases List.lookup name front with
  | some value => rfl
  | none =>
      split
      · simp [same]
      · rfl

end Document

namespace Predicate

/-- The predicates that responders are usually registered with. -/
inductive IsReadyMade : Predicate → Prop where
  | hasKey (key : String) : IsReadyMade (Predicate.hasKey key)
  | isTrue (key : String) : IsReadyMade (Predicate.isTrue key)
  | firstKeyIs (name : String) : IsReadyMade (Predicate.firstKeyIs name)
  | firstKeyIn (names : List String) : IsReadyMade (Predicate.firstKeyIn names)
  | any : IsReadyMade Predicate.any
  | isHandshake : IsReadyMade Predicate.isHandshake

variable {first second : Document}

theorem isTrue_eq_map (key : String) (query : Document) :
    isTrue key query = ((query.find? key).map Value.isTruthy).any id := by
  rw [isTrue, Option.any_map]
  rfl

/-- Ready-made predicates see the name of the command and the truth under each name. -/
theorem IsReadyMade.congr {accepts : Predicate} (readyMade : accepts.IsReadyMade)
    (name_eq : first.commandName = second.commandName)
    (truth_eq : ∀ key, (first.find? key).map Value.isTruthy =
      (second.find? key).map Value.isTruthy) : accepts first = accepts second := by
  cases readyMade with
  | hasKey key =>
      have present := congrArg Option.isSome (truth_eq key)
      rwa [Option.isSome_map, Option.isSome_map] at present
  | isTrue key => rw [isTrue_eq_map, isTrue_eq_map, truth_eq]
  | firstKeyIs name => rw [Predicate.firstKeyIs, Predicate.firstKeyIs, name_eq]
  | firstKeyIn names => rw [Predicate.firstKeyIn, Predicate.firstKeyIn, name_eq]
  | any => rfl
  | isHandshake => simp only [Predicate.isHandshake, isTrue_eq_map, truth_eq]

end Predicate

namespace Registry

variable {Backend : Type} {registry : Registry Backend} {front rest : Document} {key : String}

/-- Two queries that no responder tells apart, and that have one name, are routed alike. -/
theorem findMatch_congr {first second : Document}
    (alike : ∀ responder ∈ registry.responders,
      responder.accepts first = responder.accepts second)
    (name_eq : first.commandName = second.commandName) :
    registry.findMatch first = registry.findMatch second := by
  have found : (registry.responders.find? fun responder => responder.accepts first) =
      registry.responders.find? fun responder => responder.accepts second :=
    List.find?_congr alike
  rw [findMatch, findMatch, found, name_eq]

theorem findMatch_exchange (readyMade : ∀ responder ∈ registry.responders,
      responder.accepts.IsReadyMade) {first second : Value}
    (same : first.isTruthy = second.isTruthy) :
    registry.findMatch (front ++ (key, first) :: rest) =
      registry.findMatch (front ++ (key, second) :: rest) := by
  apply findMatch_congr
  · intro responder mem
    apply (readyMade responder mem).congr Document.commandName_exchange
    exact Document.map_isTruthy_find?_exchange same
  · exact Document.commandName_exchange

/-- The built-in responders are registered with ready-made predicates. -/
theorem isReadyMade_registerDefaults (registry : Registry Backend)
    (readyMade : ∀ responder ∈ registry.responders, responder.accepts.IsReadyMade)
    (info : ServerInfo) (clock : Backend → Int64) :
    ∀ responder ∈ (registry.registerDefaults info clock).responders,
      responder.accepts.IsReadyMade := by
  intro responder mem
  simp only [registerDefaults, registerNamed, List.mem_append, List.mem_singleton] at mem
  rcases mem with (((old | rfl) | rfl) | rfl) | rfl
  · exact readyMade responder old
  · exact .isHandshake
  · exact .firstKeyIs _
  · exact .firstKeyIn _
  · exact .firstKeyIs _

/--
A number counts as false exactly when it is zero, unless it is a decimal128 number. So two values of
one number count alike unless just one of them is a decimal128 zero. Under this condition on the
field of the query, one can be exchanged for the other at any depth of the field, and the query is
routed to the same responder. In any case it is routed like one with a truth in place of the number.
-/
theorem routes_by_number {old new : Value} {number : Number}
    (old_eq : old.number? = some number) (new_eq : new.number? = some number) :
    (old.isTruthy = false ↔ number = 0 ∧ old.kind ≠ .decimal128) ∧
    (old.isTruthy = new.isTruthy ↔ (old.IsDecimalZero ↔ new.IsDecimalZero)) ∧
    ∀ {Backend : Type} (registry : Registry Backend),
      (∀ responder ∈ registry.responders, responder.accepts.IsReadyMade) →
        ∀ (front rest : Document) (key : String),
          (∀ before after, Value.Exchanged old new before after →
            (before.IsDecimalZero ↔ after.IsDecimalZero) →
              registry.findMatch (front ++ (key, before) :: rest) =
                registry.findMatch (front ++ (key, after) :: rest)) ∧
          registry.findMatch (front ++ (key, old) :: rest) =
            registry.findMatch
              (front ++ (key, .boolean (number ≠ 0 ∨ old.kind = .decimal128)) :: rest) := by
  refine ⟨Value.isTruthy_eq_false_iff_of_number? old_eq, Value.isTruthy_eq_iff old_eq new_eq, ?_⟩
  intro Backend registry readyMade front rest key
  constructor
  · intro before after exchanged zero_iff
    exact findMatch_exchange readyMade (exchanged.isTruthy_eq old_eq new_eq zero_iff)
  · apply findMatch_exchange readyMade
    rw [Bool.eq_iff_iff, ← Bool.not_eq_false, Value.isTruthy_eq_false_iff_of_number? old_eq]
    simp [Value.isTruthy, Classical.or_iff_not_imp_left]

/-- One half as a binary64 number. -/
def half : Value := .double 0x3FE0000000000000

/-- One half as five tenths. -/
def fiveTenths : Value := .decimal128 (Decimal128.ofParts false 6175 5)

theorem number?_half : half.number? = some (.finite (1 / 2)) := by
  have unpacked : Float.Model.UnpackedFloat.unpack Float.Model.Format.binary64
      (0x3FE0000000000000 : UInt64).toBitVec = .finite .positive (2 ^ 52) (-53) (by decide) := rfl
  have scaled_eq : Number.scaled false (2 ^ 52) 2 (-53) = .finite (1 / 2) := by
    norm_num [Number.scaled]
  rw [half, Value.number?, Binary64.number?, unpacked, ← scaled_eq]
  rfl

theorem number?_fiveTenths : fiveTenths.number? = some (.finite (1 / 2)) := by
  have scaled_eq : Decimal128.numberOf false 6175 5 = .finite (1 / 2) := by
    norm_num [Decimal128.numberOf, Decimal128.largestCoefficient, Number.scaled]
  rw [fiveTenths, Value.number?, Decimal128.number?_ofParts false (by decide) (by decide),
    scaled_eq]

theorem routes_by_number_half :
    half.number? = some (.finite (1 / 2)) ∧ fiveTenths.number? = some (.finite (1 / 2)) ∧
      half.isTruthy = fiveTenths.isTruthy ∧
      (registerDefaults {} {} (fun _ => 0) : Registry Unit).findMatch
        [("a", .null), ("hello", half)] =
        (registerDefaults {} {} fun _ => 0).findMatch [("a", .null), ("hello", fiveTenths)] := by
  rcases routes_by_number number?_half number?_fiveTenths with ⟨_, same_iff, routes⟩
  have zero_iff : half.IsDecimalZero ↔ fiveTenths.IsDecimalZero := by
    simp [Value.IsDecimalZero, number?_half, number?_fiveTenths, Number.zero_eq]
  have readyMade := isReadyMade_registerDefaults ({} : Registry Unit) nofun {} fun _ => 0
  refine ⟨number?_half, number?_fiveTenths, same_iff.2 zero_iff, ?_⟩
  exact (routes _ readyMade [("a", .null)] [] "hello").1 half fiveTenths .here zero_iff

/-- A registry that knows the handshake only. -/
def greeter : Registry Unit := registerNamed {} "handshake" Predicate.isHandshake (always [])

/-- A decimal128 zero says hello where a zero of another kind does not. -/
theorem decimal_zero_says_hello :
    (¬∀ (old new : Value) (number : Number), old.number? = some number →
      new.number? = some number → old.isTruthy = new.isTruthy) ∧
    ¬∀ (registry : Registry Unit), (∀ responder ∈ registry.responders,
        (∃ key, responder.accepts = Predicate.isTrue key) ∨
          responder.accepts = Predicate.isHandshake) →
      ∀ (front rest : Document) (key : String) (old new : Value) (number : Number),
        old.number? = some number → new.number? = some number →
          registry.findMatch (front ++ (key, old) :: rest) =
            registry.findMatch (front ++ (key, new) :: rest) := by
  have decimal := (Value.isDecimalZero_ofParts false (show 6176 < 3 * 2 ^ 12 by decide)
    (show 0 < 2 ^ 113 by decide) (.inl rfl)).2
  have word : (Value.int32 0).number? = some 0 := rfl
  constructor
  · intro goesByNumber
    cases goesByNumber _ _ _ word decimal
  · intro goesByNumber
    have routed := goesByNumber greeter (by simp [greeter, registerNamed]) [] [] "hello" _ _ _ word
      decimal
    cases routed

end Registry

end DocumentProtocol
