import DocumentProtocol.Proofs.Toml.Quoted
import DocumentProtocol.Proofs.Toml.Scalar
import DocumentProtocol.Toml.Line

/-!
# Reading lines as they were written

A value, a line and a run of lines each have a text that is read back whatever stands behind it.
Lines with bare names build the table that they describe: a header and the entries under it put one
table more at the end of the root.
-/

namespace DocumentProtocol.Toml

theorem skipBlanks_of_head? {text : List Char}
    (starts : ∀ first ∈ text.head?, isBlank first = false) :
    skipBlanks text = text := by
  cases text with
  | nil => rfl
  | cons first behind => simp [skipBlanks, starts first rfl]

@[simp]
theorem skipBlanks_space (text : List Char) : skipBlanks (' ' :: text) = skipBlanks text := rfl

@[simp]
theorem skipBlanks_lineFeed (text : List Char) : skipBlanks ('\n' :: text) = '\n' :: text := rfl

theorem isBlank_of_isBare {character : Char} (bare : Key.isBare character = true) :
    isBlank character = false := by
  rw [isBlank, Bool.or_eq_false_iff, decide_eq_false_iff_not, decide_eq_false_iff_not]
  constructor <;> (rintro rfl; contradiction)

/-! ### Values -/

/-- A text from which a value is read with a line break behind it. -/
structure Node.IsWritten (node : Node) (text : List Char) : Prop where
  starts : ∀ first ∈ text.head?, isBlank first = false
  reads (rest : List Char) : Node.read (text ++ '\n' :: rest) = some (node, '\n' :: rest)

namespace Node

theorem IsWritten.skipBlanks_append {node : Node} {text : List Char} (written : node.IsWritten text)
    (rest : List Char) : skipBlanks (text ++ '\n' :: rest) = text ++ '\n' :: rest := by
  refine skipBlanks_of_head? fun initial mem => ?_
  cases text with
  | nil => cases mem; rfl
  | cons _ _ => cases mem; exact written.starts _ rfl

theorem read_of_isAlphanum {first : Char} (opens : first.isAlphanum = true) (behind : List Char) :
    Node.read (first :: behind) = Scalar.read (first :: behind) := by
  rw [Node.read, readNested.eq_def]
  split
  case h_3 => rfl
  case h_6 => rfl
  -- quotes and brackets are no letters or digits
  all_goals rename_i shape; cases shape; contradiction

theorem isWritten_of_word {node : Node} {text : List Char}
    (opens : ∃ first behind, text = first :: behind ∧ first.isAlphanum = true)
    (reads : ∀ rest, Scalar.read (text ++ '\n' :: rest) = some (node, '\n' :: rest)) :
    node.IsWritten text := by
  obtain ⟨first, behind, rfl, word⟩ := opens
  refine ⟨?_, fun rest => (read_of_isAlphanum word _).trans (reads rest)⟩
  rintro _ ⟨⟩
  exact isBlank_of_isBare (by simp [Key.isBare, word])

theorem isWritten_integer {number : Nat} (fits : number < Bytes.doubleWordLimit) :
    (Node.integer number).IsWritten (Nat.toDigits 10 number) := by
  refine isWritten_of_word ?_ fun rest => Scalar.read_toDigits fits (by simp; decide)
  cases digits : Nat.toDigits 10 number with
  | nil => exact absurd digits Nat.toDigits_ne_nil
  | cons first behind =>
      have digit := Numeral.isDigit_toDigits number first (by simp [digits])
      exact ⟨first, behind, rfl, by simp [Char.isAlphanum, digit]⟩

theorem isWritten_boolean (flag : Bool) :
    (Node.boolean flag).IsWritten (if flag then "true" else "false").toList := by
  refine isWritten_of_word ?_ fun rest => Scalar.read_flag flag (by simp; decide)
  cases flag with
  | true => exact ⟨'t', _, rfl, by decide⟩
  | false => exact ⟨'f', _, rfl, by decide⟩

theorem read_quote {quote : Char} (kind : quote = '"' ∨ quote = '\'') (behind : List Char) :
    Node.read (quote :: behind) = (Quoted.read (quote :: behind)).map fun (text, rest) =>
      (.string (String.ofList text), rest) := by
  rcases kind with rfl | rfl
  · rw [Node.read, readNested]
  · rw [Node.read, readNested]

theorem isWritten_string (text : String) :
    (Node.string text).IsWritten (Quoted.write text.toList) := by
  have reads (rest : List Char) :
      Quoted.read (Quoted.write text.toList ++ '\n' :: rest) = some (text.toList, '\n' :: rest) :=
    Quoted.read_write text.toList (by simp) (by simp)
  obtain ⟨quote, behind, written, kind⟩ := Quoted.write_eq_cons text.toList
  rw [written] at reads ⊢
  constructor
  · rintro _ ⟨⟩
    rcases kind with rfl | rfl <;> rfl
  · intro rest
    have value := reads rest
    rw [List.cons_append] at value ⊢
    rw [read_quote kind, value]
    simp

end Node

/-! ### Keys -/

/-- A name that can be written without quotes. -/
def Key.IsBareName (name : String) : Prop :=
  name ≠ "" ∧ name.toList.all Key.isBare = true

instance (name : String) : Decidable (Key.IsBareName name) :=
  inferInstanceAs (Decidable (_ ∧ _))

theorem Key.IsBareName.exists_cons {name : String} (bare : IsBareName name) :
    ∃ first behind, name.toList = first :: behind ∧ isBare first = true := by
  obtain ⟨filled, all⟩ := bare
  have filled : name.toList ≠ [] := by simpa using filled
  obtain ⟨first, behind, shape⟩ := List.exists_cons_of_ne_nil filled
  exact ⟨first, behind, shape, List.all_eq_true.1 all first (by simp [shape])⟩

theorem Key.read_bareName {name : String} (bare : IsBareName name) {rest : List Char}
    (stops : ∀ first ∈ rest.head?, isBare first = false)
    (noPoint : (skipBlanks rest).head? ≠ some '.') :
    Key.read (name.toList ++ rest) = some (⟨[], name⟩, skipBlanks rest) := by
  obtain ⟨first, behind, shape, opens⟩ := bare.exists_cons
  obtain ⟨taken, left⟩ := takeWhile_dropWhile_append (List.all_eq_true.1 bare.2) stops
  have bare : readBare (name.toList ++ rest) = some (name, rest) := by
    rw [readBare, taken, left, if_neg (by simp [shape]), String.ofList_toList]
  have front : readName (name.toList ++ rest) = some (name, rest) := by
    rw [shape] at bare ⊢
    rw [List.cons_append, readName.eq_def]
    split
    case h_3 => exact bare
    -- a bare name begins with no quote
    all_goals rename_i quoted; cases quoted; contradiction
  have start : skipBlanks (name.toList ++ rest) = name.toList ++ rest := by
    refine skipBlanks_of_head? ?_
    rw [shape]
    rintro _ ⟨⟩
    exact isBlank_of_isBare opens
  have step : readNames (78 + 1) (name.toList ++ rest) = some (⟨[], name⟩, skipBlanks rest) := by
    rw [readNames, start, front]
    simp only [Option.bind_eq_bind, Option.bind_some]
    split
    case h_1 point => simp [point] at noPoint
    case h_2 => rfl
  exact step

/-! ### Lines -/

namespace Line

/-- A text from which a line is read, whatever stands behind it. -/
structure IsWritten (line : Line) (text : List Char) : Prop where
  filled : text ≠ []
  reads (rest : List Char) : Line.read (text ++ rest) = some (line, rest)

theorem isWritten_empty : Line.empty.IsWritten ['\n'] where
  filled := by decide
  reads _ := rfl

theorem readContent_bracket {text : List Char} {key : Key} {rest : List Char}
    (single : text.head? ≠ some '[') (read : Key.read text = some (key, ']' :: rest)) :
    readContent ('[' :: text) = some (.table key, rest) := by
  rw [readContent, skipBlanks_of_head? (by rintro _ ⟨⟩; rfl)]
  split
  case h_5 bracket => cases bracket; simp at single
  case h_6 bracket => cases bracket; simp only [read]
  case h_7 other => exact absurd rfl (other text)
  all_goals rename_i bracket; cases bracket

theorem readContent_bare {first : Char} (bare : Key.isBare first = true) (behind : List Char) :
    readContent (first :: behind) =
      (Node.readEntry Node.read (first :: behind)).map fun ((key, node), rest) =>
        (.entry key node, rest) := by
  rw [readContent, skipBlanks_of_head? (by rintro _ ⟨⟩; exact isBlank_of_isBare bare)]
  split
  case h_7 => rfl
  -- a bare name begins with none of the other marks
  all_goals rename_i other; cases other <;> contradiction

theorem isWritten_table {name : String} (bare : Key.IsBareName name) :
    (Line.table ⟨[], name⟩).IsWritten ('[' :: name.toList ++ [']', '\n']) where
  filled := by simp
  reads rest := by
    have key : Key.read (name.toList ++ ']' :: '\n' :: rest) =
        some (⟨[], name⟩, ']' :: '\n' :: rest) :=
      Key.read_bareName bare (by rintro _ ⟨⟩; rfl) (by simp [skipBlanks, isBlank])
    have single : (name.toList ++ ']' :: '\n' :: rest).head? ≠ some '[' := by
      obtain ⟨first, behind, shape, opens⟩ := bare.exists_cons
      rw [shape]
      rintro ⟨⟩
      contradiction
    have whole : '[' :: name.toList ++ [']', '\n'] ++ rest =
        '[' :: (name.toList ++ ']' :: '\n' :: rest) := by
      simp
    rw [whole, Line.read, readContent_bracket single key]
    rfl

theorem isWritten_entry {name : String} (bare : Key.IsBareName name) {node : Node}
    {value : List Char} (written : node.IsWritten value) :
    (Line.entry ⟨[], name⟩ node).IsWritten
      (name.toList ++ " = ".toList ++ value ++ ['\n']) where
  filled := by simp
  reads rest := by
    have key : Key.read (name.toList ++ ' ' :: '=' :: ' ' :: (value ++ '\n' :: rest)) =
        some (⟨[], name⟩, '=' :: ' ' :: (value ++ '\n' :: rest)) :=
      Key.read_bareName bare (by rintro _ ⟨⟩; rfl) (by simp [skipBlanks, isBlank])
    have content :
        readContent (name.toList ++ ' ' :: '=' :: ' ' :: (value ++ '\n' :: rest)) =
          some (.entry ⟨[], name⟩ node, '\n' :: rest) := by
      obtain ⟨first, behind, shape, opens⟩ := bare.exists_cons
      rw [shape, List.cons_append] at key ⊢
      rw [readContent_bare opens, Node.readEntry, key]
      simp [written.skipBlanks_append rest, written.reads rest]
    have whole : name.toList ++ " = ".toList ++ value ++ ['\n'] ++ rest =
        name.toList ++ ' ' :: '=' :: ' ' :: (value ++ '\n' :: rest) := by
      simp
    rw [whole, Line.read, content]
    rfl

/-- A text of one line after the other. -/
inductive AreWritten : List Line → List Char → Prop where
  | nil : AreWritten [] []
  | cons {line : Line} {lines : List Line} {text further : List Char}
      (first : line.IsWritten text) (others : AreWritten lines further) :
      AreWritten (line :: lines) (text ++ further)

theorem areWritten_empty : AreWritten [.empty] ['\n'] := .cons isWritten_empty .nil

theorem AreWritten.append {lines others : List Line} {text further : List Char}
    (front : AreWritten lines text) (behind : AreWritten others further) :
    AreWritten (lines ++ others) (text ++ further) := by
  induction front with
  | nil => exact behind
  | cons first others ih => rw [List.append_assoc]; exact .cons first ih

theorem AreWritten.readAll? {lines : List Line} {text : List Char}
    (written : AreWritten lines text) {fuel : Nat} (enough : text.length ≤ fuel) :
    Line.readAll? fuel text = some lines := by
  induction written generalizing fuel with
  | nil => rw [Line.readAll?]
  | cons first others ih =>
      rename_i text further
      obtain ⟨initial, behind, rfl⟩ := List.exists_cons_of_ne_nil first.filled
      cases fuel with
      | zero => simp at enough
      | succ fuel =>
          have shorter : further.length ≤ fuel := by simp at enough; omega
          have read := first.reads further
          rw [List.cons_append] at read ⊢
          rw [Line.readAll?, read]
          · simp [ih shorter]
          · simp

/-! ### Tables -/

/-- Lines that make one root table out of another. -/
def Builds (lines : List Line) (before after : Entries) : Prop :=
  ∀ builder : Builder, builder.finish? = some before →
    ∃ built, lines.foldlM addTo? builder = some built ∧ built.finish? = some after

theorem builds_empty (entries : Entries) : Builds [.empty] entries entries :=
  fun builder finished => ⟨builder, rfl, finished⟩

theorem Builds.append {lines others : List Line} {before between after : Entries}
    (front : Builds lines before between) (behind : Builds others between after) :
    Builds (lines ++ others) before after := by
  intro builder finished
  obtain ⟨halfway, folded, between⟩ := front builder finished
  obtain ⟨built, rest, done⟩ := behind halfway between
  refine ⟨built, ?_, done⟩
  rw [List.foldlM_append, folded]
  exact rest

theorem lookup_eq_none_of_not_mem {entries : Entries} {key : String}
    (fresh : key ∉ entries.map Prod.fst) : entries.lookup key = none := by
  rw [List.lookup_eq_none_iff]
  rintro pair mem
  rw [bne_iff_ne]
  rintro rfl
  exact fresh (List.mem_map_of_mem mem)

theorem add?_of_not_mem {entries : Entries} {key : String} (fresh : key ∉ entries.map Prod.fst)
    (node : Node) : entries.add? key node = some (entries ++ [(key, node)]) := by
  rw [Entries.add?, Entries.hasKey, lookup_eq_none_of_not_mem fresh]
  rfl

/-- An entry under a name alone. -/
def ofPair (pair : String × Node) : Line := .entry ⟨[], pair.1⟩ pair.2

theorem foldlM_ofPair {entries : Entries} {builder : Builder}
    (distinct : ((builder.current ++ entries).map Prod.fst).Nodup) :
    (entries.map ofPair).foldlM addTo? builder =
      some { builder with current := builder.current ++ entries } := by
  induction entries generalizing builder with
  | nil => simp
  | cons pair entries ih =>
      have fresh : pair.1 ∉ builder.current.map Prod.fst := by
        rw [List.map_append, List.nodup_append] at distinct
        exact fun mem => distinct.2.2 _ mem _ (by simp) rfl
      have step : addTo? builder (ofPair pair) =
          some { builder with current := builder.current ++ [pair] } := by
        simp [addTo?, ofPair, Builder.add?, Entries.addDotted?, add?_of_not_mem fresh]
      rw [List.map_cons, List.foldlM_cons, step, Option.bind_eq_bind, Option.bind_some, ih]
      · simp
      · simpa using distinct

/-- A header with the entries under it puts one table at the end of the root. -/
theorem builds_table {name : String} {before entries : Entries}
    (fresh : name ∉ before.map Prod.fst) (distinct : (entries.map Prod.fst).Nodup) :
    Builds (.table ⟨[], name⟩ :: entries.map ofPair) before
      (before ++ [(name, .table .header entries)]) := by
  intro builder finished
  have opened : addTo? builder (.table ⟨[], name⟩) = some ⟨before, [], some ⟨false, [], name⟩⟩ := by
    simp [addTo?, Builder.openTable?, finished, Entries.atPath?, Entries.find,
      lookup_eq_none_of_not_mem fresh]
  refine ⟨⟨before, entries, some ⟨false, [], name⟩⟩, ?_, ?_⟩
  · rw [List.foldlM_cons, opened, Option.bind_eq_bind, Option.bind_some, foldlM_ofPair]
    · rfl
    · simpa using distinct
  · simp [Builder.finish?, Entries.atPath?, add?_of_not_mem fresh]

/-- A text describes the table that its lines build. -/
theorem ofText?_of_areWritten {lines : List Line} {text : List Char} {entries : Entries}
    (written : AreWritten lines text) (noMark : text.head? ≠ some '\uFEFF')
    (builds : Builds lines [] entries) :
    Entries.ofText? (String.ofList text) = some entries := by
  obtain ⟨built, folded, finished⟩ := builds {} rfl
  have start : skipByteOrderMark text = text := by
    rw [skipByteOrderMark.eq_def]
    split <;> simp_all
  rw [Entries.ofText?, String.toList_ofList, start, written.readAll? (Nat.le_refl _)]
  simp [folded, finished]

end Line

end DocumentProtocol.Toml
