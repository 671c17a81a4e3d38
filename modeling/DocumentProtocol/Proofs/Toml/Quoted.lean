import DocumentProtocol.Toml.Quoted

/-!
# Reading a string as it was written

Every character has marks of its own, whatever stands around it, except a quote between triple
quotes: that is written as it is as long as no third quote comes with it. `Spelled` describes a text
between triple quotes in this way, for both kinds of quotes.

The main statement is that `Quoted.read` finds the string that `Quoted.write` wrote, in whatever
form it was written, and leaves what stands behind it.
-/

namespace DocumentProtocol.Toml.Quoted

/-- A reader of the text of a string, from behind the opening quotes. -/
abbrev Body := List Char → Option (List Char × List Char)

/-- With some marks in front, a reader finds one character more, whatever stands behind them. -/
def Takes (reader : Body) (marks : List Char) (character : Char) : Prop :=
  ∀ tail, reader (marks ++ tail) =
    (reader tail).map fun (text, rest) => (character :: text, rest)

/-! ### Characters among escapes -/

/-- The marks of a character in a string with escapes, in one line or in several. -/
inductive Mark (lines : Bool) (character : Char) : List Char → Prop where
  | letter {letter : Char} (known : escape? letter = some character) :
      Mark lines character ['\\', letter]
  | number (ascii : character.toNat < 128) : Mark lines character (byNumber character)
  | plain (plain : isPlain character) (noBackslash : character ≠ '\\')
      (noQuote : character ≠ '"') : Mark lines character [character]
  | lineFeed (several : lines = true) (feeds : character = '\n') : Mark lines character ['\n']

@[simp]
theorem isPlain_return : isPlain '\r' = false := rfl

/-- No mark begins with a quote, and only a line feed begins with a line break. -/
theorem Mark.opens {lines : Bool} {character : Char} {marks : List Char}
    (mark : Mark lines character marks) :
    ∃ first further, marks = first :: further ∧ first ≠ '"' ∧ first ≠ '\r' ∧
      (first = '\n' → character = '\n') := by
  cases mark with
  | letter known => exact ⟨_, _, rfl, by decide, by decide, by simp⟩
  | number ascii => exact ⟨_, _, rfl, by decide, by decide, by simp⟩
  | plain plain noBackslash noQuote =>
      exact ⟨_, _, rfl, noQuote, by rintro rfl; simp at plain, id⟩
  | lineFeed several feeds => exact ⟨_, _, rfl, by decide, by decide, fun _ => feeds⟩

theorem isPlain_of_not_needsEscape {character : Char} (free : needsEscape character = false)
    (noFeed : character ≠ '\n') : isPlain character = true := by
  simp only [needsEscape, Bool.or_eq_false_iff, Bool.and_eq_false_imp, decide_eq_true_eq,
    decide_eq_false_iff_not, Bool.and_eq_true] at free
  simp only [isPlain, Bool.or_eq_true, Bool.and_eq_true, decide_eq_true_eq]
  obtain ⟨free, noDelete⟩ := free
  by_cases low : character < ' '
  · by_cases tab : character = '\t'
    · exact .inl tab
    · exact absurd noFeed (free ⟨low, tab⟩)
  · exact .inr ⟨Char.not_lt.mp low, noDelete⟩

theorem ascii_of_needsEscape {character : Char} (needs : needsEscape character = true) :
    character.toNat < 128 := by
  simp only [needsEscape, Bool.or_eq_true, Bool.and_eq_true, decide_eq_true_eq] at needs
  rcases needs with ⟨⟨low, -⟩, -⟩ | rfl
  · exact Nat.lt_trans low (by decide)
  · decide

/-- Behind two quotes a third is escaped, so there every character has its marks. -/
theorem mark_escaped (lines : Bool) (character : Char) :
    Mark lines character (escaped lines 2 [character]) := by
  rw [escaped.eq_def]
  split
  case h_1 shape => cases shape
  case h_2 shape =>
    cases shape
    rw [if_neg (by simp)]
    exact .letter rfl
  case h_3 shape => cases shape; exact .letter rfl
  case h_4 shape => cases shape; exact .letter rfl
  case h_5 shape => cases shape; exact .letter rfl
  case h_6 shape =>
    cases shape
    cases lines with
    | true => exact .lineFeed rfl rfl
    | false => exact .letter rfl
  case h_7 shape => cases shape; exact .letter rfl
  case h_8 shape => cases shape; exact .letter rfl
  case h_9 noQuote noBackslash _ _ noFeed _ _ shape =>
    cases shape
    split
    case isTrue needs => simpa [escaped] using .number (ascii_of_needsEscape needs)
    case isFalse free =>
      have plain := isPlain_of_not_needsEscape (by simpa using free) noFeed
      simpa [escaped] using .plain plain noBackslash noQuote

theorem escaped_cons {lines : Bool} {run : Nat} {character : Char} {text : List Char}
    (marked : character = '"' → lines = true → 2 ≤ run) :
    escaped lines run (character :: text) =
      escaped lines 2 [character] ++ escaped lines 0 text := by
  rw [escaped.eq_def]
  split
  case h_1 shape => cases shape
  case h_2 shape =>
    cases shape
    have closed : ¬(lines = true ∧ run < 2) := fun ⟨several, few⟩ =>
      Nat.not_lt.2 (marked rfl several) few
    have two : escaped lines 2 ['"'] = ['\\', '"'] := if_neg (by simp)
    rw [if_neg closed, two]
    rfl
  case h_6 shape => cases shape; cases lines <;> rfl
  case h_9 shape => cases shape; simp_all [escaped]; split <;> rfl
  all_goals rename_i shape; cases shape; rfl

theorem scalar?_of_ascii {character : Char} (ascii : character.toNat < 128) :
    scalar? ['0', '0', hexDigit (character.toNat / 16), hexDigit (character.toNat % 16)] =
      some character := by
  have all : ∀ number < 128, scalar? ['0', '0', hexDigit (number / 16), hexDigit (number % 16)] =
    some (Char.ofNat number) := by decide
  rw [all _ ascii, Char.ofNat_toNat]

theorem takes_basic {character : Char} {marks : List Char} (mark : Mark false character marks) :
    Takes basic marks character := by
  intro tail
  cases mark with
  | letter known =>
      simp only [List.cons_append, List.nil_append]
      rw [basic.eq_def]
      simp [known]
  | number ascii =>
      have read := scalar?_of_ascii ascii
      simp [byNumber, basic, escape?, read]
  | plain plain noBackslash noQuote =>
      rw [List.singleton_append, basic.eq_def]
      split <;> simp_all
  | lineFeed several => contradiction

theorem endsLine_of_escape? {letter character : Char} (known : escape? letter = some character)
    (tail : List Char) : endsLine (letter :: tail) = false := by
  rw [escape?.eq_def] at known
  split at known
  case h_8 => cases known
  all_goals rfl

theorem takes_basicLines {character : Char} {marks : List Char} (mark : Mark true character marks) :
    Takes (basicLines false) marks character := by
  intro tail
  cases mark with
  | letter known =>
      simp only [List.cons_append, List.nil_append]
      rw [basicLines.eq_def]
      simp [endsLine_of_escape? known, known]
  | number ascii =>
      have read := scalar?_of_ascii ascii
      have goesOn : ∀ tail, endsLine ('u' :: tail) = false := fun _ => rfl
      simp [byNumber, basicLines, goesOn, escape?, read]
  | plain plain noBackslash noQuote =>
      rw [List.singleton_append, basicLines.eq_def]
      split <;> simp_all
  | lineFeed several feeds => simp [basicLines, feeds]

/-! ### One line -/

theorem basic_escaped (run : Nat) (text rest : List Char) :
    basic (escaped false run text ++ '"' :: rest) = some (text, rest) := by
  induction text generalizing run with
  | nil => rfl
  | cons character text ih =>
      rw [escaped_cons (by simp), List.append_assoc, takes_basic (mark_escaped false character), ih]
      rfl

theorem literal_append {text : List Char}
    (plain : ∀ character ∈ text, isPlain character = true ∧ character ≠ '\'') (rest : List Char) :
    literal (text ++ '\'' :: rest) = some (text, rest) := by
  induction text with
  | nil => rfl
  | cons character text ih =>
      obtain ⟨first, behind⟩ := List.forall_mem_cons.1 plain
      rw [List.cons_append, literal.eq_def]
      split <;> simp_all

/-! ### Several lines -/

/-- How many quotes stand in front. -/
def frontRun (quote : Char) (text : List Char) : Nat := (text.takeWhile (· = quote)).length

@[simp]
theorem frontRun_nil (quote : Char) : frontRun quote [] = 0 := rfl

@[simp]
theorem frontRun_quote (quote : Char) (text : List Char) :
    frontRun quote (quote :: text) = frontRun quote text + 1 := by
  simp [frontRun]

theorem frontRun_of_ne {quote first : Char} (other : first ≠ quote) (text : List Char) :
    frontRun quote (first :: text) = 0 := by
  simp [frontRun, other]

theorem two_le_frontRun (quote : Char) (text : List Char) :
    2 ≤ frontRun quote (quote :: quote :: text) := by
  simp

/-- How a text can be written between triple quotes, for a reader that takes marks. -/
inductive Spelled (reader : Body) (quote : Char) : List Char → List Char → Prop where
  | nil : Spelled reader quote [] []
  | quote {text written : List Char} (behind : Spelled reader quote text written)
      (few : frontRun quote written < 2) : Spelled reader quote (quote :: text) (quote :: written)
  | marks {character first : Char} {further text written : List Char}
      (behind : Spelled reader quote text written)
      (takes : Takes reader (first :: further) character) (noQuote : first ≠ quote)
      (noReturn : first ≠ '\r') (feeds : first = '\n' → character = '\n') :
      Spelled reader quote (character :: text) (first :: further ++ written)

/-- What the readers of several lines do at quotes. -/
structure ClosedBy (reader : Body) (quote : Char) : Prop where
  closes (tail : List Char) : reader (quote :: quote :: quote :: tail) = some (closing quote tail)
  keeps {tail : List Char} (few : frontRun quote tail < 2) :
    reader (quote :: tail) = (reader tail).map fun (text, rest) => (quote :: text, rest)

theorem closing_of_head?_ne {quote : Char} {rest : List Char} (stops : rest.head? ≠ some quote) :
    closing quote rest = ([], rest) := by
  rw [closing.eq_def]
  split <;> simp_all

theorem closing_quote {quote : Char} {rest : List Char} (stops : rest.head? ≠ some quote) :
    closing quote (quote :: rest) = ([quote], rest) := by
  rw [closing.eq_def]
  split <;> simp_all

theorem Spelled.read {reader : Body} {quote : Char} (closed : ClosedBy reader quote)
    {text written : List Char} (spelled : Spelled reader quote text written) {rest : List Char}
    (stops : rest.head? ≠ some quote) :
    reader (written ++ quote :: quote :: quote :: rest) = some (text, rest) := by
  induction spelled with
  | nil => rw [List.nil_append, closed.closes, closing_of_head?_ne stops]
  | marks behind takes noQuote noReturn feeds ih => rw [List.append_assoc, takes, ih]; rfl
  | quote behind few ih =>
      -- only quotes at the end of the text come together with the closing ones
      cases behind with
      | nil => rw [List.cons_append, List.nil_append, closed.closes, closing_quote stops]
      | quote behind _ =>
          cases behind with
          | nil => simp [closed.closes, closing]
          | quote _ _ => exact absurd few (Nat.not_lt.2 (two_le_frontRun _ _))
          | marks _ _ noQuote =>
              rw [List.cons_append, closed.keeps (by simp [frontRun_of_ne noQuote]), ih]
              rfl
      | marks _ _ noQuote =>
          rw [List.cons_append, closed.keeps (by simp [frontRun_of_ne noQuote]), ih]
          rfl

/-! ### Several lines without escapes -/

theorem closedBy_literalLines : ClosedBy literalLines '\'' where
  closes _ := rfl
  keeps few := by
    rw [literalLines.eq_def]
    split
    case h_4 shape => cases shape; exact absurd few (Nat.not_lt.2 (two_le_frontRun _ _))
    case h_5 shape => cases shape; rfl
    all_goals rename_i shape; cases shape

theorem run_add_frontRun_le_longestRun (quote : Char) (run : Nat) (text : List Char) :
    run + frontRun quote text ≤ longestRun quote run text := by
  induction text generalizing run with
  | nil => simp [longestRun]
  | cons character text ih =>
      rw [longestRun]
      split
      case isTrue eq =>
        subst eq
        have := ih (run + 1)
        rw [frontRun_quote]
        omega
      case isFalse other =>
        rw [frontRun_of_ne other]
        omega

theorem takes_literalLines {character : Char}
    (plain : isPlain character = true ∨ character = '\n') (noQuote : character ≠ '\'') :
    Takes literalLines [character] character := by
  intro tail
  rcases plain with plain | rfl
  · rw [List.singleton_append, literalLines.eq_def]
    split <;> simp_all
  · rfl

theorem spelled_literalLines {run : Nat} {text : List Char}
    (plain : ∀ character ∈ text, isPlain character = true ∨ character = '\n')
    (few : longestRun '\'' run text ≤ 2) : Spelled literalLines '\'' text text := by
  induction text generalizing run with
  | nil => exact .nil
  | cons character text ih =>
      obtain ⟨first, behind⟩ := List.forall_mem_cons.1 plain
      rw [longestRun] at few
      split at few
      case isTrue eq =>
        subst eq
        have front := run_add_frontRun_le_longestRun '\'' (run + 1) text
        exact .quote (ih behind few) (by omega)
      case isFalse other =>
        have noReturn : character ≠ '\r' := by
          rintro rfl
          simp at first
        have rest := ih behind (Nat.le_trans (Nat.le_max_right _ _) few)
        exact .marks rest (takes_literalLines first other) other noReturn id

/-! ### Several lines with escapes -/

theorem closedBy_basicLines : ClosedBy (basicLines false) '"' where
  closes _ := rfl
  keeps few := by
    rw [basicLines.eq_def]
    split
    case h_4 shape => cases shape; exact absurd few (Nat.not_lt.2 (two_le_frontRun _ _))
    case h_6 shape => cases shape; rfl
    all_goals rename_i shape; cases shape

theorem spelled_mark {character : Char} {text written marks : List Char}
    (mark : Mark true character marks) (behind : Spelled (basicLines false) '"' text written) :
    Spelled (basicLines false) '"' (character :: text) (marks ++ written) := by
  have takes := takes_basicLines mark
  obtain ⟨first, further, rfl, noQuote, noReturn, feeds⟩ := mark.opens
  exact .marks behind takes noQuote noReturn feeds

theorem frontRun_mark {lines : Bool} {character : Char} {marks : List Char}
    (mark : Mark lines character marks) (behind : List Char) :
    frontRun '"' (marks ++ behind) = 0 := by
  obtain ⟨first, further, rfl, noQuote, -⟩ := mark.opens
  exact frontRun_of_ne noQuote _

/-- Behind `run` quotes, no run of three comes about. -/
theorem frontRun_escaped_le (run : Nat) (text : List Char) :
    frontRun '"' (escaped true run text) ≤ 2 - run := by
  induction text generalizing run with
  | nil => simp [escaped]
  | cons character text ih =>
      by_cases bare : character = '"' ∧ run < 2
      · obtain ⟨rfl, below⟩ := bare
        have behind := ih (run + 1)
        rw [escaped, if_pos ⟨rfl, below⟩, frontRun_quote]
        omega
      · rw [escaped_cons (by grind), frontRun_mark (mark_escaped true character)]
        omega

theorem spelled_escaped (run : Nat) (text : List Char) :
    Spelled (basicLines false) '"' text (escaped true run text) := by
  induction text generalizing run with
  | nil => exact .nil
  | cons character text ih =>
      by_cases bare : character = '"' ∧ run < 2
      · obtain ⟨rfl, below⟩ := bare
        have front := frontRun_escaped_le (run + 1) text
        rw [escaped, if_pos ⟨rfl, below⟩]
        exact .quote (ih _) (by omega)
      · rw [escaped_cons (by grind)]
        exact spelled_mark (mark_escaped true character) (ih 0)

/-! ### The four forms -/

theorem dropLineBreak_of_ne {first : Char} (noFeed : first ≠ '\n') (noReturn : first ≠ '\r')
    (rest : List Char) : dropLineBreak (first :: rest) = first :: rest := by
  rw [dropLineBreak.eq_def]
  split <;> simp_all

/-- The line feed that stands first for a text of several lines keeps the text's own first one. -/
theorem Spelled.read_dropLineBreak {reader : Body} {quote : Char} (closed : ClosedBy reader quote)
    (noFeed : quote ≠ '\n') (noReturn : quote ≠ '\r') {text written : List Char}
    (spelled : Spelled reader quote text written) {rest : List Char}
    (stops : rest.head? ≠ some quote) :
    reader (dropLineBreak ((if text.contains '\n' then ['\n'] else []) ++ written ++
      quote :: quote :: quote :: rest)) = some (text, rest) := by
  rw [← spelled.read closed stops]
  split
  case isTrue => rfl
  case isFalse oneLine =>
    congr 1
    rw [List.nil_append]
    cases spelled with
    | nil => exact dropLineBreak_of_ne noFeed noReturn _
    | quote behind few => exact dropLineBreak_of_ne noFeed noReturn _
    | marks behind takes noQuote noReturn feeds =>
        refine dropLineBreak_of_ne (fun feed => oneLine ?_) noReturn _
        simp [feeds feed]

theorem isPlain_of_any_needsEscape {text : List Char} (free : text.any needsEscape = false)
    {character : Char} (mem : character ∈ text) :
    isPlain character = true ∨ character = '\n' := by
  by_cases feed : character = '\n'
  · exact .inr feed
  · have freeOne : needsEscape character = false := by
      simpa using List.any_eq_false.1 free character mem
    exact .inl (isPlain_of_not_needsEscape freeOne feed)

theorem not_mem_of_longestRun_eq_zero {quote : Char} {text : List Char}
    (noRun : longestRun quote 0 text = 0) : quote ∉ text := by
  induction text with
  | nil => simp
  | cons character text ih =>
      rw [longestRun] at noRun
      split at noRun
      case isTrue eq =>
        have front := run_add_frontRun_le_longestRun quote (0 + 1) text
        omega
      case isFalse other =>
        rw [List.mem_cons, not_or]
        exact ⟨Ne.symm other, ih (by omega)⟩

theorem literal_of_form {text : List Char} (chosen : form text = .literal) :
    text ≠ [] ∧ ∀ character ∈ text, isPlain character = true ∧ character ≠ '\'' := by
  refine ⟨by rintro rfl; contradiction, fun character mem => ?_⟩
  have conditions : text.any needsEscape = false ∧ longestRun '\'' 0 text = 0 ∧ '\n' ∉ text := by
    grind [form]
  obtain ⟨free, noQuote, oneLine⟩ := conditions
  have absent := not_mem_of_longestRun_eq_zero noQuote
  refine ⟨(isPlain_of_any_needsEscape free mem).resolve_right ?_, ?_⟩
  · rintro rfl
    exact oneLine mem
  · rintro rfl
    exact absent mem

theorem literalLines_of_form {text : List Char} (chosen : form text = .literalLines) :
    (∀ character ∈ text, isPlain character = true ∨ character = '\n') ∧
      longestRun '\'' 0 text ≤ 2 := by
  have conditions : text.any needsEscape = false ∧ longestRun '\'' 0 text ≤ 2 := by
    grind [form]
  exact ⟨fun character => isPlain_of_any_needsEscape conditions.1, conditions.2⟩

theorem frontRun_of_head?_ne {quote : Char} {text : List Char} (other : text.head? ≠ some quote) :
    frontRun quote text = 0 := by
  cases text with
  | nil => rfl
  | cons first text => exact frontRun_of_ne (by simpa using other) text

theorem read_basic {text : List Char} (few : frontRun '"' text < 2) :
    read ('"' :: text) = basic text := by
  rw [read.eq_def]
  split
  case h_1 shape => cases shape; exact absurd few (Nat.not_lt.2 (two_le_frontRun _ _))
  case h_2 shape => cases shape; rfl
  all_goals simp_all

theorem read_literal {text : List Char} (other : text.head? ≠ some '\'') :
    read ('\'' :: text) = literal text := by
  rw [read.eq_def]
  split <;> simp_all

/-- The marks of a text in one line begin with no quote, and behind an empty text one stands. -/
theorem frontRun_basic_le (text : List Char) {rest : List Char} (other : rest.head? ≠ some '"') :
    frontRun '"' (escaped false 0 text ++ '"' :: rest) < 2 := by
  cases text with
  | nil => simp [escaped, frontRun_of_head?_ne other]
  | cons character text =>
      rw [escaped_cons (by simp), List.append_assoc, frontRun_mark (mark_escaped false character)]
      decide

theorem write_eq_cons (text : List Char) :
    ∃ quote behind, write text = quote :: behind ∧ (quote = '"' ∨ quote = '\'') := by
  rw [write]
  split
  case h_1 => exact ⟨_, _, rfl, .inl rfl⟩
  case h_2 => exact ⟨_, _, rfl, .inr rfl⟩
  case h_3 => exact ⟨_, _, rfl, .inl rfl⟩
  case h_4 => exact ⟨_, _, rfl, .inr rfl⟩

/-- A string is read back as it was written, unless a quote stands right behind it. -/
theorem read_write (text : List Char) {rest : List Char} (noDouble : rest.head? ≠ some '"')
    (noSingle : rest.head? ≠ some '\'') : read (write text ++ rest) = some (text, rest) := by
  rw [write]
  split
  case h_1 chosen =>
    simpa using (read_basic (frontRun_basic_le text noDouble)).trans (basic_escaped 0 text rest)
  case h_2 chosen =>
    obtain ⟨filled, plain⟩ := literal_of_form chosen
    obtain ⟨first, behind, rfl⟩ := List.exists_cons_of_ne_nil filled
    have other : (first :: behind ++ '\'' :: rest).head? ≠ some '\'' := by
      simpa using (plain first List.mem_cons_self).2
    simpa using (read_literal other).trans (literal_append plain rest)
  case h_3 chosen =>
    have spelled := spelled_escaped 0 text
    simpa [read] using
      spelled.read_dropLineBreak closedBy_basicLines (by decide) (by decide) noDouble
  case h_4 chosen =>
    obtain ⟨plain, few⟩ := literalLines_of_form chosen
    have spelled := spelled_literalLines plain few
    simpa [read] using
      spelled.read_dropLineBreak closedBy_literalLines (by decide) (by decide) noSingle

/-- With both kinds of quotes in it, a text that looks like an escape stands in several lines. -/
example : write "it's \"x\\n\"".toList = "'''it's \"x\\n\"'''".toList := by decide

end DocumentProtocol.Toml.Quoted
