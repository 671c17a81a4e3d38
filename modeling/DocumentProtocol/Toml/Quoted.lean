import DocumentProtocol.Decimal.Numeral

/-!
# Strings of a settings text

A string is written in one of four forms: between double quotes with escapes, between single quotes
as it is, and both forms between triple quotes over several lines. A line break right after an
opening triple quote does not count, and every line break inside counts as a line feed. Up to two
quotes may stand before a closing triple quote; they belong to the string. In the form with
escapes, a backslash at the end of a line swallows all blanks and line breaks up to the next other
character.

`Quoted.write` chooses the form in which a string is written: as it is between double quotes if
nothing in it needs an escape, else between single quotes, else between triple quotes of the one or
the other kind, and with escapes if nothing else is left.
-/

namespace DocumentProtocol.Toml

def isBlank (character : Char) : Bool := character = ' ' || character = '\t'

/-- Whether a character may stand in a comment: a tab, or anything that is no control character. -/
def isPlain (character : Char) : Bool :=
  character = '\t' || (' ' ≤ character && character ≠ '\x7f')

namespace Quoted

def escape? : Char → Option Char
  | 'b' => some '\x08'
  | 't' => some '\t'
  | 'n' => some '\n'
  | 'f' => some '\x0c'
  | 'r' => some '\r'
  | '"' => some '"'
  | '\\' => some '\\'
  | _ => none

def scalar? (digits : List Char) : Option Char :=
  (Numeral.digits? 16 digits).bind fun number =>
    if number.isValidChar then some (Char.ofNat number) else none

/-- The text of a string between double quotes, from behind the opening quote, and the rest. -/
def basic : List Char → Option (List Char × List Char)
  | [] => none
  | '"' :: rest => some ([], rest)
  | '\\' :: mark :: rest =>
      match escape? mark with
      | some character => (basic rest).map fun (text, rest) => (character :: text, rest)
      | none =>
          if mark = 'u' then
            match rest with
            | a :: b :: c :: d :: rest =>
                (scalar? [a, b, c, d]).bind fun character =>
                  (basic rest).map fun (text, rest) => (character :: text, rest)
            | _ => none
          else if mark = 'U' then
            match rest with
            | a :: b :: c :: d :: e :: f :: g :: h :: rest =>
                (scalar? [a, b, c, d, e, f, g, h]).bind fun character =>
                  (basic rest).map fun (text, rest) => (character :: text, rest)
            | _ => none
          else none
  | character :: rest =>
      if isPlain character ∧ character ≠ '\\' then
        (basic rest).map fun (text, rest) => (character :: text, rest)
      else none

def literal : List Char → Option (List Char × List Char)
  | [] => none
  | '\'' :: rest => some ([], rest)
  | character :: rest =>
      if isPlain character then (literal rest).map fun (text, rest) => (character :: text, rest)
      else none

/-- The quotes, at most two, that belong to a string although they follow its closing quotes. -/
def closing (quote : Char) : List Char → List Char × List Char
  | first :: second :: rest =>
      if first = quote ∧ second = quote then ([quote, quote], rest)
      else if first = quote then ([quote], second :: rest)
      else ([], first :: second :: rest)
  | [first] => if first = quote then ([quote], []) else ([], [first])
  | [] => ([], [])

def endsLine (text : List Char) : Bool :=
  match text.dropWhile isBlank with
  | '\n' :: _ => true
  | '\r' :: '\n' :: _ => true
  | _ => false

/-- The text of a string between triple double quotes; `trimming` while blanks are swallowed. -/
def basicLines (trimming : Bool) : List Char → Option (List Char × List Char)
  | [] => none
  | '\n' :: rest =>
      if trimming then basicLines true rest
      else (basicLines false rest).map fun (text, rest) => ('\n' :: text, rest)
  | '\r' :: '\n' :: rest =>
      if trimming then basicLines true rest
      else (basicLines false rest).map fun (text, rest) => ('\n' :: text, rest)
  | '"' :: '"' :: '"' :: rest => some (closing '"' rest)
  | '\\' :: mark :: rest =>
      if endsLine (mark :: rest) then
        if isBlank mark then basicLines true rest
        else if mark = '\n' then basicLines true rest
        else
          match rest with
          | '\n' :: rest => basicLines true rest
          | _ => none
      else
        match escape? mark with
        | some character =>
            (basicLines false rest).map fun (text, rest) => (character :: text, rest)
        | none =>
            if mark = 'u' then
              match rest with
              | a :: b :: c :: d :: rest =>
                  (scalar? [a, b, c, d]).bind fun character =>
                    (basicLines false rest).map fun (text, rest) => (character :: text, rest)
              | _ => none
            else if mark = 'U' then
              match rest with
              | a :: b :: c :: d :: e :: f :: g :: h :: rest =>
                  (scalar? [a, b, c, d, e, f, g, h]).bind fun character =>
                    (basicLines false rest).map fun (text, rest) => (character :: text, rest)
              | _ => none
            else none
  | character :: rest =>
      if trimming ∧ isBlank character then basicLines true rest
      else if isPlain character ∧ character ≠ '\\' then
        (basicLines false rest).map fun (text, rest) => (character :: text, rest)
      else none

def literalLines : List Char → Option (List Char × List Char)
  | [] => none
  | '\n' :: rest => (literalLines rest).map fun (text, rest) => ('\n' :: text, rest)
  | '\r' :: '\n' :: rest => (literalLines rest).map fun (text, rest) => ('\n' :: text, rest)
  | '\'' :: '\'' :: '\'' :: rest => some (closing '\'' rest)
  | character :: rest =>
      if isPlain character then
        (literalLines rest).map fun (text, rest) => (character :: text, rest)
      else none

def dropLineBreak : List Char → List Char
  | '\n' :: rest => rest
  | '\r' :: '\n' :: rest => rest
  | text => text

def read : List Char → Option (List Char × List Char)
  | '"' :: '"' :: '"' :: rest => basicLines false (dropLineBreak rest)
  | '"' :: rest => basic rest
  | '\'' :: '\'' :: '\'' :: rest => literalLines (dropLineBreak rest)
  | '\'' :: rest => literal rest
  | _ => none

def readKey : List Char → Option (List Char × List Char)
  | '"' :: rest => basic rest
  | '\'' :: rest => literal rest
  | _ => none

/-! ### Writing -/

def needsEscape (character : Char) : Bool :=
  (character < ' ' && character ≠ '\t' && character ≠ '\n') || character = '\x7f'

/-- The length of the longest run of a character, `run` of which stand before the text. -/
def longestRun (quote : Char) (run : Nat) : List Char → Nat
  | [] => run
  | character :: rest =>
      if character = quote then longestRun quote (run + 1) rest
      else max run (longestRun quote 0 rest)

def hexDigit (digit : Nat) : Char :=
  if digit < 10 then Char.ofNat ('0'.toNat + digit) else Char.ofNat ('A'.toNat + digit - 10)

def byNumber (character : Char) : List Char :=
  ['\\', 'u', '0', '0', hexDigit (character.toNat / 16), hexDigit (character.toNat % 16)]

/--
A text with escapes. In several lines, line feeds stay and so do up to two quotes in a row; `run` is
the number of unescaped quotes just before the text.
-/
def escaped (lines : Bool) (run : Nat) : List Char → List Char
  | [] => []
  | '"' :: rest =>
      if lines ∧ run < 2 then '"' :: escaped lines (run + 1) rest
      else '\\' :: '"' :: escaped lines 0 rest
  | '\\' :: rest => '\\' :: '\\' :: escaped lines 0 rest
  | '\x08' :: rest => '\\' :: 'b' :: escaped lines 0 rest
  | '\t' :: rest => '\\' :: 't' :: escaped lines 0 rest
  | '\n' :: rest =>
      if lines then '\n' :: escaped lines 0 rest else '\\' :: 'n' :: escaped lines 0 rest
  | '\x0c' :: rest => '\\' :: 'f' :: escaped lines 0 rest
  | '\r' :: rest => '\\' :: 'r' :: escaped lines 0 rest
  | character :: rest =>
      if needsEscape character then byNumber character ++ escaped lines 0 rest
      else character :: escaped lines 0 rest

/-- The forms in which a string can be written. -/
inductive Form where
  | basic
  | literal
  | basicLines
  | literalLines
  deriving DecidableEq, Repr

def form (text : List Char) : Form :=
  let control := text.any needsEscape
  let backslash := text.contains '\\'
  let lines := text.contains '\n'
  let double := longestRun '"' 0 text
  let single := longestRun '\'' 0 text
  if !control ∧ !backslash ∧ double = 0 ∧ !lines then .basic
  else if !control ∧ single = 0 ∧ !lines then .literal
  else if !control ∧ !backslash ∧ double ≤ 2 then .basicLines
  else if !control ∧ single ≤ 2 then .literalLines
  else if lines then .basicLines
  else .basic

def write (text : List Char) : List Char :=
  let start := if text.contains '\n' then ['\n'] else []
  match form text with
  | .basic => '"' :: escaped false 0 text ++ ['"']
  | .literal => '\'' :: text ++ ['\'']
  | .basicLines => ['"', '"', '"'] ++ start ++ escaped true 0 text ++ ['"', '"', '"']
  | .literalLines => ['\'', '\'', '\''] ++ start ++ text ++ ['\'', '\'', '\'']

end Quoted

end DocumentProtocol.Toml
