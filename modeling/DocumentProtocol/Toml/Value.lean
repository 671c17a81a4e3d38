import DocumentProtocol.Toml.Quoted
import DocumentProtocol.Toml.Scalar

/-!
# Keys and values of a settings text

A key is one or more names with points between them; a name is bare or between quotes. A value is a
plain value, a string, an array or an inline table. An array may stretch over several lines with
comments on them and may end with a comma; an inline table may not.

Keys have at most 79 names, and arrays and inline tables nest at most 79 deep, so that reading a
value is a recursion on the depth that is left.
-/

namespace DocumentProtocol.Toml

/-- A reader of something at the front of a text: what it found, and the rest. -/
abbrev Reader (α : Type) := List Char → Option (α × List Char)

def skipBlanks (text : List Char) : List Char := text.dropWhile isBlank

/-- A text without the blanks, line breaks and comments at its front. -/
def skipLines (inComment : Bool) : List Char → Option (List Char)
  | [] => some []
  | '\n' :: rest => skipLines false rest
  | '\r' :: '\n' :: rest => skipLines false rest
  | character :: rest =>
      if inComment then (if isPlain character then skipLines true rest else none)
      else if isBlank character then skipLines false rest
      else if character = '#' then skipLines true rest
      else some (character :: rest)

/-! ### Keys -/

structure Key where
  path : List String
  last : String
  deriving DecidableEq, Repr

namespace Key

/-- The most names that a key may have, and the most containers around a value. -/
def depthLimit : Nat := 79

def isBare (character : Char) : Bool :=
  character.isAlphanum || character = '_' || character = '-'

def readBare : Reader String := fun text =>
  let name := text.takeWhile isBare
  if name = [] then none else some (String.ofList name, text.dropWhile isBare)

def readName : Reader String := fun text =>
  match text with
  | '"' :: _ => (Quoted.readKey text).map fun (name, rest) => (String.ofList name, rest)
  | '\'' :: _ => (Quoted.readKey text).map fun (name, rest) => (String.ofList name, rest)
  | _ => readBare text

def readNames : (limit : Nat) → Reader Key
  | 0, _ => none
  | limit + 1, text => do
      let (name, rest) ← readName (skipBlanks text)
      match skipBlanks rest with
      | '.' :: rest =>
          let (key, rest) ← readNames limit rest
          return (⟨name :: key.path, key.last⟩, rest)
      | rest => return (⟨[], name⟩, rest)

def read : Reader Key := readNames depthLimit

end Key

/-! ### Values -/

namespace Node

def readEntry (value : Reader Node) : Reader (Key × Node) := fun text => do
  let (key, rest) ← Key.read text
  match rest with
  | '=' :: rest =>
      let (node, rest) ← value (skipBlanks rest)
      return ((key, node), skipBlanks rest)
  | _ => none

/-- Reads the rest of an array from where an item or the closing bracket may come. -/
def readItems (value : Reader Node) : (fuel : Nat) → Reader (List Node)
  | 0, _ => none
  | fuel + 1, text => do
      match ← skipLines false text with
      | ']' :: rest => return ([], rest)
      | text =>
          let (item, rest) ← value text
          match ← skipLines false rest with
          | ']' :: rest => return ([item], rest)
          | ',' :: rest =>
              let (items, rest) ← readItems value fuel rest
              return (item :: items, rest)
          | _ => none

def readEntries (value : Reader Node) : (fuel : Nat) → Entries → Reader Entries
  | 0, _, _ => none
  | fuel + 1, entries, text => do
      let ((key, node), rest) ← readEntry value text
      let entries ← entries.addDotted? key.last node key.path
      match rest with
      | '}' :: rest => return (entries, rest)
      | ',' :: rest => readEntries value fuel entries rest
      | _ => none

def readInline (value : Reader Node) : Reader Entries := fun text =>
  match skipBlanks text with
  | '}' :: rest => some ([], rest)
  | text => readEntries value text.length [] text

/-- Reads a value in which containers nest at most so deep. -/
def readNested : (depth : Nat) → Reader Node
  | _, '"' :: rest =>
      (Quoted.read ('"' :: rest)).map fun (text, rest) => (.string (String.ofList text), rest)
  | _, '\'' :: rest =>
      (Quoted.read ('\'' :: rest)).map fun (text, rest) => (.string (String.ofList text), rest)
  | 0, text => Scalar.read text
  | depth + 1, '[' :: rest =>
      (readItems (readNested depth) (rest.length + 1) rest).map fun (items, rest) =>
        (.array items, rest)
  | depth + 1, '\x7b' :: rest =>
      (readInline (readNested depth) rest).map fun (entries, rest) => (.table .inline entries, rest)
  | _, text => Scalar.read text

def read : Reader Node := readNested Key.depthLimit

end Node

end DocumentProtocol.Toml
