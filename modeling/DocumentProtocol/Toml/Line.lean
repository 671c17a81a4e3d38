import DocumentProtocol.Toml.Value

/-!
# Lines of a settings text

A settings text is a run of lines: empty ones, headers that open a table or a further table of a
list, and entries for the table that was opened last. Each may end in a comment. A value may itself
contain line breaks, so a line ends where its value has been read, not at the first line break.

`Entries.ofText?` builds the table that a whole text describes. A byte-order mark at its front does
not count.
-/

namespace DocumentProtocol.Toml

/-- A line of a settings text. -/
inductive Line where
  | empty
  | table (key : Key)
  | element (key : Key)
  | entry (key : Key) (node : Node)

namespace Line

def finish? (text : List Char) : Option (List Char) :=
  let text := skipBlanks text
  let text := if text.head? = some '#' then text.dropWhile isPlain else text
  match text with
  | [] => some []
  | '\n' :: rest => some rest
  | '\r' :: '\n' :: rest => some rest
  | _ => none

def readContent : Reader Line := fun text =>
  match skipBlanks text with
  | [] => some (.empty, [])
  | '#' :: rest => some (.empty, '#' :: rest)
  | '\n' :: rest => some (.empty, '\n' :: rest)
  | '\r' :: rest => some (.empty, '\r' :: rest)
  | '[' :: '[' :: rest =>
      match Key.read rest with
      | some (key, ']' :: ']' :: rest) => some (.element key, rest)
      | _ => none
  | '[' :: rest =>
      match Key.read rest with
      | some (key, ']' :: rest) => some (.table key, rest)
      | _ => none
  | text => (Node.readEntry Node.read text).map fun ((key, node), rest) => (.entry key node, rest)

def read : Reader Line := fun text => do
  let (line, rest) ← readContent text
  return (line, ← finish? rest)

/-- The table under construction after a line. -/
def addTo? (builder : Builder) : Line → Option Builder
  | empty => some builder
  | table key => builder.openTable? key.path key.last
  | element key => builder.openElement? key.path key.last
  | entry key node => builder.add? key.path key.last node

/-- The lines of a text, each of which takes at least one character. -/
def readAll? : (fuel : Nat) → List Char → Option (List Line)
  | _, [] => some []
  | 0, _ => none
  | fuel + 1, text => do
      let (line, rest) ← read text
      return line :: (← readAll? fuel rest)

end Line

def skipByteOrderMark : List Char → List Char
  | '\uFEFF' :: rest => rest
  | text => text

/-- The table that a text describes. -/
def Entries.ofText? (text : String) : Option Entries := do
  let text := skipByteOrderMark text.toList
  let lines ← Line.readAll? text.length text
  let builder ← lines.foldlM Line.addTo? ({} : Builder)
  builder.finish?

end DocumentProtocol.Toml
