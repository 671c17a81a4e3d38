import DocumentProtocol.Decimal.Numeral

/-!
# Socket addresses

An address to listen on is an IPv4 or IPv6 address and a port, written `192.0.2.1:80` or
`[2001:db8::1]:80`. The four numbers of an IPv4 address have no leading zeros. The eight groups of
an IPv6 address have up to four hexadecimal digits; one `::` stands for one or more groups of zero,
the last two groups may be written as an IPv4 address, and a `%` and a number may name a scope. A
port has any number of digits.

Readers here take what they can off the front of a text and answer with the rest.
-/

namespace DocumentProtocol

/-- An address and a port. -/
inductive SocketAddress where
  | v4 (octets : List Nat) (port : Nat)
  | v6 (groups : List Nat) (scope port : Nat)
  deriving DecidableEq, Repr

namespace SocketAddress

abbrev Reader (α : Type) := List Char → Option (α × List Char)

def character (expected : Char) : Reader Unit
  | [] => none
  | first :: rest => if first = expected then some ((), rest) else none

def isDigit (base : Nat) (character : Char) : Bool := (Numeral.digit? base character).isSome

def number (base bound : Nat) : Reader Nat := fun text =>
  ((Numeral.digits? base (text.takeWhile (isDigit base))).filter (· < bound)).map fun value =>
    (value, text.dropWhile (isDigit base))

/-- Reads a number from 0 to 255 without leading zeros. -/
def octet : Reader Nat := fun text =>
  let digits := text.takeWhile (isDigit 10)
  if digits.length ≤ 3 ∧ (digits.length = 1 ∨ digits.head? ≠ some '0') then number 10 256 text
  else none

def group : Reader Nat := fun text =>
  if (text.takeWhile (isDigit 16)).length ≤ 4 then number 16 65536 text else none

/-- Reads a part that comes after a separator unless it is the first. -/
def separated {α : Type} (separator : Char) (first : Bool) (part : Reader α) : Reader α :=
  fun text =>
    if first then part text else (character separator text).bind fun (_, rest) => part rest

def ipv4 : Reader (List Nat) := fun text => do
  let (one, text) ← octet text
  let (two, text) ← separated '.' false octet text
  let (three, text) ← separated '.' false octet text
  let (four, text) ← separated '.' false octet text
  return ([one, two, three, four], text)

/--
Reads as many groups as there are, at most `limit`, and says whether the last two were written as an
IPv4 address. That form is tried before every group that leaves room for it.
-/
def groups (first : Bool) : (limit : Nat) → List Char → List Nat × Bool × List Char
  | 0, text => ([], false, text)
  | limit + 1, text =>
      let embedded := if 1 ≤ limit then separated ':' first ipv4 text else none
      match embedded with
      | some (octets, rest) =>
          let word (high low : Nat) := octets.getD high 0 * 256 + octets.getD low 0
          ([word 0 1, word 2 3], true, rest)
      | none =>
          match separated ':' first group text with
          | none => ([], false, text)
          | some (value, rest) =>
              let (others, embedded, rest) := groups false limit rest
              (value :: others, embedded, rest)

/-- Reads an IPv6 address. -/
def ipv6 : Reader (List Nat) := fun text =>
  let (front, embedded, rest) := groups true 8 text
  if front.length = 8 then some (front, rest)
  else if embedded then none
  else do
    let (_, rest) ← character ':' rest
    let (_, rest) ← character ':' rest
    let (back, _, rest) := groups true (7 - front.length) rest
    return (front ++ List.replicate (8 - front.length - back.length) 0 ++ back, rest)

def portNumber : Reader Nat := fun text => do
  let (_, rest) ← character ':' text
  number 10 65536 rest

def scopeNumber : Reader Nat := fun text =>
  let scope := (character '%' text).bind fun (_, rest) => number 10 UInt32.size rest
  some (scope.getD (0, text))

def socketV4 : Reader SocketAddress := fun text => do
  let (octets, text) ← ipv4 text
  let (port, text) ← portNumber text
  return (.v4 octets port, text)

def socketV6 : Reader SocketAddress := fun text => do
  let (_, text) ← character '[' text
  let (groups, text) ← ipv6 text
  let (scope, text) ← scopeNumber text
  let (_, text) ← character ']' text
  let (port, text) ← portNumber text
  return (.v6 groups scope port, text)

def parse? (text : String) : Option SocketAddress :=
  match socketV4 text.toList with
  | some (address, []) => some address
  | some _ => none
  | none =>
      match socketV6 text.toList with
      | some (address, []) => some address
      | _ => none

end SocketAddress

end DocumentProtocol
