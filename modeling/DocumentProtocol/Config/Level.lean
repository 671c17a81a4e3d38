import DocumentProtocol.Config.Basic
import DocumentProtocol.Decimal.Numeral

/-!
# Log levels by name

A level has a word and a number, from 1 for errors to 5 for traces. It is read from its word in any
case of the ASCII letters or from a numeral of its number, and shown as its word.
-/

namespace DocumentProtocol

namespace LogLevel

def all : List LogLevel := [.error, .warn, .info, .debug, .trace]

def word : LogLevel → String
  | .error => "error"
  | .warn => "warn"
  | .info => "info"
  | .debug => "debug"
  | .trace => "trace"

def upperWord : LogLevel → String
  | .error => "ERROR"
  | .warn => "WARN"
  | .info => "INFO"
  | .debug => "DEBUG"
  | .trace => "TRACE"

/-- The number of a level: how many levels say no more. -/
def rank : LogLevel → Nat
  | .error => 1
  | .warn => 2
  | .info => 3
  | .debug => 4
  | .trace => 5

def lowerCase (text : String) : String := String.ofList (text.toList.map Char.toLower)

def ofText? (text : String) : Option LogLevel :=
  match Numeral.naturalBelow? UInt64.size text with
  | some number => all.find? fun level => level.rank = number
  | none => all.find? fun level => level.word = lowerCase text

/-- Whether a log at some level shows messages of another. -/
def shows (threshold level : LogLevel) : Bool := level.rank ≤ threshold.rank

end LogLevel

end DocumentProtocol
