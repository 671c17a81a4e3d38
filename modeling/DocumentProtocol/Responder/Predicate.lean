import DocumentProtocol.Decimal.Binary64
import DocumentProtocol.Document.Basic

/-!
# Predicates on queries

A responder says which queries it answers by a predicate on the query document. The predicates here
look for a name in the document, for a truthy value under a name, or at the name of the command.

A value is truthy unless it is false, zero in one of the three binary number kinds, the empty
string, null or undefined.
-/

namespace DocumentProtocol

/-- Whether a value counts as true. -/
def Value.isTruthy : Value → Bool
  | .boolean flag => flag
  | .int32 number => number ≠ 0
  | .int64 number => number ≠ 0
  | .double bits => !Binary64.isZero bits
  | .string text => text ≠ ""
  | .null => false
  | .undefined => false
  | _ => true

/-- A condition on the query document of a request. -/
abbrev Predicate := Document → Bool

namespace Predicate

def hasKey (key : String) : Predicate := fun query => query.hasKey key

def isTrue (key : String) : Predicate := fun query => (query.find? key).any Value.isTruthy

def firstKeyIs (name : String) : Predicate := fun query => query.commandName = name

def firstKeyIn (names : List String) : Predicate := fun query => names.contains query.commandName

def any : Predicate := fun _ => true

end Predicate

end DocumentProtocol
