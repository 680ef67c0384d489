import Companion.Decimal.Double

/-!
# JSON values

A value as it is held in memory. An object keeps its members in order and may hold a name several
times; `canonical` sorts the members by name and keeps the last one of each name.
-/

namespace Companion.Json

/-- A number is an integer if it is written as one and fits 64 bits, else a double. -/
inductive Number where
  | integer (value : Int)
  | double (value : Double)
deriving DecidableEq, Repr

inductive Value where
  | null
  | bool (value : Bool)
  | number (value : Number)
  | string (value : String)
  | array (items : List Value)
  | object (members : List (String × Value))
deriving Repr, Inhabited

namespace Value

/-- Adds a member to a sorted list of members, in place of one of the same name. -/
def insertMember (name : String) (value : Value) :
    List (String × Value) → List (String × Value)
  | [] => [(name, value)]
  | (other, held) :: rest =>
      if name < other then (name, value) :: (other, held) :: rest
      else if name = other then (name, value) :: rest
      else (other, held) :: insertMember name value rest

mutual

/-- The value with the members of all objects in ascending order of their names, each name once. -/
def canonical : Value → Value
  | .array items => .array (canonicalItems items)
  | .object members => .object (canonicalMembers [] members)
  | value => value

def canonicalItems : List Value → List Value
  | [] => []
  | item :: rest => item.canonical :: canonicalItems rest

def canonicalMembers (sorted : List (String × Value)) :
    List (String × Value) → List (String × Value)
  | [] => sorted
  | (name, value) :: rest => canonicalMembers (insertMember name value.canonical sorted) rest

end

def member? (value : Value) (name : String) : Option Value :=
  match value with
  | .object members => members.lookup name
  | _ => none

end Value

end Companion.Json
