import Companion.Report
import Companion.Json.Value
import Companion.Text.Quoted
import Companion.Decimal.Notation

/-!
# Mismatches

What is wrong with a well-formed value that is not the value asked for: a part of the wrong type,
a list of the wrong length, or a name that is unknown, missing or repeated.
-/

namespace Companion

inductive Found where
  | null
  | bool (value : Bool)
  | number (value : Json.Number)
  | string (value : String)
  | sequence
  | map
deriving DecidableEq, Repr

namespace Found

def ofValue : Json.Value → Found
  | .null => .null
  | .bool value => .bool value
  | .number value => .number value
  | .string value => .string value
  | .array _ => .sequence
  | .object _ => .map

def describe : Found → String
  | .null => "null"
  | .bool value => "boolean `" ++ toString value ++ "`"
  | .number (.integer value) => "integer `" ++ toString value ++ "`"
  | .number (.double value) => "floating point `" ++ Decimal.text value ++ "`"
  | .string value => "string " ++ Text.quoted value
  | .sequence => "sequence"
  | .map => "map"

end Found

inductive Wanted where
  | text
  | truth
  | size
  | list
  | nothing
  | descriptor
  | property
  | settings
  | kind
  | singleMember
  | descriptorItems
  | propertyItems
  | fewerItems
deriving DecidableEq, Repr

def Wanted.describe : Wanted → String
  | .text => "a string"
  | .truth => "a boolean"
  | .size => "usize"
  | .list => "a sequence"
  | .nothing => "unit"
  | .descriptor => "struct TypeDescriptor"
  | .property => "struct Property"
  | .settings => "struct EntityCodegenConfig"
  | .kind => "string or map"
  | .singleMember => "map with a single key"
  | .descriptorItems => "struct TypeDescriptor with 6 elements"
  | .propertyItems => "struct Property with 3 elements"
  | .fewerItems => "fewer elements in array"

inductive Mismatch where
  | wrongType (found : Found) (wanted : Wanted)
  | wrongValue (found : Found) (wanted : Wanted)
  | wrongLength (length : Nat) (wanted : Wanted)
  | unknownVariant (name : String) (known : List String)
  | unknownField (name : String) (known : List String)
  | missingField (name : String)
  | duplicateField (name : String)
  | invalidTypeRef (refusal : TypeRef.Refusal)
deriving DecidableEq, Repr

namespace Mismatch

def accented (name : String) : String :=
  "`" ++ name ++ "`"

def listed (names : List String) : String :=
  ", ".intercalate (names.map accented)

def message : Mismatch → String
  | .wrongType found wanted =>
      "invalid type: " ++ found.describe ++ ", expected " ++ wanted.describe
  | .wrongValue found wanted =>
      "invalid value: " ++ found.describe ++ ", expected " ++ wanted.describe
  | .wrongLength length wanted =>
      "invalid length " ++ toString length ++ ", expected " ++ wanted.describe
  | .unknownVariant name known =>
      "unknown variant " ++ accented name ++ ", expected one of " ++ listed known
  | .unknownField name known =>
      "unknown field " ++ accented name ++ ", expected one of " ++ listed known
  | .missingField name => "missing field " ++ accented name
  | .duplicateField name => "duplicate field " ++ accented name
  | .invalidTypeRef refusal => refusal.report.message

end Mismatch

end Companion
