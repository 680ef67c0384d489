import Companion.Mismatch

/-!
# Plain parts of JSON values

Readers for the parts that descriptors and settings are made of.
-/

namespace Companion.Json.Value

def mismatch {α : Type} (value : Value) (wanted : Wanted) : Except Mismatch α :=
  .error (.wrongType (.ofValue value) wanted)

def text : Value → Except Mismatch String
  | .string text => .ok text
  | value => value.mismatch .text

def optionalText : Value → Except Mismatch (Option String)
  | .null => .ok none
  | .string text => .ok (some text)
  | value => value.mismatch .text

def truth : Value → Except Mismatch Bool
  | .bool value => .ok value
  | value => value.mismatch .truth

def size : Value → Except Mismatch Nat
  | .number (.integer (.ofNat n)) => .ok n
  | .number (.integer (.negSucc n)) =>
      .error (.wrongValue (.number (.integer (.negSucc n))) .size)
  | value => value.mismatch .size

def list {α : Type} (item : Value → Except Mismatch α) : Value → Except Mismatch (List α)
  | .array items => items.mapM item
  | value => value.mismatch .list

def nothing : Value → Except Mismatch Unit
  | .null => .ok ()
  | value => value.mismatch .nothing

end Companion.Json.Value
