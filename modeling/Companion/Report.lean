import Companion.Descriptor.Validation

/-!
# Failures as they are reported

A failure in building or rendering a companion is shown as one line of text. A line begins with
words that tell its kind, and continues with what went wrong.
-/

namespace Companion

inductive Report where
  | invalidArgument (message : String)
  | invalidTypeRef (reference reason : String)
  | template (name message : String)
  | format (message : String)
deriving DecidableEq, Repr

namespace Report

def message : Report → String
  | .invalidArgument text => s!"Invalid argument: {text}"
  | .invalidTypeRef reference reason => s!"Invalid type reference '{reference}': {reason}"
  | .template name text => s!"Template error in '{name}': {text}"
  | .format text => s!"Format error: {text}"

end Report

def TypeRef.Refusal.report (refusal : TypeRef.Refusal) : Report :=
  .invalidTypeRef refusal.reference refusal.flaw.reason

def Descriptor.Defect.report (defect : Descriptor.Defect) : Report :=
  .invalidArgument defect.message

end Companion
