/-!
# Spans of code points

A character class is given by the ascending list of the code point spans that make it up, each
with its first and its last member.
-/

namespace Companion.Unicode

def covers (spans : List (Nat × Nat)) (c : Char) : Bool :=
  spans.any fun span => span.1 ≤ c.toNat && c.toNat ≤ span.2

theorem covers_eq_true_iff (spans : List (Nat × Nat)) (c : Char) :
    covers spans c = true ↔ ∃ span ∈ spans, span.1 ≤ c.toNat ∧ c.toNat ≤ span.2 := by
  simp [covers]

end Companion.Unicode
