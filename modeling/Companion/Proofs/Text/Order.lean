/-!
# The order of texts

Texts are held in UTF-8 and are ordered by code points. Comparing their bytes comes to the same. The
encodings of two different characters differ at some byte before either ends, and the character with
the smaller code point has the smaller byte there, so the first two characters that differ decide.
-/

namespace Companion.Text

def codePoints (text : String) : List Nat :=
  text.toList.map Char.toNat

def bytes (text : String) : List UInt8 :=
  text.toByteArray.data.toList

theorem bytes_eq_flatMap (text : String) :
    bytes text = text.toList.flatMap String.utf8EncodeChar := by
  rw [bytes, ← String.utf8Encode_toList, List.utf8Encode, List.data_toByteArray]

/-- Two sequences of bytes differ before either ends, and the first one has the smaller byte there. -/
inductive Precedes : List UInt8 → List UInt8 → Prop where
  | here {x y : UInt8} {xs ys : List UInt8} (less : x < y) : Precedes (x :: xs) (y :: ys)
  | later {x : UInt8} {xs ys : List UInt8} (rest : Precedes xs ys) : Precedes (x :: xs) (x :: ys)

namespace Precedes

variable {xs ys : List UInt8}

/-- What follows the difference plays no part. -/
theorem append (before : Precedes xs ys) (s t : List UInt8) : Precedes (xs ++ s) (ys ++ t) := by
  induction before with
  | here less => exact here less
  | later rest ih => exact later ih

theorem append_left (start : List UInt8) (before : Precedes xs ys) :
    Precedes (start ++ xs) (start ++ ys) := by
  induction start with
  | nil => exact before
  | cons x rest ih => exact later ih

theorem compare_eq_lt (before : Precedes xs ys) : compare xs ys = .lt := by
  induction before with
  | here less => rw [List.compare_cons_cons, Std.compare_eq_lt.mpr less, Ordering.lt_then]
  | later rest ih => rw [List.compare_cons_cons, Std.ReflOrd.compare_self, Ordering.eq_then, ih]

theorem compare_eq_gt (after : Precedes ys xs) : compare xs ys = .gt := by
  rw [Std.OrientedOrd.eq_swap, after.compare_eq_lt]
  rfl

end Precedes

/-- A number in digits of six bits: the leading digit with a mark, and the given number of digits
behind it, each with the mark of a continuation. -/
def sixBits (mark : Nat) : Nat → Nat → List UInt8
  | 0, value => [UInt8.ofNat (value + mark)]
  | behind + 1, value => sixBits mark behind (value / 64) ++ [UInt8.ofNat (value % 64 + 128)]

def leadingDigit : Nat → Nat → Nat
  | 0, value => value
  | behind + 1, value => leadingDigit behind (value / 64)

theorem ofNat_lt_ofNat {m n : Nat} (less : m < n) (small : n < 256) :
    UInt8.ofNat m < UInt8.ofNat n := by
  rw [UInt8.lt_iff_toNat_lt, UInt8.toNat_ofNat_of_lt' small,
    UInt8.toNat_ofNat_of_lt' (Nat.lt_trans less small)]
  exact less

theorem exists_sixBits_eq_cons (mark behind value : Nat) :
    ∃ rest, sixBits mark behind value = UInt8.ofNat (leadingDigit behind value + mark) :: rest := by
  induction behind generalizing value with
  | zero => exact ⟨[], rfl⟩
  | succ behind ih =>
      obtain ⟨rest, lead⟩ := ih (value / 64)
      rw [sixBits, lead]
      exact ⟨_, rfl⟩

/-- Of two numbers with equally many digits the smaller one comes first. -/
theorem precedes_sixBits {mark behind m n : Nat} (less : m < n)
    (small : leadingDigit behind n + mark < 256) :
    Precedes (sixBits mark behind m) (sixBits mark behind n) := by
  induction behind generalizing m n with
  | zero => exact .here (ofNat_lt_ofNat (Nat.add_lt_add_right less mark) small)
  | succ behind ih =>
      -- Either the numbers differ above the last six bits, or they differ in nothing else.
      by_cases high : m / 64 < n / 64
      · exact (ih high small).append _ _
      · have same : m / 64 = n / 64 := by omega
        have low : m % 64 + 128 < n % 64 + 128 := by omega
        rw [sixBits, sixBits, same]
        exact .append_left _ (.here (ofNat_lt_ofNat low (by omega)))

/-- The mark and the number of continuations that the encoding of a code point has. -/
inductive Encoded : Nat → Nat → Nat → Prop where
  | one {value : Nat} (high : value < 0x80) : Encoded 0 0 value
  | two {value : Nat} (low : 0x80 ≤ value) (high : value < 0x800) : Encoded 0xc0 1 value
  | three {value : Nat} (low : 0x800 ≤ value) (high : value < 0x10000) : Encoded 0xe0 2 value
  | four {value : Nat} (low : 0x10000 ≤ value) (high : value < 0x110000) : Encoded 0xf0 3 value

namespace Encoded

variable {mark behind value : Nat}

theorem lead_lt (encoded : Encoded mark behind value) : leadingDigit behind value + mark < 256 := by
  cases encoded <;> simp only [leadingDigit] <;> omega

theorem mark_eq {other code : Nat} (encoded : Encoded mark behind value)
    (also : Encoded other behind code) : mark = other := by
  cases encoded <;> cases also <;> rfl

/-- The leading byte grows with the number of continuations. -/
theorem lead_lt_lead {other more code : Nat} (encoded : Encoded mark behind value)
    (also : Encoded other more code) (less : value < code) (longer : behind ≠ more) :
    leadingDigit behind value + mark < leadingDigit more code + other := by
  cases encoded <;> cases also <;> simp only [leadingDigit] <;> omega

end Encoded

/-- Every character is encoded in one of the four forms. -/
theorem exists_encoded (c : Char) :
    ∃ mark behind, Encoded mark behind c.toNat ∧
      String.utf8EncodeChar c = sixBits mark behind c.toNat := by
  have bound : c.toNat < 0x110000 := by
    rcases c.valid with low | ⟨_, high⟩
    · exact Nat.lt_trans low (by decide)
    · exact high
  change c.val.toNat < 0x110000 at bound
  -- The leading digit is cut to the bits that are left beside its mark, and loses none by that.
  fun_cases String.utf8EncodeChar c with
  | case1 value one => exact ⟨0, 0, .one (Nat.lt_succ_of_le one), rfl⟩
  | case2 value one two =>
      have lead : value / 64 % 32 = value / 64 := Nat.mod_eq_of_lt (by omega)
      refine ⟨0xc0, 1, .two (Nat.lt_of_not_le one) (Nat.lt_succ_of_le two), ?_⟩
      rw [lead]
      rfl
  | case3 value one two three =>
      have lead : value / 4096 % 16 = value / 64 / 64 := by omega
      refine ⟨0xe0, 2, .three (Nat.lt_of_not_le two) (Nat.lt_succ_of_le three), ?_⟩
      rw [lead]
      rfl
  | case4 value one two three =>
      have lead : value / 262144 % 8 = value / 64 / 64 / 64 := by omega
      have next : value / 4096 = value / 64 / 64 := by omega
      refine ⟨0xf0, 3, .four (Nat.lt_of_not_le three) bound, ?_⟩
      rw [lead, next]
      rfl

/-- Characters are told apart by their encodings as by their code points. -/
theorem precedes_utf8EncodeChar {c d : Char} (less : c.toNat < d.toNat) :
    Precedes (String.utf8EncodeChar c) (String.utf8EncodeChar d) := by
  obtain ⟨mark, behind, encoded, written⟩ := exists_encoded c
  obtain ⟨other, more, also, spelled⟩ := exists_encoded d
  rw [written, spelled]
  by_cases same : behind = more
  · subst same
    cases encoded.mark_eq also
    exact precedes_sixBits less also.lead_lt
  · obtain ⟨rest, lead⟩ := exists_sixBits_eq_cons mark behind c.toNat
    obtain ⟨tail, head⟩ := exists_sixBits_eq_cons other more d.toNat
    rw [lead, head]
    exact .here (ofNat_lt_ofNat (encoded.lead_lt_lead also less same) also.lead_lt)

theorem compare_append_left (start xs ys : List UInt8) :
    compare (start ++ xs) (start ++ ys) = compare xs ys := by
  induction start with
  | nil => rfl
  | cons x rest ih =>
      rw [List.cons_append, List.cons_append, List.compare_cons_cons, Std.ReflOrd.compare_self,
        Ordering.eq_then, ih]

/-- The first two characters that differ decide about the bytes as they decide about the code
points. -/
theorem compare_flatMap_utf8EncodeChar (a b : List Char) :
    compare (a.flatMap String.utf8EncodeChar) (b.flatMap String.utf8EncodeChar) =
      compare (a.map Char.toNat) (b.map Char.toNat) := by
  induction a generalizing b with
  | nil =>
      cases b with
      | nil => rfl
      | cons d b =>
          obtain ⟨first, rest, written⟩ :=
            List.exists_cons_of_ne_nil (String.utf8EncodeChar_ne_nil (c := d))
          rw [List.flatMap_cons, written]
          rfl
  | cons c a ih =>
      cases b with
      | nil =>
          obtain ⟨first, rest, written⟩ :=
            List.exists_cons_of_ne_nil (String.utf8EncodeChar_ne_nil (c := c))
          rw [List.flatMap_cons, written]
          rfl
      | cons d b =>
          rw [List.flatMap_cons, List.flatMap_cons, List.map_cons, List.map_cons,
            List.compare_cons_cons]
          -- Only after equal characters the rest of the texts counts.
          rcases Nat.lt_trichotomy c.toNat d.toNat with less | same | greater
          · have before := (precedes_utf8EncodeChar less).append
              (a.flatMap String.utf8EncodeChar) (b.flatMap String.utf8EncodeChar)
            rw [before.compare_eq_lt, Nat.compare_eq_lt.mpr less, Ordering.lt_then]
          · obtain rfl := Char.toNat_inj.mp same
            rw [compare_append_left, ih, Std.ReflOrd.compare_self, Ordering.eq_then]
          · have before := (precedes_utf8EncodeChar greater).append
              (b.flatMap String.utf8EncodeChar) (a.flatMap String.utf8EncodeChar)
            rw [before.compare_eq_gt, Nat.compare_eq_gt.mpr greater, Ordering.gt_then]

/-- The order of the bytes is the order of the code points. -/
theorem compare_bytes (a b : String) :
    compare (bytes a) (bytes b) = compare (codePoints a) (codePoints b) := by
  rw [bytes_eq_flatMap, bytes_eq_flatMap]
  exact compare_flatMap_utf8EncodeChar a.toList b.toList

theorem lt_iff_compare_map_toNat (a b : List Char) :
    a < b ↔ compare (a.map Char.toNat) (b.map Char.toNat) = .lt := by
  induction a generalizing b with
  | nil => cases b <;> simp
  | cons c a ih =>
      cases b with
      | nil => simp
      | cons d b =>
          rw [List.cons_lt_cons_iff, List.map_cons, List.map_cons, List.compare_cons_cons,
            Ordering.then_eq_lt, Nat.compare_eq_lt, Nat.compare_eq_eq, Char.toNat_inj, ih]
          rfl

theorem codePoints_inj {a b : String} : codePoints a = codePoints b ↔ a = b := by
  constructor
  · intro same
    have chars := (List.map_inj_right fun _ _ => Char.toNat_inj.mp).mp same
    exact String.toList_injective chars
  · rintro rfl
    rfl

theorem compare_eq_lt_iff (a b : String) :
    compare a b = .lt ↔ compare (codePoints a) (codePoints b) = .lt := by
  rw [codePoints, codePoints, ← lt_iff_compare_map_toNat, ← String.lt_iff]
  exact compareOfLessAndEq_eq_lt

/-- The order of texts is the order of their code points. -/
theorem compare_codePoints (a b : String) :
    compare a b = compare (codePoints a) (codePoints b) := by
  cases order : compare (codePoints a) (codePoints b) with
  | lt => exact (compare_eq_lt_iff a b).mpr order
  | eq =>
      rw [codePoints_inj.mp (Std.LawfulEqOrd.eq_of_compare order)]
      exact Std.ReflOrd.compare_self
  | gt =>
      rw [Std.OrientedOrd.eq_swap, Ordering.swap_eq_gt] at order
      rw [Std.OrientedOrd.eq_swap, (compare_eq_lt_iff b a).mpr order]
      rfl

end Companion.Text
