import Companion.Text.Capital

/-!
# What a change of case keeps

Case conversion touches the first character of a name only. No conversion makes or removes a line
feed, so a converted name holds as many of them as the name itself. Two names with the same capital
spelling have the same small spelling if both begin plainly: with a character whose upper case is a
single character of the same lower case.
-/

namespace Companion

namespace Unicode

/-- No character is moved to or below a code point. -/
def staysAbove (bound : Nat) (runs : List CaseRun) (expansions : List (Nat × List Nat)) : Bool :=
  runs.all (fun run => bound < (run.first : Int) + run.shift) &&
    expansions.all fun entry => entry.2.all (bound < ·)

theorem ofNat_ne_newline {code : Nat} (above : 10 < code) : Char.ofNat code ≠ '\n' := by
  intro same
  unfold Char.ofNat at same
  by_cases valid : code.isValidChar
  · rw [dif_pos valid] at same
    have codes : code = 10 := congrArg Char.toNat same
    omega
  · rw [dif_neg valid] at same
    cases same

theorem lt_apply {bound code : Nat} {run : CaseRun} (above : (bound : Int) < run.first + run.shift)
    (inside : run.contains code = true) : bound < run.apply code := by
  simp only [CaseRun.contains, Bool.and_eq_true, decide_eq_true_eq] at inside
  have first := inside.1.1
  rw [CaseRun.apply]
  omega

/-- A line feed comes only from a line feed. -/
theorem newline_not_mem_mapCase {runs : List CaseRun} {expansions : List (Nat × List Nat)}
    (above : staysAbove 10 runs expansions = true) {c : Char} (other : c ≠ '\n') :
    '\n' ∉ mapCase runs expansions c := by
  obtain ⟨runsAbove, expansionsAbove⟩ := (Bool.and_eq_true _ _).mp above
  unfold mapCase
  split
  · next codes found =>
      intro newline
      obtain ⟨code, inside, same⟩ := List.mem_map.mp newline
      obtain ⟨_, _, split, _⟩ := List.lookup_eq_some_iff.mp found
      have entry := List.all_eq_true.mp expansionsAbove (c.toNat, codes) (by simp [split])
      have large := List.all_eq_true.mp entry code inside
      exact ofNat_ne_newline (of_decide_eq_true large) same
  · split
    · next run found =>
        have large := List.all_eq_true.mp runsAbove run (List.mem_of_find?_eq_some found)
        have inside : run.contains c.toNat = true := by simpa using List.find?_some found
        have shifted := lt_apply (of_decide_eq_true large) inside
        intro newline
        exact ofNat_ne_newline shifted (List.mem_singleton.mp newline).symm
    · intro newline
      exact other (List.mem_singleton.mp newline).symm

theorem count_newline_uppercase (c : Char) : (uppercase c).count '\n' = [c].count '\n' := by
  by_cases newline : c = '\n'
  · subst newline
    decide
  · have stays : staysAbove 10 upperRuns upperExpansions = true := by rfl
    have clean : '\n' ∉ uppercase c := newline_not_mem_mapCase stays newline
    rw [List.count_eq_zero_of_not_mem clean]
    simp [newline]

theorem count_newline_lowercase (c : Char) : (lowercase c).count '\n' = [c].count '\n' := by
  by_cases newline : c = '\n'
  · subst newline
    decide
  · have stays : staysAbove 10 lowerRuns lowerExpansions = true := by rfl
    have clean : '\n' ∉ lowercase c := newline_not_mem_mapCase stays newline
    rw [List.count_eq_zero_of_not_mem clean]
    simp [newline]

/-- Only what begins below a bound matters for the characters below it. -/
theorem mapCase_of_lt {bound : Nat} {c : Char} (below : c.toNat < bound) (runs : List CaseRun)
    (expansions : List (Nat × List Nat)) :
    mapCase runs expansions c =
      mapCase (runs.filter (·.first < bound)) (expansions.filter (·.1 < bound)) c := by
  have expansion : expansions.lookup c.toNat =
      (expansions.filter (·.1 < bound)).lookup c.toNat := by
    induction expansions with
    | nil => rfl
    | cons entry rest ih =>
        obtain ⟨code, codes⟩ := entry
        by_cases own : c.toNat = code
        · subst own
          simp [below]
        · have other : (c.toNat == code) = false := by simpa using own
          by_cases kept : code < bound <;> simp [kept, List.lookup_cons, other, ih]
  have shift : runs.find? (·.contains c.toNat) =
      (runs.filter (·.first < bound)).find? (·.contains c.toNat) := by
    rw [List.find?_filter]
    congr 1
    funext run
    by_cases inside : run.contains c.toNat = true
    · have kept : run.first < bound := by
        simp only [CaseRun.contains, Bool.and_eq_true, decide_eq_true_eq] at inside
        omega
      simp [inside, kept]
    · simp [inside]
  rw [mapCase, mapCase, expansion, shift]

def asciiCapital (code : Nat) : Nat :=
  if 0x61 ≤ code ∧ code ≤ 0x7A then code - 32 else code

theorem uppercase_of_ascii {c : Char} (ascii : c.toNat < 128) :
    uppercase c = [Char.ofNat (asciiCapital c.toNat)] := by
  have table : ∀ code < 128, mapCase [⟨0x61, 0x7A, 1, -32⟩] [] (Char.ofNat code) =
      [Char.ofNat (asciiCapital code)] := by
    decide
  have image := table c.toNat ascii
  rw [Char.ofNat_toNat] at image
  exact (mapCase_of_lt ascii upperRuns upperExpansions).trans image

theorem lowercase_of_ascii {c : Char} (ascii : c.toNat < 128) :
    lowercase c = mapCase [⟨0x41, 0x5A, 1, 32⟩] [] c :=
  mapCase_of_lt ascii lowerRuns lowerExpansions

/-- The upper case of a character is a single character, which has the same lower case. -/
def isPlain (c : Char) : Bool :=
  match uppercase c with
  | [upper] => lowercase upper = lowercase c
  | _ => false

theorem isPlain_eq_true_iff (c : Char) :
    isPlain c = true ↔ ∃ upper, uppercase c = [upper] ∧ lowercase upper = lowercase c := by
  unfold isPlain
  split
  · next upper single => simp [single]
  · next other =>
      constructor
      · intro impossible
        cases impossible
      · rintro ⟨upper, single, _⟩
        exact absurd single (other upper)

theorem isPlain_of_ascii {c : Char} (ascii : c.toNat < 128) : isPlain c = true := by
  have table : ∀ code < 128, (Char.ofNat (asciiCapital code)).toNat < 128 ∧
      mapCase [⟨0x41, 0x5A, 1, 32⟩] [] (Char.ofNat (asciiCapital code)) =
        mapCase [⟨0x41, 0x5A, 1, 32⟩] [] (Char.ofNat code) := by
    decide
  obtain ⟨capitalAscii, lower⟩ := table c.toNat ascii
  rw [Char.ofNat_toNat, ← lowercase_of_ascii ascii, ← lowercase_of_ascii capitalAscii] at lower
  exact (isPlain_eq_true_iff c).mpr ⟨_, uppercase_of_ascii ascii, lower⟩

end Unicode

namespace Text

theorem toList_mapFirst (f : Char → List Char) (name : String) :
    (mapFirst f name).toList =
      match name.toList with
      | [] => []
      | first :: rest => f first ++ rest := by
  unfold mapFirst
  cases name.toList with
  | nil => rfl
  | cons first rest => exact String.toList_ofList

theorem count_mapFirst {f : Char → List Char} {c : Char}
    (keeps : ∀ first, (f first).count c = [first].count c) (name : String) :
    (mapFirst f name).toList.count c = name.toList.count c := by
  rw [toList_mapFirst]
  cases name.toList with
  | nil => rfl
  | cons first rest => rw [List.count_append, keeps, ← List.count_append, List.singleton_append]

theorem count_newline_capitalized (name : String) :
    (capitalized name).toList.count '\n' = name.toList.count '\n' :=
  count_mapFirst Unicode.count_newline_uppercase name

theorem count_newline_uncapitalized (name : String) :
    (uncapitalized name).toList.count '\n' = name.toList.count '\n' :=
  count_mapFirst Unicode.count_newline_lowercase name

/-- The name is empty or begins with a plain character. -/
def beginsPlainly (name : String) : Bool :=
  name.toList.head?.all Unicode.isPlain

/-- What a plain beginning says about both spellings of a name. -/
theorem spellings_of_beginsPlainly {name : String} (plain : beginsPlainly name = true)
    (filled : name ≠ "") :
    ∃ upper rest, (capitalized name).toList = upper :: rest ∧
      (uncapitalized name).toList = Unicode.lowercase upper ++ rest := by
  rw [capitalized, uncapitalized, toList_mapFirst, toList_mapFirst]
  cases letters : name.toList with
  | nil => exact absurd (String.toList_eq_nil_iff.mp letters) filled
  | cons first rest =>
      rw [beginsPlainly, letters] at plain
      obtain ⟨upper, single, lower⟩ := (Unicode.isPlain_eq_true_iff first).mp plain
      exact ⟨upper, rest, by simp [single], by simp [lower]⟩

/-- Names that begin plainly are told apart by their capital spellings. -/
theorem uncapitalized_eq_of_capitalized_eq {a b : String} (aPlain : beginsPlainly a = true)
    (bPlain : beginsPlainly b = true) (aFilled : a ≠ "") (bFilled : b ≠ "")
    (same : capitalized a = capitalized b) : uncapitalized a = uncapitalized b := by
  obtain ⟨upper, rest, aCapital, aSmall⟩ := spellings_of_beginsPlainly aPlain aFilled
  obtain ⟨other, others, bCapital, bSmall⟩ := spellings_of_beginsPlainly bPlain bFilled
  rw [same, bCapital] at aCapital
  obtain ⟨rfl, rfl⟩ := List.cons.inj aCapital
  exact String.toList_injective (aSmall.trans bSmall.symm)

theorem beginsPlainly_of_ascii {name : String} (ascii : ∀ c ∈ name.toList.head?, c.toNat < 128) :
    beginsPlainly name = true := by
  unfold beginsPlainly
  cases first : name.toList.head? with
  | none => rfl
  | some c => exact Unicode.isPlain_of_ascii (ascii c first)

end Text

end Companion
