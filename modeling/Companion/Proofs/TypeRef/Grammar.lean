import Companion.Proofs.TypeRef.Parts
import Companion.Proofs.Text.Offset

/-!
# The grammar of canonical names

A canonical name is made of one or more segments that are joined by single dots. Parsing accepts
exactly these names. The simple name is the last segment and starts at an offset that lies between
two characters; the segments before it are the package, which is again a canonical name.
-/

namespace Companion

/-- A text of characters that is not empty and holds no dot. -/
structure IsSegment (segment : String) : Prop where
  filled : segment ≠ ""
  free : '.' ∉ segment.toList

/-- The names that are made of the given segments. -/
inductive Dotted : List String → String → Prop where
  | single {segment : String} (sound : IsSegment segment) : Dotted [segment] segment
  | cons {segment name : String} {segments : List String} (sound : IsSegment segment)
      (rest : Dotted segments name) : Dotted (segment :: segments) (segment ++ "." ++ name)

namespace Dotted

theorem ne_empty {segments : List String} {name : String} (dotted : Dotted segments name) :
    name ≠ "" := by
  induction dotted with
  | single sound => exact sound.filled
  | cons sound rest ih =>
      intro empty
      exact ih (String.append_eq_empty_iff.mp empty).2

theorem nameSegments_eq {segments : List String} {name : String} (dotted : Dotted segments name) :
    nameSegments name = segments.map String.toList := by
  induction dotted with
  | single sound => exact List.splitOn_eq_singleton sound.free
  | @cons segment name segments sound rest ih =>
      have glued : (segment ++ "." ++ name).toList = segment.toList ++ '.' :: name.toList := by
        simp
      rw [nameSegments, glued, List.splitOn_append_cons_self,
        List.splitOn_eq_singleton sound.free, List.map_cons, ← ih]
      rfl

theorem isSegment_of_mem {segments : List String} {name : String} (dotted : Dotted segments name) :
    ∀ segment ∈ segments, IsSegment segment := by
  induction dotted with
  | single sound =>
      intro segment inside
      rwa [List.mem_singleton.mp inside]
  | cons sound rest ih =>
      intro segment inside
      rcases List.mem_cons.mp inside with rfl | later
      · exact sound
      · exact ih segment later

/-- A name of several segments is a shorter name, a dot and the last segment. -/
theorem exists_last {segments : List String} {name : String} (dotted : Dotted segments name) :
    ∃ home last, IsSegment last ∧ name = qualify home last ∧ segments.getLast? = some last ∧
      (home = "" ∧ segments = [last] ∨ Dotted segments.dropLast home) := by
  induction dotted with
  | @single segment sound => exact ⟨"", segment, sound, rfl, rfl, Or.inl ⟨rfl, rfl⟩⟩
  | @cons segment name segments sound rest ih =>
      obtain ⟨home, last, lastSound, glued, final, before⟩ := ih
      have several : segments ≠ [] := by
        rintro rfl
        cases final
      have last? : (segment :: segments).getLast? = some last := by
        rw [List.getLast?_cons_of_ne_nil several, final]
      rcases before with ⟨rfl, rfl⟩ | before
      · refine ⟨segment, last, lastSound, ?_, last?, Or.inr (single sound)⟩
        rw [glued, qualify, if_pos rfl, qualify, if_neg sound.filled]
      · refine ⟨segment ++ "." ++ home, last, lastSound, ?_, last?, Or.inr ?_⟩
        · have whole : segment ++ "." ++ home ≠ "" := (cons sound before).ne_empty
          rw [glued, qualify, if_neg before.ne_empty, qualify, if_neg whole]
          simp only [String.append_assoc]
        · rw [List.dropLast_cons_of_ne_nil several]
          exact cons sound before

end Dotted

/-- Segments joined by dots are a name. -/
theorem dotted_intercalate {pieces : List (List Char)} (some : pieces ≠ [])
    (sound : ∀ piece ∈ pieces, piece ≠ [] ∧ '.' ∉ piece) :
    Dotted (pieces.map String.ofList) (String.ofList (['.'].intercalate pieces)) := by
  induction pieces with
  | nil => exact absurd rfl some
  | cons piece rest ih =>
      obtain ⟨filled, free⟩ := sound piece List.mem_cons_self
      have segment : IsSegment (String.ofList piece) :=
        ⟨by simpa using filled, by simpa using free⟩
      cases rest with
      | nil =>
          rw [List.intercalate_singleton]
          exact Dotted.single segment
      | cons next others =>
          have later := ih (List.cons_ne_nil next others)
            fun piece inside => sound piece (List.mem_cons_of_mem _ inside)
          have glued : String.ofList (['.'].intercalate (piece :: next :: others)) =
              String.ofList piece ++ "." ++ String.ofList (['.'].intercalate (next :: others)) := by
            rw [List.intercalate_cons_cons, String.ofList_append, String.ofList_append]
          rw [glued]
          exact Dotted.cons segment later

namespace TypeRef

theorem dotted_canonicalName (ref : TypeRef) :
    Dotted (ref.segments.map String.ofList) ref.canonicalName := by
  have sound : ∀ piece ∈ ref.segments, piece ≠ [] ∧ '.' ∉ piece := fun piece inside =>
    ⟨ref.segments_ne_nil piece inside, Text.not_mem_of_mem_splitOn inside⟩
  have dotted := dotted_intercalate (List.splitOn_ne_nil _ _) sound
  rw [List.intercalate_splitOn, String.ofList_toList] at dotted
  exact dotted

theorem exists_parse_eq_ok_iff {name : String} :
    (∃ ref, parse name = .ok ref) ↔ ∃ segments, Dotted segments name := by
  constructor
  · rintro ⟨ref, parsed⟩
    obtain rfl := (parse_eq_ok_iff name ref).mp parsed
    exact ⟨_, ref.dotted_canonicalName⟩
  · rintro ⟨segments, dotted⟩
    have filled : ∀ piece ∈ nameSegments name, piece ≠ [] := by
      rw [dotted.nameSegments_eq]
      rintro _ inside rfl
      obtain ⟨segment, among, empty⟩ := List.mem_map.mp inside
      exact (dotted.isSegment_of_mem segment among).filled (String.toList_eq_nil_iff.mp empty)
    exact ⟨⟨name, filled⟩, (parse_eq_ok_iff name _).mpr rfl⟩

theorem parse_eq_error_iff {name : String} {refusal : Refusal} :
    parse name = .error refusal ↔
      (¬ ∃ segments, Dotted segments name) ∧
        refusal = ⟨name, if name = "" then .emptyName else .emptySegment⟩ := by
  rw [← exists_parse_eq_ok_iff]
  unfold parse
  split
  · simp
  · by_cases empty : name = "" <;> simp [empty, eq_comm]

theorem exists_refused_iff {name reason : String} :
    (∃ refusal, parse name = .error refusal ∧ refusal.flaw.reason = reason) ↔
      (¬ ∃ segments, Dotted segments name) ∧
        (if name = "" then Flaw.emptyName else Flaw.emptySegment).reason = reason := by
  constructor
  · rintro ⟨refusal, refused, rfl⟩
    obtain ⟨foreign, rfl⟩ := parse_eq_error_iff.mp refused
    exact ⟨foreign, rfl⟩
  · rintro ⟨foreign, rfl⟩
    exact ⟨_, parse_eq_error_iff.mpr ⟨foreign, rfl⟩, rfl⟩

/-- The simple name starts at the start of the name or behind the dot that follows the package. -/
theorem simpleStart_eq (ref : TypeRef) :
    ref.simpleStart = if ref.package = "" then 0 else ref.package.utf8ByteSize + 1 := by
  have size := congrArg String.utf8ByteSize ref.canonicalName_eq_qualify
  rw [simpleStart, size, qualify]
  by_cases home : ref.package = ""
  · rw [if_pos home, if_pos home, Nat.sub_self]
  · have dot : ".".utf8ByteSize = 1 := rfl
    rw [if_neg home, if_neg home, String.utf8ByteSize_append, String.utf8ByteSize_append, dot]
    omega

/-- The last dot of a name is the one that follows the package. -/
theorem lastOffset?_canonicalName (ref : TypeRef) :
    Text.lastOffset? '.' ref.canonicalName.toList =
      if ref.package = "" then none else some ref.package.utf8ByteSize := by
  have free := ref.dot_not_mem_simpleName
  by_cases home : ref.package = ""
  · rw [if_pos home, (canonicalName_eq_simpleName_iff ref).mpr home]
    exact Text.lastOffset?_eq_none free
  · have glued : ref.canonicalName.toList =
        ref.package.toList ++ '.' :: ref.simpleName.toList := by
      have name := congrArg String.toList ref.canonicalName_eq_qualify
      rw [qualify, if_neg home] at name
      simpa using name
    rw [if_neg home, glued, Text.lastOffset?_append free, String.ofList_toList]

/-- No character lies across the start of the simple name. -/
theorem splitAt?_simpleStart (ref : TypeRef) :
    (Text.splitAt? ref.canonicalName ref.simpleStart).map Prod.snd = some ref.simpleName := by
  have glued := ref.canonicalName_eq_qualify
  rw [simpleStart_eq]
  by_cases home : ref.package = ""
  · have split := Text.splitAt?_append "" ref.canonicalName
    rw [String.empty_append, String.utf8ByteSize_empty] at split
    rw [if_pos home, split, Option.map_some, (canonicalName_eq_simpleName_iff ref).mpr home]
  · have split := Text.splitAt?_append (ref.package ++ ".") ref.simpleName
    rw [String.utf8ByteSize_append] at split
    rw [qualify, if_neg home] at glued
    rw [if_neg home, glued]
    exact congrArg (Option.map Prod.snd) split

/-- No character lies across the end of the package. -/
theorem splitAt?_package {ref : TypeRef} (home : ref.package ≠ "") :
    (Text.splitAt? ref.canonicalName (ref.simpleStart - 1)).map Prod.fst = some ref.package := by
  have glued := ref.canonicalName_eq_qualify
  have split := Text.splitAt?_append ref.package ("." ++ ref.simpleName)
  rw [qualify, if_neg home, String.append_assoc] at glued
  rw [simpleStart_eq, if_neg home, Nat.add_sub_cancel, glued]
  exact congrArg (Option.map Prod.fst) split

/-- How the parts of a reference follow from the segments of its name. The offset of the simple name
lies behind the last dot; cutting the name there, and in front of that dot, gives the two parts. -/
structure Decomposition (ref : TypeRef) (name : String) (segments : List String) : Prop where
  canonicalName_eq : ref.canonicalName = name
  start_eq : ref.simpleStart = (Text.lastOffset? '.' name.toList).elim 0 (· + 1)
  cut_simpleName :
    (Text.splitAt? name ref.simpleStart).map Prod.snd = some ref.simpleName
  cut_package :
    (if ref.simpleStart = 0 then some ""
      else (Text.splitAt? name (ref.simpleStart - 1)).map Prod.fst) = some ref.package
  last_segment : segments.getLast? = some ref.simpleName
  simpleName_sound : IsSegment ref.simpleName
  package_eq_empty_iff : ref.package = "" ↔ segments.length = 1
  glued : ref.package ≠ "" → ref.package ++ "." ++ ref.simpleName = name
  package_accepted : ref.package ≠ "" → ∃ home, parse ref.package = .ok home
  shown_accepted : parse (toString ref) = .ok ref
  converted_accepted : parse ref.canonicalName = .ok ref

theorem decomposition {ref : TypeRef} {segments : List String}
    (dotted : Dotted segments ref.canonicalName) :
    Decomposition ref ref.canonicalName segments := by
  obtain ⟨home, last, sound, glued, final, before⟩ := dotted.exists_last
  obtain ⟨rfl, rfl⟩ := parts_of_eq_qualify glued sound.free
  have cut : ref.simpleStart = 0 ↔ ref.package = "" := by
    rw [simpleStart_eq]
    by_cases alone : ref.package = "" <;> simp [alone]
  refine ⟨rfl, ?start, ref.splitAt?_simpleStart, ?package, final, sound, ?single, ?glued, ?home,
    parse_canonicalName ref, parse_canonicalName ref⟩
  case start =>
    rw [simpleStart_eq, lastOffset?_canonicalName]
    by_cases alone : ref.package = ""
    · rw [if_pos alone, if_pos alone]
      rfl
    · rw [if_neg alone, if_neg alone]
      rfl
  case package =>
    by_cases alone : ref.package = ""
    · rw [if_pos (cut.mpr alone), alone]
    · rw [if_neg (mt cut.mp alone), splitAt?_package alone]
  case single =>
    rcases before with ⟨alone, single⟩ | before
    · rw [single]
      exact iff_of_true alone rfl
    · refine iff_of_false before.ne_empty ?_
      intro single
      obtain ⟨segment, rfl⟩ := List.length_eq_one_iff.mp single
      cases before
  case glued =>
    intro several
    rw [glued, qualify, if_neg several]
  case home =>
    intro several
    rcases before with ⟨alone, _⟩ | before
    · exact absurd alone several
    · exact exists_parse_eq_ok_iff.mpr ⟨_, before⟩

/-- Parsing accepts exactly the names that are segments joined by single dots, refuses the empty
text as empty and every other text for an empty segment, and takes an accepted name apart into its
package and its last segment. -/
theorem parse_grammar (name : String) :
    ((∃ ref, parse name = .ok ref) ↔ ∃ segments, Dotted segments name) ∧
    ((∃ refusal, parse name = .error refusal ∧ refusal.flaw.reason = "empty canonical name") ↔
      name = "") ∧
    ((∃ refusal, parse name = .error refusal ∧ refusal.flaw.reason = "empty name segment") ↔
      name ≠ "" ∧ ¬ ∃ segments, Dotted segments name) ∧
    ∀ ref segments, parse name = .ok ref → Dotted segments name →
      Decomposition ref name segments := by
  have empty : name = "" → ¬ ∃ segments, Dotted segments name := by
    rintro rfl ⟨segments, dotted⟩
    exact dotted.ne_empty rfl
  refine ⟨exists_parse_eq_ok_iff, ?_, ?_, ?_⟩
  · rw [exists_refused_iff]
    constructor
    · rintro ⟨_, reason⟩
      by_cases none : name = ""
      · exact none
      · rw [if_neg none] at reason
        exact absurd reason (by decide)
    · intro none
      rw [if_pos none]
      exact ⟨empty none, rfl⟩
  · rw [exists_refused_iff]
    constructor
    · rintro ⟨foreign, reason⟩
      refine ⟨?_, foreign⟩
      intro none
      rw [if_pos none] at reason
      exact absurd reason (by decide)
    · rintro ⟨filled, foreign⟩
      rw [if_neg filled]
      exact ⟨foreign, rfl⟩
  · intro ref segments parsed dotted
    obtain rfl := (parse_eq_ok_iff name ref).mp parsed
    exact decomposition dotted

def manyBytes : String :=
  "gr\u00f6\u00dfe" ++ "." ++ ("\u65e5\u672c" ++ "." ++ "\u00c9lan")

theorem parse_manyBytes :
    ∃ ref, parse manyBytes = .ok ref ∧ ref.simpleStart = 15 ∧
      Dotted ["gr\u00f6\u00dfe", "\u65e5\u672c", "\u00c9lan"] manyBytes ∧
      Decomposition ref manyBytes ["gr\u00f6\u00dfe", "\u65e5\u672c", "\u00c9lan"] := by
  have dotted : Dotted ["gr\u00f6\u00dfe", "\u65e5\u672c", "\u00c9lan"] manyBytes := by
    refine .cons ⟨?_, ?_⟩ (.cons ⟨?_, ?_⟩ (.single ⟨?_, ?_⟩))
    all_goals decide
  obtain ⟨accepted, _, _, decomposed⟩ := parse_grammar manyBytes
  obtain ⟨ref, parsed⟩ := accepted.mpr ⟨_, dotted⟩
  have parts := decomposed ref _ parsed dotted
  have start : ref.simpleStart = 15 := parts.start_eq.trans (by decide +kernel)
  exact ⟨ref, parsed, start, dotted, parts⟩

end TypeRef

end Companion
