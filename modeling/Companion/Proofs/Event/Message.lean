import Companion.Event

/-!
# Events by their text

Three kinds of events tell what becomes of a simple name: a type takes it over, is bound to a free
one, or is refused it. Each kind is known by its level and by the words of its message. No other
event of that level begins and ends with these words.
-/

namespace Companion

namespace Text

theorem suffix_toList_append (first second : String) :
    second.toList <:+ (first ++ second).toList := by
  rw [String.toList_append]
  exact List.suffix_append _ _

theorem prefix_toList_foldl_append (lead : String) (words : List String) :
    lead.toList <+: (words.foldl (· ++ ·) lead).toList := by
  induction words generalizing lead with
  | nil => exact List.prefix_rfl
  | cons word rest ih =>
      refine List.IsPrefix.trans ?_ (ih (lead ++ word))
      rw [String.toList_append]
      exact List.prefix_append _ _

end Text

namespace Event

def isTakeOver : Event → Bool
  | .boundImplicit _ _ => true
  | _ => false

def isRefusal : Event → Bool
  | .qualified _ _ _ => true
  | _ => false

/-- The simple name that an event tells to be bound, and the canonical name that it is bound to. -/
def binding? : Event → Option (String × String)
  | .boundImplicit simple canonical => some (simple, canonical)
  | .bound simple canonical => some (simple, canonical)
  | _ => none

/-- The words that a message begins with, whatever the event is about. -/
def lead : Event → String
  | .validated _ => "validated descriptor '"
  | .acceptability _ _ _ => "'"
  | .skipped _ => "skipping '"
  | .rendering _ _ => "rendering '"
  | .boundImplicit _ _ => "binding implicit '"
  | .bound _ _ => "binding '"
  | .qualified _ _ _ => "'"
  | .loaded _ _ => "loaded '"
  | .generated _ => "Generated "
  | .notCandidate _ => "'"

theorem lead_prefix_message (event : Event) : event.lead.toList <+: event.message.toList := by
  cases event with
  | validated qualifiedName => exact Text.prefix_toList_foldl_append _ [qualifiedName, "'"]
  | acceptability qualifiedName kind acceptable =>
      exact Text.prefix_toList_foldl_append _
        [qualifiedName, "' (", kind.label, ") acceptable: ", toString acceptable]
  | skipped qualifiedName =>
      exact Text.prefix_toList_foldl_append _ [qualifiedName, "': not an entity candidate"]
  | rendering qualifiedName template =>
      exact Text.prefix_toList_foldl_append _ [qualifiedName, "' with template '", template, "'"]
  | boundImplicit simple canonical =>
      exact Text.prefix_toList_foldl_append _ [simple, "' -> '", canonical, "'"]
  | bound simple canonical =>
      exact Text.prefix_toList_foldl_append _ [simple, "' -> '", canonical, "'"]
  | qualified simple holder canonical =>
      exact Text.prefix_toList_foldl_append _
        [simple, "' already bound to '", holder, "', qualifying '", canonical, "'"]
  | loaded qualifiedName capabilities =>
      exact Text.prefix_toList_foldl_append _
        [qualifiedName, "' with ", toString capabilities, " capabilities"]
  | generated path => exact Text.prefix_toList_foldl_append _ [path]
  | notCandidate qualifiedName =>
      exact Text.prefix_toList_foldl_append _
        [qualifiedName, "' is not an entity candidate, nothing generated"]

/-- A message does not begin with words that part from its lead. -/
theorem not_prefix_message {event : Event} {words : String} (lead : String)
    (leads : event.lead = lead)
    (apart : ¬ lead.toList <+: words.toList ∧ ¬ words.toList <+: lead.toList) :
    ¬ words.toList <+: event.message.toList := by
  intro begins
  have known := event.lead_prefix_message
  rw [leads] at known
  rcases List.prefix_or_prefix_of_prefix known begins with shorter | longer
  · exact apart.1 shorter
  · exact apart.2 longer

theorem message_ne_binding {event : Event} {words : String} (lead : String)
    (leads : event.lead = lead)
    (apart : ¬ lead.toList <+: words.toList ∧ ¬ words.toList <+: lead.toList)
    (simple canonical : String) :
    event.message ≠ words ++ simple ++ "' -> '" ++ canonical ++ "'" := by
  intro text
  have begins := Text.prefix_toList_foldl_append words [simple, "' -> '", canonical, "'"]
  apply not_prefix_message lead leads apart
  rw [text]
  exact begins

theorem isTakeOver_iff (event : Event) :
    event.isTakeOver = true ↔
      event.level = .trace ∧ ∃ simple canonical : String,
        event.message = "binding implicit '" ++ simple ++ "' -> '" ++ canonical ++ "'" := by
  constructor
  · intro takeOver
    cases event with
    | boundImplicit simple canonical => exact ⟨rfl, simple, canonical, rfl⟩
    | _ => cases takeOver
  · rintro ⟨level, simple, canonical, text⟩
    cases event with
    | boundImplicit => rfl
    | bound => exact absurd text (message_ne_binding "binding '" rfl (by decide) _ _)
    | validated => exact absurd text (message_ne_binding "validated descriptor '" rfl (by decide) _ _)
    | _ => cases level

/-- A binding is logged with both names, and with a word more if it took the simple name over. -/
theorem of_binding?_eq_some {event : Event} {simple canonical : String}
    (binding : event.binding? = some (simple, canonical)) :
    event.level = .trace ∧
      event.message = (if event.isTakeOver then "binding implicit '" else "binding '") ++ simple ++
        "' -> '" ++ canonical ++ "'" := by
  cases event with
  | boundImplicit =>
      cases binding
      exact ⟨rfl, rfl⟩
  | bound =>
      cases binding
      exact ⟨rfl, rfl⟩
  | _ => cases binding

theorem isSome_binding?_iff (event : Event) :
    event.binding?.isSome = true ↔
      event.level = .trace ∧ ∃ simple canonical : String,
        event.message = "binding '" ++ simple ++ "' -> '" ++ canonical ++ "'" ∨
          event.message = "binding implicit '" ++ simple ++ "' -> '" ++ canonical ++ "'" := by
  constructor
  · intro binding
    cases event with
    | boundImplicit simple canonical => exact ⟨rfl, simple, canonical, Or.inr rfl⟩
    | bound simple canonical => exact ⟨rfl, simple, canonical, Or.inl rfl⟩
    | _ => cases binding
  · rintro ⟨level, simple, canonical, text⟩
    cases event with
    | boundImplicit => rfl
    | bound => rfl
    | validated =>
        rcases text with text | text
        · exact absurd text (message_ne_binding "validated descriptor '" rfl (by decide) _ _)
        · exact absurd text (message_ne_binding "validated descriptor '" rfl (by decide) _ _)
    | _ => cases level

theorem isRefusal_iff (event : Event) :
    event.isRefusal = true ↔
      event.level = .debug ∧ ∃ simple holder canonical : String,
        event.message = "'" ++ simple ++ "' already bound to '" ++ holder ++ "', qualifying '" ++
          canonical ++ "'" := by
  constructor
  · intro refusal
    cases event with
    | qualified simple holder canonical => exact ⟨rfl, simple, holder, canonical, rfl⟩
    | _ => cases refusal
  · rintro ⟨level, simple, holder, canonical, text⟩
    have begins : "'".toList <+: event.message.toList := by
      rw [text]
      exact Text.prefix_toList_foldl_append _
        [simple, "' already bound to '", holder, "', qualifying '", canonical, "'"]
    have ends : "'".toList <:+ event.message.toList := by
      rw [text]
      exact Text.suffix_toList_append _ _
    cases event with
    | qualified => rfl
    | acceptability qualifiedName kind acceptable =>
        have last : (toString acceptable).toList <:+
            (message (.acceptability qualifiedName kind acceptable)).toList :=
          Text.suffix_toList_append _ _
        have comparable := List.suffix_or_suffix_of_suffix last ends
        exact absurd comparable (by cases acceptable <;> decide)
    | skipped => exact absurd begins (not_prefix_message "skipping '" rfl (by decide))
    | rendering => exact absurd begins (not_prefix_message "rendering '" rfl (by decide))
    | loaded => exact absurd begins (not_prefix_message "loaded '" rfl (by decide))
    | _ => cases level

end Event

end Companion
