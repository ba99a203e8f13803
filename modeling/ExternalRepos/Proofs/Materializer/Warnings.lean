import ExternalRepos.Proofs.Materializer.Outcome

/-!
# Warnings

The schema materializer posts nothing but warnings about deprecated attributes, and
it posts them on its way through the keywords: one for each keyword that gives a value
to an attribute with a note, up to the first keyword at fault. What it does after the
keywords, the default labels included, posts nothing.
-/

namespace ExternalRepos

namespace RuleClass

variable {ruleClass : RuleClass} {scope : Scope}

/-- The warning about a keyword that gives a value to an attribute with a note of deprecation. -/
def warning? (ruleClass : RuleClass) (entry : String × Value) : Option Event :=
  if entry.2 = .null then
    none
  else
    ((ruleClass.attribute? entry.1).bind Attribute.deprecated).bind fun note =>
      if note = "" then
        none
      else
        some ⟨.warning, "attribute '" ++ entry.1 ++ "' of '" ++ ruleClass.name ++
          "' is deprecated: " ++ note, none⟩

theorem warning?_null (ruleClass : RuleClass) (key : String) :
    ruleClass.warning? (key, .null) = none := rfl

/-- A warning is about a value for a known attribute with a note that is not empty. -/
theorem warning?_eq_some_iff {key : String} {given : Value} {event : Event} :
    ruleClass.warning? (key, given) = some event ↔
      given ≠ .null ∧ ∃ schema note, ruleClass.attribute? key = some schema ∧
        schema.deprecated = some note ∧ note ≠ "" ∧
        event = ⟨.warning, "attribute '" ++ key ++ "' of '" ++ ruleClass.name ++
          "' is deprecated: " ++ note, none⟩ := by
  by_cases absent : given = .null
  · simp [warning?, absent]
  · simp only [warning?, absent, if_false, Option.bind_eq_some_iff, Option.ite_none_left_eq_some,
      Option.some.injEq, ne_eq, not_false_eq_true, true_and]
    constructor
    · rintro ⟨note, ⟨schema, known, deprecated⟩, nonempty, rfl⟩
      exact ⟨schema, note, known, deprecated, nonempty, rfl⟩
    · rintro ⟨schema, note, known, deprecated, nonempty, rfl⟩
      exact ⟨note, ⟨schema, known, deprecated⟩, nonempty, rfl⟩

theorem toList_warning? {key : String} {given : Value} {schema : Attribute}
    (known : ruleClass.attribute? key = some schema) (present : given ≠ .null) :
    (ruleClass.warning? (key, given)).toList = schema.warnings ruleClass.name := by
  have sameName := (attribute?_eq_some_iff_mem.1 known).2
  rw [warning?, if_neg present, known, Option.bind_some, Attribute.warnings, sameName]
  rcases schema.deprecated with _ | note
  · rfl
  · by_cases empty : note = "" <;> simp [empty]

/-- A keyword that gives nothing to an attribute has no fault. -/
theorem not_keywordFault_null {key : String} {schema : Attribute}
    (known : ruleClass.attribute? key = some schema) (failure : Error) :
    ¬ruleClass.KeywordFault scope (key, .null) failure := by
  intro fault
  cases fault with
  | unknown unknown => simp [known] at unknown
  | type _ present => exact present rfl
  | label _ accepted => simp [AttributeType.accepts_null] at accepted

/-- The warnings are about the keywords that the walk has gone past. -/
theorem exists_events_explicitValues (ruleClass : RuleClass) (scope : Scope)
    (entries : List (String × Value)) :
    ∃ before, BeforeFault (ruleClass.KeywordFault scope) entries before ∧
      (ruleClass.explicitValues scope entries).events = before.filterMap ruleClass.warning? := by
  induction entries with
  | nil => exact ⟨[], ⟨by simp [Faultless], Or.inl rfl⟩, rfl⟩
  | cons entry rest ih =>
      rcases entry with ⟨key, given⟩
      rcases ih with ⟨before, stopped, events⟩
      rcases known : ruleClass.attribute? key with _ | schema
      · refine ⟨[], .of_faulty (.unknown known) rest, ?_⟩
        simp only [explicitValues, known, List.filterMap_nil]
      · by_cases absent : given = .null
        · subst absent
          refine ⟨(key, .null) :: before, stopped.cons (not_keywordFault_null known), ?_⟩
          rw [List.filterMap_cons_none (ruleClass.warning?_null key), ← events]
          simp only [explicitValues, known]
          rfl
        · have notNull := (not_congr Value.isNull_iff).2 absent
          rcases normalized : schema.normalize ruleClass.name scope given with failure | value
          · refine ⟨[], .of_faulty ((normalize_eq_error_iff known absent).1 normalized) rest, ?_⟩
            simp only [explicitValues, known, notNull, normalized, List.filterMap_nil]
            rfl
          · have sound : ∀ failure, ¬ruleClass.KeywordFault scope (key, given) failure := by
              intro failure fault
              rw [(normalize_eq_error_iff known absent).2 fault] at normalized
              cases normalized
            refine ⟨(key, given) :: before, stopped.cons sound, ?_⟩
            simp only [explicitValues, known, notNull, normalized, events]
            rw [List.filterMap_cons, ← toList_warning? known absent]
            cases ruleClass.warning? (key, given) <;> rfl

end RuleClass

namespace Materializer

variable {request : Request}

theorem exists_events_schema (request : Request) :
    ∃ before, BeforeFault (request.ruleClass.KeywordFault request.scope) request.values.entries
        before ∧
      (Materializer.schema request).events = before.filterMap request.ruleClass.warning? :=
  request.ruleClass.exists_events_explicitValues request.scope request.values.entries

/-- A rule is made only after all keywords have been gone through. -/
theorem events_schema_of_eq_ok {rule : Rule}
    (succeeded : (Materializer.schema request).outcome = .ok rule) :
    (Materializer.schema request).events =
      request.values.entries.filterMap request.ruleClass.warning? := by
  rcases exists_events_schema request with ⟨before, stopped, events⟩
  rcases exists_of_bind_eq_ok succeeded with ⟨values, explicitEq, _⟩
  have faultless : Faultless (request.ruleClass.KeywordFault request.scope)
      request.values.entries :=
    (FirstFault.exists_ok_iff fun _ => RuleClass.explicitValues_eq_error_iff).1
      ⟨values, explicitEq⟩
  rw [events, stopped.eq_of_faultless faultless]

end Materializer

end ExternalRepos
