import ExternalRepos.Error

/-!
# Taking outcomes apart

A computation that may fail and succeeds has succeeded at each of its steps; if it
fails, one of its steps has failed, and what is done to a result only cannot fail.
`Agree` compares two computations: they fail with the same error or give results that are
related, and going on in related ways from there keeps it so.
-/

namespace ExternalRepos

variable {α β γ δ : Type}

theorem exists_of_bind_eq_ok {attempt : Except Error α} {next : α → Except Error β}
    {given : β} (succeeded : (attempt >>= next) = .ok given) :
    ∃ found, attempt = .ok found ∧ next found = .ok given := by
  rcases attempt with failure | found
  · cases succeeded
  · exact ⟨found, rfl, succeeded⟩

theorem exists_of_map_eq_ok {attempt : Except Error α} {answer : α → β} {given : β}
    (succeeded : attempt.map answer = .ok given) :
    ∃ found, attempt = .ok found ∧ answer found = given := by
  rcases attempt with failure | found
  · cases succeeded
  · exact ⟨found, rfl, Except.ok.inj succeeded⟩

theorem map_eq_error_iff {attempt : Except Error α} {answer : α → β} {failure : Error} :
    attempt.map answer = .error failure ↔ attempt = .error failure := by
  cases attempt <;> simp [Except.map]

theorem bind_eq_error_iff {attempt : Except Error α} {next : α → Except Error β}
    {failure : Error} :
    attempt.bind next = .error failure ↔
      attempt = .error failure ∨ ∃ found, attempt = .ok found ∧ next found = .error failure := by
  cases attempt <;> simp [Except.bind]

/-- Both computations fail with the same error, or both give results and these are related. -/
inductive Agree (related : α → β → Prop) : Except Error α → Except Error β → Prop
  | error (failure : Error) : Agree related (.error failure) (.error failure)
  | ok {left : α} {right : β} (same : related left right) : Agree related (.ok left) (.ok right)

namespace Agree

variable {related : α → β → Prop} {further : γ → δ → Prop} {left : Except Error α}
  {right : Except Error β}

theorem bind (agree : Agree related left right) {leftNext : α → Except Error γ}
    {rightNext : β → Except Error δ}
    (next : ∀ found other, related found other → Agree further (leftNext found) (rightNext other)) :
    Agree further (left.bind leftNext) (right.bind rightNext) := by
  cases agree with
  | error failure => exact .error failure
  | ok same => exact next _ _ same

theorem map (agree : Agree related left right) {leftAnswer : α → γ} {rightAnswer : β → δ}
    (answers : ∀ found other, related found other →
      further (leftAnswer found) (rightAnswer other)) :
    Agree further (left.map leftAnswer) (right.map rightAnswer) := by
  cases agree with
  | error failure => exact .error failure
  | ok same => exact .ok (answers _ _ same)

theorem mapError (agree : Agree related left right) (change : Error → Error) :
    Agree related (left.mapError change) (right.mapError change) := by
  cases agree with
  | error failure => exact .error (change failure)
  | ok same => exact .ok same

theorem refl (left : Except Error α) : Agree Eq left left := by
  cases left with
  | error failure => exact .error failure
  | ok found => exact .ok rfl

/-- Computations whose results are related by equality are equal. -/
theorem eq {left right : Except Error α} (agree : Agree Eq left right) : left = right := by
  cases agree with
  | error failure => rfl
  | ok same => rw [same]

end Agree

end ExternalRepos
