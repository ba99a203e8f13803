import ExternalRepos.Proofs.Except

/-!
# First faults

A walk through a list that checks item after item fails with the fault of the first
item that has one, and succeeds if there is none. `FirstFault` says so apart from
any walk: the list splits at the item, nothing before it is at fault, and nothing
is asked of what comes after it. `eq_error_iff_firstFault` is how a walk is shown
to find first faults: it stops at an item at fault, and it goes on past every other.
`BeforeFault` names what such a walk has gone past when it stops.
-/

namespace ExternalRepos

variable {α β : Type}

/-- No item has a fault. -/
def Faultless (faulty : α → Error → Prop) (items : List α) : Prop :=
  ∀ item ∈ items, ∀ fault, ¬faulty item fault

/-- The fault of the first item that has one. -/
def FirstFault (faulty : α → Error → Prop) (items : List α) (failure : Error) : Prop :=
  ∃ earlier item later, items = earlier ++ item :: later ∧
    Faultless faulty earlier ∧ faulty item failure

/-- The items before the first one that has a fault; if none has, these are all items. -/
def BeforeFault (faulty : α → Error → Prop) (items before : List α) : Prop :=
  Faultless faulty before ∧
    (items = before ∨ ∃ item later failure, items = before ++ item :: later ∧ faulty item failure)

namespace BeforeFault

variable {faulty : α → Error → Prop} {items before : List α}

theorem of_faulty {item : α} {failure : Error} (fault : faulty item failure) (later : List α) :
    BeforeFault faulty (item :: later) [] :=
  ⟨by simp [Faultless], Or.inr ⟨item, later, failure, rfl, fault⟩⟩

theorem cons {item : α} (sound : ∀ failure, ¬faulty item failure)
    (rest : BeforeFault faulty items before) :
    BeforeFault faulty (item :: items) (item :: before) := by
  rcases rest with ⟨faultless, split⟩
  refine ⟨List.forall_mem_cons.2 ⟨sound, faultless⟩, ?_⟩
  rcases split with rfl | ⟨faultyItem, later, failure, rfl, fault⟩
  · exact Or.inl rfl
  · exact Or.inr ⟨faultyItem, later, failure, rfl, fault⟩

theorem eq_of_faultless (stopped : BeforeFault faulty items before)
    (faultless : Faultless faulty items) : before = items := by
  rcases stopped.2 with rfl | ⟨item, later, failure, rfl, fault⟩
  · rfl
  · exact absurd fault (faultless item (by simp) failure)

end BeforeFault

namespace FirstFault

variable {faulty other : α → Error → Prop} {items : List α} {failure : Error}

@[simp]
theorem nil_iff : FirstFault faulty [] failure ↔ False := by
  simp [FirstFault]

theorem cons_iff {first : α} :
    FirstFault faulty (first :: items) failure ↔
      faulty first failure ∨ (∀ fault, ¬faulty first fault) ∧ FirstFault faulty items failure := by
  constructor
  · rintro ⟨earlier, item, later, split, sound, fault⟩
    cases earlier with
    | nil =>
        cases split
        exact Or.inl fault
    | cons before earlier =>
        cases split
        rcases List.forall_mem_cons.1 sound with ⟨firstSound, sound⟩
        exact Or.inr ⟨firstSound, earlier, item, later, rfl, sound, fault⟩
  · rintro (fault | ⟨firstSound, earlier, item, later, rfl, sound, fault⟩)
    · exact ⟨[], first, items, rfl, by simp [Faultless], fault⟩
    · exact ⟨first :: earlier, item, later, rfl, List.forall_mem_cons.2 ⟨firstSound, sound⟩, fault⟩

theorem faultless_iff : Faultless faulty items ↔ ∀ failure, ¬FirstFault faulty items failure := by
  induction items with
  | nil => simp [Faultless]
  | cons first rest ih =>
      rw [Faultless, List.forall_mem_cons]
      constructor
      · rintro ⟨firstSound, restSound⟩ failure found
        rcases cons_iff.1 found with fault | ⟨_, later⟩
        · exact firstSound failure fault
        · exact ih.1 restSound failure later
      · intro sound
        have firstSound : ∀ fault, ¬faulty first fault := fun fault here =>
          sound fault (cons_iff.2 (Or.inl here))
        refine ⟨firstSound, ih.2 fun failure later => ?_⟩
        exact sound failure (cons_iff.2 (Or.inr ⟨firstSound, later⟩))

/-- What fails with the first fault succeeds if there is none. -/
theorem exists_ok_iff {outcome : Except Error β}
    (fails : ∀ failure, outcome = .error failure ↔ FirstFault faulty items failure) :
    (∃ found, outcome = .ok found) ↔ Faultless faulty items := by
  rw [faultless_iff]
  simp only [← fails]
  cases outcome <;> simp

theorem find?_iff {found : α → Bool} {report : α → Error} :
    FirstFault (fun item failure => found item = true ∧ failure = report item) items failure ↔
      ∃ item, items.find? found = some item ∧ failure = report item := by
  induction items with
  | nil => simp
  | cons first rest ih =>
      rw [cons_iff, List.find?_cons, ih]
      cases found first <;> simp

theorem congr (same : ∀ item ∈ items, ∀ fault, faulty item fault ↔ other item fault) :
    FirstFault faulty items failure ↔ FirstFault other items failure := by
  induction items with
  | nil => simp
  | cons first rest ih =>
      have firstSame := same first List.mem_cons_self
      have restSame := ih fun item itemMem => same item (List.mem_cons_of_mem _ itemMem)
      simp only [cons_iff, firstSame, restSame]

end FirstFault

/-- A walk through a list that stops at faults and goes on past everything else. -/
theorem eq_error_iff_firstFault {faulty : α → Error → Prop} (walk : List α → Except Error β)
    (done : ∀ failure, walk [] ≠ .error failure)
    (stops : ∀ item rest failure, faulty item failure → walk (item :: rest) = .error failure)
    (passes : ∀ item rest failure, (∀ fault, ¬faulty item fault) →
      (walk (item :: rest) = .error failure ↔ walk rest = .error failure))
    (items : List α) (failure : Error) :
    walk items = .error failure ↔ FirstFault faulty items failure := by
  induction items with
  | nil => simp [done failure]
  | cons item rest ih =>
      rw [FirstFault.cons_iff]
      by_cases sound : ∃ fault, faulty item fault
      · rcases sound with ⟨fault, here⟩
        rw [stops item rest fault here]
        constructor
        · intro same
          cases same
          exact Or.inl here
        · rintro (again | ⟨none, _⟩)
          · rw [← stops item rest fault here, stops item rest failure again]
          · exact absurd here (none fault)
      · simp only [not_exists] at sound
        rw [passes item rest failure sound, ih]
        simp [sound]

end ExternalRepos
