import ExternalRepos.Proofs.FirstFault
import ExternalRepos.Proofs.Session.Log

/-!
# The calls of a vendor file

A vendor file makes calls that mark repositories, up to the first one that is at fault
for the name that it is given (`VendorCall.Faulty`). While it runs, its context leads to
the marks (`Store.Marking`), and these hold exactly the names in the calls that have been
made (`VendorMarks.Hold`): a call that is not at fault adds its name under its own mark
and changes nothing else, and a call at fault changes nothing at all. So the marks of a
whole run are those of the calls before the first fault (`Marking.runBody`).
-/

namespace ExternalRepos

/-- What a vendor file can do to a repository. -/
inductive Mark
  /-- It is never vendored. -/
  | ignored
  /-- It is kept as it is. -/
  | pinned
  deriving DecidableEq

/-- A call in a vendor file, with the text that names a repository. -/
structure VendorCall where
  mark : Mark
  given : String
  deriving DecidableEq

namespace VendorCall

/-- The step that makes the call through a context. -/
def step (context : String) (call : VendorCall) : Step :=
  match call.mark with
  | .ignored => .ignore context call.given
  | .pinned => .pin context call.given

/-- The call is at fault: the error is that of the first check which its text does not pass. -/
inductive Faulty : VendorCall → Error → Prop
  | missing (mark : Mark) : Faulty ⟨mark, ""⟩ .vendorNameMissing
  | notCanonical {mark : Mark} {given : String} (nonempty : given ≠ "")
      (unmarked : ∀ name, given ≠ "@@" ++ name) : Faulty ⟨mark, given⟩ .vendorNameNotCanonical
  | invalid {mark : Mark} {name : String} {cause : Error}
      (rejected : RepositoryName.create name = .error cause) :
      Faulty ⟨mark, "@@" ++ name⟩ (.vendorNameInvalid cause)

end VendorCall

namespace VendorMarks

/-- The names with a mark. -/
def names (marks : VendorMarks) : Mark → List String
  | .ignored => marks.ignored
  | .pinned => marks.pinned

/-- The marks with one more repository marked. -/
def add : Mark → VendorMarks → RepositoryName → VendorMarks
  | .ignored => ignore
  | .pinned => pin

/-- Under each mark there are exactly the names that calls have given for it, each once. -/
structure Hold (marks : VendorMarks) (calls : List VendorCall) : Prop where
  mem : ∀ mark name, name ∈ marks.names mark ↔ ⟨mark, "@@" ++ name⟩ ∈ calls
  nodup : ∀ mark, (marks.names mark).Nodup

variable {marks : VendorMarks} {calls : List VendorCall} {call : VendorCall}
  {marked : RepositoryName} {given : String} {failure : Error}

@[simp]
theorem mem_names_add {mark other : Mark} {name : String} :
    name ∈ (add mark marks marked).names other ↔
      (other = mark ∧ name = marked.name) ∨ name ∈ marks.names other := by
  cases mark <;> cases other <;> simp [add, ignore, pin, names]

theorem nodup_names_add {mark : Mark} (nodup : ∀ other, (marks.names other).Nodup) (other : Mark) :
    ((add mark marks marked).names other).Nodup := by
  cases mark with
  | ignored =>
      cases other with
      | ignored => exact nodup_addName (nodup .ignored)
      | pinned => exact nodup .pinned
  | pinned =>
      cases other with
      | ignored => exact nodup .ignored
      | pinned => exact nodup_addName (nodup .pinned)

theorem hold_empty : empty.Hold [] where
  mem mark name := by cases mark <;> simp [empty, names]
  nodup mark := by cases mark <;> simp [empty, names]

/-! ## Naming repositories -/

theorem repository_append (name : String) :
    repository ("@@" ++ name) = (RepositoryName.create name).mapError .vendorNameInvalid := by
  have chars : ("@@" ++ name).toList = '@' :: '@' :: name.toList := by simp
  simp only [VendorMarks.repository, chars, String.ofList_toList]

theorem repository_of_unmarked (nonempty : given ≠ "") (unmarked : ∀ name, given ≠ "@@" ++ name) :
    repository given = .error .vendorNameNotCanonical := by
  unfold repository
  split
  case h_1 chars => exact absurd (String.toList_eq_nil_iff.1 chars) nonempty
  case h_2 name chars =>
    have joined : given = "@@" ++ String.ofList name := by
      rw [← String.toList_inj, chars]
      simp
    exact absurd joined (unmarked _)
  case h_3 => rfl

theorem repository_of_faulty (faulty : call.Faulty failure) :
    repository call.given = .error failure := by
  cases faulty with
  | missing => rfl
  | notCanonical nonempty unmarked => exact repository_of_unmarked nonempty unmarked
  | invalid rejected =>
      rw [repository_append, rejected]
      rfl

/-- A call names a repository, or it is at fault. -/
theorem repository_cases (call : VendorCall) :
    (∃ name, call.given = "@@" ++ name ∧ RepositoryName.create name = .ok ⟨name⟩ ∧
      repository call.given = .ok ⟨name⟩) ∨ ∃ failure, call.Faulty failure := by
  rcases call with ⟨mark, given⟩
  by_cases nonempty : given = ""
  · subst nonempty
    exact Or.inr ⟨.vendorNameMissing, .missing mark⟩
  · by_cases marked : ∃ name, given = "@@" ++ name
    · rcases marked with ⟨name, rfl⟩
      rcases created : RepositoryName.create name with cause | repository
      · exact Or.inr ⟨.vendorNameInvalid cause, .invalid created⟩
      · rcases RepositoryName.create_eq_ok_iff.1 created with ⟨_, rfl⟩
        refine Or.inl ⟨name, rfl, created, ?_⟩
        rw [repository_append, created]
        rfl
    · exact Or.inr ⟨.vendorNameNotCanonical, .notCanonical nonempty (not_exists.1 marked)⟩

theorem not_faulty_of_repository (accepted : repository call.given = .ok marked) (failure : Error) :
    ¬call.Faulty failure := by
  intro faulty
  rw [repository_of_faulty faulty] at accepted
  cases accepted

/-- A call is not at fault exactly if it names a repository after two marks. -/
theorem faultless_iff :
    (∀ failure, ¬call.Faulty failure) ↔
      ∃ name repository, call.given = "@@" ++ name ∧
        RepositoryName.create name = .ok repository := by
  constructor
  · intro sound
    rcases repository_cases call with ⟨name, named, created, _⟩ | ⟨failure, faulty⟩
    · exact ⟨name, ⟨name⟩, named, created⟩
    · exact absurd faulty (sound failure)
  · rintro ⟨name, repository, named, created⟩
    apply not_faulty_of_repository
    rw [named, repository_append, created]
    rfl

theorem Hold.add (hold : marks.Hold calls) (named : call.given = "@@" ++ marked.name) :
    (VendorMarks.add call.mark marks marked).Hold (calls ++ [call]) where
  mem mark name := by
    rcases call with ⟨callMark, given⟩
    subst named
    rw [mem_names_add, hold.mem, List.mem_append, List.mem_singleton, VendorCall.mk.injEq,
      String.append_right_inj, or_comm]
  nodup := nodup_names_add hold.nodup

end VendorMarks

theorem VendorCall.Faulty.unique {call : VendorCall} {failure other : Error}
    (faulty : call.Faulty failure) (again : call.Faulty other) : failure = other := by
  have same := VendorMarks.repository_of_faulty faulty
  rw [VendorMarks.repository_of_faulty again] at same
  exact (Except.error.inj same).symm

theorem VendorCall.Faulty.kind {call : VendorCall} {failure : Error}
    (faulty : call.Faulty failure) : failure.kind = .evaluation := by
  cases faulty <;> rfl

/-! ## Making calls -/

/-- The context under an identifier leads to vendor marks. -/
structure Store.Marking (store : Store) (id : String) (vendor : Reference) (marks : VendorMarks) :
    Prop where
  context : ∃ reference entered, store.contexts.current? id = some reference ∧
    store.contexts.get? reference = some entered ∧ entered.vendor = some vendor
  marks : store.vendors.get? vendor = some marks

namespace Store.Marking

variable {store : Store} {id : String} {vendor : Reference} {marks : VendorMarks}
  {calls earlier : List VendorCall} {failure : Error}

theorem modify (marking : store.Marking id vendor marks) (change : VendorMarks → VendorMarks) :
    Marking { store with vendors := store.vendors.modify vendor change } id vendor
      (change marks) where
  context := marking.context
  marks := by
    show (store.vendors.modify vendor change).get? vendor = some (change marks)
    rw [Table.get?_modify_self, marking.marks]
    rfl

/-- A step that marks a repository fails for the name that it is given, or adds its mark. -/
theorem markIn_eq (marking : store.Marking id vendor marks) (what given : String)
    (add : VendorMarks → RepositoryName → VendorMarks) :
    Step.markIn store id what given add =
      match VendorMarks.repository given with
      | .error failure => .single store (.error failure) none
      | .ok repository =>
          let vendors := store.vendors.modify vendor fun marks => add marks repository
          .single { store with vendors := vendors } (.ok (.vendor (add marks repository)))
            none := by
  rcases marking.context with ⟨reference, entered, current, present, leads⟩
  have found : store.contextOf id = .ok reference := by rw [contextOf, current]; rfl
  have attached : store.attachedVendor reference what = .ok vendor := by
    simp only [attachedVendor, present, Option.bind_some, leads]
  simp only [Step.markIn, found, mark, attached]
  rcases VendorMarks.repository given with failure | repository
  · rfl
  · have held := (marking.modify fun marks => add marks repository).marks
    simp only at held
    simp only [held, Option.getD_some]
    rfl

/-- The call that a step makes is at fault, or it adds its name under its mark. -/
theorem run_step (marking : store.Marking id vendor marks) (environment : Environment)
    (call : VendorCall) :
    Step.run environment (call.step id) store =
      match VendorMarks.repository call.given with
      | .error failure => .single store (.error failure) none
      | .ok repository =>
          let vendors := store.vendors.modify vendor fun marks =>
            VendorMarks.add call.mark marks repository
          .single { store with vendors := vendors }
            (.ok (.vendor (VendorMarks.add call.mark marks repository))) none := by
  rcases call with ⟨mark, given⟩
  cases mark with
  | ignored => exact marking.markIn_eq "ignore()" given VendorMarks.ignore
  | pinned => exact marking.markIn_eq "pin()" given VendorMarks.pin

/-- The calls that are made are those before the first fault, and it ends them. -/
theorem runBody (marking : store.Marking id vendor marks) (hold : marks.Hold earlier)
    (environment : Environment) (calls : List VendorCall) :
    let ran := Step.runBody environment (calls.map (VendorCall.step id)) store
    (∀ failure, ran.failure = some failure ↔ FirstFault VendorCall.Faulty calls failure) ∧
    ∃ made later, BeforeFault VendorCall.Faulty calls made ∧ later.Hold (earlier ++ made) ∧
      ran.store.Marking id vendor later := by
  induction calls generalizing store marks earlier with
  | nil =>
      refine ⟨fun failure => by simp [Step.runBody], [], marks, ⟨by simp [Faultless], Or.inl rfl⟩,
        ?_, marking⟩
      rwa [List.append_nil]
  | cons call rest ih =>
      have performed := marking.run_step environment call
      rcases VendorMarks.repository_cases call with ⟨name, named, _, accepted⟩ | ⟨fault, faulty⟩
      · have sound := VendorMarks.not_faulty_of_repository accepted
        rw [accepted] at performed
        rcases ih (marking.modify fun marks => VendorMarks.add call.mark marks ⟨name⟩)
          (hold.add named) with ⟨failures, made, later, before, holds, ends⟩
        simp only [List.map_cons, Step.runBody, performed, Outcome.single]
        refine ⟨fun failure => ?_, call :: made, later, before.cons sound, ?_, ends⟩
        · rw [FirstFault.cons_iff, failures]
          simp [sound]
        · rwa [List.append_cons]
      · rw [VendorMarks.repository_of_faulty faulty] at performed
        simp only [List.map_cons, Step.runBody, performed, Outcome.single]
        refine ⟨fun failure => ?_, [], marks, .of_faulty faulty rest, ?_, marking⟩
        · rw [FirstFault.cons_iff]
          constructor
          · intro same
            cases same
            exact Or.inl faulty
          · rintro (again | ⟨none, _⟩)
            · rw [faulty.unique again]
            · exact absurd faulty (none fault)
        · rwa [List.append_nil]

end Store.Marking

namespace VendorFile

/-- A vendor file starts with a context that leads to empty marks. -/
theorem marking_enter (settings : Settings) (context : String) (store : Store) :
    let entered := enter settings context store
    entered.1.Marking context entered.2 .empty := by
  let created := Context.create settings (some label) none
  let leading : Context := { created with vendor := some (store.vendors.next context) }
  have added := Table.get?_add_next store.contexts context created
  refine ⟨⟨store.contexts.next context, leading, ?_, ?_, rfl⟩,
    Table.get?_add_next store.vendors context .empty⟩
  · show ((store.contexts.add context created).modify _ _).current? context = _
    rw [Table.current?_modify, Table.current?_add]
  · show ((store.contexts.add context created).modify _ _).get? _ = _
    rw [Table.get?_modify_self, added]
    rfl

/-- What a vendor file gives that makes some calls, and the marks that it leaves. -/
theorem run_calls (environment : Environment) (context : String) (store : Store)
    (calls : List VendorCall) :
    let ran := run environment.settings context store
      (Step.runBody environment (calls.map (VendorCall.step context)))
    (∀ failure, ran.2 = .error failure ↔ FirstFault VendorCall.Faulty calls failure) ∧
    (∀ marks, ran.2 = .ok marks → marks.Hold calls) ∧
    ∃ made later, BeforeFault VendorCall.Faulty calls made ∧ later.Hold made ∧
      ran.1.store.Marking context (enter environment.settings context store).2 later := by
  rcases (marking_enter environment.settings context store).runBody VendorMarks.hold_empty
    environment calls with ⟨failures, made, later, before, hold, ends⟩
  rw [List.nil_append] at hold
  rcases failed : (Step.runBody environment (calls.map (VendorCall.step context))
    (enter environment.settings context store).1).failure with _ | fault
  · have given : (run environment.settings context store
        (Step.runBody environment (calls.map (VendorCall.step context)))).2 = .ok later := by
      simp only [run, failed, ends.marks, Option.getD_some]
    have faultless : Faultless VendorCall.Faulty calls := by
      rw [FirstFault.faultless_iff]
      intro failure
      simp [← failures, failed]
    rw [before.eq_of_faultless faultless] at hold
    refine ⟨fun failure => ?_, fun marks gave => ?_, made, later, before, ?_, ends⟩
    · rw [given, ← failures, failed]
      simp
    · rw [given] at gave
      cases gave
      exact hold
    · rwa [before.eq_of_faultless faultless]
  · have given : (run environment.settings context store
        (Step.runBody environment (calls.map (VendorCall.step context)))).2 = .error fault := by
      simp only [run, failed]
    refine ⟨fun failure => ?_, fun marks gave => ?_, made, later, before, hold, ends⟩
    · rw [given, ← failures, failed]
      simp
    · rw [given] at gave
      cases gave

end VendorFile

end ExternalRepos
