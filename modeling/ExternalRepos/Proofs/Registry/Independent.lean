import Mathlib.Data.List.Nodup
import ExternalRepos.Proofs.Registry.Log
import ExternalRepos.Settings.Basic

/-!
# Independent declarations

What becomes of a declaration depends on the declarations before it only as far as
its own name goes: the registry must be open, and a conflict is one with the same
name. `AgreesOn` relates registries that are alike for the declarations of one name.
Two of them make the same of such a declaration (`visible_attempt`), and
declarations of other names leave the relation as it is, so declarations of other
names might as well not have been made (`agreesOn_filter`).

Calls can therefore be put in any order that keeps calls of one name in their order
(`Reorders`). Each of them then finds the same calls of its name before it, and is
answered as it was (`visible_attempts_reordered`).
-/

namespace ExternalRepos

/-- The arguments of a declaration. -/
structure DeclarationCall where
  values : OrderedMap Value
  ruleClass : RuleClass
  location : Location
  version : Option String

namespace DeclarationCall

/-- The name that a call carries, if it carries one. -/
def name? (call : DeclarationCall) : Option String :=
  (call.values.get? "name").bind Value.text?

/-- Both calls carry a name, and it is the same. -/
def SameName (first second : DeclarationCall) : Prop :=
  ∃ name, first.name? = some name ∧ second.name? = some name

/-- Calls in another order, each with its old place; calls of one name keep their order. -/
structure Reorders (calls : List DeclarationCall) (reordered : List (DeclarationCall × Nat)) :
    Prop where
  perm : reordered.Perm calls.zipIdx
  keeps : reordered.Pairwise fun earlier later =>
    SameName earlier.1 later.1 → earlier.2 < later.2

end DeclarationCall

/-- What there is to see of an attempt: what was asked, what was posted, and the outcome. -/
def Attempt.visible (attempt : Attempt) :
    Option Request × List Event × Except Error Specification :=
  (attempt.request, attempt.events, attempt.outcome)

namespace Registry

/-- Tries one call. -/
def attempt (settings : Settings) (registry : Registry) (call : DeclarationCall) : Attempt :=
  registry.declare call.values call.ruleClass call.location (settings.chooseVersion call.version)

/-- The registry after some calls in order, whether they failed or not. -/
def after (settings : Settings) : List DeclarationCall → Registry → Registry
  | [], registry => registry
  | call :: rest, registry => after settings rest (registry.attempt settings call).registry

/-- What some calls in order do. -/
def attempts (settings : Settings) : List DeclarationCall → Registry → List Attempt
  | [], _ => []
  | call :: rest, registry =>
      registry.attempt settings call ::
        attempts settings rest (registry.attempt settings call).registry

/-- Registries that are alike for declarations of a name, or of none. -/
structure AgreesOn (name : Option String) (left right : Registry) : Prop where
  setup : { left with declarations := right.declarations } = right
  found : ∀ chosen, name = some chosen →
    left.declarations.get? chosen = right.declarations.get? chosen

variable {settings : Settings} {registry left right : Registry} {name : String}
  {call : DeclarationCall} {calls : List DeclarationCall}

namespace AgreesOn

theorem refl (name : Option String) (registry : Registry) : AgreesOn name registry registry :=
  ⟨rfl, fun _ _ => rfl⟩

theorem symm {name : Option String} (agrees : AgreesOn name left right) :
    AgreesOn name right left where
  setup := by rw [← agrees.setup]
  found := fun chosen here => (agrees.found chosen here).symm

theorem trans {name : Option String} {middle : Registry} (first : AgreesOn name left middle)
    (second : AgreesOn name middle right) : AgreesOn name left right where
  setup := by rw [← second.setup, ← first.setup]
  found := fun chosen here => (first.found chosen here).trans (second.found chosen here)

/-- A declaration finds its name taken in both registries, by the same declaration, or in none. -/
theorem newName_eq (agrees : AgreesOn call.name? left right) :
    left.newName call.values = right.newName call.values := by
  have setup := agrees.setup
  unfold newName
  rw [← setup]
  split
  · rfl
  · split
    · rename_i chosen given
      rw [agrees.found chosen (by rw [DeclarationCall.name?, given]; rfl), setup]
    · rfl
    · rfl

/-- Alike registries make the same of a declaration of the name. -/
theorem visible_attempt (agrees : AgreesOn call.name? left right) (settings : Settings) :
    (left.attempt settings call).visible = (right.attempt settings call).visible := by
  have asked : ∀ name, left.request name call.values call.ruleClass
      (settings.chooseVersion call.version) = right.request name call.values call.ruleClass
        (settings.chooseVersion call.version) := by
    rw [← agrees.setup]
    exact fun _ => rfl
  have materializer : left.materializer = right.materializer := by rw [← agrees.setup]
  unfold attempt declare
  rw [agrees.newName_eq]
  split
  · rfl
  · simp only [asked, materializer]
    split <;> rfl

end AgreesOn

/-- A declaration changes nothing that a registry was set up with. -/
theorem agreesOn_none_attempt (settings : Settings) (registry : Registry)
    (call : DeclarationCall) :
    AgreesOn none (registry.attempt settings call).registry registry where
  setup := by
    rcases registry.declare_cases call.values call.ruleClass call.location
      (settings.chooseVersion call.version) with ⟨_, _, unchanged⟩ | ⟨_, _, _, _, recorded⟩
    · rw [attempt, unchanged]
    · rw [attempt, recorded]
      rfl
  found := fun _ impossible => nomatch impossible

/-- A declaration that succeeds is recorded under the name that it carries, and no other is. -/
theorem declarations_attempt (settings : Settings) (registry : Registry) (call : DeclarationCall) :
    (registry.attempt settings call).registry.declarations =
      match call.name?, (registry.attempt settings call).outcome with
      | some name, .ok specification =>
          registry.declarations.insert name ⟨specification, call.location⟩
      | _, _ => registry.declarations := by
  rcases registry.declare_cases call.values call.ruleClass call.location
    (settings.chooseVersion call.version) with
    ⟨_, failed, unchanged⟩ | ⟨name, _, named, declared, recorded⟩
  · rw [attempt, failed, unchanged]
    split <;> simp_all
  · have given := (newName_eq_ok_iff.1 named).2.1
    have carried : call.name? = some name := by rw [DeclarationCall.name?, given]; rfl
    rw [attempt, declared, recorded, carried]
    rfl

/-- A declaration adds nothing under a name that it does not carry. -/
theorem agreesOn_attempt_of_ne (settings : Settings) (registry : Registry)
    (different : call.name? ≠ some name) :
    AgreesOn (some name) (registry.attempt settings call).registry registry where
  setup := (agreesOn_none_attempt settings registry call).setup
  found := by
    intro chosen same
    cases same
    rw [declarations_attempt]
    split
    · rename_i other _ carried _
      have elsewhere : name ≠ other := fun same => different (same ▸ carried)
      rw [OrderedMap.get?_insert, if_neg elsewhere]
    · rfl

/-- Registries that are alike for a name still are when both have tried a call that carries it. -/
theorem AgreesOn.attempt (agrees : AgreesOn call.name? left right) (settings : Settings) :
    AgreesOn call.name? (left.attempt settings call).registry
      (right.attempt settings call).registry where
  setup := by
    have between : AgreesOn none left right :=
      ⟨agrees.setup, fun _ impossible => nomatch impossible⟩
    exact (((agreesOn_none_attempt settings left call).trans between).trans
      (agreesOn_none_attempt settings right call).symm).setup
  found := by
    have sameOutcome :
        (left.attempt settings call).outcome = (right.attempt settings call).outcome :=
      congrArg (fun visible => visible.2.2) (agrees.visible_attempt settings)
    intro chosen here
    rw [declarations_attempt, declarations_attempt, sameOutcome]
    split
    · rw [OrderedMap.get?_insert, OrderedMap.get?_insert, agrees.found chosen here]
    · exact agrees.found chosen here

/-! ## Runs -/

theorem agreesOn_none_after (settings : Settings) (calls : List DeclarationCall)
    (registry : Registry) : AgreesOn none (after settings calls registry) registry := by
  induction calls generalizing registry with
  | nil => exact .refl none registry
  | cons call rest ih => exact (ih _).trans (agreesOn_none_attempt settings registry call)

/-- As far as a name goes, the calls that do not carry it need not have been made. -/
theorem agreesOn_filter (settings : Settings) (agrees : AgreesOn (some name) left right)
    (calls : List DeclarationCall) :
    AgreesOn (some name)
      (after settings (calls.filter fun call => call.name? = some name) left)
      (after settings calls right) := by
  induction calls generalizing left right with
  | nil => exact agrees
  | cons call rest ih =>
      by_cases carries : call.name? = some name
      · rw [List.filter_cons_of_pos (by simpa using carries)]
        rw [← carries] at agrees
        have stillAgrees := agrees.attempt settings
        rw [carries] at stillAgrees
        exact ih stillAgrees
      · rw [List.filter_cons_of_neg (by simpa using carries)]
        exact ih (agrees.trans (agreesOn_attempt_of_ne settings right carries).symm)

/-- What there is to see of a call that comes after as many of the calls as its place says. -/
def visibleAt (settings : Settings) (calls : List DeclarationCall) (registry : Registry)
    (entry : DeclarationCall × Nat) : Option Request × List Event × Except Error Specification :=
  ((registry.after settings (calls.take entry.2)).attempt settings entry.1).visible

theorem getElem?_attempts (settings : Settings) (calls : List DeclarationCall)
    (registry : Registry) (index : Nat) :
    (attempts settings calls registry)[index]? =
      calls[index]?.map ((after settings (calls.take index) registry).attempt settings) := by
  induction calls generalizing registry index with
  | nil => simp [attempts]
  | cons call rest ih =>
      cases index with
      | zero => rfl
      | succ index => exact ih _ index

theorem visible_attempts (settings : Settings) (calls : List DeclarationCall)
    (registry : Registry) :
    (registry.attempts settings calls).map Attempt.visible =
      calls.zipIdx.map (registry.visibleAt settings calls) := by
  apply List.ext_getElem?
  intro index
  rw [List.getElem?_map, List.getElem?_map, getElem?_attempts, List.getElem?_zipIdx]
  rcases calls[index]? with _ | call
  · rfl
  · simp [visibleAt]

end Registry

/-! ## Other orders -/

/-- A list is cut at one of its elements, and so is what is selected from it. -/
theorem filter_eq_append_cons {α : Type} {select : α → Bool} {list : List α} {place : Nat}
    {element : α} (found : list[place]? = some element) (selected : select element = true) :
    list.filter select =
      (list.take place).filter select ++ element :: (list.drop (place + 1)).filter select := by
  rcases List.getElem?_eq_some_iff.1 found with ⟨inside, here⟩
  conv_lhs => rw [← List.take_append_drop place list, List.drop_eq_getElem_cons inside, here]
  rw [List.filter_append, List.filter_cons_of_pos selected]

/-- Lists with the same selection have the same of it before an element that occurs once. -/
theorem filter_take_eq_of_filter_eq {α : Type} {select : α → Bool} {list other : List α}
    {place otherPlace : Nat} {element : α} (nodup : list.Nodup)
    (same : list.filter select = other.filter select) (found : list[place]? = some element)
    (otherFound : other[otherPlace]? = some element) (selected : select element = true) :
    (list.take place).filter select = (other.take otherPlace).filter select := by
  have selectedNodup := nodup.filter select
  rw [filter_eq_append_cons found selected] at same selectedNodup
  rw [filter_eq_append_cons otherFound selected] at same
  rw [List.nodup_middle, List.nodup_cons, List.mem_append, not_or] at selectedNodup
  exact ((List.append_cons_inj_of_notMem selectedNodup.1.1 selectedNodup.1.2).1 same).1

namespace DeclarationCall.Reorders

variable {calls : List DeclarationCall} {reordered : List (DeclarationCall × Nat)}

theorem pairwise_zipIdx (calls : List DeclarationCall) :
    calls.zipIdx.Pairwise fun earlier later => earlier.2 < later.2 := by
  apply List.Pairwise.of_map Prod.snd fun _ _ less => less
  rw [List.zipIdx_map_snd]
  exact List.pairwise_lt_range' 1

/-- The calls that carry a name are in the same places as before, seen among themselves. -/
theorem filter_eq (order : Reorders calls reordered) (name : String) :
    (reordered.filter fun entry => entry.1.name? = some name) =
      calls.zipIdx.filter fun entry => entry.1.name? = some name := by
  have sorted : (reordered.filter fun entry => entry.1.name? = some name).Pairwise
      fun earlier later => earlier.2 < later.2 := by
    rw [List.pairwise_filter]
    apply order.keeps.imp
    intro earlier later keeps earlierCarries laterCarries
    exact keeps ⟨name, by simpa using earlierCarries, by simpa using laterCarries⟩
  have oldSorted := (pairwise_zipIdx calls).filter fun entry => entry.1.name? = some name
  have perm := order.perm.filter fun entry => entry.1.name? = some name
  exact List.Perm.eq_of_pairwise (fun _ _ _ _ less greater => absurd less (Nat.lt_asymm greater))
    sorted oldSorted perm

theorem getElem?_zipIdx (order : Reorders calls reordered) {position index : Nat}
    {call : DeclarationCall} (entered : reordered[position]? = some (call, index)) :
    calls.zipIdx[index]? = some (call, index) := by
  have entryMem := order.perm.mem_iff.1 (List.mem_of_getElem? entered)
  rw [List.getElem?_zipIdx, List.mem_zipIdx_iff_getElem?.1 entryMem]
  simp

/-- A call comes after the same calls of its name as before. -/
theorem filter_take_eq (order : Reorders calls reordered) {position index : Nat}
    {call : DeclarationCall} {name : String} (entered : reordered[position]? = some (call, index))
    (carries : call.name? = some name) :
    (((reordered.map Prod.fst).take position).filter fun earlier => earlier.name? = some name) =
      (calls.take index).filter fun earlier => earlier.name? = some name := by
  have oldEntered := order.getElem?_zipIdx entered
  have nodup : calls.zipIdx.Nodup := by
    apply (pairwise_zipIdx calls).imp
    rintro earlier _ less rfl
    exact Nat.lt_irrefl _ less
  have oldCalls : calls.take index = (calls.zipIdx.take index).map Prod.fst := by
    rw [List.map_take, List.zipIdx_map_fst]
  have before := filter_take_eq_of_filter_eq nodup (order.filter_eq name).symm oldEntered entered
    (by simpa using carries)
  rw [oldCalls, ← List.map_take, List.filter_map, List.filter_map]
  exact congrArg (List.map Prod.fst) before.symm

/-- A call finds the registry as it found it before, as far as its name goes. -/
theorem agreesOn_after (order : Reorders calls reordered) {position index : Nat}
    {call : DeclarationCall} (entered : reordered[position]? = some (call, index))
    (settings : Settings) (registry : Registry) :
    Registry.AgreesOn call.name?
      (registry.after settings ((reordered.map Prod.fst).take position))
      (registry.after settings (calls.take index)) := by
  rcases carried : call.name? with _ | name
  · exact (Registry.agreesOn_none_after settings _ registry).trans
      (Registry.agreesOn_none_after settings _ registry).symm
  · have filtered := Registry.agreesOn_filter settings (.refl (some name) registry)
    have now := filtered ((reordered.map Prod.fst).take position)
    rw [order.filter_take_eq entered carried] at now
    exact now.symm.trans (filtered (calls.take index))

/-- A run in another order makes the same attempts, each in its new place. -/
theorem visible_attempts_reordered (order : Reorders calls reordered) (settings : Settings)
    (registry : Registry) :
    (registry.attempts settings (reordered.map Prod.fst)).map Attempt.visible =
      reordered.map (registry.visibleAt settings calls) := by
  apply List.ext_getElem?
  intro position
  rw [List.getElem?_map, List.getElem?_map, Registry.getElem?_attempts, List.getElem?_map]
  rcases entered : reordered[position]? with _ | ⟨call, index⟩
  · rfl
  · exact congrArg some ((order.agreesOn_after entered settings registry).visible_attempt settings)

/-- In the end the registry has the same declarations, if not in the same order. -/
theorem get?_after (order : Reorders calls reordered) (settings : Settings) (registry : Registry)
    (name : String) :
    (registry.after settings (reordered.map Prod.fst)).declarations.get? name =
      (registry.after settings calls).declarations.get? name := by
  have filtered := Registry.agreesOn_filter settings (.refl (some name) registry)
  have sameCalls : ((reordered.map Prod.fst).filter fun call => call.name? = some name) =
      calls.filter fun call => call.name? = some name := by
    conv_rhs => rw [← List.zipIdx_map_fst 0 calls]
    rw [List.filter_map, List.filter_map]
    exact congrArg (List.map Prod.fst) (order.filter_eq name)
  have now := filtered (reordered.map Prod.fst)
  rw [sameCalls] at now
  exact (now.symm.trans (filtered calls)).found name rfl

end DeclarationCall.Reorders

end ExternalRepos
