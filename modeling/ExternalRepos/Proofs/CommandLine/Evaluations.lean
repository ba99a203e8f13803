import Mathlib.Data.List.Forall2
import ExternalRepos.CommandLine.Run
import ExternalRepos.Proofs.OrderedMap
import ExternalRepos.Proofs.Specification.Serial

/-!
# What is shown of evaluations

The results of some extensions are shown by name, so of several extensions with one
name only the last result is there. Nothing else is lost on the way into a document,
and into tables nothing but what comes after a title that is no markup. `Complete`
says that nothing is lost at all, and the main theorem says when this is so: each
result that is overwritten holds no repositories, and the titles can be read.
-/

namespace ExternalRepos

namespace EvaluationResult

/-- The number of repositories in some results. -/
def total (results : List EvaluationResult) : Nat :=
  (results.flatMap fun result => result.repos.entries).length

/-- A result is among others, or at least everything in it. -/
def IsCovered (shown : List EvaluationResult) (result : EvaluationResult) : Prop :=
  ∃ other ∈ shown, other.id = result.id ∧ other.repoPrefix = result.repoPrefix ∧
    ∀ name specification, result.repos.get? name = some specification →
      other.repos.get? name = some specification

/-- Some results show everything that others hold, and just as much. -/
structure Complete (results shown : List EvaluationResult) : Prop where
  covered : ∀ result ∈ results, IsCovered shown result
  counted : total shown = total results

/-- The results whose tables are handed on: the first one whose title is no markup ends them. -/
def handed : List EvaluationResult → List EvaluationResult
  | [] => []
  | result :: rest =>
      if Text.tagsMatch result.tableTitle then result :: handed rest else [result]

variable {results : List EvaluationResult}

theorem handed_isPrefix (results : List EvaluationResult) : handed results <+: results := by
  induction results with
  | nil => exact List.nil_prefix
  | cons result rest ih =>
      rw [handed]
      split
      · exact (List.prefix_cons_inj result).2 ih
      · exact ⟨rest, rfl⟩

theorem handed_eq_self_iff :
    handed results = results ↔
      ∀ result ∈ results.dropLast, Text.tagsMatch result.tableTitle = true := by
  induction results with
  | nil => simp [handed]
  | cons result rest ih =>
      cases rest with
      | nil => simp [handed]
      | cons next later =>
          rw [handed, List.dropLast_cons_cons, List.forall_mem_cons, ← ih]
          split
          · rename_i matched
            simp [matched]
          · rename_i unmatched
            simp [unmatched]

/-- What is printed are the tables handed on, and the error is about the title that ends them. -/
theorem printTables_eq (results : List EvaluationResult) :
    printTables results =
      (String.join (((handed results).filter fun result => Text.tagsMatch result.tableTitle).map
          fun result => result.table.written),
        ((handed results).find? fun result => !Text.tagsMatch result.tableTitle).map
          fun result => .unmatchedTag result.tableTitle) := by
  induction results with
  | nil => rfl
  | cons result rest ih =>
      rw [printTables, handed]
      split
      · rename_i matched
        simp [ih, matched]
      · rename_i unmatched
        simp [unmatched]

theorem total_append (left right : List EvaluationResult) :
    total (left ++ right) = total left + total right := by
  simp only [total, List.flatMap_append, List.length_append]

theorem total_perm {left right : List EvaluationResult} (same : left.Perm right) :
    total left = total right :=
  (same.flatMap_right _).length_eq

theorem total_eq_zero_iff : total results = 0 ↔ ∀ result ∈ results, result.repos = ∅ := by
  rw [total, List.length_eq_zero_iff, List.flatMap_eq_nil_iff]
  refine forall₂_congr fun result _ => ?_
  exact ⟨fun none => OrderedMap.ext_entries none, fun none => by rw [none]; rfl⟩

end EvaluationResult

namespace Evaluations

open EvaluationResult

variable {environment : Environment} {module : String} {evaluations : Evaluations}

/-! ## The results of a file -/

/-- A result of an extension: what its evaluation has given in some state of the session. -/
def Gives (environment : Environment) (module : String) (extension : String × List Step)
    (entry : String × EvaluationResult) : Prop :=
  entry.1 = extension.1 ∧ ∃ store,
    ((request module extension.1).run environment.settings .schema [] store
      fun entered => Step.runBody environment extension.2 entered).2 = .ok entry.2

/-- If nothing has failed, there is a result for each extension. -/
theorem forall₂_gives {extensions : List (String × List Step)} {store : Store}
    (succeeded : (run environment module extensions store).failure = none) :
    List.Forall₂ (Gives environment module) extensions
      (run environment module extensions store).results := by
  induction extensions generalizing store with
  | nil => exact .nil
  | cons extension rest ih =>
      rcases extension with ⟨name, body⟩
      rcases evaluated : (request module name).run environment.settings .schema [] store
        (fun entered => Step.runBody environment body entered) with ⟨ran, failure | result⟩
      · simp only [run, evaluated] at succeeded
        cases succeeded
      · simp only [run, evaluated] at succeeded ⊢
        exact .cons ⟨rfl, store, by rw [evaluated]⟩ (ih succeeded)

/-- The name of an extension tells the identifier and the prefix of its result. -/
structure Tells (environment : Environment) (module : String)
    (entry : String × EvaluationResult) : Prop where
  id : entry.2.id = ModuleExtension.identifier module entry.1
  repoPrefix : entry.2.repoPrefix =
    ModuleExtension.repoPrefix module entry.1 environment.settings.repoNameSeparator

theorem Gives.tells {extension : String × List Step} {entry : String × EvaluationResult}
    (gives : Gives environment module extension entry) : Tells environment module entry := by
  rcases gives with ⟨named, store, evaluated⟩
  simp only [Evaluation.run, Evaluation.conclude] at evaluated
  split at evaluated
  · cases evaluated
  · have result := Except.ok.inj evaluated
    constructor
    · rw [← result, named]
      rfl
    · rw [← result, named]
      rfl

theorem identifier_inj {left right : String}
    (same : ModuleExtension.identifier module left = ModuleExtension.identifier module right) :
    left = right := by
  have chars := congrArg String.toList same
  simp only [ModuleExtension.identifier, String.toList_append, List.append_cancel_left_eq] at chars
  exact String.toList_inj.1 chars

/-! ## Overwritten results -/

/-- The results that are not shown, because a later one has the same name. -/
def lost (evaluations : Evaluations) : List (String × EvaluationResult) :=
  OrderedMap.overwritten evaluations.results

theorem results_perm (evaluations : Evaluations) :
    evaluations.results.Perm (evaluations.shown.entries ++ evaluations.lost) :=
  OrderedMap.perm_entries_ofList evaluations.results

theorem total_results (evaluations : Evaluations) :
    total (evaluations.results.map Prod.snd) =
      total (evaluations.shown.entries.map Prod.snd) + total (evaluations.lost.map Prod.snd) := by
  rw [← total_append, ← List.map_append]
  exact total_perm (evaluations.results_perm.map Prod.snd)

/-- Everything is counted if nothing that is lost held a repository. -/
theorem total_shown_eq_iff :
    total (evaluations.shown.entries.map Prod.snd) = total (evaluations.results.map Prod.snd) ↔
      ∀ entry ∈ evaluations.lost, entry.2.repos = ∅ := by
  rw [total_results, Nat.left_eq_add, total_eq_zero_iff, List.forall_mem_map]

/-- Every result is shown, or its name is left to another result. -/
theorem exists_shown_of_mem {entry : String × EvaluationResult}
    (entryMem : entry ∈ evaluations.results) :
    ∃ result, (entry.1, result) ∈ evaluations.shown.entries ∧
      (result = entry.2 ∨ entry ∈ evaluations.lost) := by
  rcases List.mem_append.1 (evaluations.results_perm.mem_iff.1 entryMem) with shown | lost
  · exact ⟨entry.2, shown, Or.inl rfl⟩
  · have named : evaluations.results.reverse.lookup entry.1 ≠ none := by
      rw [ne_eq, OrderedMap.lookup_eq_none_iff, Classical.not_not, List.map_reverse,
        List.mem_reverse]
      exact List.mem_map_of_mem entryMem
    rw [← OrderedMap.get?_ofList] at named
    rcases Option.ne_none_iff_exists'.1 named with ⟨result, found⟩
    exact ⟨result, OrderedMap.get?_eq_some_iff.1 found, Or.inr lost⟩

theorem mem_results_of_shown {entry : String × EvaluationResult}
    (entryMem : entry ∈ evaluations.shown.entries) : entry ∈ evaluations.results :=
  evaluations.results_perm.mem_iff.2 (List.mem_append_left _ entryMem)

/-! ## Documents -/

/-- The number of repositories in a document. -/
def repositoriesIn (document : Value) : Nat :=
  ((document.entries?.getD []).flatMap fun member =>
    ((member.2.field? "repos").bind Value.entries?).getD []).length

/-- A document lists some results by name, and as many repositories as they hold. -/
structure Lists (results : List (String × EvaluationResult)) (document : Value) : Prop where
  listed : ∀ entry ∈ results, ∃ member repos, document.field? entry.1 = some member ∧
    member.field? "prefix" = some (.text entry.2.repoPrefix) ∧
    member.field? "repos" = some repos ∧
    ∀ name specification, entry.2.repos.get? name = some specification →
      repos.field? name = some specification.toValue
  counted : repositoriesIn document = total (results.map Prod.snd)

/-- The repositories of a result in a document. -/
def reposValue (result : EvaluationResult) : Value :=
  .dict (Value.ofTextEntries
    (result.repos.mapValues fun _ specification => specification.toValue).entries)

theorem field?_repoPrefix (result : EvaluationResult) :
    result.toValue.field? "prefix" = some (.text result.repoPrefix) :=
  Value.field?_ofTextEntries _ "prefix"

theorem field?_repos (result : EvaluationResult) :
    result.toValue.field? "repos" = some (reposValue result) :=
  Value.field?_ofTextEntries _ "repos"

theorem field?_reposValue (result : EvaluationResult) (name : String) :
    (reposValue result).field? name =
      (result.repos.get? name).map Specification.toValue := by
  rw [reposValue, Value.field?_ofTextEntries]
  exact OrderedMap.get?_mapValues result.repos _ name

theorem field?_payload (evaluations : Evaluations) (name : String) :
    evaluations.payload.field? name =
      (evaluations.shown.get? name).map EvaluationResult.toValue := by
  rw [payload, Value.field?_ofTextEntries]
  exact OrderedMap.get?_mapValues evaluations.shown _ name

theorem repositoriesIn_payload (evaluations : Evaluations) :
    repositoriesIn evaluations.payload = total (evaluations.shown.entries.map Prod.snd) := by
  simp only [repositoriesIn, payload, Value.entries?, Option.getD_some, Value.ofTextEntries,
    OrderedMap.mapValues, List.map_map, total, List.flatMap_map, Function.comp_apply, field?_repos,
    reposValue, Option.bind_some]
  simp [List.length_flatMap]

/-- The document lists all results if nothing that is lost held a repository. -/
theorem lists_payload_iff (tells : ∀ entry ∈ evaluations.results, Tells environment module entry) :
    Lists evaluations.results evaluations.payload ↔
      ∀ entry ∈ evaluations.lost, entry.2.repos = ∅ := by
  rw [← total_shown_eq_iff, ← repositoriesIn_payload]
  refine ⟨Lists.counted, fun counted => ⟨?_, counted⟩⟩
  rw [repositoriesIn_payload, total_shown_eq_iff] at counted
  intro entry entryMem
  rcases exists_shown_of_mem entryMem with ⟨result, shown, same⟩
  refine ⟨result.toValue, reposValue result, ?_, ?_, field?_repos result, ?_⟩
  · rw [field?_payload, OrderedMap.get?_eq_some_iff.2 shown]
    rfl
  · rw [field?_repoPrefix, (tells entry entryMem).repoPrefix,
      (tells _ (mem_results_of_shown shown)).repoPrefix]
  · intro name specification found
    rcases same with rfl | lost
    · rw [field?_reposValue, found]
      rfl
    · rw [counted entry lost] at found
      cases found

/-! ## Tables -/

/-- The identifiers of the results that are shown differ, as their names do. -/
theorem nodup_ids (tells : ∀ entry ∈ evaluations.results, Tells environment module entry) :
    (evaluations.shown.entries.map fun entry => entry.2.id).Nodup := by
  have ids : (evaluations.shown.entries.map fun entry => entry.2.id) =
      evaluations.shown.keys.map (ModuleExtension.identifier module) := by
    rw [OrderedMap.keys, List.map_map]
    refine List.map_congr_left fun entry entryMem => ?_
    exact (tells entry (mem_results_of_shown entryMem)).id
  rw [ids]
  exact List.Pairwise.map _ (fun _ _ different same => different (identifier_inj same))
    evaluations.shown.keys_nodup

theorem covered_of_lost_empty
    (tells : ∀ entry ∈ evaluations.results, Tells environment module entry)
    (empty : ∀ entry ∈ evaluations.lost, entry.2.repos = ∅)
    {entry : String × EvaluationResult} (entryMem : entry ∈ evaluations.results) :
    IsCovered (evaluations.shown.entries.map Prod.snd) entry.2 := by
  rcases exists_shown_of_mem entryMem with ⟨result, shown, same⟩
  have told := tells entry entryMem
  have shownTold := tells _ (mem_results_of_shown shown)
  refine ⟨result, List.mem_map_of_mem shown, ?_, ?_, ?_⟩
  · rw [told.id, shownTold.id]
  · rw [told.repoPrefix, shownTold.repoPrefix]
  · intro name specification found
    rcases same with rfl | lost
    · exact found
    · rw [empty entry lost] at found
      cases found

/-- Results are missing among the tables if one of them is not handed on. -/
theorem handed_eq_of_complete
    (tells : ∀ entry ∈ evaluations.results, Tells environment module entry)
    (complete : Complete (evaluations.results.map Prod.snd)
      (handed (evaluations.shown.entries.map Prod.snd))) :
    handed (evaluations.shown.entries.map Prod.snd) = evaluations.shown.entries.map Prod.snd := by
  rcases handed_isPrefix (evaluations.shown.entries.map Prod.snd) with ⟨missing, split⟩
  have nodup : ((evaluations.shown.entries.map Prod.snd).map EvaluationResult.id).Nodup := by
    rw [List.map_map]
    exact nodup_ids tells
  rcases missing with _ | ⟨result, rest⟩
  · rw [List.append_nil] at split
    exact split
  · rw [← split, List.map_append, List.nodup_append] at nodup
    have resultMem : result ∈ evaluations.shown.entries.map Prod.snd := by
      rw [← split]
      simp
    rcases List.mem_map.1 resultMem with ⟨entry, entryMem, rfl⟩
    have shown : entry.2 ∈ evaluations.results.map Prod.snd :=
      List.mem_map_of_mem (mem_results_of_shown entryMem)
    rcases complete.covered entry.2 shown with ⟨other, otherMem, sameId, _⟩
    exact absurd sameId (nodup.2.2 _ (List.mem_map_of_mem otherMem) _ (by simp))

theorem complete_handed_iff
    (tells : ∀ entry ∈ evaluations.results, Tells environment module entry) :
    Complete (evaluations.results.map Prod.snd)
        (handed (evaluations.shown.entries.map Prod.snd)) ↔
      (∀ entry ∈ evaluations.lost, entry.2.repos = ∅) ∧
        ∀ result ∈ (evaluations.shown.entries.map Prod.snd).dropLast,
          Text.tagsMatch result.tableTitle = true := by
  rw [← handed_eq_self_iff]
  constructor
  · intro complete
    have all := handed_eq_of_complete tells complete
    have counted := complete.counted
    rw [all, total_shown_eq_iff] at counted
    exact ⟨counted, all⟩
  · rintro ⟨empty, all⟩
    rw [all]
    refine ⟨?_, total_shown_eq_iff.2 empty⟩
    rw [List.forall_mem_map]
    exact fun entry entryMem => covered_of_lost_empty tells empty entryMem

/--
What is shown of the extensions of a file that are selected by name, if each of them is
evaluated successfully. There is a result for each of them. The document lists every
result, and as many repositories as there are in all, exactly if no result with a
repository is overwritten by a later one of the same name. Tables are handed on and
printed up to the first title that cannot be read; they show as much as the results
exactly if, besides, there is no such title before the last one.
-/
theorem complete_iff_none_lost (settings : Settings) (file : DefinitionFile)
    (module filter : String) :
    let environment : Environment := ⟨settings, file.rules⟩
    let selected := Command.select filter file.extensions
    let evaluations := run environment module selected .empty
    let shown := evaluations.shown.entries.map Prod.snd
    evaluations.failure = none →
      List.Forall₂ (Gives environment module) selected evaluations.results ∧
      (Lists evaluations.results evaluations.payload ↔
        ∀ entry ∈ evaluations.lost, entry.2.repos = ∅) ∧
      evaluations.printed =
        (String.join (((handed shown).filter fun result => Text.tagsMatch result.tableTitle).map
            fun result => result.table.written),
          ((handed shown).find? fun result => !Text.tagsMatch result.tableTitle).map
            fun result => .unmatchedTag result.tableTitle) ∧
      (Complete (evaluations.results.map Prod.snd) (handed shown) ↔
        (∀ entry ∈ evaluations.lost, entry.2.repos = ∅) ∧
          ∀ result ∈ shown.dropLast, Text.tagsMatch result.tableTitle = true) := by
  intro environment selected evaluations shown succeeded
  have gives : List.Forall₂ (Gives environment module) selected evaluations.results :=
    forall₂_gives succeeded
  have tells : ∀ entry ∈ evaluations.results, Tells environment module entry := by
    have told := gives.flip.imp fun entry extension given =>
      And.intro (Gives.tells given) trivial
    exact ((List.forall₂_and_left _ _).1 told).1
  exact ⟨gives, lists_payload_iff tells, printTables_eq shown, complete_handed_iff tells⟩

/-- A file with two extensions that have given names and generate one repository each. -/
def twoExtensions (first second : String) : DefinitionFile :=
  let extension (name repository : String) : Definition :=
    .extension name [.call "reg" "ctx" "archive" [("name", .literal (.text repository))] .builtin]
  ⟨.ofList [("archive", ⟨"archive", default, [], "", by decide⟩)],
    .ofList [("left", extension first "a"), ("right", extension second "b")]⟩

/-- What the two extensions give. -/
def ofTwo (first second : String) : Evaluations :=
  let file := twoExtensions first second
  run ⟨.default, file.rules⟩ "_main" (Command.select "" file.extensions) .empty

/-- Under different names that make readable titles, both results are in both outputs. -/
theorem complete_of_two_names :
    let evaluations := ofTwo "deps" "tools"
    evaluations.failure = none ∧ evaluations.results.length = 2 ∧
    Lists evaluations.results evaluations.payload ∧
    Complete (evaluations.results.map Prod.snd)
      (handed (evaluations.shown.entries.map Prod.snd)) := by
  have succeeded : (ofTwo "deps" "tools").failure = none := by decide +kernel
  have lost : (ofTwo "deps" "tools").lost = [] := by decide +kernel
  have empty : ∀ entry ∈ (ofTwo "deps" "tools").lost, entry.2.repos = ∅ := by simp [lost]
  rcases complete_iff_none_lost .default (twoExtensions "deps" "tools") "_main" "" succeeded with
    ⟨_, lists, _, complete⟩
  refine ⟨succeeded, by decide +kernel, lists.2 empty, complete.2 ⟨empty, ?_⟩⟩
  decide +kernel

/--
Of two results under one name only one is in the outputs. The tables also miss a result
if the title before it closes a tag that is not open.
-/
theorem incomplete_of_one_name :
    (ofTwo "deps" "deps").failure = none ∧ (ofTwo "deps" "deps").results.length = 2 ∧
    ¬Lists (ofTwo "deps" "deps").results (ofTwo "deps" "deps").payload ∧
    ¬Complete ((ofTwo "deps" "deps").results.map Prod.snd)
      (handed ((ofTwo "deps" "deps").shown.entries.map Prod.snd)) ∧
    (ofTwo "deps[/b]" "tools").failure = none ∧
    ¬Complete ((ofTwo "deps[/b]" "tools").results.map Prod.snd)
      (handed ((ofTwo "deps[/b]" "tools").shown.entries.map Prod.snd)) := by
  refine ⟨by decide +kernel, by decide +kernel, fun lists => absurd lists.counted ?_,
    fun complete => absurd complete.counted ?_, by decide +kernel,
    fun complete => absurd complete.counted ?_⟩
  all_goals decide +kernel

end Evaluations

end ExternalRepos
