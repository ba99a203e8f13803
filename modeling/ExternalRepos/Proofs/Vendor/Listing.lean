import ExternalRepos.Proofs.CommandLine.AllOrNothing
import ExternalRepos.Proofs.Messages
import ExternalRepos.Proofs.Vendor.Calls

/-!
# Vendor files, classified and listed

The vendor command runs a function and lists what it has marked. Under each mark every
name stands once, and sorting makes the list strictly increasing, so the list is
determined by the set of names and does not show in which order they were marked or how
often (`ListsMarked.unique`). If a call is at fault nothing is listed; the error is
printed on one line. In both cases all that is printed is printable, so nothing of it is
lost on the way to the stream (`CommandOutcome.ended_unlines`).
-/

namespace ExternalRepos

open Text

/-- The names that calls give for a mark, each once and in the order of their code points. -/
structure ListsMarked (calls : List VendorCall) (mark : Mark) (listed : List String) : Prop where
  increasing : listed.Pairwise (· < ·)
  mem : ∀ name, name ∈ listed ↔ ⟨mark, "@@" ++ name⟩ ∈ calls

/-- What can be seen of a command that runs a function which makes some calls. -/
structure ShowsMarks (files : Files) (calls : List VendorCall) (outcome : CommandOutcome) :
    Prop where
  listed : Faultless VendorCall.Faulty calls → ∃ ignored pinned,
    ListsMarked calls .ignored ignored ∧ ListsMarked calls .pinned pinned ∧
    outcome = ⟨0, String.join (ignored.map fun name => "ignored @@" ++ name ++ "\n") ++
      String.join (pinned.map fun name => "pinned  @@" ++ name ++ "\n"), "", files.logs, none⟩
  failed : ∀ failure, FirstFault VendorCall.Faulty calls failure → IsLine failure.message ∧
    outcome = ⟨1, "[ERROR] " ++ failure.message ++ "\n", "", files.logs, none⟩

/-- A command finds a function that makes some calls. -/
structure FindsCalls (files : Files) (path function : String) (calls : List VendorCall) :
    Prop where
  plain : (Command.vendor path function).checkPaths = .ok ()
  loaded : ∃ file, Command.load files path = .ok file ∧
    file.operation? function = some (.program (calls.map (VendorCall.step "ctx")))

variable {calls others : List VendorCall} {mark : Mark} {files : Files} {marks : VendorMarks}
  {outcome other : CommandOutcome}

/-! ## Lists of marked names -/

/-- Names in the order of their code points. -/
def sortedNames (names : List String) : List String :=
  names.mergeSort fun left right => decide (left ≤ right)

theorem mem_sortedNames {names : List String} {name : String} :
    name ∈ sortedNames names ↔ name ∈ names :=
  List.mem_mergeSort

theorem pairwise_sortedNames {names : List String} (nodup : names.Nodup) :
    (sortedNames names).Pairwise (· < ·) := by
  have distinct : (sortedNames names).Pairwise (· ≠ ·) :=
    (List.mergeSort_perm _ _).nodup_iff.2 nodup
  refine ((OrderedMap.pairwise_mergeSort id names).and distinct).imp ?_
  rintro left right ⟨below, apart⟩
  by_contra notBelow
  exact apart (String.le_antisymm below (String.not_lt.1 notBelow))

theorem VendorMarks.Hold.listsMarked (hold : marks.Hold calls) (mark : Mark) :
    ListsMarked calls mark (sortedNames (marks.names mark)) where
  increasing := pairwise_sortedNames (hold.nodup mark)
  mem name := by rw [mem_sortedNames, hold.mem]

/-- The set of the calls settles the list. -/
theorem ListsMarked.unique {listed again : List String} (lists : ListsMarked calls mark listed)
    (relists : ListsMarked others mark again) (same : ∀ call, call ∈ calls ↔ call ∈ others) :
    listed = again := by
  have members : ∀ name, name ∈ listed ↔ name ∈ again := by
    intro name
    rw [lists.mem, relists.mem, same]
  have arranged : listed.Perm again :=
    (List.perm_ext_iff_of_nodup (lists.increasing.imp String.ne_of_lt)
      (relists.increasing.imp String.ne_of_lt)).2 members
  refine arranged.eq_of_pairwise ?_ lists.increasing relists.increasing
  exact fun left right _ _ below above => absurd above (String.lt_asymm below)

theorem ShowsMarks.unique (shows : ShowsMarks files calls outcome)
    (reshows : ShowsMarks files others other) (same : ∀ call, call ∈ calls ↔ call ∈ others)
    (faultless : Faultless VendorCall.Faulty calls) : outcome = other := by
  have faultlessOthers : Faultless VendorCall.Faulty others :=
    fun call callMem => faultless call ((same call).2 callMem)
  rcases shows.listed faultless with ⟨ignored, pinned, ignoredLists, pinnedLists, rfl⟩
  rcases reshows.listed faultlessOthers with ⟨ignored', pinned', ignoredAgain, pinnedAgain, rfl⟩
  rw [ignoredLists.unique ignoredAgain same, pinnedLists.unique pinnedAgain same]

/-! ## Printing lines -/

/-- Printable messages come out as they are, each on a line. -/
theorem CommandOutcome.ended_unlines {messages : List String}
    (printable : ∀ message ∈ messages, IsPrintable message) (files : Files) (exitCode : Nat) :
    ended files exitCode (unlines messages) "" none =
      ⟨exitCode, String.join (messages.map fun message => message ++ "\n"), "", files.logs,
        none⟩ := by
  have whole : unlines messages = String.join (messages.map fun message => message ++ "\n") := by
    refine congrArg String.join (List.map_congr_left fun message messageMem => ?_)
    have none : sequenceStart ∉ message.toList := fun shown =>
      absurd (printable message messageMem _ shown) (by decide)
    rw [withoutSequences_of_no_escape none]
  have noReturn : '\r' ∉ (unlines messages).toList := by
    rw [whole, String.toList_join, List.flatMap_map, List.mem_flatMap]
    rintro ⟨message, messageMem, shown⟩
    rw [String.toList_append, List.mem_append] at shown
    rcases shown with inside | closing
    · exact (printable message messageMem).not_mem_of_lineBreak (by decide) inside
    · exact absurd closing (by decide)
  rw [ended, withLineFeeds_of_no_return noReturn, whole]
  rfl

theorem VendorCall.isPrintable_name {name : String}
    (sound : ∀ failure, ¬VendorCall.Faulty ⟨mark, "@@" ++ name⟩ failure) : IsPrintable name := by
  rcases VendorMarks.faultless_iff.1 sound with ⟨_, repository, same, created⟩
  rw [← (String.append_right_inj _).1 same] at created
  exact (Label.repository_create_eq_ok_iff.1 created).1.isPrintable

theorem VendorCall.Faulty.isLine {call : VendorCall} {failure : Error}
    (faulty : call.Faulty failure) : IsLine failure.message :=
  isLine_of_repository (VendorMarks.repository_of_faulty faulty)

namespace Command

theorem markLines_eq (marks : VendorMarks) :
    markLines marks =
      (sortedNames (marks.names .ignored)).map (fun name => "ignored @@" ++ name) ++
        (sortedNames (marks.names .pinned)).map fun name => "pinned  @@" ++ name := by
  have shown : ∀ (before : String) (names : List String),
      (VendorMarks.listed names).map (fun repository => before ++ repository.written) =
        (sortedNames names).map fun name => before ++ "@@" ++ name := by
    intro before names
    rw [VendorMarks.listed, List.map_map]
    exact List.map_congr_left fun name _ => (String.append_assoc ..).symm
  simp only [markLines, shown]
  rfl

/-- A command that finds a function shows the marks that it leaves, or why there are none. -/
theorem run_vendor_of_findsCalls {path function : String}
    (finds : FindsCalls files path function calls) (settings : Settings) :
    ∃ rules, (vendor path function).run settings files =
      .ofResult files "" (showMarks (VendorFile.run settings "ctx" .empty
        (Step.runBody ⟨settings, rules⟩ (calls.map (VendorCall.step "ctx")))).2) := by
  rcases finds with ⟨plain, file, loaded, found⟩
  have shown : runVendor settings files path function =
      showMarks (callVendor settings file function
        (.program (calls.map (VendorCall.step "ctx")))) := by
    simp only [runVendor, loaded, bind, Except.bind, found]
  refine ⟨file.rules, ?_⟩
  rw [run, plain]
  simp only [perform, shown]
  rfl

theorem showsMarks_of_findsCalls {path function : String}
    (finds : FindsCalls files path function calls) (settings : Settings) :
    ShowsMarks files calls ((vendor path function).run settings files) := by
  rcases run_vendor_of_findsCalls finds settings with ⟨rules, runs⟩
  rcases VendorFile.run_calls ⟨settings, rules⟩ "ctx" .empty calls with ⟨failures, holds, _⟩
  rw [runs]
  constructor
  case listed =>
    intro faultless
    rcases (FirstFault.exists_ok_iff failures).2 faultless with ⟨marks, given⟩
    have hold := holds marks given
    have names : ∀ mark name, name ∈ marks.names mark → IsPrintable name :=
      fun mark name nameMem =>
        VendorCall.isPrintable_name (faultless _ ((hold.mem mark name).1 nameMem))
    have printable : ∀ line ∈ markLines marks, IsPrintable line := by
      simp only [markLines_eq, List.forall_mem_append, List.forall_mem_map, mem_sortedNames]
      constructor
      · exact fun name nameMem =>
          isPrintable_append.2 ⟨by decide, names .ignored name nameMem⟩
      · exact fun name nameMem =>
          isPrintable_append.2 ⟨by decide, names .pinned name nameMem⟩
    refine ⟨_, _, hold.listsMarked .ignored, hold.listsMarked .pinned, ?_⟩
    rw [given, showMarks, CommandOutcome.ofResult, CommandOutcome.ended_unlines printable,
      markLines_eq, List.map_append, List.map_map, List.map_map, String.join_append]
    rfl
  case failed =>
    intro failure first
    have given := (failures failure).2 first
    rcases first with ⟨earlier, call, later, _, _, faulty⟩
    have printable : ∀ line ∈ ["[ERROR] " ++ failure.message], IsPrintable line := by
      rw [List.forall_mem_singleton]
      exact isPrintable_append.2 ⟨by decide, faulty.isLine.printable⟩
    refine ⟨faulty.isLine, ?_⟩
    rw [given]
    simp only [showMarks, faulty.kind, ErrorKind.stopsEvaluation, if_true]
    rw [CommandOutcome.ofResult, CommandOutcome.ended_unlines printable, List.map_singleton,
      String.join_cons, String.join_nil, String.append_empty]

end Command

/-! ## Classification -/

theorem VendorCall.Faulty.cause_kind {call : VendorCall} {failure cause : Error}
    (faulty : call.Faulty failure) (caused : failure.cause? = some cause) :
    cause.kind = .labelSyntax := by
  cases faulty with
  | missing => cases caused
  | notCanonical => cases caused
  | @invalid _ name _ rejected =>
      cases caused
      rcases Label.repository_create_cases name with ⟨_, accepted⟩ | refused
      · rw [accepted] at rejected
        cases rejected
      · rw [refused] at rejected
        cases rejected
        rfl

theorem VendorMarks.Hold.congr (hold : marks.Hold calls)
    (same : ∀ call, call ∈ calls ↔ call ∈ others) : marks.Hold others where
  mem mark name := by rw [hold.mem, same]
  nodup := hold.nodup

namespace VendorFile

/-- What a vendor file gives that makes some calls. -/
structure Classifies (calls : List VendorCall) (given : Except Error VendorMarks) : Prop where
  succeeds : (∃ marks, given = .ok marks) ↔ ∀ call ∈ calls, ∃ name repository,
    call.given = "@@" ++ name ∧ RepositoryName.create name = .ok repository
  holds : ∀ marks, given = .ok marks → marks.Hold calls
  /-- In which order the calls are made does not matter, nor how often. -/
  unordered : ∀ marks, given = .ok marks →
    ∀ others, (∀ call, call ∈ calls ↔ call ∈ others) → marks.Hold others
  fails : ∀ failure, given = .error failure ↔ FirstFault VendorCall.Faulty calls failure
  kind : ∀ failure, given = .error failure → failure.kind = .evaluation ∧
    ∀ cause, failure.cause? = some cause → cause.kind = .labelSyntax

theorem Classifies.of_calls {given : Except Error VendorMarks}
    (fails : ∀ failure, given = .error failure ↔ FirstFault VendorCall.Faulty calls failure)
    (holds : ∀ marks, given = .ok marks → marks.Hold calls) : Classifies calls given where
  succeeds := by
    rw [FirstFault.exists_ok_iff fails]
    exact forall₂_congr fun _ _ => VendorMarks.faultless_iff
  holds := holds
  unordered marks succeeded others same := (holds marks succeeded).congr same
  fails := fails
  kind failure failed := by
    rcases (fails failure).1 failed with ⟨_, call, _, _, _, faulty⟩
    exact ⟨faulty.kind, fun cause => faulty.cause_kind⟩

/--
Vendor files classify exactly. A file that makes some calls succeeds if each of them
names a repository after two marks, and then there are, under each mark, exactly the
names that were given for it; otherwise the first call at fault ends it with the error of
its first check that fails, and only the calls before that have left marks. The command
lists the names under each mark once and in the order of their code points, or prints the
error on one line; nothing of it tells the order or the number of the calls.
-/
theorem classifies_calls (calls : List VendorCall) :
    (∀ (environment : Environment) context store,
      let ran := run environment.settings context store
        (Step.runBody environment (calls.map (VendorCall.step context)))
      Classifies calls ran.2 ∧
      ∃ made left, BeforeFault VendorCall.Faulty calls made ∧ left.Hold made ∧
        ran.1.store.Marking context (enter environment.settings context store).2 left) ∧
    (∀ settings files path function, FindsCalls files path function calls →
      ShowsMarks files calls ((Command.vendor path function).run settings files)) ∧
    ∀ others, (∀ call, call ∈ calls ↔ call ∈ others) →
      ∀ settings files path function otherPath otherFunction,
        Faultless VendorCall.Faulty calls →
        FindsCalls files path function calls → FindsCalls files otherPath otherFunction others →
        (Command.vendor path function).run settings files =
          (Command.vendor otherPath otherFunction).run settings files := by
  refine ⟨?_, fun settings files path function finds =>
    Command.showsMarks_of_findsCalls finds settings, ?_⟩
  · intro environment context store
    rcases run_calls environment context store calls with ⟨fails, holds, leaves⟩
    exact ⟨.of_calls fails holds, leaves⟩
  · intro others same settings files path function otherPath otherFunction faultless finds refinds
    exact (Command.showsMarks_of_findsCalls finds settings).unique
      (Command.showsMarks_of_findsCalls refinds settings) same faultless

/-- Repeated calls for both marks, and others of which the second is at fault. -/
theorem classifies_calls_of_repetition :
    let ignore (name : String) : VendorCall := ⟨.ignored, "@@" ++ name⟩
    let pin (name : String) : VendorCall := ⟨.pinned, "@@" ++ name⟩
    let calls := [pin "c", ignore "b", ignore "", pin "b", ignore "Z", ignore "b"]
    let others : List VendorCall := [ignore "a", pin "..", ⟨.ignored, ""⟩]
    let file : DefinitionFile :=
      ⟨∅, .ofList [("vendor", .function (calls.map (VendorCall.step "ctx"))),
        ("other", .function (others.map (VendorCall.step "ctx")))]⟩
    let files : Files := ⟨[(["v.py".toList], .regular file)]⟩
    let failure : Error := .vendorNameInvalid (.invalidRepository "..")
    FindsCalls files "v.py" "vendor" calls ∧ FindsCalls files "v.py" "other" others ∧
    Faultless VendorCall.Faulty calls ∧ FirstFault VendorCall.Faulty others failure ∧
    (Command.vendor "v.py" "vendor").run .default files =
      ⟨0, "ignored @@\nignored @@Z\nignored @@b\npinned  @@b\npinned  @@c\n", "",
        files.logs, none⟩ ∧
    (Command.vendor "v.py" "other").run .default files =
      ⟨1, "[ERROR] " ++ failure.message ++ "\n", "", files.logs, none⟩ := by
  intro ignore pin calls others file files failure
  have ending : Path.hasEnding Command.definitionEnding (Path.normalize "v.py") = true := rfl
  have found : files.definitionFile "v.py" = .ok (some file) := rfl
  have plain : ∀ function, (Command.vendor "v.py" function).checkPaths = .ok () :=
    fun function => if_neg (show ¬["v.py"].any _ = true by decide +kernel)
  have finds : FindsCalls files "v.py" "vendor" calls :=
    ⟨plain _, file, Command.load_of_definitionFile found ending, rfl⟩
  have findsOthers : FindsCalls files "v.py" "other" others :=
    ⟨plain _, file, Command.load_of_definitionFile found ending, rfl⟩
  have sound : ∀ mark, ∀ name ∈ ["", "Z", "a", "b", "c"], ∀ failure,
      ¬VendorCall.Faulty ⟨mark, "@@" ++ name⟩ failure := by
    intro mark name nameMem
    have canonical : ∀ name ∈ ["", "Z", "a", "b", "c"], isCanonical name = true := by decide
    exact VendorMarks.faultless_iff.2 ⟨name, ⟨name⟩, rfl, if_pos (canonical name nameMem)⟩
  have faultless : Faultless VendorCall.Faulty calls := by
    simp only [Faultless, calls, List.forall_mem_cons]
    exact ⟨sound .pinned "c" (by simp), sound .ignored "b" (by simp), sound .ignored "" (by simp),
      sound .pinned "b" (by simp), sound .ignored "Z" (by simp), sound .ignored "b" (by simp),
      by simp⟩
  have first : FirstFault VendorCall.Faulty others failure := by
    refine ⟨[ignore "a"], pin "..", [⟨.ignored, ""⟩], rfl, ?_, .invalid rfl⟩
    rw [Faultless, List.forall_mem_singleton]
    exact sound .ignored "a" (by simp)
  have ignored : ListsMarked calls .ignored ["", "Z", "b"] := by
    refine ⟨by decide, fun name => ?_⟩
    simp only [calls, ignore, pin, List.mem_cons, VendorCall.mk.injEq, String.append_right_inj]
    tauto
  have pinned : ListsMarked calls .pinned ["b", "c"] := by
    refine ⟨by decide, fun name => ?_⟩
    simp only [calls, ignore, pin, List.mem_cons, VendorCall.mk.injEq, String.append_right_inj]
    tauto
  rcases (classifies_calls calls).2 with ⟨shows, _⟩
  rcases (classifies_calls others).2 with ⟨showsOthers, _⟩
  rcases (shows .default files _ _ finds).listed faultless with
    ⟨ignoredListed, pinnedListed, ignoredLists, pinnedLists, seen⟩
  refine ⟨finds, findsOthers, faultless, first, ?_,
    ((showsOthers .default files _ _ findsOthers).failed failure first).2⟩
  rw [seen, ignoredLists.unique ignored fun _ => Iff.rfl,
    pinnedLists.unique pinned fun _ => Iff.rfl]
  rfl

end VendorFile

end ExternalRepos
