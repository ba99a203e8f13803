import ExternalRepos.CommandLine.Definitions
import ExternalRepos.Path

/-!
# Files

The files that a command finds in the directory that the program runs in, and in
the directories below. A path is followed name by name, and only through
directories; a name that is too long cannot even be looked up. Whatever leads out
of the directory leads to directories that exist, and to nothing else.

A file is opened for writing at the place that its path leads to by names alone.
The directories on the way are made first, from the outermost on, and those that
were made stay when a later one cannot be made.
-/

namespace ExternalRepos

/-- What stands at a place. -/
inductive File
  | directory
  | regular (content : DefinitionFile)
  deriving Inhabited

/-- A place, by the names on the way to it. -/
abbrev Place := List (List Char)

/-- The files of a directory and of those in it. -/
structure Files where
  entries : List (Place × File)
  deriving Inhabited

namespace Files

/-- The name that leads back to the parent. -/
def parent : List Char := ['.', '.']

/-- The largest size of a name in bytes. -/
def nameLimit : Nat := 255

/-- The largest size of a path in bytes. -/
def pathLimit : Nat := 4095

/-- Whether a name is too long for a file. -/
def isTooLong (name : List Char) : Bool :=
  decide (nameLimit < (String.ofList name).utf8ByteSize)

/-- No files. -/
def empty : Files := ⟨[]⟩

/-- The files with one of them put at a place, instead of what stood there. -/
def put (files : Files) (place : Place) (file : File) : Files :=
  ⟨files.entries.filter (fun entry => entry.1 ≠ place) ++ [(place, file)]⟩

/-- The files at given paths. -/
def ofList (files : List (String × File)) : Files :=
  files.foldl (fun files file => files.put (Path.parts file.1) file.2) empty

/-- What stands at a place. -/
def at? (files : Files) (place : Place) : Option File :=
  files.entries.lookup place

/-- Whether a place is a directory, be it because there are files in it. -/
def isDirectory (files : Files) (place : Place) : Bool :=
  place = [] || files.entries.any fun entry =>
    place.isPrefixOf entry.1 &&
      match entry.2 with
      | .directory => true
      | .regular _ => place ≠ entry.1

/-! ## Finding files -/

/-- What names lead to outside of the directory: nothing. -/
def followOutside (names : List (List Char)) : Except Error (Option Place) :=
  match names.dropWhile (· = parent) with
  | name :: _ => if isTooLong name then .error (.nameTooLong (String.ofList name)) else .ok none
  | [] => .ok none

/-- The place that names lead to from another, if there is one. -/
def follow (files : Files) (place : Place) : List (List Char) → Except Error (Option Place)
  | [] => .ok (some place)
  | name :: rest =>
      if !files.isDirectory place then .ok none
      else if name = parent then
        if place = [] then followOutside rest else follow files place.dropLast rest
      else if isTooLong name then .error (.nameTooLong (String.ofList name))
      else follow files (place ++ [name]) rest

/-- The definition file at a path, if there is a regular file. -/
def definitionFile (files : Files) (path : String) : Except Error (Option DefinitionFile) := do
  if pathLimit < (Path.normalize path).utf8ByteSize then
    throw (.nameTooLong path)
  let names := Path.parts path
  let place ← if Path.root path = [] then files.follow [] names else followOutside names
  match place.bind files.at? with
  | some (.regular content) => return some content
  | _ => return none

/-! ## Writing files -/

/--
The place that names lead to by themselves, whether there are directories or
not, and whether they leave the directory on the way; then the place is meant
from there.
-/
def resolve (place : Place) (left : Bool) : List (List Char) → Place × Bool
  | [] => (place, left)
  | name :: rest =>
      if name ≠ parent then resolve (place ++ [name]) left rest
      else if place = [] then resolve [] true rest
      else resolve place.dropLast left rest

/-- The files after directories were made from a place on, and why one of them was not. -/
def makeDirectories (files : Files) (place : Place) :
    List (List Char) → Files × Except Error Unit
  | [] => (files, .ok ())
  | name :: rest =>
      let next := place ++ [name]
      if isTooLong name then (files, .error (.nameTooLong (String.ofList name)))
      else if files.isDirectory next then files.makeDirectories next rest
      else
        match files.at? next with
        | some (.regular _) =>
            (files, .error (if rest = [] then .pathIsFile (String.ofList name)
              else .pathThroughFile (String.ofList name)))
        | _ => (files.put next .directory).makeDirectories next rest

/-- The files after an empty one was written under a name in a directory, and why it was not. -/
def writeIn (files : Files) (directory : Place) (name : List Char) : Files × Except Error Unit :=
  let place := directory ++ [name]
  if isTooLong name then (files, .error (.nameTooLong (String.ofList name)))
  else if files.isDirectory place then (files, .error (.pathIsDirectory (String.ofList name)))
  else (files.put place (.regular .empty), .ok ())

/-- The files after an empty one was written at a path, and why it was not. -/
def write (files : Files) (path : String) : Files × Except Error Unit :=
  let (place, outside) := resolve [] (Path.root path ≠ []) (Path.parts path)
  match place.getLast? with
  | none => (files, .error (.pathIsDirectory path))
  | some name =>
      if outside then
        (files, if place.any isTooLong then .error (.nameTooLong path) else .ok ())
      else
        match files.makeDirectories [] place.dropLast with
        | (made, .ok ()) => made.writeIn place.dropLast name
        | (made, .error failure) => (made, .error failure)

/-! ## Listing files -/

/-- The path of a place. -/
def pathOf (place : Place) : String :=
  String.ofList (List.intercalate ['/'] place)

/-- The places where something stands, directories on the way to others included. -/
def places (files : Files) : List Place :=
  (files.entries.flatMap fun entry =>
    (List.range entry.1.length).map fun before => entry.1.take (before + 1)).eraseDups

/-- The ending of log files. -/
def logEnding : String := ".log"

/-- The paths with the ending of log files, in the order of their code points. -/
def logs (files : Files) : List String :=
  ((files.places.map pathOf).filter (Path.hasEnding logEnding)).mergeSort
    fun left right => decide (left ≤ right)

end Files

end ExternalRepos
