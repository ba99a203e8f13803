/-!
# Paths

Paths are texts with `/` between their parts. The normal form leaves out empty
parts and parts that mean the directory itself; parts that mean the parent stay,
as they cannot be resolved without looking at the file system. Exactly two
leading slashes are kept, any other number of them is one.
-/

namespace ExternalRepos.Path

/-- The parts of a path that lead somewhere. -/
def parts (path : String) : List (List Char) :=
  (path.toList.splitOn '/').filter fun part => part ≠ [] && part ≠ ['.']

/-- The leading slashes of the normal form. -/
def root (path : String) : List Char :=
  match path.toList.takeWhile (· = '/') with
  | [] => []
  | ['/', '/'] => ['/', '/']
  | _ => ['/']

/-- The normal form of a path; a path without parts is the directory itself. -/
def normalize (path : String) : String :=
  match root path ++ List.intercalate ['/'] (parts path) with
  | [] => "."
  | normal => String.ofList normal

/-- Whether a path ends in a given text. -/
def hasEnding (ending path : String) : Bool :=
  ending.toList.isSuffixOf path.toList

end ExternalRepos.Path
