/-!
# Locations

A location names the source position of a call in diagnostics. Line and column
are left out when they are zero. `Location.ofCaller` finds the position of a
call on a call stack.
-/

namespace ExternalRepos

/-- A source position; a zero line or column is unknown. -/
structure Location where
  file : String
  line : Int
  column : Int
  deriving DecidableEq, Inhabited

namespace Location

/-- The position of code that has no source file. -/
def builtin : Location := ⟨"<builtin>", 0, 0⟩

/-- The position as shown in diagnostics: the file, and the line and column that are known. -/
def written (location : Location) : String :=
  if location.line = 0 then location.file
  else if location.column = 0 then location.file ++ ":" ++ toString location.line
  else location.file ++ ":" ++ toString location.line ++ ":" ++ toString location.column

/--
The position of the call `depth` levels above the innermost one. The stack
lists file and line of its calls, outermost first; a negative depth means the
innermost call, and a depth beyond the outermost one has no source.
-/
def ofCaller (stack : List (String × Int)) (depth : Int) : Location :=
  match stack.reverse[depth.toNat]? with
  | some (file, line) => ⟨file, line, 0⟩
  | none => builtin

end Location

end ExternalRepos
