/-!
# Invocations

An invocation is everything needed to start the linter once.
-/

namespace HdlLint

/-- How the linter is started: its words, the folder it runs in, the file to lint as its
editor knows it and as it is passed on, and the folder in which included files are looked
for. -/
structure Invocation where
  argv : List String
  folder : Option String
  filePath : String
  targetPath : String
  includeFolder : String
  deriving Repr, DecidableEq

/-- The words of an invocation in one line. -/
def Invocation.command (i : Invocation) : String :=
  " ".intercalate (i.argv.filter (· ≠ ""))

end HdlLint
