import HdlLint.Path.Posix
import HdlLint.Text.Digit

/-!
# Documents

A document is a source file and the language it is written in.
-/

namespace HdlLint

/-- The name of the plain hardware description language. -/
def plainLanguage : String := "verilog"

/-- The name of its extension for systems. -/
def systemLanguage : String := "systemverilog"

/-- A source file, by the path its editor knows and the name of its language. -/
structure Document where
  path : String
  language : String
  deriving Repr, DecidableEq

/-- Whether the linter has to be told that the source uses the extended language. -/
def Document.isSystem (d : Document) : Bool :=
  d.language = systemLanguage

def languageOfSuffix : List (String × String) :=
  [(".v", plainLanguage), (".vh", plainLanguage), (".vl", plainLanguage),
    (".sv", systemLanguage), (".svh", systemLanguage)]

/-- The language of a file, known by its suffix in any case; the plain one if the suffix
says nothing. -/
def detectLanguage (path : String) : String :=
  let suffix := Text.toLowerAscii (String.ofList (Path.Posix.suffix path.toList))
  (languageOfSuffix.lookup suffix).getD plainLanguage

end HdlLint
