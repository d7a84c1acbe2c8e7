import HdlLint.Path.Posix
import HdlLint.Path.Windows

/-!
# Platforms

A platform is known by its name. Only Windows has rules of its own for paths; every other
platform follows POSIX.
-/

namespace HdlLint

/-- The name of an operating system. -/
structure Platform where
  name : String
  deriving Repr, DecidableEq

namespace Platform

/-- The platform the program runs on. -/
def host : Platform := ⟨"linux"⟩

/-- The named platform; no name or an empty one means the host. -/
def ofName? : Option String → Platform
  | some name => if name = "" then host else ⟨name⟩
  | none => host

/-- Whether paths follow the Windows rules. -/
def isWindows (p : Platform) : Bool :=
  p.name = "win32"

/-- Whether a reported path stands for itself. On Windows a path without a drive that
begins with a separator does, so that paths from inside the Linux subsystem are kept. -/
def isAbsolute (p : Platform) (path : String) : Bool :=
  if p.isWindows then Path.Windows.isAbsolute path.toList
  else Path.Posix.isAbsolute path.toList

/-- A path seen from a folder. -/
def join (p : Platform) (folder path : String) : String :=
  String.ofList
    (if p.isWindows then Path.Windows.join folder.toList path.toList
      else Path.Posix.join folder.toList path.toList)

/-- A path seen from a folder, in its normal form. -/
def locate (p : Platform) (folder path : String) : String :=
  String.ofList
    (if p.isWindows then
      Path.Windows.normalize (Path.Windows.join folder.toList path.toList)
    else Path.Posix.normalize (Path.Posix.join folder.toList path.toList))

/-- The folder that holds a file. -/
def folder (p : Platform) (path : String) : String :=
  String.ofList
    (if p.isWindows then Path.Windows.folder path.toList
    else Path.Posix.folder path.toList)

end Platform

end HdlLint
