import HdlLint.Path.Components

/-!
# POSIX paths

The separator is the slash. A path that begins with a slash is absolute; a path with
exactly two slashes at its beginning has an anchor of its own.
-/

namespace HdlLint.Path.Posix

def isSeparator (c : Char) : Bool :=
  c = '/'

/-- Whether a path begins at an anchor. -/
def isAbsolute (s : List Char) : Bool :=
  s.head? = some '/'

/-- A path seen from a folder. -/
def join (folder s : List Char) : List Char :=
  if isAbsolute s then s
  else if folder.isEmpty || folder.getLast? = some '/' then folder ++ s
  else folder ++ '/' :: s

/-- The slashes a path begins with, as far as they matter: none, one or two. -/
def anchor : List Char → List Char
  | '/' :: '/' :: '/' :: _ => ['/']
  | '/' :: '/' :: _ => ['/', '/']
  | '/' :: _ => ['/']
  | _ => []

/-- The path in its normal form; an empty one is the current folder. -/
def normalize (s : List Char) : List Char :=
  let start := anchor s
  let result := start ++ joinWith '/' (resolve (!start.isEmpty) (splitOn isSeparator s))
  if result.isEmpty then current else result

/-- The folder that holds what the path names. -/
def folder (s : List Char) : List Char :=
  stripSeparators isSeparator (splitLast isSeparator s).1

/-- The components that are not idle. No `..` is carried out. -/
def parts (s : List Char) : List Component :=
  (splitOn isSeparator s).filter fun w => !isIdle w

/-- The path without idle components; an empty one is the current folder. -/
def tidy (s : List Char) : List Char :=
  let result := anchor s ++ joinWith '/' (parts s)
  if result.isEmpty then current else result

/-- The last component that is not idle, empty if there is none. -/
def fileName (s : List Char) : Component :=
  (parts s).getLast?.getD []

/-- The part of a file name from its last dot on, unless that dot begins or ends the
name. -/
def suffix (s : List Char) : List Char :=
  let name := fileName s
  let ending := (name.reverse.takeWhile (· ≠ '.')).reverse
  if ending.isEmpty || name.length ≤ ending.length + 1 then [] else '.' :: ending

end HdlLint.Path.Posix
