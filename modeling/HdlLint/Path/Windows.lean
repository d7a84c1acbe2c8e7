import HdlLint.Path.Components
import HdlLint.Text.LowerCase

/-!
# Windows paths

Slash and backslash both separate; results are written with backslashes. A path may begin
with a drive: a letter and a colon, or the host and share of a network path, or a device.
-/

namespace HdlLint.Path.Windows

def isSeparator (c : Char) : Bool :=
  c = '/' || c = '\\'

/-- The path with backslashes for slashes. -/
def toBackslashes (s : List Char) : List Char :=
  s.map fun c => if c = '/' then '\\' else c

/-- The path with slashes for backslashes. -/
def toSlashes (s : List Char) : List Char :=
  s.map fun c => if c = '\\' then '/' else c

/-- The beginning of a long network path. -/
def longNetworkStart : List Char := ['\\', '\\', '?', '\\', 'U', 'N', 'C', '\\']

/-- How many characters the host and share take that begin after `start` characters: all
of them if no separator ends them. -/
def networkLength (s : List Char) (start : Nat) : Nat :=
  let afterStart := s.drop start
  let host := afterStart.takeWhile fun c => !isSeparator c
  if afterStart.length ≤ host.length then s.length
  else
    let afterHost := afterStart.drop (host.length + 1)
    let share := afterHost.takeWhile fun c => !isSeparator c
    if afterHost.length ≤ share.length then s.length
    else start + host.length + 1 + share.length

/-- How many characters the drive takes. -/
def driveLength (s : List Char) : Nat :=
  match s with
  | a :: b :: _ =>
    if isSeparator a && isSeparator b then
      networkLength s
        (if (toBackslashes (s.take 8)).map Char.toUpper == longNetworkStart then 8 else 2)
    else if b = ':' then 2 else 0
  | _ => 0

/-- The drive and the rest of a path. -/
def splitDrive (s : List Char) : List Char × List Char :=
  s.splitAt (driveLength s)

/-- Whether a path begins with a separator or with a letter, a colon and a separator. -/
def isAbsolute (s : List Char) : Bool :=
  match s with
  | a :: r =>
    isSeparator a ||
      (match r with
        | b :: c :: _ => b = ':' && isSeparator c
        | _ => false)
  | [] => false

/-- Whether a part of a path begins with a separator. -/
def startsWithSeparator (s : List Char) : Bool :=
  s.head?.any isSeparator

/-- Whether a part of a path ends with a separator. -/
def endsWithSeparator (s : List Char) : Bool :=
  s.getLast?.any isSeparator

/-- A drive and the rest of a path put together. The share of a network path needs a
separator after it. -/
def assemble (drive s : List Char) : List Char :=
  if !s.isEmpty && !startsWithSeparator s && !drive.isEmpty &&
      drive.getLast? ≠ some ':' then
    drive ++ '\\' :: s
  else drive ++ s

/-- A part of a path below another one. -/
def below (folder s : List Char) : List Char :=
  if !folder.isEmpty && !endsWithSeparator folder then folder ++ '\\' :: s
  else folder ++ s

/-- A path seen from a folder. A path on another drive stands for itself; drives are
compared without regard to case. -/
def join (folder s : List Char) : List Char :=
  let (drive, rest) := splitDrive folder
  let (drive', rest') := splitDrive s
  if startsWithSeparator rest' then
    assemble (if !drive'.isEmpty || drive.isEmpty then drive' else drive) rest'
  else if drive'.isEmpty || drive' == drive then assemble drive (below rest rest')
  else if Text.lowerChars false drive' == Text.lowerChars false drive then
    assemble drive' (below rest rest')
  else assemble drive' rest'

/-- The path in its normal form; an empty one is the current folder. -/
def normalize (s : List Char) : List Char :=
  let (drive, rest) := splitDrive (toBackslashes s)
  let start := if startsWithSeparator rest then drive ++ ['\\'] else drive
  let components := resolve (endsWithSeparator start) (splitOn isSeparator rest)
  if start.isEmpty && components.isEmpty then current
  else start ++ joinWith '\\' components

/-- The folder that holds what the path names. -/
def folder (s : List Char) : List Char :=
  let (drive, rest) := splitDrive s
  drive ++ stripSeparators isSeparator (splitLast isSeparator rest).1

end HdlLint.Path.Windows
