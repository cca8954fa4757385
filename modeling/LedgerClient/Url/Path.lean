import LedgerClient.Url.Percent
import LedgerClient.Url.Scheme

/-!
# Paths

A path is a list of parts, each after a slash. A part of one dot stands for the part itself, and
one of two dots for the part before. The first part of a path to a file may be a drive: a letter
and a colon, for which a bar may be written. Dots never lead out of a drive.
-/

namespace LedgerClient.Url

/-- The parts of a text between separators, at least one. -/
def splitAt (separator : Char → Bool) : List Char → List (List Char)
  | [] => [[]]
  | c :: cs =>
    if separator c then [] :: splitAt separator cs
    else
      match splitAt separator cs with
      | part :: rest => (c :: part) :: rest
      | [] => [[c]]

/-! ### Dots -/

/-- Whether a part stands for the part itself. -/
def isDot (part : List Char) : Bool :=
  [".", "%2e"].contains (String.ofList (part.map Char.toLower))

/-- Whether a part stands for the part before. -/
def isDoubleDot (part : List Char) : Bool :=
  ["..", ".%2e", "%2e.", "%2e%2e"].contains (String.ofList (part.map Char.toLower))

/-! ### Drives -/

/-- Whether a text is a drive. -/
def isDrive : List Char → Bool
  | [letter, mark] => letter.isAlpha && (mark = ':' || mark = '|')
  | _ => false

/-- Whether a part is a drive, alone or before a backslash, so that dots do not lead out of it. -/
def isRoot (part : List Char) : Bool :=
  isDrive (part.take 2) && ((part.drop 2).isEmpty || (part.drop 2).head? = some '\\')

/-- A part without the bar that stands for the colon of a drive. -/
def driveText (part : List Char) : List Char :=
  if isDrive part then part.take 1 ++ [':'] else part

/-! ### Paths -/

/-- The parts without the one that two dots take back. -/
def stepBack (parts : List (List Char)) : List (List Char) :=
  match parts.getLast? with
  | some part => if isRoot part then parts else parts.dropLast
  | none => []

/-- The parts of a path without dots, after those so far. -/
def resolveDots (sofar : List (List Char)) : List (List Char) → List (List Char)
  | [] => sofar
  | [part] =>
    if isDoubleDot part then stepBack sofar ++ [[]]
    else if isDot part then sofar ++ [[]]
    else sofar ++ [part]
  | part :: rest =>
    if isDoubleDot part then resolveDots (stepBack sofar) rest
    else if isDot part then resolveDots sofar rest
    else resolveDots (sofar ++ [part]) rest

/-- The written form of one part. -/
def partText (m : Manner) (part : List Char) : List Char :=
  percentEncode inPath (if m = .file then driveText part else part)

/-- The written form of a path that starts after a slash. -/
def pathText (m : Manner) (cs : List Char) : List Char :=
  let parts := (splitAt m.isSlash cs).map (partText m)
  (resolveDots [] parts).flatMap ('/' :: ·)

/-- The written form of the path of a file, which starts with one slash only. -/
def filePathText (cs : List Char) : List Char :=
  '/' :: (pathText .file cs).dropWhile (· = '/')

/-- Whether some part of a path is a drive. -/
def hasDrive (cs : List Char) : Bool :=
  (splitAt Manner.file.isSlash cs).any isDrive

end LedgerClient.Url
