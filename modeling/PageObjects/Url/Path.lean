/-
  PageObjects.Url.Path

  Paths of addresses. A path is read segment by segment onto the path so far: a
  segment of one dot stands for nothing, a segment of two dots removes the segment
  before it, and a path always keeps its first slash. In the addresses of local
  files the letter of a drive is never removed.
-/

import PageObjects.Text.Split
import PageObjects.Url.Percent

namespace PageObjects
namespace UrlPath

/-! ## Segments -/

/-- Whether a segment is one dot, perhaps encoded. -/
def isSingleDot (segment : List Char) : Bool :=
  let s := segment.map Char.toLower
  s == ['.'] || s == "%2e".toList

/-- Whether a segment is two dots, each perhaps encoded. -/
def isDoubleDot (segment : List Char) : Bool :=
  let s := segment.map Char.toLower
  s == "..".toList || s == ".%2e".toList || s == "%2e.".toList || s == "%2e%2e".toList

/-- Whether a segment is the letter of a drive. -/
def isDrive : List Char → Bool
  | [letter, mark] => letter.isAlpha && (mark == ':' || mark == '|')
  | _ => false

/-- Whether a segment is the letter of a drive with a colon. -/
def isNormalDrive : List Char → Bool
  | [letter, mark] => letter.isAlpha && mark == ':'
  | _ => false

/-! ## Paths with the last character first -/

/-- The last segment of a path. -/
def lastSegment (path : List Char) : List Char :=
  (path.takeWhile (· != '/')).reverse

/-- The path without its last segment; its last slash stays. -/
def dropLast (isFile : Bool) (path : List Char) : List Char :=
  if isFile && isNormalDrive (lastSegment path) then path
  else path.dropWhile (· != '/')

/-- Removes the last slash of a path that ends with one, unless it is the only one or stands
    behind the letter of a drive. -/
def dropSlash : List Char → List Char
  | '/' :: path =>
    if path.contains '/' && !isDrive (lastSegment path) then path else '/' :: path
  | path => path

/-- Ends the path with a slash. -/
def endWithSlash : List Char → List Char
  | '/' :: path => '/' :: path
  | path => '/' :: path

/-- Adds a segment, and the slash behind it if there is one. -/
def addSegment (isFile : Bool) (path segment : List Char) (slash : Bool) : List Char :=
  let withSlash (path : List Char) : List Char := if slash then '/' :: path else path
  if isDoubleDot segment then
    let path := dropLast isFile (dropSlash path)
    if slash then endWithSlash path else path
  else if isSingleDot segment then endWithSlash path
  else if isFile && path == ['/'] && isDrive segment then
    withSlash (':' :: (segment.take 1 ++ path))
  else withSlash (segment.reverse ++ path)

/-- Adds a segment as written. In the address of a file, a slash parts it from the letter of a
    drive that is the path so far. -/
def addWritten (isFile : Bool) (path segment : List Char) (slash : Bool) : List Char :=
  let onDrive := isFile && isNormalDrive (path.reverse.drop 1) && !segment.isEmpty
  addSegment isFile (if onDrive then '/' :: path else path)
    (Percent.encode Percent.inPath segment) slash

/-- Adds the segments of a path; all but the last have a slash behind them. -/
def addAll (isFile : Bool) (path : List Char) : List (List Char) → List Char
  | [] => path
  | [last] => addWritten isFile path last false
  | segment :: rest => addAll isFile (addWritten isFile path segment true) rest

/-! ## Reading -/

/-- The text of a path up to its query or fragment, and what stands there. -/
def body (s : List Char) : List Char × List Char :=
  let inPath (c : Char) : Bool := c != '?' && c != '#'
  (s.takeWhile inPath, s.dropWhile inPath)

/-- Whether the first segment of a path is the letter of a drive with a colon. -/
def leadsToDrive (path : List Char) : Bool :=
  isNormalDrive ((path.drop 1).takeWhile (· != '/'))

/-- Reads the segments of a path onto the path `start`. In special addresses a backslash is a
    slash. -/
def joined (isSpecial isFile : Bool) (start : String) (written : List Char) : List Char :=
  let written := if isSpecial then written.map fun c => if c = '\\' then '/' else c else written
  (addAll isFile start.toList.reverse (Text.parts '/' written)).reverse

/-- Reads a path onto the path `start`; the path of a file starts with exactly one slash. -/
def extend (isSpecial isFile : Bool) (start : String) (written : List Char) : String :=
  let path := joined isSpecial isFile start written
  String.ofList (if isFile then '/' :: path.dropWhile (· == '/') else path)

end UrlPath
end PageObjects
