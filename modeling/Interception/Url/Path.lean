import Interception.Text.Split
import Interception.Url.Percent

/-!
# Paths

Segments are appended one after the other to a path that starts with a slash. A
segment of one dot adds nothing and one of two dots takes the last segment away,
whether the dots are escaped or not. Drive letters at the start of a path are
never taken away, and those of a file path are written with a colon. Tabs and
line breaks are left out; what they cut off from the drive letter of a file goes
below it.
-/

namespace Interception.Url

/-- Tabs and line breaks, which count for nothing in a URL. -/
def isBreak (c : Char) : Bool := c = '\t' || c = '\n' || c = '\r'

def withoutBreaks (cs : List Char) : List Char := cs.filter (!isBreak ·)

def isSingleDot (segment : List Char) : Bool :=
  ["." , "%2e", "%2E"].any (·.toList == segment)

def isDoubleDot (segment : List Char) : Bool :=
  ["..", "%2e%2e", "%2e%2E", "%2E%2e", "%2E%2E", "%2e.", "%2E.",
    ".%2e", ".%2E"].any
    (·.toList == segment)

/-! ## Drive letters -/

/-- Whether a letter and a colon or bar stand in front, with nothing or a
delimiter after them. -/
def startsWithDrive : List Char → Bool
  | [a, b] => a.isAlpha && (b = ':' || b = '|')
  | a :: b :: c :: _ =>
    a.isAlpha && (b = ':' || b = '|') && ['/', '\\', '?', '#'].contains c
  | _ => false

def isDrive (segment : List Char) : Bool :=
  segment.length = 2 && startsWithDrive segment

def isNormalDrive (segment : List Char) : Bool :=
  isDrive segment && segment[1]? == some ':'

/-! ## Taking segments away -/

def endsWithSlash (path : List Char) : Bool := path.getLast? == some '/'

def fromLastSlash (path : List Char) : List Char :=
  '/' :: (path.reverse.takeWhile (· != '/')).reverse

def uptoLastSlash (path : List Char) : List Char :=
  (path.reverse.dropWhile (· != '/')).reverse

/-- A final slash may go unless it is the only one or closes a drive letter. -/
def lastSlashRemovable (path : List Char) : Bool :=
  let before := path.dropLast
  before.contains '/' &&
    !startsWithDrive ((fromLastSlash before).drop 1 ++ ['/'])

def shorten (isFile : Bool) (path : List Char) : List Char :=
  if path.isEmpty || (isFile && isNormalDrive path) then path
  else if isFile && isNormalDrive ((fromLastSlash path).drop 1) then path
  else uptoLastSlash path

/-- Goes up one level; `more` says that another segment follows. -/
def goUp (isFile : Bool) (path : List Char) (more : Bool) : List Char :=
  let path :=
    if endsWithSlash path && lastSlashRemovable path then path.dropLast
    else path
  let path := shorten isFile path
  if more && !endsWithSlash path then path ++ ['/'] else path

/-! ## Appending segments -/

def stretches (raw : List Char) : List (List Char) :=
  Text.pieces '\n' (raw.map fun c => if isBreak c then '\n' else c)

/-- Puts stretches together, a drive letter being closed by a slash before more
text. -/
def joinStretches (text : List Char) : List (List Char) → List Char
  | [] => text
  | part :: rest =>
    if isNormalDrive text && !part.isEmpty then
      joinStretches (text ++ '/' :: part) rest
    else joinStretches (text ++ part) rest

/-- A path in the making; `dropsHost` is set when a drive letter makes the host
void. -/
structure PathState where
  path : List Char
  dropsHost : Bool

def PathState.atDrive (isFile : Bool) (s : PathState) : Bool :=
  isFile && s.path.length = 1

def PathState.append (isFile : Bool) (s : PathState) (raw : List Char)
    (more : Bool) : PathState :=
  let segment := encode pathSet
    (if s.atDrive isFile then joinStretches [] (stretches raw)
      else withoutBreaks raw)
  let slash := if more then ['/'] else []
  if isDoubleDot segment then { s with path := goUp isFile s.path more }
  else if isSingleDot segment then
    { s with path := if endsWithSlash s.path then s.path else s.path ++ ['/'] }
  else if s.atDrive isFile && isDrive segment then
    { path := s.path ++ segment.take 1 ++ ':' :: slash, dropsHost := true }
  else { s with path := s.path ++ segment ++ slash }

def PathState.appendAll (isFile : Bool) (s : PathState) :
    List (List Char) → PathState
  | [] => s
  | [last] => s.append isFile last false
  | raw :: rest => (s.append isFile raw true).appendAll isFile rest

/-- Reads the segments of `body` onto `start`. The paths of files never start
with two slashes. -/
def readPath (special isFile : Bool) (start body : List Char) : PathState :=
  let body :=
    if special then body.map fun c => if c = '\\' then '/' else c else body
  let s := PathState.appendAll isFile ⟨start, false⟩ (Text.pieces '/' body)
  if isFile then { s with path := '/' :: s.path.dropWhile (· = '/') } else s

end Interception.Url
