import ExtensionCatalogue.Text.Percent
import ExtensionCatalogue.Url.Basic

/-!
# Paths of URLs

A path is read segment by segment. `.` stands for nothing and `..` takes the last segment away,
also when their dots are percent-encoded. In `file` URLs a drive letter such as `C:` is kept: `|`
after it becomes `:`, a host before it is dropped, and no `..` goes above it.
-/

namespace ExtensionCatalogue.Url

def isLetter (c : Char) : Bool := c.isAlpha

/-- A drive: `C:` or `C|`, for any letter. -/
def isDrive : List Char → Bool
  | [c, d] => isLetter c && (d == ':' || d == '|')
  | _ => false

/-- A drive in normal form, the text reversed. -/
def endsWithDrive : List Char → Bool
  | [':', c] => isLetter c
  | _ => false

/-- A drive that is followed by the end of a segment. -/
def startsWithDrive : List Char → Bool
  | [c, d] => isLetter c && (d == ':' || d == '|')
  | c :: d :: e :: _ => isLetter c && (d == ':' || d == '|') && e ∈ ['/', '\\', '?', '#']
  | _ => false

def isDot (s : List Char) : Bool :=
  s.map Char.toLower ∈ [['.'], ['%', '2', 'e']]

def isDoubleDot (s : List Char) : Bool :=
  s.map Char.toLower ∈
    [['.', '.'], ['.', '%', '2', 'e'], ['%', '2', 'e', '.'], ['%', '2', 'e', '%', '2', 'e']]

/-- A path under construction, both parts reversed: what precedes the current segment, and the
segment. -/
structure Draft where
  before : List Char
  segment : List Char
  deriving DecidableEq, Repr

namespace Draft

/-- Whether the path so far is a slash and a drive. -/
def isDriveRoot (d : Draft) : Bool :=
  match d.segment ++ d.before with
  | [':', c, _] => isLetter c
  | _ => false

/-- The draft with a slash at its end, where the segment starts one character later. -/
def shift (d : Draft) : Draft :=
  match d.segment.reverse with
  | [] => ⟨'/' :: d.before, []⟩
  | c :: cs => ⟨c :: d.before, '/' :: cs.reverse⟩

/-- One more character. After the drive of a file path a slash is added. -/
def push (family : Family) (d : Draft) (c : Char) : Draft :=
  let d := if family = .file && d.isDriveRoot then d.shift else d
  { d with segment := (Percent.encodeChar inPath c).reverse ++ d.segment }

end Draft

/-- A reversed path without its last segment. A drive of a file path stays. -/
def popSegment (family : Family) (path : List Char) : List Char :=
  if family = .file && endsWithDrive (path.takeWhile (· ≠ '/')) then path
  else path.dropWhile (· ≠ '/')

/-- Whether the slash at the end of a reversed path divides two segments, of which the first is
no drive. -/
def lastSlashRemovable : List Char → Bool
  | '/' :: path =>
    path.contains '/' && !startsWithDrive ((path.takeWhile (· ≠ '/')).reverse ++ ['/'])
  | _ => false

def endWithSlash : List Char → List Char
  | '/' :: path => '/' :: path
  | path => '/' :: path

/-- The reversed path after its current segment, `slash` saying whether a slash ends it, and
whether the segment is a drive. -/
def closeSegment (family : Family) (slash : Bool) (d : Draft) : List Char × Bool :=
  let segment := d.segment.reverse
  if isDoubleDot segment then
    let path := if lastSlashRemovable d.before then d.before.tail else d.before
    let path := popSegment family path
    (if slash then endWithSlash path else path, false)
  else if isDot segment then (endWithSlash d.before, false)
  else
    let drive := family = .file && isDrive segment
    let segment := if drive then ':' :: (segment.take 1) else d.segment
    let path := segment ++ d.before
    (if slash then '/' :: path else path, drive)

/-- The reversed path after all of a text, and whether a segment of it is a drive. -/
def readSegments (family : Family) (d : Draft) : List Char → List Char × Bool
  | [] => closeSegment family false d
  | c :: cs =>
    if c = '/' || (family.isSpecial && c = '\\') then
      let (path, drive) := closeSegment family true d
      let (path, more) := readSegments family ⟨path, []⟩ cs
      (path, drive || more)
    else readSegments family (d.push family c) cs

/-- The path that a text continues, and whether it names a drive. A file path starts with exactly
one slash. -/
def readPath (family : Family) (start text : List Char) : List Char × Bool :=
  let (path, drive) := readSegments family ⟨start.reverse, []⟩ text
  let path := path.reverse
  (if family = .file then '/' :: path.dropWhile (· == '/') else path, drive)

/-- The path of a text that follows an authority. -/
def readRooted (family : Family) (text : List Char) : List Char × Bool :=
  match text with
  | c :: cs =>
    if c = '/' || (family.isSpecial && c = '\\') then readPath family ['/'] cs
    else readPath family ['/'] text
  | [] => if family.isSpecial then readPath family ['/'] [] else ([], false)

end ExtensionCatalogue.Url
