import ServiceLocation.Text.RunLength
import ServiceLocation.Url.PercentEncoding

/-!
**Paths.**

A path is a list of segments. Reading it removes the segments `.` and `..`, also in their
percent-encoded spellings, and `..` takes the segment before it along, unless that is the letter
of a drive.

* `Path.ofText`: the path of a text;
* `Path.text`: a path with a slash in front of every segment.
-/

namespace ServiceLocation.Url

open ServiceLocation.Text

/-- The segments of a path. -/
abbrev Path := List (List Char)

namespace Path

/-- A segment with its encoded dots decoded. -/
def plainDots : List Char → List Char
  | '%' :: '2' :: e :: rest =>
    if e == 'e' || e == 'E' then '.' :: plainDots rest else '%' :: plainDots ('2' :: e :: rest)
  | c :: rest => c :: plainDots rest
  | [] => []

/-- Whether a segment stays where it is. -/
def isSingleDot (segment : List Char) : Bool := plainDots segment == ['.']

/-- Whether a segment goes up. -/
def isDoubleDot (segment : List Char) : Bool := plainDots segment == ['.', '.']

/-- Whether a segment is the letter of a drive. -/
def isDriveLetter : List Char → Bool
  | [letter, mark] => letter.isAlpha && (mark == ':' || mark == '|')
  | _ => false

/-- Segments, last one first, without the last one. -/
def shorten : List (List Char) → List (List Char)
  | [] => []
  | last :: rest => if isDriveLetter last then last :: rest else rest

/-- A segment as it stands in a path; in a file's path the first may be the letter of a drive. -/
def normalized (isFile isFirst : Bool) (segment : List Char) : List Char :=
  match isFile && isFirst && isDriveLetter segment, segment with
  | true, letter :: _ => [letter, ':']
  | _, _ => encode inPathSet segment

/-- The segments of a path, last one first, from those read so far and those to come. -/
def walk (isFile : Bool) (passed : List (List Char)) : List (List Char) → List (List Char)
  | [] => passed
  | segment :: rest =>
    if isDoubleDot segment then
      let shorter := shorten passed
      walk isFile (if rest.isEmpty then [] :: shorter else shorter) rest
    else if isSingleDot segment then
      walk isFile (if rest.isEmpty then [] :: passed else passed) rest
    else walk isFile (normalized isFile passed.isEmpty segment :: passed) rest

/-- A text cut at its slashes, and for special URLs at its backslashes. -/
def cut (isSpecial : Bool) (text : List Char) : List (List Char) :=
  (if isSpecial then text.map fun c => if c == '\\' then '/' else c else text).splitOn '/'

/-- The path of a text. -/
def ofText (isSpecial isFile : Bool) (text : List Char) : Path :=
  (walk isFile [] (cut isSpecial text)).reverse

/-- A path without the empty segments at its start. -/
def withoutEmptyStart (path : Path) : Path :=
  match path.dropWhile List.isEmpty with
  | [] => [[]]
  | rest => rest

/-- A path as text. -/
def text (path : Path) : List Char := path.flatMap fun segment => '/' :: segment

end Path

end ServiceLocation.Url
