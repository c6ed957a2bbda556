import CsvSchema.Uri.Basic
import CsvSchema.Path

/-!
# Paths of file URIs

The path of a file on this host: segments that stand for a folder itself or the one above are
resolved first, also where their dots are written with percent signs, and percent signs are
decoded after that.
-/

namespace CsvSchema.Uri

open Text (splitWhere)

/-- A segment with the percent forms of dots written as dots. -/
def plainDots : List Char → List Char
  | '%' :: '2' :: c :: rest =>
      if c == 'e' || c == 'E' then '.' :: plainDots rest else '%' :: plainDots ('2' :: c :: rest)
  | c :: rest => c :: plainDots rest
  | [] => []

/-- Leave the last folder, unless it is a drive. -/
def leaveLast (segments : List (List Char)) : List (List Char) :=
  match segments.getLast? with
  | some segment => if isDrive segment then segments else segments.dropLast
  | none => []

/-- The first segment of a path.  The mark after the letter of a drive is a colon. -/
def firstSegment : List Char → List Char
  | [letter, '|'] => if letter.isAlpha then [letter, ':'] else [letter, '|']
  | segment => segment

/-- Add segments to those of a path. -/
def addSegments (path : List (List Char)) : List (List Char) → List (List Char)
  | [] => path
  | segment :: rest =>
      let dots := plainDots segment
      let closing : List (List Char) := if rest.isEmpty then [[]] else []
      if dots = ['.', '.'] then addSegments (leaveLast path ++ closing) rest
      else if dots = ['.'] then addSegments (path ++ closing) rest
      else if path.isEmpty then addSegments [firstSegment segment] rest
      else addSegments (path ++ [segment]) rest

/-- The text of a path from its segments, with one slash in front. -/
def pathText (segments : List (List Char)) : List Char :=
  '/' :: (['/'].intercalate segments).dropWhile (· == '/')

/-- A path whose last segment is a drive ends with a slash. -/
def closeDrive (bytes : List UInt8) : List UInt8 :=
  match bytes.reverse with
  | mark :: letter :: _ :: _ =>
      if (Char.ofNat letter.toNat).isAlpha && (mark == 0x3A || mark == 0x7C) then bytes ++ [0x2F]
      else bytes
  | _ => bytes

/-- The path of a file URI on this host.  A path that begins with a drive is on this
host whatever the URI says. -/
def filePath? (s : String) : Option Path :=
  (splitScheme? (essence s.toList)).bind fun (scheme, rest) =>
    if SchemeKind.ofName scheme != .file then none
    else
      let (host, path) := splitFile rest
      (fileHost? host).bind fun host =>
        let written := path.takeWhile fun c => c != '?' && c != '#'
        let below := if written.head?.any isFileSlash then written.tail else written
        let segments := addSegments [] (splitWhere isFileSlash below)
        if host.isEmpty || segments.head?.any isDrive then
          let bytes := percentBytes (String.ofList (pathText segments))
          some (.ofString (Text.lossyText (closeDrive bytes)))
        else none

end CsvSchema.Uri
