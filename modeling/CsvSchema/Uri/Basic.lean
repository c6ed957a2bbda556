import CsvSchema.Uri.Percent
import CsvSchema.Uri.Address
import CsvSchema.Uri.Domain
import CsvSchema.Decimal.Natural

/-!
# URIs

A URI has a scheme, and perhaps an authority with a host and a port.  Schemes of the web and of
files have hosts that must be domain names or addresses, and take a backslash for a slash; other
schemes take almost any host, or none.  Nothing after the authority can be wrong.  Blanks and
control characters around a URI do not count, nor do tabs and line breaks anywhere in it.
-/

namespace CsvSchema.Uri

open Text (splitWhere dropStart? dropEndWhile)

/-- How a scheme treats its hosts. -/
inductive SchemeKind where
  | web
  | file
  | other
  deriving Repr, DecidableEq

/-- The kind of a scheme in lower case. -/
def SchemeKind.ofName (name : List Char) : SchemeKind :=
  if ["http", "https", "ws", "wss", "ftp"].contains (String.ofList name) then web
  else if name = "file".toList then file
  else other

/-- Whether a character ends the authority of a URI. -/
def endsAuthority (kind : SchemeKind) (c : Char) : Bool :=
  c == '/' || c == '?' || c == '#' || (kind != .other && c == '\\')

/-- Whether a character may follow the first one of a scheme. -/
def isSchemeChar (c : Char) : Bool :=
  c.isAlphanum || c == '+' || c == '-' || c == '.'

/-- What counts of a text as a URI. -/
def essence (s : List Char) : List Char :=
  let isOuter := fun (c : Char) => c.toNat ≤ 0x20
  (dropEndWhile isOuter (s.dropWhile isOuter)).filter fun c =>
    c != '\t' && c != '\n' && c != '\r'

/-- The scheme in lower case, and what follows its colon. -/
def splitScheme? (s : List Char) : Option (List Char × List Char) :=
  match s.takeWhile isSchemeChar, s.dropWhile isSchemeChar with
  | first :: name, ':' :: rest =>
      if first.isAlpha then some ((first :: name).map Char.toLower, rest) else none
  | _, _ => none

/-- The text between brackets, if a text begins with one and ends with the other. -/
def bracketed? (s : List Char) : Option (List Char) :=
  match s with
  | '[' :: rest => if rest.getLast? == some ']' then some rest.dropLast else none
  | _ => none

/-- The domain name that a host of the web or of a file names, with an address as it
is written. -/
def webHost? (host : List Char) : Option (List Char) :=
  if host.head? == some '[' then
    (bracketed? host).bind fun address => if isGroupAddress address then some host else none
  else
    (Text.text? (percentBytes (String.ofList host))).bind fun decoded =>
      (domain? decoded.toList).bind fun name =>
        if name.isEmpty || (endsInNumber name && !isAddress name) then none else some name

/-- Whether a character must not stand in a host of other schemes. -/
def isForbiddenOpaque (c : Char) : Bool :=
  "\x00\t\n\r #/:<>?@[\\]^|".toList.contains c

/-- The host of a URI of another scheme. -/
def opaqueHost? (host : List Char) : Option (List Char) :=
  if host.head? == some '[' then
    (bracketed? host).bind fun address => if isGroupAddress address then some host else none
  else if host.any isForbiddenOpaque then none
  else some host

/-- Split a host off, which ends at a colon outside of brackets. -/
def splitHost (kind : SchemeKind) (inBrackets : Bool) : List Char → List Char × List Char
  | [] => ([], [])
  | c :: rest =>
      if (c == ':' && !inBrackets) || endsAuthority kind c then ([], c :: rest)
      else
        let inside := if c == '[' then true else if c == ']' then false else inBrackets
        let (host, after) := splitHost kind inside rest
        (c :: host, after)

/-- Whether what follows a host is a port or nothing of the authority. -/
def isPortEnd (s : List Char) : Bool :=
  match s with
  | ':' :: rest =>
      let digits := rest.takeWhile Decimal.isDigit
      Decimal.digitsValue digits ≤ 65535 &&
        match rest.dropWhile Decimal.isDigit with
        | [] => true
        | c :: _ => c == '/' || c == '\\' || c == '?' || c == '#'
  | _ => true

/-- Split at the last at sign of the authority: whether the user before it is more than
a colon, and what follows it.  An at sign with nothing on either side is refused. -/
def splitUser? (kind : SchemeKind) (s : List Char) : Option (Bool × List Char) :=
  let authority := s.takeWhile (!endsAuthority kind ·)
  let rest := s.dropWhile (!endsAuthority kind ·)
  if authority.contains '@' then
    let back := authority.reverse
    let user := ((back.dropWhile (· != '@')).drop 1).reverse
    let host := (back.takeWhile (· != '@')).reverse
    if user.isEmpty && host.isEmpty && !rest.isEmpty then none
    else some (!user.isEmpty && user != [':'], host ++ rest)
  else some (false, s)

/-- Whether a text is a sound authority with anything after it. -/
def isAuthority (kind : SchemeKind) (s : List Char) : Bool :=
  match splitUser? kind s with
  | none => false
  | some (hasUser, s) =>
      let (host, after) := splitHost kind false s
      if host.isEmpty then
        kind == .other && !hasUser && after.head? != some ':'
      else
        (if kind == .other then opaqueHost? host else webHost? host).isSome && isPortEnd after

/-- Whether a character separates the segments of a file's path. -/
def isFileSlash (c : Char) : Bool := c == '/' || c == '\\'

/-- Whether a segment is the letter of a drive. -/
def isDrive (segment : List Char) : Bool :=
  match segment with
  | [letter, mark] => letter.isAlpha && (mark == ':' || mark == '|')
  | _ => false

/-- The host and the path of a file, as they are written after the scheme. -/
def splitFile (s : List Char) : List Char × List Char :=
  match s with
  | a :: b :: rest =>
      if isFileSlash a && isFileSlash b then
        let host := rest.takeWhile (!endsAuthority .file ·)
        if isDrive host then ([], rest) else (host, rest.dropWhile (!endsAuthority .file ·))
      else ([], s)
  | _ => ([], s)

/-- The host of a file, where none and the local one are the same. -/
def fileHost? (host : List Char) : Option (List Char) :=
  if host.isEmpty then some []
  else (webHost? host).map fun name => if name = "localhost".toList then [] else name

/-- Whether a text is a URI. -/
def isUri (s : String) : Bool :=
  match splitScheme? (essence s.toList) with
  | none => false
  | some (scheme, rest) =>
      match SchemeKind.ofName scheme with
      | .file => (fileHost? (splitFile rest).1).isSome
      | .web => isAuthority .web (rest.dropWhile isFileSlash)
      | .other =>
          match rest with
          | '/' :: '/' :: rest => isAuthority .other rest
          | _ => true

end CsvSchema.Uri
