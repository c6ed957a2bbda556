import CsvSchema.Uri.FilePath
import CsvSchema.Text.Split

/-!
# Texts that name files

Records and schemas name files by texts that are paths or file URIs, with slashes of both kinds.
They are put together as texts and become paths only where they are looked up.
-/

namespace CsvSchema.FileText

/-- Whether a character separates the names in a text. -/
def isSlash (c : Char) : Bool := c == '/' || c == '\\'

/-- Take the extension off the last name, dot included. -/
def withoutExtension (s : List Char) : List Char :=
  let back := s.reverse
  let name := back.takeWhile (!isSlash ·)
  if name.contains '.' then
    (((name.dropWhile (· != '.')).drop 1) ++ back.dropWhile (!isSlash ·)).reverse
  else s

/-- Whether a text begins like a file URI. -/
def isFileUri (s : List Char) : Bool := "file:".toList.isPrefixOf s

/-- Whether a text stands for itself in any folder. -/
def isAbsolute (s : List Char) : Bool := s.head?.any isSlash || isFileUri s

/-- The text of a file in a folder. -/
def join (folder file : List Char) : List Char :=
  if folder.isEmpty || isAbsolute file then file
  else
    let file := (Text.dropStart? "./".toList file).getD file
    if folder.getLast?.any isSlash then folder ++ file else folder ++ '/' :: file

/-- The text of a file in a folder, as a string. -/
def joined (folder file : String) : String := String.ofList (join folder.toList file.toList)

/-- The path that a text names. -/
def path (text : String) : Path :=
  if isFileUri text.toList then (Uri.filePath? text).getD (.ofString text) else .ofString text

end CsvSchema.FileText
