/-
What reading a file can give.

A path leads to nothing, to a directory or to a file, and a file can be read as
a text if it is UTF-8. A folder is a directory as data: files by their paths
below it, and the directories that those paths pass through.
-/
import SearchRest.KeyMap
import SearchRest.Text.Pieces
import SearchRest.Text.Utf8

set_option autoImplicit false

namespace SearchRest

/-- **What a path leads to.** -/
inductive FileEntry where
  /-- Nothing is there. -/
  | missing
  | directory
  /-- A file with these bytes is there. -/
  | file (bytes : Text.Bytes)
  deriving DecidableEq

/-- **Why a path gives no text.** -/
inductive FileError where
  /-- Nothing is there. -/
  | missing
  | isDirectory
  /-- The file is not UTF-8. -/
  | notText
  deriving DecidableEq

/-- The text of the error. -/
def FileError.message : FileError → String
  | .missing => "No such file or directory (os error 2)"
  | .isDirectory => "Is a directory (os error 21)"
  | .notText => "stream did not contain valid UTF-8"

/-- Reads the text of a file. -/
def FileEntry.readText : FileEntry → Except FileError String
  | .missing => .error .missing
  | .directory => .error .isDirectory
  | .file bytes =>
    match Text.decode? bytes with
    | some s => .ok s
    | none => .error .notText

/-- **A directory**: its files by their paths, which have no dots and no slash in front. -/
structure Folder where
  files : KeyMap Text.Bytes

namespace Folder

/-- **What a path leads to** from the folder. Nothing outside of it is known but the directories
above it. -/
def entry (f : Folder) (path : String) : FileEntry :=
  let parts := (Text.split '/' path).filter fun p => p ≠ "" ∧ p ≠ "."
  let name := Text.join '/' parts
  if path = "" then .missing
  else if parts.all (· = "..") then .directory
  else if path.startsWith "/" then .missing
  else match f.files.get? name with
    | some bytes => if path.endsWith "/" then .missing else .file bytes
    | none => if f.files.keys.any (·.startsWith (name ++ "/")) then .directory else .missing

end Folder

end SearchRest
