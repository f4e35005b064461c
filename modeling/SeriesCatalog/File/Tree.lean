import SeriesCatalog.File
import SeriesCatalog.Text.Blank

/-! # Trees of files

What a path leads to, where the files of the working directory and some others are known. A path is
followed name by name; nothing comes after the name of a file, not even a slash.
-/

namespace SeriesCatalog

/-- The names of a path. A path from the root starts with an empty name. -/
abbrev Path := List String

def Path.ofText (text : String) : Path :=
  (Text.splitAll '/' text.toList).map String.ofList

/-- Known files and directories, each by its path from the working directory or from the root. -/
structure FileTree where
  files : List (Path × ByteArray)
  directories : List Path

namespace FileTree

/-- The directory above another one. There is nothing above the root; what is above the working
directory is not known. -/
def above (place : Path) : Path :=
  if place = [""] then place
  else if place.all (· == "..") then ".." :: place
  else place.dropLast

def hasDirectory (t : FileTree) (place : Path) : Bool :=
  (t.directories ++ t.files.map (·.1)).any place.isPrefixOf

/-- The file that the rest of a path leads to from a directory. -/
def follow (t : FileTree) (place : Path) : Path → FileBytes
  | [] => .error .directory
  | name :: rest =>
    if name = "" ∨ name = "." then follow t place rest
    else if name = ".." then follow t (above place) rest
    else if 255 < name.utf8ByteSize then .error .longName
    else
      match t.files.lookup (place ++ [name]) with
      | some bytes => if rest.isEmpty then .ok bytes else .error .notDirectory
      | none =>
        if t.hasDirectory (place ++ [name]) then follow t (place ++ [name]) rest
        else .error .missing

/-- The bytes of the file that a path leads to. -/
def read (t : FileTree) (path : String) : FileBytes :=
  if path.isEmpty then .error .missing
  else if 4096 ≤ path.utf8ByteSize then .error .longName
  else
    match Path.ofText path with
    | "" :: rest => t.follow [""] rest
    | names => t.follow [] names

end FileTree

end SeriesCatalog
