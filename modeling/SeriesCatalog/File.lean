/-! # Files as texts -/

namespace SeriesCatalog

/-- Why the text of a file cannot be had. -/
inductive FileError where
  | missing
  | directory
  | notDirectory
  | longName
  | denied
  | notText
  deriving DecidableEq, Repr

def FileError.message : FileError → String
  | .missing => "No such file or directory (os error 2)"
  | .directory => "Is a directory (os error 21)"
  | .notDirectory => "Not a directory (os error 20)"
  | .longName => "File name too long (os error 36)"
  | .denied => "Permission denied (os error 13)"
  | .notText => "stream did not contain valid UTF-8"

/-- The text of a file, if it can be had. -/
abbrev FileText := Except FileError String

/-- The bytes of a file. -/
abbrev FileBytes := Except FileError ByteArray

def FileText.ofBytes (bytes : FileBytes) : FileText :=
  match bytes with
  | .error e => .error e
  | .ok bytes =>
    match String.fromUTF8? bytes with
    | some text => .ok text
    | none => .error .notText

end SeriesCatalog
