import SeriesCatalog.Program

/-! # The executable

Gathers what the program may look at, runs it and prints its outcome. No connection to a server is
made here, so the store has no answers.
-/

namespace SeriesCatalog.Executable

def readBytes (path : String) : IO FileBytes := do
  try
    return .ok (← IO.FS.readBinFile path)
  catch
    | .noFileOrDirectory .. => return .error .missing
    | .permissionDenied .. => return .error .denied
    | .inappropriateType (some _) .. => return .error .notDirectory
    | .invalidArgument .. => return .error .longName
    | _ => return .error .directory

/-- The words in the bytes of a file, and what stands between braces there: all that can name a
variable. -/
def wordsOf (file : FileBytes) : List String :=
  match FileText.ofBytes file with
  | .ok text =>
    let isNameChar (c : Char) : Bool := Text.isAlphanumeric c || c == '_' || c == '.'
    let isBrace (c : Char) : Bool := c == '\x7b' || c == '\x7d'
    let words := text.toList.splitBy fun a b => isNameChar a && isNameChar b
    let enclosed := text.toList.splitBy fun a b => !isBrace a && !isBrace b
    (words ++ enclosed).map String.ofList
  | .error _ => []

def environmentOf (names : List String) : IO Environment := do
  let values ← names.mapM fun name => do
    match ← IO.getEnv name with
    | some value => return [(name, Variable.text value)]
    | none => return []
  return values.flatten

/-- Runs the program on its arguments and gives the exit code. -/
def run (arguments : List String) : IO UInt32 := do
  let dotFile ← readBytes ".env"
  let environment ←
    environmentOf (["NO_COLOR", "CLICOLOR_FORCE"] ++
      CommandLine.valueOptions.map (·.variableName) ++ wordsOf dotFile)
  let file (path : String) : FileBytes := if path = ".env" then dotFile else .error .missing
  let world : World := ⟨arguments, environment, file, Store.failing .unreachable⟩
  let path := match Program.invocation world with
    | .ok invocation => invocation.settings.catalogFile.getD ""
    | .error _ => ""
  let catalog ← readBytes path
  let outcome := Program.run
    { world with file := fun name => if name = path then catalog else file name }
  IO.print outcome.output
  match outcome.error with
  | some report => IO.eprint report
  | none => IO.eprintln "error: wrong command line\n\nFor more information, try '--help'."
  return outcome.exit.toUInt32

end SeriesCatalog.Executable

def main (arguments : List String) : IO UInt32 :=
  SeriesCatalog.Executable.run arguments
