import SeriesCatalog.CommandLine.Help

/-! # The command line

Options, which may also be given by variables of the environment, come before a command. A command
line is an invocation of a command, a request for help, or wrong.
-/

namespace SeriesCatalog

/-- What the program is asked to do. -/
inductive Command where
  | list (discover : Bool)
  | describe (table : String) (json : Bool)
  deriving DecidableEq, Repr

/-- A command with the settings it runs under, before they are validated. -/
structure Invocation where
  settings : Settings
  command : Command
  deriving DecidableEq, Repr

/-- Why there is no invocation. -/
inductive Stop where
  | usage
  | page (page : Terminal.Page)
  deriving DecidableEq, Repr

namespace CommandLine

/-- An argument as an option is seen. -/
inductive Shape where
  /-- Two hyphens alone, after which nothing is an option. -/
  | terminator
  /-- Two hyphens and a name, perhaps with a value after an equals sign. -/
  | long (name : String) (value : Option String)
  | short (letters : List Char)
  | word
  deriving DecidableEq, Repr

def shape (argument : String) : Shape :=
  match argument.toList with
  | ['-', '-'] => .terminator
  | '-' :: '-' :: rest =>
    match Text.splitFirst? '=' rest with
    | some (name, value) => .long (String.ofList name) (some (String.ofList value))
    | none => .long (String.ofList rest) none
  | '-' :: c :: rest => .short (c :: rest)
  | _ => .word

def parseList (discover : Bool) : List String → Except Stop Command
  | [] => .ok (.list discover)
  | argument :: rest =>
    match shape argument with
    | .terminator => if rest.isEmpty then .ok (.list discover) else .error .usage
    | .long "discover" none => if discover then .error .usage else parseList true rest
    | .long "help" none => .error (.page listHelp)
    | .short ('h' :: _) => .error (.page listHelp)
    | _ => .error .usage

/-- Reads the arguments of `describe`; `words` tells that nothing is an option any more. -/
def parseDescribe (words : Bool) (table : Option String) (json : Bool) :
    List String → Except Stop Command
  | [] =>
    match table with
    | some table => .ok (.describe table json)
    | none => .error .usage
  | argument :: rest =>
    match if words then .word else shape argument with
    | .terminator => parseDescribe true table json rest
    | .long "json" none => if json then .error .usage else parseDescribe words table true rest
    | .long "help" none => .error (.page describeHelp)
    | .short ('h' :: _) => .error (.page describeHelp)
    | .word =>
      if table.isSome then .error .usage else parseDescribe words (some argument) json rest
    | _ => .error .usage

def parseHelp (e : Environment) : List String → Except Stop Command
  | [] => .error (.page (help e))
  | ["list"] => .error (.page listHelp)
  | ["describe"] => .error (.page describeHelp)
  | ["help"] => .error (.page helpHelp)
  | _ => .error .usage

/-- The settings of options that were given, else of the environment, else the default ones. -/
def settings (e : Environment) (given : List (String × String)) : Settings :=
  let value (name variableName : String) : Option String :=
    (given.lookup name).orElse fun _ => e.text? variableName
  { url := (value "url" "CLICKHOUSE_URL").getD Settings.default.url
    user := value "user" "CLICKHOUSE_USER"
    password := value "password" "CLICKHOUSE_PASSWORD"
    database := (value "database" "CLICKHOUSE_DATABASE").getD Settings.default.database
    catalogFile := value "catalog" "CLICKSERIES_CATALOG"
    timestamp :=
      (value "timestamp-column" "CLICKSERIES_TIMESTAMP_COLUMN").getD Settings.default.timestamp }

/-- Reads options up to the command, and the command. An option is given once at most; its value is
the next argument, unless that looks like an option, or stands after an equals sign. -/
def parseOptions (e : Environment) (given : List (String × String)) :
    List String → Except Stop Invocation
  | [] => .error .usage
  | argument :: rest =>
    let invoke (command : Except Stop Command) : Except Stop Invocation :=
      command.map fun command => ⟨settings e given, command⟩
    match shape argument with
    | .long "help" none => .error (.page (help e))
    | .long "version" none => .error (.page version)
    | .short ('h' :: _) => .error (.page (help e))
    | .short ('V' :: _) => .error (.page version)
    | .long name value =>
      if (valueOptions.all fun o => o.name != name) || (given.lookup name).isSome then
        .error .usage
      else
        match value with
        | some value => parseOptions e ((name, value) :: given) rest
        | none =>
          match rest with
          | value :: rest =>
            if shape value = .word then parseOptions e ((name, value) :: given) rest
            else .error .usage
          | [] => .error .usage
    | .word =>
      if argument = "list" then invoke (parseList false rest)
      else if argument = "describe" then invoke (parseDescribe false none false rest)
      else if argument = "help" then invoke (parseHelp e rest)
      else .error .usage
    | _ => .error .usage

/-- The invocation that arguments stand for under an environment. -/
def parse (e : Environment) (arguments : List String) : Except Stop Invocation :=
  parseOptions e [] arguments

end CommandLine

end SeriesCatalog
