/-!
# What a command run leaves behind

A run of a command ends with an exit code, the text written to standard output and to
standard error, and the log entries it made, each with its level. The inputs a run can see
are standard input and the files of its working directory.
-/

namespace Tabula.Cli

/-- The level of a log entry. -/
inductive Level where
  | info
  | error
  deriving Repr, BEq, DecidableEq

/-- The name of a level, as logs show it. -/
def Level.name : Level → String
  | .info => "INFO"
  | .error => "ERROR"

/-- The end of a run. -/
structure Outcome where
  exit : Int
  stdout : String
  stderr : String
  log : List (Level × String)
  deriving Repr, BEq

/-- What a run can read: standard input and the files of the working directory by name. -/
structure Environment where
  stdin : String
  files : List (String × String)

/-- The contents of a regular file, looked up by a path relative to the working directory. -/
def Environment.file? (env : Environment) (path : String) : Option String :=
  env.files.lookup (String.ofList (strip false path.toList))
where
  /-- Drops leading `./` steps and the slashes after them. -/
  strip : Bool → List Char → List Char
    | true, '/' :: rest => strip true rest
    | _, '.' :: '/' :: rest => strip true rest
    | _, cs => cs

end Tabula.Cli
