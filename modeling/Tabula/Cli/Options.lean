/-!
# Command-line options

A command has options with a one-letter and a long spelling; an option either is a flag or
takes a value. Arguments are read from the left. `--name=value` and `--name value` set a
long option, and a long name may be shortened to any prefix that names one option only.
`-xVALUE` and `-x VALUE` set a short option, and several flags may share one dash. `--` ends
the options; any other argument is positional and options may follow it. `-h` or `--help`
asks for the help text as soon as it is read. The first argument that makes no sense ends the
reading with a message.

The help text lists the options in two columns: the spellings, padded to a fixed column, and
the explanation wrapped at word boundaries to the width that is left.
-/

namespace Tabula.Cli

/-- One option of a command. -/
structure OptionSpec where
  short : Char
  long : String
  key : String
  takesValue : Bool
  metavar : String
  help : String

/-- A command: its name in messages and its options (the help option comes on top). -/
structure Command where
  name : String
  options : List OptionSpec

/-- A value read for an option. -/
inductive Setting where
  | flag
  | text (s : String)
  deriving Repr, BEq, DecidableEq

/-- The settings read, by key; a later setting of a key replaces the earlier one in place. -/
abbrev Settings := List (String × Setting)

/-- What the arguments asked for. -/
inductive Request where
  | run (settings : Settings) (positional : List String)
  | help
  | usageError (message : String)
  deriving Repr, BEq

/-- The help option that every command has. -/
def helpSpec : OptionSpec :=
  ⟨'h', "help", "help", false, "", "show this help message and exit"⟩

/-- All options of a command, the help option first. -/
def Command.allOptions (c : Command) : List OptionSpec := helpSpec :: c.options

/-- Records a setting under a key. -/
def Settings.put : Settings → String → Setting → Settings
  | [], k, v => [(k, v)]
  | (k', v') :: rest, k, v => if k' == k then (k, v) :: rest else (k', v') :: put rest k v

/-- The text set for a key. -/
def Settings.text? (s : Settings) (k : String) : Option String :=
  match s.lookup k with
  | some (.text t) => some t
  | _ => none

/-- Whether a flag is set. -/
def Settings.flag (s : Settings) (k : String) : Bool := s.lookup k == some .flag

/-- The long option that a spelling names: an exact name, else the only name it starts. -/
def Command.matchLong (c : Command) (spelling : String) : Except String OptionSpec :=
  let specs := c.allOptions
  match specs.find? fun o => "--" ++ o.long == spelling with
  | some o => .ok o
  | none =>
    match specs.filter fun o => ("--" ++ o.long).startsWith spelling with
    | [o] => .ok o
    | [] => .error ("no such option: " ++ spelling)
    | many =>
      let names := (many.map fun o => "--" ++ o.long).mergeSort fun a b => decide (a ≤ b)
      .error ("ambiguous option: " ++ spelling ++ " (" ++ ", ".intercalate names ++ "?)")

/-- Reads arguments into settings. -/
def Command.read (c : Command) (args : List String) : Request :=
  go args [] []
where
  go : List String → Settings → List String → Request
    | [], s, pos => .run s pos.reverse
    | "--" :: rest, s, pos => .run s (pos.reverse ++ rest)
    | arg :: rest, s, pos =>
      if arg.startsWith "--" then
        let (spelling, explicit) := match arg.toList.splitOn '=' with
          | [] => (arg, none)
          | [_] => (arg, none)
          | name :: more =>
            (String.ofList name, some (String.ofList ((more.intersperse ['=']).flatten)))
        match c.matchLong spelling with
        | .error m => .usageError m
        | .ok o =>
          let shown := "--" ++ o.long
          if o.key == "help" ∧ explicit.isNone then .help
          else if o.takesValue then
            match explicit with
            | some v => go rest (s.put o.key (.text v)) pos
            | none =>
              match rest with
              | v :: rest' => go rest' (s.put o.key (.text v)) pos
              | [] => .usageError (shown ++ " option requires 1 argument")
          else match explicit with
            | some _ => .usageError (shown ++ " option does not take a value")
            | none => go rest (s.put o.key .flag) pos
      else if arg.startsWith "-" ∧ arg.length > 1 then
        shorts (arg.toList.drop 1) rest s pos
      else go rest s (arg :: pos)
  termination_by args => (args.length + 1, 0)
  shorts : List Char → List String → Settings → List String → Request
    | [], rest, s, pos => go rest s pos
    | ch :: more, rest, s, pos =>
      match c.allOptions.find? (·.short == ch) with
      | none => .usageError ("no such option: -" ++ ch.toString)
      | some o =>
        if o.key == "help" then .help
        else if o.takesValue then
          if !more.isEmpty then go rest (s.put o.key (.text (String.ofList more))) pos
          else match rest with
            | v :: rest' => go rest' (s.put o.key (.text v)) pos
            | [] => .usageError ("-" ++ ch.toString ++ " option requires 1 argument")
        else shorts more rest (s.put o.key .flag) pos
  termination_by cs rest => (rest.length + 1, cs.length + 1)

/-- The usage line of a command. -/
def Command.usage (c : Command) : String := "Usage: " ++ c.name ++ " [options]\n"

/-- What a command writes when the arguments make no sense. -/
def Command.usageErrorText (c : Command) (message : String) : String :=
  c.usage ++ "\n" ++ c.name ++ ": error: " ++ message ++ "\n"

/-- How an option is spelled in the help text. -/
def OptionSpec.spellings (o : OptionSpec) : String :=
  if o.takesValue then
    "-" ++ o.short.toString ++ " " ++ o.metavar ++ ", --" ++ o.long ++ "=" ++ o.metavar
  else "-" ++ o.short.toString ++ ", --" ++ o.long

/-- Fills lines of at most `width` characters with the words of a text, greedily. -/
def wrapWords (width : Nat) (text : String) : List String :=
  let ws := (text.splitOn " ").filter (· ≠ "")
  let (done, current) := ws.foldl (fun (done, current) w =>
    if current.isEmpty then (done, w)
    else if current.length + 1 + w.length ≤ width then (done, current ++ " " ++ w)
    else (current :: done, w)) ([], "")
  (if current.isEmpty then done else current :: done).reverse

/-- The width of the terminal that help is laid out for, less a margin of two. -/
def helpTextWidth : Nat := 78

/-- The help text of a command: the usage line, then the options in two columns. -/
def Command.helpText (c : Command) : String :=
  let specs := c.allOptions
  let longest := specs.foldl (fun m o => max m (o.spellings.length + 2)) 0
  let helpPos := min (longest + 2) (min 24 (max (helpTextWidth - 20) 4))
  let helpWidth := max (helpTextWidth - helpPos) 11
  let optWidth := helpPos - 4
  let indent (n : Nat) := String.ofList (List.replicate n ' ')
  let entry (o : OptionSpec) : String :=
    let sp := o.spellings
    let lines := wrapWords helpWidth o.help
    let rest := String.join (lines.drop 1 |>.map fun l => indent helpPos ++ l ++ "\n")
    if sp.length > optWidth then
      "  " ++ sp ++ "\n" ++ String.join (lines.map fun l => indent helpPos ++ l ++ "\n")
    else
      "  " ++ sp ++ indent (optWidth - sp.length) ++ "  " ++ lines.headD "" ++ "\n" ++ rest
  c.usage ++ "\n" ++ "Options:\n" ++ String.join (specs.map entry)

end Tabula.Cli
