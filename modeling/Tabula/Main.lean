import Tabula.Tool.Split
import Tabula.Tool.Query

/-!
# The command line

`tabula split [options]` runs the split command and `tabula query [options]` the query
command on standard input or on the file that `-f` names. The commands themselves are pure;
this layer only reads standard input and that file, and writes what a run leaves behind:
its output, its error text, its log entries (to standard error, one per line) and its exit
code. A fault is reported as its kind and message on standard error, with exit code 1.
No language toolkit comes with the program, so the noun conversions raise an `ImportError`.
-/

open Tabula

/-- Reads standard input to its end. -/
partial def readStream (h : IO.FS.Stream) (acc : String) : IO String := do
  let chunk ← h.getLine
  if chunk.isEmpty then pure acc else readStream h (acc ++ chunk)

/-- The files a run may open: the one its `-f` option names, if it can be read. -/
def filesFor (cmd : Cli.Command) (args : List String) : IO (List (String × String)) := do
  match cmd.read args with
  | .run settings _ =>
    match settings.text? "csv_file" with
    | some name =>
      try
        let text ← IO.FS.readFile name
        pure [(name, text)]
      catch _ => pure []
    | none => pure []
  | _ => pure []

/-- Runs one command and writes what it leaves behind. -/
def runCommand (cmd : Cli.Command)
    (run : Cli.Environment → List String → Except Fault Cli.Outcome) (args : List String) :
    IO UInt32 := do
  let input ← readStream (← IO.getStdin) ""
  let files ← filesFor cmd args
  let out ← IO.getStdout
  let err ← IO.getStderr
  match run ⟨input, files⟩ args with
  | .ok o =>
    out.putStr o.stdout
    err.putStr o.stderr
    for (level, message) in o.log do
      err.putStrLn (level.name ++ ": " ++ message)
    out.flush
    pure (UInt32.ofNat (o.exit % 256).toNat)
  | .error f =>
    err.putStrLn ("Error: " ++ f.message)
    pure 1

/-- The entry point: the first argument names the command. -/
def main (args : List String) : IO UInt32 :=
  match args with
  | "split" :: rest => runCommand Tool.splitCommand Tool.runSplit rest
  | "query" :: rest => runCommand Tool.queryCommand (Tool.runQuery .unavailable) rest
  | _ => do
    (← IO.getStderr).putStrLn "usage: tabula (split|query) [options]"
    pure 2
