import QueryRewriting.CommandLine.Directory

/-!
The program. It reads the files that its arguments name, runs the command, and prints the log, and
then the response or the error. Everything in between is decided by the command itself.
-/

namespace QueryRewriting.CommandLine

/-- The text that explains the arguments. -/
def helpText : String :=
  "Executes or explains a query over the rows of a JSON file\n\n" ++
  "Commands:\n" ++
  "  run      Execute the query and print its result\n" ++
  "  explain  Print what the query is rewritten to\n\n" ++
  "Options:\n" ++
  "  --model <FILE>   the model\n" ++
  "  --data <FILE>    the rows of its collections\n" ++
  "  --query <FILE>   the query description\n" ++
  "  --config <FILE>  the configuration\n" ++
  "  --user <UUID>    the user who asks\n" ++
  "  --service-role   ask as the service role\n"

/-- The version of the program. -/
def versionText : String := "0.1.0\n"

/-- The inputs of a command. -/
def Command.inputs : Command → Inputs
  | .run inputs => inputs
  | .explain inputs => inputs

/-- The paths of the files that a command may read. -/
def Inputs.paths (inputs : Inputs) : List String :=
  inputs.config.toList ++ [inputs.model, inputs.data, inputs.query]

/-- Why the system could not read a file. -/
def reason : IO.Error → String
  | .noFileOrDirectory .. => ReadFailure.notFound.message
  | .inappropriateType _ code _ =>
    (if code = 20 then ReadFailure.notDirectory else ReadFailure.isDirectory).message
  | error => toString error

/-- Reads the text of a file. -/
def readText (path : String) : IO (Except String String) := do
  match ← (IO.FS.readBinFile path).toBaseIO with
  | .error error => return .error (reason error)
  | .ok content =>
    match String.fromUTF8? content with
    | some text => return .ok text
    | none => return .error ReadFailure.notText.message

/-- An identity of random bits, marked as such. -/
def randomUuid : IO Uuid := do
  let bytes ← IO.getRandomBytes 16
  let bits : BitVec 128 :=
    bytes.foldl (fun bits byte => bits <<< 8 ||| BitVec.ofNat 128 byte.toNat) 0
  let kept : BitVec 128 := ~~~(0xf <<< 76 ||| 3 <<< 62)
  return ⟨bits &&& kept ||| 4 <<< 76 ||| 2 <<< 62⟩

/-- Prints what has been logged. -/
def printLog (log : Telemetry.Log) : IO Unit := do
  for (channel, line) in log.written.reverse do
    match channel with
    | .output => IO.print line.render
    | .errors => IO.eprint line.render

/-- Runs a command over the files it names. -/
def runCommand (command : Command) : IO UInt32 := do
  let texts ← command.inputs.paths.mapM fun path => do return (path, ← readText path)
  let files : Files := fun path => (texts.lookup path).getD (.error ReadFailure.notFound.message)
  let requestId ← randomUuid
  let now ← IO.monoMsNow
  let (result, ambient) := (command.perform files requestId.text).run.run { now }
  printLog ambient.log
  match result with
  | .ok data =>
    IO.println (response data).text
    return 0
  | .error error =>
    IO.eprintln error.text
    return 1

/-- Answers arguments that give no command. -/
def explainUsage (usage : Usage) : IO UInt32 := do
  match usage with
  | .displayHelp => IO.print helpText
  | .displayVersion => IO.print versionText
  | usage => IO.eprint ("error: " ++ usage.name ++ "\n\n" ++ helpText)
  return usage.exitStatus.toUInt32

/-- Runs the program. -/
def runProgram (arguments : List String) : IO UInt32 :=
  match parse arguments with
  | .ok command => runCommand command
  | .error usage => explainUsage usage

end QueryRewriting.CommandLine

/-- The program. -/
def main (arguments : List String) : IO UInt32 :=
  QueryRewriting.CommandLine.runProgram arguments
