import FeeWatch.Command.Feed
import FeeWatch.Command.Run

/-! The program.

It reads the documents in the working folder, the environment and the feed on standard
input, runs the command, writes the files that the run changed, and prints what the
run printed. -/
namespace FeeWatch

/-- Places the text of a file among the files, if there is one. -/
def readText (files : Files) (path : String) : IO Files := do
  try
    return files.place path (← IO.FS.readFile path)
  catch _ =>
    return files

/-- The variables of the environment that give settings. -/
def readEnvironment : IO Config.Environment := do
  let names := Config.storeSwitch.name :: Config.textVariables.map (·.name)
  let values ← names.mapM fun name => return (name, ← IO.getEnv name)
  return values.filterMap fun (name, value) => value.map fun s => (name, s)

/-- The lines of a stream. -/
partial def readLines (input : IO.FS.Stream) : IO (List String) := do
  let line ← input.getLine
  if line.isEmpty then return []
  return line :: (← readLines input)

/-- Writes the texts that a run changed, with the folders that it made. -/
def writeTexts (before after : Files) : IO Unit := do
  for folder in after.folders do
    IO.FS.createDirAll folder
  for (path, s) in after.texts do
    unless before.texts.contains (path, s) do
      IO.FS.writeFile path s

/-- A time as the log files write it: its day and its time of day to the second. -/
def logTime (t : Calendar.Instant) : String :=
  let cs := t.text.toList
  String.ofList (cs.take 10 ++ ' ' :: (cs.drop 11).take 8)

/-- The paths of the documents that arguments lead to. -/
def documents (args : List String) : List String :=
  let given := match Command.Arguments.read args with
    | .ok (.run a) => a.config.toList
    | _ => []
  let main := given ++ [Config.fileName]
  main ++ main.map fun path => Files.below (Files.parent path) Config.localName

def runFeed (args : List String) (feed : Command.Feed) : IO UInt32 := do
  let start : Files := { root := "/", here := [], nodes := [] }
  let files ← (documents args).foldlM readText start
  let outcome := Command.run {
    arguments := args, environment := ← readEnvironment, files, now := feed.now
    time := logTime feed.now, events := feed.events, hookReplies := [] }
  writeTexts files outcome.files
  IO.print outcome.output
  IO.eprint outcome.console
  match outcome.result with
  | .ok code => return code.toUInt32
  | .error f =>
    IO.eprintln f.message
    return 1

end FeeWatch

/-- Runs the command. -/
def main (args : List String) : IO UInt32 := do
  let lines ← FeeWatch.readLines (← IO.getStdin)
  match FeeWatch.Command.Feed.ofLines? lines with
  | some feed => FeeWatch.runFeed args feed
  | none =>
    IO.eprintln "the feed on standard input needs a time and replies"
    return 2
