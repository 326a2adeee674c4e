import RuleGate.Program

/-!
The program on a machine: it reads its arguments, its environment, its input and the files that may
matter, and leaves every decision to `Program.run`. The files that may matter are the rule files in
the directories with rules, and the transcript that the event names.
-/

namespace RuleGate

/-- The variable of the environment that names the root of the plugin. -/
def pluginRootVariable : String := "CLAUDE_PLUGIN_ROOT"

/-- All bytes of a stream. -/
partial def readAll (stream : IO.FS.Stream) (before : ByteArray) : IO ByteArray := do
  let bytes ← stream.read 65536
  if bytes.isEmpty then return before else readAll stream (before ++ bytes)

def fileOnMachine? (path : String) : IO (Option ByteArray) := do
  try
    let bytes ← IO.FS.readBinFile path
    return some bytes
  catch _ => return none

def namesOnMachine? (path : String) : IO (Option (List String)) := do
  try
    let entries ← (← IO.FS.realPath path).readDir
    return some (entries.toList.map fun entry => entry.fileName)
  catch _ => return none

def namesFromRoot (current : List String) (path : String) : List String :=
  (FileSystem.pathNames path).foldl
    (fun names name =>
      if name = "" ∨ name = "." then names
      else if name = ".." then names.dropLast
      else names ++ [name])
    (if path.startsWith "/" then [] else current)

/-- The files with what is at a path of the machine, if they do not hold it yet. -/
def addPath (files : FileSystem) (path : String) : IO FileSystem := do
  match files.resolve path with
  | .ok _ => return files
  | .error _ =>
    let names := namesFromRoot files.current path
    if (← namesOnMachine? path).isSome then
      return { files with root := FileNode.put (.directory []) names files.root }
    else
      match ← fileOnMachine? path with
      | some bytes => return { files with root := FileNode.put (.file bytes) names files.root }
      | none => return files

/-- The files with all that is on the way to a path of the machine, and at its end. -/
def addWay (files : FileSystem) (path : String) : IO FileSystem := do
  let names := FileSystem.pathNames path
  let ways := (List.range names.length).map fun i => "/".intercalate (names.take (i + 1))
  (ways.filter (· != "")).foldlM addPath files

/-- The files with the rule files in a directory of the machine. -/
def addRules (files : FileSystem) (directory : String) : IO FileSystem := do
  let files ← addWay files directory
  let names := ((← namesOnMachine? directory).getD []).filter Rule.isPluginFile
  (names.map (FileSystem.join directory)).foldlM addPath files

/-- The path of the transcript that an input names. -/
def transcriptOf? (input : ByteArray) : Option String := do
  let text ← String.fromUTF8? input
  let event ← (Event.ofText? (String.ofList (Text.trim text.toList))).toOption
  event.transcriptPath?

/-- The files of the machine that may matter to an input. -/
def filesOnMachine (input : ByteArray) (sources : RuleDirectories) : IO FileSystem := do
  let current := namesFromRoot [] (toString (← IO.currentDir))
  let empty : FileSystem := ⟨FileNode.put (.directory []) current (.directory []), current⟩
  let paths := sources.projectDirectory?.toList ++ sources.pluginRules?.toList
  let files ← paths.foldlM addRules empty
  (transcriptOf? input).toList.foldlM addWay files

def leave (result : Program.Result) : IO UInt32 := do
  for warning in result.warnings do
    IO.eprintln (warning.level ++ " " ++ warning.message)
  IO.print result.output
  (← IO.getStdout).flush
  return result.exitCode.toUInt32

end RuleGate

open RuleGate in
def main (arguments : List String) : IO UInt32 := do
  match Invocation.ofArguments arguments with
  | .error e => leave (Program.refuse e)
  | .ok _ =>
    let pluginRoot ← IO.getEnv pluginRootVariable
    let input ← readAll (← IO.getStdin) ByteArray.empty
    let files ← filesOnMachine input (RuleDirectories.ofEnvironment pluginRoot)
    leave (Program.run arguments input pluginRoot files)
