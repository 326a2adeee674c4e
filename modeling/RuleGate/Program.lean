import RuleGate.Arguments
import RuleGate.Gate

/-!
The program as a whole: from its arguments, its input and the files around it to its exit code and
its output. Whatever an event leads to, a program that was invoked as it should be ends well and
writes one line; the decision is in the line.
-/

namespace RuleGate.Program

/-- What a run of the program leaves behind. -/
structure Result where
  exitCode : Nat
  output : String
  warnings : List Warning

def versionText : String := "hookify 0.1.0\n"

def helpText : String :=
  "Hookify - markdown rule gate for Claude Code hooks

Usage: hookify [OPTIONS] <COMMAND>

Commands:
  pre-tool-use        Evaluate bash and file rules before a tool runs
  post-tool-use       Evaluate bash and file rules after a tool ran
  stop                Evaluate stop rules when the agent finishes
  user-prompt-submit  Evaluate prompt rules when the user submits a prompt
  help                Print this message or the help of the given subcommand(s)

Options:
  -d, --debug    Enable debug output to stderr
  -h, --help     Print help
  -V, --version  Print version
"

/-- The run that shows something or fails because of its arguments. -/
def refuse (e : ArgumentError) : Result :=
  let output :=
    match e with
    | .help => helpText
    | .version => versionText
    | _ => ""
  ⟨e.exitCode, output, []⟩

def line (d : Decision) : String :=
  d.text ++ "\n"

/-- The decision about an input, which may not be text at all. -/
def decision (hook : Hook) (input : ByteArray) (sources : RuleDirectories) (files : FileSystem) :
    Gate.Outcome Decision :=
  match String.fromUTF8? input with
  | none => ⟨.report FileError.notUnicode.message, []⟩
  | some text => Gate.process hook text sources files

def run (arguments : List String) (input : ByteArray) (pluginRoot : Option String)
    (files : FileSystem) : Result :=
  match Invocation.ofArguments arguments with
  | .error e => refuse e
  | .ok invocation =>
    let outcome := decision invocation.hook input (RuleDirectories.ofEnvironment pluginRoot) files
    ⟨0, line outcome.result, outcome.warnings⟩

end RuleGate.Program
