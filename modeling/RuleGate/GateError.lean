import RuleGate.FileSystem
import RuleGate.Json.Error
import RuleGate.Regex.Compile

/-!
What can go wrong in the gate, and what is noted while it goes on. Few failures reach the host: a
rule that cannot be read is left out and a pattern that cannot be searched for never matches, each
with a warning.
-/

namespace RuleGate

inductive GateError where
  | file (e : FileError)
  | json (e : Json.Error)
  | malformedRule (path reason : String)
  | invalidPattern (pattern : String) (e : Regex.Error)
  | transcript (path : String) (e : FileError)
  deriving DecidableEq

/-- The words for a failure; about a pattern, the first line of them. -/
def GateError.message : GateError → String
  | .file e => "IO error: " ++ e.message
  | .json e => "JSON error: " ++ e.message
  | .malformedRule path reason => "Rule file '" ++ path ++ "' is malformed: " ++ reason
  | .invalidPattern pattern e => "Invalid regex pattern '" ++ pattern ++ "': " ++ e.message
  | .transcript path e => "Failed to read transcript '" ++ path ++ "': " ++ e.message

/-- Something worth noting: a rule file that was left out, a failure inside an evaluation, an
invocation without input, or a failure of the whole invocation. -/
inductive Warning where
  | skippedFile (path : String) (e : GateError)
  | ignored (e : GateError)
  | noInput
  | failed (e : GateError)
  deriving DecidableEq

/-- The words for a warning; about a pattern, the first line of them. -/
def Warning.message : Warning → String
  | .skippedFile path e => "Skipping rule file " ++ path ++ ": " ++ e.message
  | .ignored e => e.message
  | .noInput => "no input provided"
  | .failed e => e.message

/-- The level at which a warning is noted. -/
def Warning.level : Warning → String
  | .failed _ => "ERROR"
  | _ => "WARN"

end RuleGate
