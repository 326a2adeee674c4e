import RuleGate.Hook

/-!
The arguments of the command line: the hook that the gate is invoked for, and switches before and
after it. Arguments are read from left to right, and the first that cannot be read settles the
outcome.
-/

namespace RuleGate

/-- What the arguments ask for. -/
structure Invocation where
  debug : Bool
  hook : Hook
  deriving DecidableEq

/-- Why arguments ask for no hook. -/
inductive ArgumentError where
  | noArguments
  | missingHook
  | help
  | version
  | unexpectedValue
  | unknownArgument
  | unknownHook
  | repeatedSwitch
  deriving DecidableEq, Repr

namespace ArgumentError

/-- The exit code of the program. What was asked to be shown is no failure. -/
def exitCode : ArgumentError → Nat
  | .help | .version => 0
  | _ => 2

end ArgumentError

namespace Invocation

/-- Where the reading stands: before the hook, or behind it. -/
inductive Side where
  | before
  | behind
  deriving DecidableEq

/-- What a switch asks for. -/
inductive Switch where
  | debug
  | help
  | version
  deriving DecidableEq

/-- The switch with a short name. The version can only be asked for before the hook. -/
def shortSwitch? (side : Side) : Char → Option Switch
  | 'd' => some .debug
  | 'h' => some .help
  | 'V' => if side = .before then some .version else none
  | _ => none

def longSwitch? (side : Side) (name : String) : Option Switch :=
  match name with
  | "debug" => some .debug
  | "help" => some .help
  | "version" => if side = .before then some .version else none
  | _ => none

/-- Turns a switch. The result says whether debug output has been asked for on this side. -/
def turn (debug : Bool) : Switch → Except ArgumentError Bool
  | .debug => if debug then .error .repeatedSwitch else .ok true
  | .help => .error .help
  | .version => .error .version

/-- Turns the switches of a cluster of short names. -/
def turnCluster (side : Side) (debug : Bool) : List Char → Except ArgumentError Bool
  | [] => .ok debug
  | c :: rest => do
    match shortSwitch? side c with
    | none => .error .unknownArgument
    | some switch => turnCluster side (← turn debug switch) rest

/-- Turns the switch of a long name. No switch takes a value. -/
def turnLong (side : Side) (debug : Bool) (text : List Char) : Except ArgumentError Bool :=
  match longSwitch? side (String.ofList (text.takeWhile (· != '='))) with
  | none => .error .unknownArgument
  | some switch => if text.contains '=' then .error .unexpectedValue else turn debug switch

/-- Reads the arguments behind the hook, of which all are switches. Nothing may follow two
hyphens. -/
def readBehind (debug : Bool) : List String → Except ArgumentError Bool
  | [] => .ok debug
  | word :: rest => do
    match word.toList with
    | ['-', '-'] => if rest.isEmpty then .ok debug else .error .unknownArgument
    | '-' :: '-' :: text => readBehind (← turnLong .behind debug text) rest
    | '-' :: c :: text => readBehind (← turnCluster .behind debug (c :: text)) rest
    | _ => .error .unknownArgument

def helpCommand : String := "help"

def isCommand (word : String) : Bool :=
  word == helpCommand || (Hook.ofCommandName? word).isSome

/-- The error of the arguments behind the command that shows help. They may name one command. -/
def helpError : List String → ArgumentError
  | [] => .help
  | [word] => if isCommand word then .help else .unknownHook
  | _ => .unknownHook

/-- The error of the arguments behind two hyphens, where no command can be named. -/
def errorBehindHyphens (debug : Bool) : List String → ArgumentError
  | [] => if debug then .missingHook else .noArguments
  | word :: _ => if isCommand word then .unknownArgument else .unknownHook

/-- Reads the arguments up to the hook, and those behind it. -/
def readBefore (debug : Bool) : List String → Except ArgumentError Invocation
  | [] => .error (if debug then .missingHook else .noArguments)
  | word :: rest => do
    match word.toList with
    | ['-', '-'] => .error (errorBehindHyphens debug rest)
    | '-' :: '-' :: text => readBefore (← turnLong .before debug text) rest
    | '-' :: c :: text => readBefore (← turnCluster .before debug (c :: text)) rest
    | _ =>
      if word = helpCommand then .error (helpError rest)
      else
        match Hook.ofCommandName? word with
        | none => .error .unknownHook
        | some hook => return ⟨(← readBehind false rest) || debug, hook⟩

def ofArguments (arguments : List String) : Except ArgumentError Invocation :=
  readBefore false arguments

end Invocation

end RuleGate
