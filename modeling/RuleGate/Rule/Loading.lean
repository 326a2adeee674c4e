import RuleGate.Rule.Reader

/-!
Where rules are found: in the directory of the project, and in the directory of rules of a plugin.
Files are taken in ascending order of their names; a file that holds no rule is left out with a
warning.
-/

namespace RuleGate

/-- The directories with rules: that of the project, and the root of the plugin. -/
structure RuleDirectories where
  projectDirectory? : Option String
  pluginRoot? : Option String
  deriving DecidableEq

namespace RuleDirectories

def none : RuleDirectories :=
  ⟨.none, .none⟩

def projectDirectory : String := ".claude"

/-- The directory of rules under the root of a plugin. -/
def pluginDirectory : String := "rules"

def default : RuleDirectories :=
  ⟨some projectDirectory, .none⟩

/-- The directory of the project, and the root of the plugin that the environment names. -/
def ofEnvironment (pluginRoot : Option String) : RuleDirectories :=
  { default with pluginRoot? := pluginRoot.filter (· != "") }

def pluginRules? (s : RuleDirectories) : Option String :=
  s.pluginRoot?.map (FileSystem.join · pluginDirectory)

end RuleDirectories

namespace Rule

def projectPrefix : String := "hookify."

def fileSuffix : String := ".local.md"

/-- Whether a file of a project holds a rule, by its name. -/
def isProjectFile (name : String) : Bool :=
  name.startsWith projectPrefix && name.endsWith fileSuffix

/-- Whether a file of a plugin holds a rule, by its name. -/
def isPluginFile (name : String) : Bool :=
  name.endsWith fileSuffix

def pathsIn (files : FileSystem) (directory : String) (accepts : String → Bool) : List String :=
  ((files.filesIn directory).filter accepts).map (FileSystem.join directory)

end Rule

/-- The paths of all rule files, in the order in which they are read. -/
def RuleDirectories.paths (s : RuleDirectories) (files : FileSystem) : List String :=
  (s.projectDirectory?.elim [] (Rule.pathsIn files · Rule.isProjectFile)) ++
    (s.pluginRules?.elim [] (Rule.pathsIn files · Rule.isPluginFile))

/-- The rules that were found, and the warnings about those that were not. -/
structure LoadedRules where
  rules : List Rule
  warnings : List Warning

namespace RuleDirectories

/-- The rule in a file, if it holds one. -/
def rule? (files : FileSystem) (path : String) : Option Rule :=
  (Rule.ofFile files path).toOption

/-- The warning about a file, if it holds no rule. -/
def warning? (files : FileSystem) (path : String) : Option Warning :=
  match Rule.ofFile files path with
  | .ok _ => .none
  | .error e => some (.skippedFile path e)

/-- The enabled rules for a scope. -/
def load (s : RuleDirectories) (files : FileSystem) (scope : Option Scope) : LoadedRules where
  rules := ((s.paths files).filterMap (rule? files)).filter fun r =>
    r.enabled && r.event.isAskedBy scope
  warnings := (s.paths files).filterMap (warning? files)

end RuleDirectories

end RuleGate
