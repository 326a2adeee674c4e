import RuleGate.Proofs.Dictionary
import RuleGate.Proofs.TextCutting
import RuleGate.Rule.Loading

/-! Which files are taken for rule files, and which rules are loaded from them. -/

namespace RuleGate

/-! ### Files of a directory -/

/-- The names in a directory are those under which it has an entry. -/
theorem FileNode.mem_names_iff {node : FileNode} {name : String} :
    name ∈ node.names ↔ ∃ child, node.entry? name = some child := by
  rw [names, List.mem_map, ← Option.isSome_iff_exists]
  constructor
  · rintro ⟨⟨key, value⟩, hkey, rfl⟩
    obtain ⟨⟨key, child⟩, hmem, heq⟩ := List.mem_map.mp (Dictionary.mem_entries_ofList hkey)
    cases heq
    unfold entry?
    rw [List.lookup_isSome_iff]
    exact ⟨(key, child), hmem, by simp⟩
  · intro h
    unfold entry? at h
    rw [List.lookup_isSome_iff] at h
    obtain ⟨⟨key, child⟩, hmem, heq⟩ := h
    have hin : (key, ()) ∈ node.entries.map fun e => (e.1, ()) := List.mem_map.mpr ⟨_, hmem, rfl⟩
    obtain ⟨value, hfound⟩ := Option.isSome_iff_exists.mp (Dictionary.isSome_find?_ofList hin)
    exact ⟨(key, value), Dictionary.find?_eq_some_iff.mp hfound, (eq_of_beq heq).symm⟩

/-- A regular file stands directly in a directory under a name. -/
def FileSystem.HoldsFile (files : FileSystem) (directory name : String) : Prop :=
  ∃ node content, files.resolve directory = .ok node ∧ node.entry? name = some (.file content)

theorem FileSystem.mem_filesIn_iff {files : FileSystem} {directory name : String} :
    name ∈ files.filesIn directory ↔ files.HoldsFile directory name := by
  rw [filesIn, HoldsFile]
  cases files.resolve directory with
  | error e => simp
  | ok node =>
      rw [List.mem_filter, FileNode.mem_names_iff, FileNode.holdsFile]
      cases hentry : node.entry? name with
      | none => simp [hentry]
      | some child => cases child <;> simp [hentry, FileNode.content?]

/-! ### Rule files -/

/-- The files that are taken for rule files: those of the project by both ends of their names, and
those of the plugin by the end of their names. -/
inductive RuleDirectories.RuleFile (s : RuleDirectories) (files : FileSystem) : String → Prop
  | project (directory name : String) (hdirectory : s.projectDirectory? = some directory)
      (hfile : files.HoldsFile directory name) (hstart : "hookify.".toList <+: name.toList)
      (hend : ".local.md".toList <:+ name.toList) :
      RuleFile s files (FileSystem.join directory name)
  | plugin (root name : String) (hroot : s.pluginRoot? = some root)
      (hfile : files.HoldsFile (FileSystem.join root "rules") name)
      (hend : ".local.md".toList <:+ name.toList) :
      RuleFile s files (FileSystem.join (FileSystem.join root "rules") name)

theorem Rule.isProjectFile_iff {name : String} :
    isProjectFile name = true ↔
    "hookify.".toList <+: name.toList ∧ ".local.md".toList <:+ name.toList := by
  rw [isProjectFile, Bool.and_eq_true, String.startsWith_string_iff, Text.endsWith_iff]
  rfl

theorem Rule.isPluginFile_iff {name : String} :
    isPluginFile name = true ↔ ".local.md".toList <:+ name.toList :=
  Text.endsWith_iff

theorem Rule.mem_pathsIn_iff {files : FileSystem} {directory path : String}
    {accepts : String → Bool} :
    path ∈ pathsIn files directory accepts ↔
      ∃ name, files.HoldsFile directory name ∧ accepts name = true ∧
        FileSystem.join directory name = path := by
  rw [pathsIn, List.mem_map]
  simp only [List.mem_filter, FileSystem.mem_filesIn_iff, and_assoc]

theorem RuleDirectories.mem_paths_iff {s : RuleDirectories} {files : FileSystem} {path : String} :
    path ∈ s.paths files ↔ s.RuleFile files path := by
  rw [paths, List.mem_append]
  constructor
  · rintro (h | h)
    · cases hdirectory : s.projectDirectory? with
      | none => simp [hdirectory] at h
      | some directory =>
          rw [hdirectory] at h
          obtain ⟨name, hfile, haccepts, rfl⟩ := Rule.mem_pathsIn_iff.mp h
          obtain ⟨hstart, hend⟩ := Rule.isProjectFile_iff.mp haccepts
          exact .project directory name hdirectory hfile hstart hend
    · cases hroot : s.pluginRoot? with
      | none => simp [pluginRules?, hroot] at h
      | some root =>
          rw [pluginRules?, hroot] at h
          obtain ⟨name, hfile, haccepts, rfl⟩ := Rule.mem_pathsIn_iff.mp h
          exact .plugin root name hroot hfile (Rule.isPluginFile_iff.mp haccepts)
  · intro h
    cases h with
    | project directory name hdirectory hfile hstart hend =>
        left
        rw [hdirectory]
        exact Rule.mem_pathsIn_iff.mpr ⟨name, hfile, Rule.isProjectFile_iff.mpr ⟨hstart, hend⟩, rfl⟩
    | plugin root name hroot hfile hend =>
        right
        rw [pluginRules?, hroot]
        exact Rule.mem_pathsIn_iff.mpr ⟨name, hfile, Rule.isPluginFile_iff.mpr hend, rfl⟩

/-! ### Loaded rules -/

theorem Rule.ofFile_eq_ok_iff {files : FileSystem} {path : String} {r : Rule} :
    ofFile files path = .ok r ↔
      ∃ content, files.read path = .ok content ∧ ofText content (some path) = .ok r := by
  rw [ofFile]
  cases files.read path with
  | error e => simp
  | ok content => simp

theorem RuleDirectories.rule?_eq_some_iff {files : FileSystem} {path : String} {r : Rule} :
    rule? files path = some r ↔ Rule.ofFile files path = .ok r := by
  rw [rule?]
  cases Rule.ofFile files path with
  | error e => simp [Except.toOption]
  | ok found => simp [Except.toOption]

/-- The loaded rules are the enabled ones for the scope that the rule files hold. -/
theorem RuleDirectories.mem_load_iff {s : RuleDirectories} {files : FileSystem}
    {scope : Option Scope} {r : Rule} :
    r ∈ (s.load files scope).rules ↔
      (∃ path, s.RuleFile files path ∧ Rule.ofFile files path = .ok r) ∧
        r.enabled = true ∧ r.event.isAskedBy scope = true := by
  rw [load, List.mem_filter, List.mem_filterMap, Bool.and_eq_true]
  simp only [mem_paths_iff, rule?_eq_some_iff]

/-- The enabled rules in the rule files, whatever they were written for. -/
def RuleDirectories.enabledRules (s : RuleDirectories) (files : FileSystem) : List Rule :=
  ((s.paths files).filterMap (rule? files)).filter (·.enabled)

/-- For a scope those of the enabled rules are loaded that are asked for. -/
theorem RuleDirectories.rules_load (s : RuleDirectories) (files : FileSystem)
    (scope : Option Scope) :
    (s.load files scope).rules = (s.enabledRules files).filter (·.event.isAskedBy scope) := by
  rw [load, enabledRules, List.filter_filter]
  simp only [Bool.and_comm]

theorem RuleDirectories.rules_load_none (s : RuleDirectories) (files : FileSystem) :
    (s.load files .none).rules = s.enabledRules files := by
  rw [rules_load, List.filter_eq_self]
  exact fun _ _ => rfl

end RuleGate
