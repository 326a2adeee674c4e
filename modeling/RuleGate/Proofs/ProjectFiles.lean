import Mathlib.Data.List.Infix
import RuleGate.Proofs.LoadingOrder

/-! Which files of a project are read as rules. The two ends of a name are looked at one by one, so
they may overlap: beside the names with a text between the two ends one more name is read, in which
they share a dot. -/

namespace RuleGate

/-! ### Names with two ends -/

/-- A text with two ends is the two with something between them, unless the ends overlap. -/
theorem Text.between_or_overlap {α : Type} {start ending s : List α} (hstart : start <+: s)
    (hend : ending <:+ s) :
    (∃ between, s = start ++ between ++ ending) ∨
      ∃ before shared after, shared ≠ [] ∧ start = before ++ shared ∧ ending = shared ++ after ∧
        s = before ++ shared ++ after := by
  obtain ⟨rest, rfl⟩ := hstart
  obtain ⟨lead, heq⟩ := hend
  rcases List.append_eq_append_iff.mp heq with ⟨shared, hlead, hending⟩ | ⟨between, hlead, hrest⟩
  · by_cases hshared : shared = []
    · left
      rw [hshared, List.append_nil] at hlead
      exact ⟨[], by rw [List.append_nil, hending, hshared, List.nil_append]⟩
    · right
      exact ⟨lead, shared, rest, hshared, hlead, hending, by rw [← hlead]⟩
  · left
    exact ⟨between, by rw [hrest, List.append_assoc]⟩

namespace Rule

/-- The names of the files of a project with a text, perhaps an empty one, between their two
ends. -/
def IsGlobbed (name : String) : Prop :=
  ∃ between, name = "hookify." ++ between ++ ".local.md"

/-- The name in which the two ends share a dot. -/
def sharedName : String := "hookify.local.md"

theorem not_isGlobbed_sharedName : ¬ IsGlobbed sharedName := by
  rintro ⟨between, heq⟩
  have hlength := congrArg String.length heq
  rw [String.length_append, String.length_append] at hlength
  have hends : sharedName.length < "hookify.".length + ".local.md".length := by decide
  omega

/-- The ends share nothing but a dot. -/
theorem isProjectFile_iff_isGlobbed {name : String} :
    isProjectFile name = true ↔ IsGlobbed name ∨ name = sharedName := by
  rw [isProjectFile_iff]
  constructor
  · rintro ⟨hstart, hend⟩
    rcases Text.between_or_overlap hstart hend with
      ⟨between, heq⟩ | ⟨before, shared, after, hne, hs, he, heq⟩
    · left
      exact ⟨String.ofList between, String.toList_inj.mp (by simp [heq])⟩
    · right
      -- What the ends share is an end of the first and a start of the second.
      have hall : ∀ part ∈ "hookify.".toList.tails, part <+: ".local.md".toList →
          part = [] ∨ part = ['.'] := by decide
      have htail : shared ∈ "hookify.".toList.tails := (List.mem_tails _ _).mpr ⟨before, hs.symm⟩
      have hdot : shared = ['.'] := (hall shared htail ⟨after, he.symm⟩).resolve_left hne
      have hafter : after = "local.md".toList := by
        rw [hdot] at he
        exact (List.cons.inj he).2.symm
      rw [← String.toList_inj, heq, ← hs, hafter]
      decide
  · rintro (⟨between, rfl⟩ | rfl)
    · rw [String.toList_append, String.toList_append]
      exact ⟨⟨_, (List.append_assoc _ _ _).symm⟩, List.suffix_append _ _⟩
    · decide

end Rule

/-! ### Paths -/

theorem FileSystem.join_inj {directory name name' : String} :
    join directory name = join directory name' ↔ name = name' := by
  rw [join, join]
  split_ifs
  · exact String.append_right_inj _
  · exact String.append_right_inj _

theorem Rule.source?_of_ofFile {files : FileSystem} {path : String} {r : Rule}
    (h : ofFile files path = .ok r) : r.source? = some path := by
  obtain ⟨_, _, hrule⟩ := ofFile_eq_ok_iff.mp h
  exact source?_of_ofText hrule

namespace RuleDirectories

/-- The rules of a project alone. -/
def ofProject (directory : String) : RuleDirectories :=
  ⟨some directory, .none⟩

variable {files : FileSystem} {scope : Option Scope} {directory name : String}

theorem mem_paths_ofProject_iff {path : String} :
    path ∈ (ofProject directory).paths files ↔
      ∃ name, files.HoldsFile directory name ∧ (Rule.IsGlobbed name ∨ name = Rule.sharedName) ∧
        FileSystem.join directory name = path := by
  simp only [← Rule.isProjectFile_iff_isGlobbed, ← Rule.mem_pathsIn_iff]
  simp [paths, ofProject, pluginRules?]

theorem join_mem_paths_ofProject_iff (hfile : files.HoldsFile directory name) :
    FileSystem.join directory name ∈ (ofProject directory).paths files ↔
      Rule.IsGlobbed name ∨ name = Rule.sharedName := by
  simp only [mem_paths_ofProject_iff, FileSystem.join_inj]
  constructor
  · rintro ⟨_, _, h, rfl⟩
    exact h
  · intro h
    exact ⟨name, hfile, h, rfl⟩

/-- The rules of the project stand before those of the plugin. -/
theorem load_append (directory : String) (pluginRoot? : Option String) (files : FileSystem)
    (scope : Option Scope) :
    (load ⟨some directory, pluginRoot?⟩ files scope).rules =
        (load (ofProject directory) files scope).rules ++
          (load ⟨.none, pluginRoot?⟩ files scope).rules ∧
      (load ⟨some directory, pluginRoot?⟩ files scope).warnings =
        (load (ofProject directory) files scope).warnings ++
          (load ⟨.none, pluginRoot?⟩ files scope).warnings := by
  have hpaths : paths ⟨some directory, pluginRoot?⟩ files =
      (ofProject directory).paths files ++ paths ⟨.none, pluginRoot?⟩ files := by
    simp [paths, ofProject, pluginRules?]
  simp only [load, hpaths, List.filterMap_append, List.filter_append, and_self]

theorem mem_rules_load_iff {s : RuleDirectories} {path : String} {r : Rule}
    (h : Rule.ofFile files path = .ok r) :
    r ∈ (s.load files scope).rules ↔
      path ∈ s.paths files ∧ r.enabled = true ∧ r.event.isAskedBy scope = true := by
  rw [mem_load_iff, mem_paths_iff]
  refine and_congr_left fun _ => ?_
  constructor
  · -- The source of a rule is the path that it was read from, so no other file can have left it.
    rintro ⟨path', hpath', h'⟩
    have hsame : some path = some path' :=
      (Rule.source?_of_ofFile h).symm.trans (Rule.source?_of_ofFile h')
    rwa [Option.some.inj hsame]
  · intro hpath
    exact ⟨path, hpath, h⟩

theorem mem_warnings_load_iff {s : RuleDirectories} {path : String} {e : GateError}
    (h : Rule.ofFile files path = .error e) :
    .skippedFile path e ∈ (s.load files scope).warnings ↔ path ∈ s.paths files := by
  rw [load, List.mem_filterMap]
  constructor
  · rintro ⟨path', hpath', hwarning⟩
    rw [warning?] at hwarning
    cases hfile : Rule.ofFile files path' with
    | ok r => simp [hfile] at hwarning
    | error e' =>
        rw [hfile] at hwarning
        cases hwarning
        exact hpath'
  · intro hpath
    exact ⟨path, hpath, by rw [warning?, h]⟩

/-- A file of a project is read exactly if its name has a text between the two ends or is the one in
which they share a dot. -/
theorem load_ofProject_iff (directory : String) (pluginRoot? : Option String) (files : FileSystem)
    (scope : Option Scope) :
    ((load ⟨some directory, pluginRoot?⟩ files scope).rules =
        (load (ofProject directory) files scope).rules ++
          (load ⟨.none, pluginRoot?⟩ files scope).rules ∧
      (load ⟨some directory, pluginRoot?⟩ files scope).warnings =
        (load (ofProject directory) files scope).warnings ++
          (load ⟨.none, pluginRoot?⟩ files scope).warnings) ∧
    (∀ name, files.HoldsFile directory name →
      (FileSystem.join directory name ∈ (ofProject directory).paths files ↔
        Rule.IsGlobbed name ∨ name = "hookify.local.md") ∧
      (∀ r, Rule.ofFile files (FileSystem.join directory name) = .ok r →
        (r ∈ (load (ofProject directory) files scope).rules ↔
          (Rule.IsGlobbed name ∨ name = "hookify.local.md") ∧ r.enabled = true ∧
            r.event.isAskedBy scope = true)) ∧
      ∀ e, Rule.ofFile files (FileSystem.join directory name) = .error e →
        (.skippedFile (FileSystem.join directory name) e ∈
          (load (ofProject directory) files scope).warnings ↔
          Rule.IsGlobbed name ∨ name = "hookify.local.md")) ∧
    ∀ r ∈ (load (ofProject directory) files scope).rules, ∃ name,
      r.source? = some (FileSystem.join directory name) ∧ files.HoldsFile directory name ∧
        (Rule.IsGlobbed name ∨ name = "hookify.local.md") := by
  refine ⟨load_append directory pluginRoot? files scope, ?_, ?_⟩
  · intro name hfile
    have hread := join_mem_paths_ofProject_iff hfile
    refine ⟨hread, ?_, ?_⟩
    · intro r hr
      rw [mem_rules_load_iff hr, hread, Rule.sharedName]
    · intro e he
      rw [mem_warnings_load_iff he, hread, Rule.sharedName]
  · intro r hr
    obtain ⟨⟨path, hpath, hrule⟩, _⟩ := mem_load_iff.mp hr
    obtain ⟨name, hfile, hname, rfl⟩ := mem_paths_ofProject_iff.mp (mem_paths_iff.mpr hpath)
    exact ⟨name, Rule.source?_of_ofFile hrule, hfile, hname⟩

/-- A project with the same text under a name with nothing between the two ends, the name in which
they share a dot, and a name with one end. -/
def sharedProject : FileSystem :=
  let rule : FileNode := .file "---\nevent: bash\n---\nMind.".toUTF8
  ⟨.directory [(".claude", .directory
    [("hookify..local.md", rule), ("hookify.local.md", rule), ("other.local.md", rule)])], []⟩

def sharedRule (name : String) : Rule :=
  { mindRule with source? := some (FileSystem.join ".claude" name) }

theorem load_ofProject_sharedProject :
    (∀ name ∈ ["hookify..local.md", "hookify.local.md", "other.local.md"],
      sharedProject.HoldsFile ".claude" name ∧
        Rule.ofFile sharedProject (FileSystem.join ".claude" name) = .ok (sharedRule name)) ∧
      sharedRule "hookify..local.md" ∈
        (load (ofProject ".claude") sharedProject (some .bash)).rules ∧
      sharedRule "hookify.local.md" ∈
        (load (ofProject ".claude") sharedProject (some .bash)).rules ∧
      sharedRule "other.local.md" ∉
        (load (ofProject ".claude") sharedProject (some .bash)).rules := by
  have hfiles : ∀ name ∈ ["hookify..local.md", "hookify.local.md", "other.local.md"],
      sharedProject.HoldsFile ".claude" name ∧
        Rule.ofFile sharedProject (FileSystem.join ".claude" name) = .ok (sharedRule name) := by
    simp only [← FileSystem.mem_filesIn_iff]
    decide +kernel
  have hread : ∀ name ∈ ["hookify..local.md", "hookify.local.md", "other.local.md"],
      (sharedRule name ∈ (load (ofProject ".claude") sharedProject (some .bash)).rules ↔
        Rule.IsGlobbed name ∨ name = "hookify.local.md") := by
    intro name hname
    obtain ⟨hfile, hrule⟩ := hfiles name hname
    rw [((load_ofProject_iff ".claude" .none sharedProject (some .bash)).2.1 name
      hfile).2.1 _ hrule]
    exact and_iff_left ⟨rfl, rfl⟩
  refine ⟨hfiles, (hread _ (by decide)).mpr (.inl ⟨"", by decide⟩),
    (hread _ (by decide)).mpr (.inr rfl), ?_⟩
  rw [hread _ (by decide), ← Rule.sharedName, ← Rule.isProjectFile_iff_isGlobbed,
    Rule.isProjectFile_iff]
  decide

/-- A rule is loaded from the file in whose name the ends share a dot. -/
theorem load_sharedName :
    sharedProject.HoldsFile ".claude" "hookify.local.md" ∧ ¬ Rule.IsGlobbed "hookify.local.md" ∧
      sharedRule "hookify.local.md" ∈ (load (ofProject ".claude") sharedProject .none).rules ∧
      (sharedRule "hookify.local.md").source? = some ".claude/hookify.local.md" := by
  refine ⟨FileSystem.mem_filesIn_iff.mp ?_, Rule.not_isGlobbed_sharedName, ?_, ?_⟩
  · decide +kernel
  · decide +kernel
  · decide +kernel

end RuleDirectories

end RuleGate
