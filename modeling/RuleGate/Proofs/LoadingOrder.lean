import RuleGate.Proofs.ByteOrder
import RuleGate.Proofs.RuleFiles

/-! What loading makes of every rule file. The files of the project are visited first and then those
of the plugin, in each directory in the order of the bytes of their names. A visit leaves a rule, or
nothing, or one warning, whatever the other files hold; so no rule is lost, doubled or moved. -/

namespace RuleGate

/-! ### Visits -/

namespace FileSystem

/-- The names of the accepted files directly in a directory, each once, in the order of their
bytes. -/
structure Listing (files : FileSystem) (directory : String) (Accepted : String → Prop)
    (names : List String) :
    Prop where
  ascending : names.Pairwise fun a b => a.toUTF8.data.toList < b.toUTF8.data.toList
  mem_iff : ∀ name, name ∈ names ↔ files.HoldsFile directory name ∧ Accepted name

/-- The paths of the accepted files of a directory, if there is one to look into. -/
inductive Visits (files : FileSystem) (Accepted : String → Prop) :
    Option String → List String → Prop
  | absent : Visits files Accepted none []
  | listed {directory : String} {names : List String} (h : files.Listing directory Accepted names) :
      Visits files Accepted (some directory) (names.map (join directory))

/-- A directory stands at a path. -/
def HasDirectory (files : FileSystem) (path : String) : Prop :=
  ∃ entries, files.resolve path = .ok (.directory entries)

theorem ascending_filesIn (files : FileSystem) (directory : String) :
    (files.filesIn directory).Pairwise (· < ·) := by
  rw [filesIn]
  cases files.resolve directory with
  | error e => exact List.Pairwise.nil
  | ok node => exact (List.pairwise_map.mpr (Dictionary.ascending _)).filter _

theorem Listing.nodup {files : FileSystem} {directory : String} {Accepted : String → Prop}
    {names : List String} (h : files.Listing directory Accepted names) : names.Nodup := by
  refine h.ascending.imp ?_
  rintro a _ hlt rfl
  exact List.lt_irrefl _ hlt

/-- There is one way only to list a directory. -/
theorem Listing.ext {files : FileSystem} {directory : String} {Accepted : String → Prop}
    {names names' : List String} (h : files.Listing directory Accepted names)
    (h' : files.Listing directory Accepted names') : names = names' := by
  have hperm : names.Perm names' := by
    rw [List.perm_ext_iff_of_nodup h.nodup h'.nodup]
    intro name
    rw [h.mem_iff, h'.mem_iff]
  refine hperm.eq_of_pairwise ?_ h.ascending h'.ascending
  intro a b _ _ hab hba
  exact absurd (List.lt_trans hab hba) (List.lt_irrefl _)

theorem listing_filter (files : FileSystem) (directory : String) {accepts : String → Bool}
    {Accepted : String → Prop} (h : ∀ name, accepts name = true ↔ Accepted name) :
    files.Listing directory Accepted ((files.filesIn directory).filter accepts) where
  ascending := ((ascending_filesIn files directory).imp Text.lt_iff_utf8_lt.mp).filter _
  mem_iff name := by
    rw [List.mem_filter, mem_filesIn_iff, h]

theorem visits_iff {files : FileSystem} {source : Option String} {paths : List String}
    {accepts : String → Bool} {Accepted : String → Prop}
    (h : ∀ name, accepts name = true ↔ Accepted name) :
    files.Visits Accepted source paths ↔ paths = source.elim [] (Rule.pathsIn files · accepts) := by
  constructor
  · rintro (_ | hlisting)
    · rfl
    · rw [hlisting.ext (files.listing_filter _ h)]
      rfl
  · rintro rfl
    cases source with
    | none => exact .absent
    | some directory => exact .listed (files.listing_filter directory h)

theorem filesIn_of_not_hasDirectory {files : FileSystem} {directory : String}
    (h : ¬ files.HasDirectory directory) : files.filesIn directory = [] := by
  rw [filesIn]
  cases hnode : files.resolve directory with
  | error e => rfl
  | ok node =>
      cases node with
      | file content => rfl
      | directory entries => exact absurd ⟨entries, hnode⟩ h

theorem read_eq_ok_iff {files : FileSystem} {path text : String} :
    files.read path = .ok text ↔
      ∃ bytes, files.resolve path = .ok (.file bytes) ∧ String.fromUTF8? bytes = some text := by
  rw [read]
  cases files.resolve path with
  | error e => simp [bind, Except.bind]
  | ok node =>
      cases node with
      | directory entries => simp [bind, Except.bind]
      | file bytes =>
          simp only [bind, Except.bind, Except.ok.injEq, FileNode.file.injEq, exists_eq_left']
          cases htext : String.fromUTF8? bytes <;> simp

end FileSystem

namespace RuleDirectories

/-- The rule files in the order in which they are visited: those of the project, and those of the
plugin. -/
def Visits (s : RuleDirectories) (files : FileSystem) (paths : List String) : Prop :=
  ∃ project plugin,
    files.Visits (fun name => "hookify.".toList <+: name.toList ∧
      ".local.md".toList <:+ name.toList)
      s.projectDirectory? project ∧
    files.Visits (fun name => ".local.md".toList <:+ name.toList)
      (s.pluginRoot?.map (FileSystem.join · "rules")) plugin ∧
    paths = project ++ plugin

theorem visits_iff {s : RuleDirectories} {files : FileSystem} {paths : List String} :
    s.Visits files paths ↔ paths = s.paths files := by
  have hproject := @FileSystem.visits_iff files s.projectDirectory? (h := @Rule.isProjectFile_iff)
  have hplugin := @FileSystem.visits_iff files s.pluginRules? (h := @Rule.isPluginFile_iff)
  rw [pluginRules?, pluginDirectory] at hplugin
  simp only [Visits, hproject, hplugin]
  constructor
  · rintro ⟨project, plugin, rfl, rfl, rfl⟩
    rfl
  · rintro rfl
    exact ⟨_, _, rfl, rfl, rfl⟩

end RuleDirectories

/-! ### Loading -/

/-- What a warning is written as: its level and its words. -/
def Warning.line (w : Warning) : String × String :=
  (w.level, w.message)

/-- Loading the files at some paths, one after the other. A file with a rule that is enabled and
asked for leaves the rule, a file with another rule leaves nothing, and a file that cannot be read
or holds no rule leaves a line. -/
inductive Loads (files : FileSystem) (scope : Option Scope) :
    List String → List Rule → List (String × String) → Prop
  | done : Loads files scope [] [] []
  | kept {path content : String} {bytes : ByteArray} {r : Rule} {paths : List String}
      {rules : List Rule} {lines : List (String × String)}
      (hfile : files.resolve path = .ok (.file bytes))
      (htext : String.fromUTF8? bytes = some content)
      (hrule : Rule.ofText content (some path) = .ok r) (hsource : r.source? = some path)
      (henabled : r.enabled = true) (hasked : r.event.isAskedBy scope = true)
      (hrest : Loads files scope paths rules lines) :
      Loads files scope (path :: paths) (r :: rules) lines
  | dropped {path content : String} {bytes : ByteArray} {r : Rule} {paths : List String}
      {rules : List Rule} {lines : List (String × String)}
      (hfile : files.resolve path = .ok (.file bytes))
      (htext : String.fromUTF8? bytes = some content)
      (hrule : Rule.ofText content (some path) = .ok r)
      (hidle : r.enabled = false ∨ r.event.isAskedBy scope = false)
      (hrest : Loads files scope paths rules lines) : Loads files scope (path :: paths) rules lines
  | malformed {path content : String} {bytes : ByteArray} {e : GateError} {paths : List String}
      {rules : List Rule} {lines : List (String × String)}
      (hfile : files.resolve path = .ok (.file bytes))
      (htext : String.fromUTF8? bytes = some content)
      (hrule : Rule.ofText content (some path) = .error e)
      (hrest : Loads files scope paths rules lines) :
      Loads files scope (path :: paths) rules
        (("WARN", "Skipping rule file " ++ path ++ ": " ++ e.message) :: lines)
  | unreadable {path : String} {e : FileError} {paths : List String} {rules : List Rule}
      {lines : List (String × String)} (hread : files.read path = .error e)
      (hrest : Loads files scope paths rules lines) :
      Loads files scope (path :: paths) rules
        (("WARN", "Skipping rule file " ++ path ++ ": " ++ (GateError.file e).message) :: lines)

theorem Rule.source?_of_ofText {content : String} {source : Option String} {r : Rule}
    (h : ofText content source = .ok r) : r.source? = source := by
  rw [ofText, ofMetadata] at h
  split_ifs at h
  rw [← Except.ok.inj h]

theorem Rule.ofFile_of_resolve {files : FileSystem} {path content : String} {bytes : ByteArray}
    (hfile : files.resolve path = .ok (.file bytes))
    (htext : String.fromUTF8? bytes = some content) :
    ofFile files path = ofText content (some path) := by
  rw [ofFile, FileSystem.read_eq_ok_iff.mpr ⟨bytes, hfile, htext⟩]

namespace RuleDirectories

def isLoaded (scope : Option Scope) (r : Rule) : Bool :=
  r.enabled && r.event.isAskedBy scope

/-- The rules that are loaded from some files. -/
def rulesAt (files : FileSystem) (scope : Option Scope) (paths : List String) : List Rule :=
  (paths.filterMap (rule? files)).filter (isLoaded scope)

/-- The lines about some files. -/
def linesAt (files : FileSystem) (paths : List String) : List (String × String) :=
  (paths.filterMap (warning? files)).map Warning.line

variable {files : FileSystem} {scope : Option Scope} {path : String} {paths : List String}
  {rules : List Rule} {lines : List (String × String)}

/-- A file with a rule has no say but for its own rule. -/
theorem rulesAt_cons_of_ofFile {r : Rule} (h : Rule.ofFile files path = .ok r)
    (scope : Option Scope) (paths : List String) :
    rulesAt files scope (path :: paths) =
        (if isLoaded scope r then r :: rulesAt files scope paths else rulesAt files scope paths) ∧
      linesAt files (path :: paths) = linesAt files paths := by
  have hrule : rule? files path = some r := rule?_eq_some_iff.mpr h
  have hwarning : warning? files path = .none := by
    rw [warning?, h]
  rw [rulesAt, linesAt, List.filterMap_cons, List.filterMap_cons, hrule, hwarning, List.filter_cons]
  exact ⟨rfl, rfl⟩

/-- A file without a rule has no say but for its own line. -/
theorem rulesAt_cons_of_ofFile_error {e : GateError} (h : Rule.ofFile files path = .error e)
    (scope : Option Scope) (paths : List String) :
    rulesAt files scope (path :: paths) = rulesAt files scope paths ∧
      linesAt files (path :: paths) = (Warning.skippedFile path e).line :: linesAt files paths := by
  have hrule : rule? files path = .none := by
    rw [rule?, h]
    rfl
  have hwarning : warning? files path = some (.skippedFile path e) := by
    rw [warning?, h]
  rw [rulesAt, linesAt, List.filterMap_cons, List.filterMap_cons, hrule, hwarning, List.map_cons]
  exact ⟨rfl, rfl⟩

theorem eq_rulesAt_of_loads (h : Loads files scope paths rules lines) :
    rules = rulesAt files scope paths ∧ lines = linesAt files paths := by
  induction h with
  | done => exact ⟨rfl, rfl⟩
  | kept hfile htext hrule hsource henabled hasked hrest ih =>
      have hloaded := Bool.and_eq_true_iff.mpr ⟨henabled, hasked⟩
      obtain ⟨hrules, hlines⟩ :=
        rulesAt_cons_of_ofFile ((Rule.ofFile_of_resolve hfile htext).trans hrule) scope _
      rw [hrules, hlines, isLoaded, if_pos hloaded, ih.1, ih.2]
      exact ⟨rfl, rfl⟩
  | dropped hfile htext hrule hidle hrest ih =>
      have hidle := Bool.and_eq_false_iff.mpr hidle
      obtain ⟨hrules, hlines⟩ :=
        rulesAt_cons_of_ofFile ((Rule.ofFile_of_resolve hfile htext).trans hrule) scope _
      rw [hrules, hlines, isLoaded, hidle]
      exact ih
  | malformed hfile htext hrule hrest ih =>
      obtain ⟨hrules, hlines⟩ :=
        rulesAt_cons_of_ofFile_error ((Rule.ofFile_of_resolve hfile htext).trans hrule) scope _
      rw [hrules, hlines, ← ih.1, ← ih.2]
      exact ⟨rfl, rfl⟩
  | @unreadable path e paths _ _ hread hrest ih =>
      have herror : Rule.ofFile files path = .error (.file e) := by
        rw [Rule.ofFile, hread]
      obtain ⟨hrules, hlines⟩ := rulesAt_cons_of_ofFile_error herror scope paths
      rw [hrules, hlines, ← ih.1, ← ih.2]
      exact ⟨rfl, rfl⟩

theorem loads_cons_of_ofFile {r : Rule} (h : Rule.ofFile files path = .ok r)
    (hrest : Loads files scope paths rules lines) :
    Loads files scope (path :: paths) (if isLoaded scope r then r :: rules else rules) lines := by
  obtain ⟨content, hread, hrule⟩ := Rule.ofFile_eq_ok_iff.mp h
  obtain ⟨bytes, hfile, htext⟩ := FileSystem.read_eq_ok_iff.mp hread
  cases hloaded : isLoaded scope r with
  | true =>
      obtain ⟨henabled, hasked⟩ := Bool.and_eq_true_iff.mp hloaded
      exact .kept hfile htext hrule (Rule.source?_of_ofText hrule) henabled hasked hrest
  | false => exact .dropped hfile htext hrule (Bool.and_eq_false_iff.mp hloaded) hrest

theorem loads_cons_of_ofFile_error {e : GateError} (h : Rule.ofFile files path = .error e)
    (hrest : Loads files scope paths rules lines) :
    Loads files scope (path :: paths) rules ((Warning.skippedFile path e).line :: lines) := by
  rw [Rule.ofFile] at h
  cases hread : files.read path with
  | error cause =>
      rw [hread] at h
      cases h
      exact .unreadable hread hrest
  | ok content =>
      rw [hread] at h
      obtain ⟨bytes, hfile, htext⟩ := FileSystem.read_eq_ok_iff.mp hread
      exact .malformed hfile htext h hrest

theorem loads_rulesAt (files : FileSystem) (scope : Option Scope) (paths : List String) :
    Loads files scope paths (rulesAt files scope paths) (linesAt files paths) := by
  induction paths with
  | nil => exact .done
  | cons path paths ih =>
      cases hfile : Rule.ofFile files path with
      | ok r =>
          obtain ⟨hrules, hlines⟩ := rulesAt_cons_of_ofFile hfile scope paths
          rw [hrules, hlines]
          exact loads_cons_of_ofFile hfile ih
      | error e =>
          obtain ⟨hrules, hlines⟩ := rulesAt_cons_of_ofFile_error hfile scope paths
          rw [hrules, hlines]
          exact loads_cons_of_ofFile_error hfile ih

end RuleDirectories

namespace RuleDirectories

theorem load_congr {s s' : RuleDirectories} {files : FileSystem}
    (h : s.paths files = s'.paths files) (scope : Option Scope) :
    s.load files scope = s'.load files scope := by
  rw [load, load, h]

/-- A source that is no directory has no rule files. -/
theorem elim_pathsIn_of_not_hasDirectory {files : FileSystem} {source : Option String}
    {accepts : String → Bool}
    (h : ∀ directory, source = some directory → ¬ files.HasDirectory directory) :
    source.elim [] (Rule.pathsIn files · accepts) = [] := by
  cases source with
  | none => rfl
  | some directory =>
      rw [Option.elim_some, Rule.pathsIn, FileSystem.filesIn_of_not_hasDirectory (h directory rfl)]
      rfl

/-- What is loaded is what comes of visiting the rule files in their order, and nothing else. The
lines are the same for every scope, and a scope takes from the rules those that it asks for. A
source that is no directory might as well not be there. -/
theorem visits_loads_iff (s : RuleDirectories) (files : FileSystem) :
    (∀ scope rules lines, (∃ paths, s.Visits files paths ∧ Loads files scope paths rules lines) ↔
      rules = (s.load files scope).rules ∧ lines = (s.load files scope).warnings.map Warning.line) ∧
    (∀ scope, (s.load files (some scope)).warnings = (s.load files .none).warnings ∧
      (s.load files (some scope)).rules =
        (s.load files .none).rules.filter (·.event.isAskedBy (some scope))) ∧
    (∀ scope, (∀ directory, s.projectDirectory? = some directory → ¬ files.HasDirectory directory) →
      s.load files scope = load ⟨.none, s.pluginRoot?⟩ files scope) ∧
    (∀ scope,
      (∀ root, s.pluginRoot? = some root → ¬ files.HasDirectory (FileSystem.join root "rules")) →
      s.load files scope = load ⟨s.projectDirectory?, .none⟩ files scope) := by
  refine ⟨?_, ?_, ?_, ?_⟩
  · intro scope rules lines
    simp only [visits_iff, exists_eq_left]
    constructor
    · exact eq_rulesAt_of_loads
    · rintro ⟨rfl, rfl⟩
      exact loads_rulesAt files scope _
  · intro scope
    refine ⟨rfl, ?_⟩
    rw [rules_load, rules_load_none]
  · intro scope h
    have hnone := @elim_pathsIn_of_not_hasDirectory files _ Rule.isProjectFile h
    refine load_congr ?_ scope
    rw [paths, hnone]
    rfl
  · intro scope h
    have hnone : s.pluginRules?.elim [] (Rule.pathsIn files · Rule.isPluginFile) = [] := by
      refine elim_pathsIn_of_not_hasDirectory ?_
      intro directory hdirectory
      obtain ⟨root, hroot, rfl⟩ := Option.map_eq_some_iff.mp hdirectory
      exact h root hroot
    refine load_congr ?_ scope
    rw [paths, hnone]
    rfl

/-- A project with a rule for commands among a rule for stops, a disabled rule, a file without a
rule, a file that is no text, a directory and a file of another name, beside a plugin whose rules
are no directory. -/
def crowdedProject : FileSystem :=
  let file (text : String) : FileNode := .file text.toUTF8
  let rules : List (String × FileNode) :=
    [("hookify.e.local.md", file "---\nevent: bash\n---\nMind."),
      ("hookify.d.local.md", file "---\nevent: stop\n---"),
      ("hookify.c.local.md", file "---\nenabled: false\n---"),
      ("hookify.b.local.md", file "No rule."),
      ("hookify.B.local.md", .file ⟨#[255]⟩),
      ("hookify.a.local.md", .directory []),
      ("other.local.md", file "---\nevent: bash\n---")]
  ⟨.directory [(".claude", .directory rules), ("plugin", .directory [("rules", file "")])], []⟩

def mindRule : Rule where
  name := "unnamed"
  enabled := true
  event := .bash
  ownPattern? := .none
  conditions := []
  action := .warn
  tools? := .none
  message := "Mind."
  source? := some ".claude/hookify.e.local.md"

theorem visits_loads_crowdedProject :
    ¬ crowdedProject.HasDirectory "plugin/rules" ∧
      load ⟨some ".claude", some "plugin"⟩ crowdedProject (some .bash) =
        load ⟨some ".claude", .none⟩ crowdedProject (some .bash) ∧
      ∃ paths, Visits ⟨some ".claude", some "plugin"⟩ crowdedProject paths ∧
        Loads crowdedProject (some .bash) paths [mindRule]
          [("WARN", "Skipping rule file .claude/hookify.B.local.md: " ++
              "IO error: stream did not contain valid UTF-8"),
            ("WARN", "Skipping rule file .claude/hookify.b.local.md: " ++
              "Rule file '.claude/hookify.b.local.md' is malformed: missing frontmatter")] := by
  have hfile : ¬ crowdedProject.HasDirectory "plugin/rules" := by
    rintro ⟨entries, hentries⟩
    have hcontent : ((crowdedProject.resolve "plugin/rules").toOption.bind
        FileNode.content?).isSome = true := by
      decide +kernel
    rw [hentries] at hcontent
    exact absurd hcontent (by simp [Except.toOption, FileNode.content?])
  obtain ⟨hloads, _, _, hplugin⟩ := visits_loads_iff ⟨some ".claude", some "plugin"⟩ crowdedProject
  refine ⟨hfile, ?_, ?_⟩
  · refine hplugin (some .bash) ?_
    rintro root hroot
    cases hroot
    have hjoin : FileSystem.join "plugin" "rules" = "plugin/rules" := by decide +kernel
    rwa [hjoin]
  · exact (hloads (some .bash) _ _).mpr ⟨by decide +kernel, by decide +kernel⟩

end RuleDirectories

end RuleGate
