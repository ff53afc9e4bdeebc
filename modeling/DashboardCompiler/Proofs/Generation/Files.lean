import DashboardCompiler.Proofs.Generation.Layout
import DashboardCompiler.Proofs.Generation.Totality
import DashboardCompiler.Proofs.Text.Listings

/-!
# Reading the files of a project

What a reader of lines finds in a source file is what it finds in the header, the sections and the footer of the
file. In modular output each role has a file of its own, which the project gives by its name.
-/

namespace DashboardCompiler

open Code Text

/-- What a reader finds in a file of a project, which is nothing if there is no such file. -/
def Project.namesIn (p : Project) (filename : String) (read : String → List String) : List String :=
  match p.file? filename with
  | some file => read file.content
  | none => []

theorem Project.namesIn_of_file? {p : Project} {filename : String} {file : GeneratedFile}
    (h : p.file? filename = some file) (read : String → List String) :
    p.namesIn filename read = read file.content := by
  rw [namesIn, h]

theorem Project.namesIn_of_none {p : Project} {filename : String} (h : p.file? filename = none)
    (read : String → List String) : p.namesIn filename read = [] := by
  rw [namesIn, h]

namespace Target

variable {t : Target} {read : List Char → Option (List Char)}

/-! ## Sections -/

theorem declaredNames_join (hseparator : Separates read t.separator) (hskip : SkipsBlank read)
    (sections : List String) : declaredNames read (t.join sections) = sections.flatMap (declaredNames read) :=
  declaredNames_joinSections hseparator hskip sections

theorem declaredNames_sourceFile (hseparator : Separates read t.separator) (hskip : SkipsBlank read) (s : Scene)
    (role : FileRole) (filename body : String) (executable : Bool) :
    declaredNames read (t.sourceFile s role filename body executable).content =
      declaredNames read (t.header s role body) ++
        (declaredNames read body ++ declaredNames read (t.footer s role)) := by
  rw [sourceFile, declaredNames_join hseparator hskip]
  simp only [List.flatMap_cons, List.flatMap_nil, List.append_nil]

/-- What the body of a file declares is declared in the file. -/
theorem mem_sourceFile (hseparator : Separates read t.separator) (hskip : SkipsBlank read) {s : Scene}
    {role : FileRole} {filename : String} {executable : Bool} {body name : String}
    (h : name ∈ declaredNames read body) :
    name ∈ declaredNames read (t.sourceFile s role filename body executable).content := by
  rw [declaredNames_sourceFile hseparator hskip]
  exact List.mem_append_right _ (List.mem_append_left _ h)

section Parts

variable {s : Scene} {parts : Sections}

/-- What the fragment of a widget declares is declared in the file of the widgets. -/
theorem mem_widgetsFile (hseparator : Separates read t.separator) (hskip : SkipsBlank read)
    (hparts : t.sections s = .ok parts) {role : FileRole} {filename : String} {executable : Bool} {b : Behavior}
    (hb : b ∈ s.behaviors) {name : String} (h : name ∈ declaredNames read (t.widget b s.options)) :
    name ∈ declaredNames read (t.sourceFile s role filename (t.join parts.widgets) executable).content := by
  have hfragment : t.widget b s.options ∈ parts.widgets := by
    rw [(sections_ok hparts).2.1]
    exact List.mem_map_of_mem hb
  refine mem_sourceFile hseparator hskip ?_
  rw [declaredNames_join hseparator hskip]
  exact List.mem_flatMap.2 ⟨_, hfragment, h⟩

theorem dataSources_of_fed (hparts : t.sections s = .ok parts) (hfed : s.hasDataSources = true) :
    t.dataSources s = .ok parts.dataSources := by
  have hsources := (sections_ok hparts).1
  rwa [if_pos hfed] at hsources

theorem dataSources_of_unfed (hparts : t.sections s = .ok parts) (hfed : s.hasDataSources = false) :
    parts.dataSources = "" := by
  have hsources := (sections_ok hparts).1
  simpa [hfed] using hsources

/-- An application that constructs a collector of system metrics for what its design samples agrees with a section of
sources that declares one for it. -/
theorem collector_iff {constructed declared : List String}
    (hconstructed : constructed =
      if s.hasDataSources ∧ s.design.usesSystemMetrics then ["SystemMetricsCollector"] else [])
    (hfed : s.hasDataSources = true → ("SystemMetricsCollector" ∈ declared ↔ s.design.usesSystemMetrics = true))
    (hunfed : s.hasDataSources = false → declared = []) :
    "SystemMetricsCollector" ∈ constructed ↔ "SystemMetricsCollector" ∈ declared := by
  rw [hconstructed]
  cases hsources : s.hasDataSources with
  | true => rw [hfed hsources]; cases s.design.usesSystemMetrics <;> simp
  | false => rw [hunfed hsources, if_neg (by simp)]

end Parts

/-! ## Files -/

/-- The names of the files that have a role in modular output. -/
def roleFiles (t : Target) : List String := [t.appFile, t.widgetsFile, t.sourcesFile]

/-- No two files of a modular project that have a role are named alike, nor is any other file named like them. -/
structure NamesFiles (t : Target) : Prop where
  apart : t.roleFiles.Nodup
  index : ∀ s, ∀ entry ∈ t.moduleIndex s, entry.1 ∉ t.roleFiles
  manifests : ∀ s, ∀ entry ∈ t.manifests s, entry.1 ∉ t.roleFiles
  readme : "README.md" ∉ t.roleFiles

theorem NamesFiles.further (h : t.NamesFiles) (s : Scene) : ∀ file ∈ t.furtherFiles s, file.filename ∉ t.roleFiles :=
  List.forall_mem_append.2 ⟨List.forall_mem_map.2 (h.manifests s), List.forall_mem_singleton.2 h.readme⟩

theorem namesFiles_ofFramework (f : Framework) : (ofFramework f).NamesFiles := by
  cases f with
  | textual =>
    have hmanifest : "requirements.txt" ∉ textual.roleFiles := by decide
    exact ⟨by decide, fun _ => List.forall_mem_nil _, fun _ => List.forall_mem_singleton.2 hmanifest, by decide⟩
  | bubbleTea =>
    have hmanifest : "go.mod" ∉ bubbleTea.roleFiles := by decide
    exact ⟨by decide, fun _ => List.forall_mem_nil _, fun _ => List.forall_mem_singleton.2 hmanifest, by decide⟩
  | ratatui =>
    have hindex : "src/lib.rs" ∉ ratatui.roleFiles := by decide
    have hmanifest : "Cargo.toml" ∉ ratatui.roleFiles := by decide
    exact ⟨by decide, fun _ => List.forall_mem_singleton.2 hindex, fun _ => List.forall_mem_singleton.2 hmanifest,
      by decide⟩
  | blessed =>
    have hmanifest : "package.json" ∉ blessed.roleFiles := by decide
    exact ⟨by decide, fun _ => List.forall_mem_nil _, fun _ => List.forall_mem_singleton.2 hmanifest, by decide⟩

/-- Each role of a modular project has its file, and the sources have one if there are any. -/
theorem file?_modular (hnames : t.NamesFiles) {s : Scene} {parts : Sections} {p : Project}
    (hfiles : p.files = t.modularFiles s parts ++ t.furtherFiles s) :
    p.file? t.appFile = some (t.sourceFile s .app t.appFile (t.join [parts.app, parts.entryPoint]) true) ∧
      p.file? t.widgetsFile = some (t.sourceFile s .widgets t.widgetsFile (t.join parts.widgets) false) ∧
      p.file? t.sourcesFile = if s.hasDataSources then
        some (t.sourceFile s .dataSources t.sourcesFile parts.dataSources false) else none := by
  have hapart := hnames.apart
  simp only [roleFiles, List.nodup_cons, List.mem_cons, List.not_mem_nil, or_false, not_or] at hapart
  obtain ⟨⟨hwidgets, hsources⟩, hothers, -⟩ := hapart
  obtain ⟨index, hmodular, hmem⟩ := t.modularFiles_split s parts
  have hindex : index.find? (·.filename = t.sourcesFile) = none := by
    refine List.find?_eq_none.2 fun file hfile => ?_
    have hout := hnames.index s _ (hmem file hfile).2
    simp only [roleFiles, List.mem_cons, List.not_mem_nil, or_false, not_or] at hout
    simpa using hout.2.2
  have hfurther : (t.furtherFiles s).find? (·.filename = t.sourcesFile) = none := by
    refine List.find?_eq_none.2 fun file hfile => ?_
    have hout := hnames.further s file hfile
    simp only [roleFiles, List.mem_cons, List.not_mem_nil, or_false, not_or] at hout
    simpa using hout.2.2
  refine ⟨?_, ?_, ?_⟩
  · simp [Project.file?, hfiles, hmodular, sourceFile]
  · simp [Project.file?, hfiles, hmodular, sourceFile, hwidgets]
  · cases hfed : s.hasDataSources with
    | true => simp [Project.file?, hfiles, hmodular, sourceFile, hfed, hsources, hothers]
    | false =>
      rw [Project.file?, hfiles, hmodular, hfed, List.find?_append, List.find?_append, List.find?_append, hindex,
        hfurther]
      simp [sourceFile, hsources, hothers]

end Target

end DashboardCompiler
