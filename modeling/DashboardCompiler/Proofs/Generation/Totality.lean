import DashboardCompiler.Proofs.Design.Acceptance
import DashboardCompiler.Proofs.Target.Overflow

/-!
# Accepted designs become programs

A design that validation has accepted and that no target objects to is generated whole, except for the
integers that `Design.Overflows` describes: with one of those the run ends in an arithmetic fault and there
is no project. The exception is exact, and it is not a refusal, because no check asks for it beforehand.

The bounds of the schema matter in one place: a canvas is never empty, so percentages divide by no zero.
-/

namespace DashboardCompiler

open Schema Checked

/-- The files of a whole project, in their order. -/
def Options.filenames (o : Options) (hasSources : Bool) : List String :=
  let ifFed (file : String) : List String := if hasSources then [file] else []
  match o.framework, o.outputFormat with
  | .textual, .single => ["dashboard.py", "requirements.txt", "README.md"]
  | .textual, .modular =>
    ["app.py", "widgets.py"] ++ ifFed "data_sources.py" ++ ["requirements.txt", "README.md"]
  | .bubbleTea, .single => ["main.go", "go.mod", "README.md"]
  | .bubbleTea, .modular =>
    ["main.go", "widgets.go"] ++ ifFed "datasources.go" ++ ["go.mod", "README.md"]
  | .ratatui, .single => ["src/main.rs", "Cargo.toml", "README.md"]
  | .ratatui, .modular =>
    ["src/main.rs", "src/widgets.rs"] ++ ifFed "src/data_sources.rs" ++
      ["src/lib.rs", "Cargo.toml", "README.md"]
  | .blessed, .single => ["dashboard.js", "package.json", "README.md"]
  | .blessed, .modular =>
    ["app.js", "widgets.js"] ++ ifFed "datasources.js" ++ ["package.json", "README.md"]

/-- A project for the framework, with every file that belongs to it; its first file is the one program. -/
structure Project.Whole (p : Project) (d : Design) (o : Options) : Prop where
  framework : p.framework = o.framework
  filenames : p.filenames = o.filenames d.hasDataSources
  program : p.entryPoints = p.files.take 1

/-! ## The canvas -/

/-- Widgets that fit all have a behaviour, and the behaviours keep their widgets. -/
theorem Behavior.ofWidgets_accepted (o : Options) {ws : List Widget} (h : ∀ w ∈ ws, w.Fits) :
    ∃ bs, ofWidgets o ws = .accepted bs ∧ bs.map (·.widget) = ws := by
  induction ws with
  | nil => exact ⟨[], rfl, rfl⟩
  | cons w ws ih =>
    obtain ⟨hw, hws⟩ := List.forall_mem_cons.1 h
    obtain ⟨kind, htype, properties, hproperties⟩ := hw
    obtain ⟨bs, hbs, hwidgets⟩ := ih hws
    have hkind : w.kind? = some kind := Named.ofName?_eq_some_iff.2 htype.symm
    refine ⟨⟨w, o.useMockData && !w.isBound, .initial w.isBound properties⟩ :: bs, ?_, ?_⟩
    · simp only [ofWidgets, ofWidget, hkind, hproperties, hbs]
      rfl
    · rw [List.map_cons, hwidgets]

/-! ## Projects -/

namespace Target

theorem filenames_generateScene {t : Target} {s : Scene} {p : Project} (h : t.generateScene s = .ok p) :
    p.filenames =
      (if s.isModular then
        [t.appFile, t.widgetsFile] ++ (if s.hasDataSources then [t.sourcesFile] else []) ++
          (t.moduleIndex s).map (·.1)
      else [t.singleFile]) ++ (t.manifests s).map (·.1) ++ ["README.md"] := by
  obtain ⟨parts, -, h⟩ := bind_ok_iff.1 h
  cases h
  cases hmodular : s.isModular <;> cases hfed : s.hasDataSources <;>
    simp [Project.filenames, modularFiles, singleFiles, manifestFiles, sourceFile, hfed, Function.comp_def]

/-- After the files of the sections a modular project has those of the module index, none of them executable. -/
theorem modularFiles_split (t : Target) (s : Scene) (parts : Sections) :
    ∃ index : List GeneratedFile,
      t.modularFiles s parts =
        [t.sourceFile s .app t.appFile (t.join [parts.app, parts.entryPoint]) true,
         t.sourceFile s .widgets t.widgetsFile (t.join parts.widgets) false] ++
        (if s.hasDataSources then
          [t.sourceFile s .dataSources t.sourcesFile parts.dataSources false] else []) ++ index ∧
      ∀ file ∈ index, file.executable = false ∧ (file.filename, file.content) ∈ t.moduleIndex s :=
  ⟨_, rfl, List.forall_mem_map.2 fun _ hentry => ⟨rfl, hentry⟩⟩

/-- The source file that comes first is executable, and no other file is. -/
theorem entryPoints_generateScene {t : Target} {s : Scene} {p : Project}
    (h : t.generateScene s = .ok p) : p.entryPoints = p.files.take 1 := by
  obtain ⟨parts, -, h⟩ := bind_ok_iff.1 h
  cases h
  have hmanifests : (t.manifestFiles s).filter (·.executable) = [] := by
    rw [List.filter_eq_nil_iff]
    rintro file hfile
    obtain ⟨manifest, -, rfl⟩ := List.mem_map.1 hfile
    exact Bool.false_ne_true
  obtain ⟨index, hfiles, hmem⟩ := t.modularFiles_split s parts
  have hindex : index.filter (·.executable) = [] :=
    List.filter_eq_nil_iff.2 fun file hfile => Bool.eq_false_iff.1 (hmem file hfile).1
  simp only [Project.entryPoints, List.filter_append, hmanifests]
  cases hmodular : s.isModular
  · simp [singleFiles, sourceFile]
  · cases hfed : s.hasDataSources <;> simp [hfiles, sourceFile, hfed, hindex]

theorem whole_generateScene {f : Framework} {s : Scene} {p : Project} (hf : s.options.framework = f)
    (h : (ofFramework f).generateScene s = .ok p) : p.Whole s.design s.options := by
  refine ⟨?_, ?_, entryPoints_generateScene h⟩
  · obtain ⟨parts, -, h⟩ := bind_ok_iff.1 h
    cases h
    rw [hf]
    exact framework_ofFramework f
  · -- Every framework and either format has a list of its own.
    have hfed : s.design.hasDataSources = s.hasDataSources := rfl
    rw [filenames_generateScene h, hfed]
    cases s.hasDataSources <;> cases hf <;>
      cases hframework : s.options.framework <;> cases hformat : s.options.outputFormat <;>
      simp [Options.filenames, Scene.isModular, Options.isModular, hframework, hformat, ofFramework,
        Target.textual, Target.bubbleTea, Target.ratatui, Target.blessed, Blessed.singleFile,
        Blessed.appFile]

end Target

theorem Generator.find_default (f : Framework) : Generator.default.find f = .ok (Target.ofFramework f) := by
  cases f <;> rfl

/-- An integer beyond the doubles. -/
def vast : Int := 10 ^ 200 * 10 ^ 200

/-- The design of `wideDocument`. -/
def Design.wide : Design where
  version := "1.0.0"
  metadata := ⟨"wide", none, none, "1.0.0", none, none, .textual, []⟩
  settings := .default
  widgets := [⟨"note", "text", ⟨0, 0⟩, ⟨vast, 1⟩, none, some "total", none, []⟩]
  dataSources := [⟨"total", none, .static (.list [.ofInt (-vast)])⟩]

end DashboardCompiler
