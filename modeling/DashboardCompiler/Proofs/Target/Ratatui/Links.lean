import DashboardCompiler.Proofs.Generation.Files
import DashboardCompiler.Proofs.Target.Ratatui.Types

/-!
# Modules of Ratatui programs

The binary of a modular crate uses items of its library, whose root names the modules. The use declarations are
merged by path and sorted, so what is used of a module is read off as a set.
-/

namespace DashboardCompiler.Ratatui

open Code Text

def widgetsModule : List Char := ['w', 'i', 'd', 'g', 'e', 't', 's']

def sourcesModule : List Char := ['d', 'a', 't', 'a', '_', 's', 'o', 'u', 'r', 'c', 'e', 's']

/-- What opens the use of items of a module of the crate. -/
def useOpening (module : List Char) : List Char :=
  ['u', 's', 'e', ' ', 'd', 'a', 's', 'h', 'b', 'o', 'a', 'r', 'd', ':', ':'] ++ module ++ [':', ':']

/-- The items that a file uses of a module of the crate. -/
def usedNames (module : List Char) : String → List String := listedNames (useOpening module) [';']

/-- What opens the declaration of a public item at the outermost level. -/
def publicOpenings : List (List Char) :=
  (typeKeywords ++ [['f', 'n', ' '], ['c', 'o', 'n', 's', 't', ' '], ['s', 't', 'a', 't', 'i', 'c', ' ']]).map
    (['p', 'u', 'b', ' '] ++ ·)

/-- The items that a file declares for others. -/
def publicNames : String → List String := declaredNames (declaredName? publicOpenings)

def moduleOpenings : List (List Char) := [['p', 'u', 'b', ' ', 'm', 'o', 'd', ' ']]

/-- The modules that the root of a library declares. -/
def moduleNames : String → List String := declaredNames (declaredName? moduleOpenings)

/-- The module of a file among the sources of a crate. -/
def moduleOf? (filename : String) : Option String :=
  (enclosed? ['s', 'r', 'c', '/'] ['.', 'r', 's'] filename.toList).map String.ofList

/-- The modules whose files are in a project, beside the roots of the binary and of the library. -/
def emittedModules (p : Project) : List String :=
  (p.filenames.filterMap moduleOf?).filter fun name => name ≠ "main" && name ≠ "lib"

/-- The call that constructs a collector for the updater. -/
def collectorOpening : List Char :=
  [' ', ' ', ' ', ' ', ' ', ' ', ' ', ' ', 'l', 'e', 't', ' ', 'u', 'p', 'd', 'a', 't', 'e', 'r', ' ', '=', ' ', 'D',
   'a', 't', 'a', 'S', 'o', 'u', 'r', 'c', 'e', 'U', 'p', 'd', 'a', 't', 'e', 'r', ':', ':', 'n', 'e', 'w', '(', 'd',
   'a', 't', 'a', '_', 's', 'o', 'u', 'r', 'c', 'e', '_', 'c', 'o', 'n', 'f', 'i', 'g', 's', '(', ')', ',', ' ', 'S',
   'o', 'm', 'e', '(', 'B', 'o', 'x', ':', ':', 'n', 'e', 'w', '(']

/-- The collectors that a text constructs. -/
def constructedNames : String → List String := declaredNames (declaredName? [collectorOpening])

/-- Everything that is looked for in an application. -/
def appOpenings : List (List Char) := [useOpening widgetsModule, useOpening sourcesModule, collectorOpening]

theorem inked_appOpenings : Inked appOpenings := by decide

theorem appName?_nil : declaredName? appOpenings [] = none := declaredName?_skipsBlank inked_appOpenings [] rfl

theorem mem_appOpenings {module : List Char} (hmodule : module ∈ [widgetsModule, sourcesModule]) :
    useOpening module ∈ appOpenings :=
  List.subset_append_left [useOpening widgetsModule, useOpening sourcesModule] [collectorOpening]
    (List.mem_map_of_mem hmodule)

theorem use_skipsBlank {module : List Char} (hmodule : useOpening module ∈ appOpenings) :
    SkipsBlank (enclosed? (useOpening module) [';']) := enclosed?_skipsBlank inked_appOpenings hmodule _

/-! ## Use declarations -/

/-- The items of a use declaration: one, or several in braces. -/
def useList (uses : List Use) (path : String) : String :=
  match namesAt uses path with
  | [name] => name
  | names => "\x7b" ++ joinWith ", " names ++ "\x7d"

theorem useLine_eq (uses : List Use) (path : String) :
    useLine uses path = "use " ++ path ++ "::" ++ useList uses path ++ ";" := by
  have hopening : "::\x7b" = "::" ++ "\x7b" := by decide
  have hclosing : "\x7d;" = "\x7d" ++ ";" := by decide
  unfold useLine useList
  rcases namesAt uses path with _ | ⟨name, _ | ⟨other, rest⟩⟩
  · simp only [hopening, hclosing, String.append_assoc]
  · rfl
  · simp only [hopening, hclosing, String.append_assoc]

theorem nameRuns_useList {uses : List Use} {path : String} (h : ∀ name ∈ namesAt uses path, IsName name) :
    nameRuns (useList uses path).toList = (namesAt uses path).map String.toList := by
  have hopening : "\x7b".toList = ['\x7b'] := rfl
  have hclosing : "\x7d".toList = ['\x7d'] := rfl
  unfold useList
  split
  · rename_i name hname
    rw [hname] at h ⊢
    exact nameRuns_name (List.forall_mem_singleton.1 h)
  · rw [String.toList_append, String.toList_append, hopening, hclosing, List.singleton_append, List.cons_append,
      nameRuns_cons (by decide), nameRuns_append_cons _ (by decide), nameRuns_joinWith h]
    exact List.append_nil _

theorem mem_namesAt {uses : List Use} {path name : String} :
    name ∈ namesAt uses path ↔ ∃ u ∈ uses, u.path = path ∧ name ∈ u.names := by
  simp [namesAt, and_assoc]

/-- The use declarations read like their lines, whatever the order of these. -/
theorem mem_useDeclarations {read : List Char → Option (List Char)} (hnil : read [] = none) {uses : List Use}
    (h : UnbrokenLines (useTexts uses)) {name : String} :
    name ∈ declaredNames read (useDeclarations uses) ↔
      ∃ path ∈ uses.map (·.path), name ∈ readNames read [useLine uses path] := by
  have hsorted {path : String} : path ∈ ((uses.map (·.path)).eraseDups.mergeSort fun a b => decide (a ≤ b)) ↔
      path ∈ uses.map (·.path) := by rw [List.mem_mergeSort, List.mem_eraseDups]
  have hblock {block : List String} (hpaths : ∀ path ∈ block, path ∈ uses.map (·.path)) :
      declaredNames read (joinLines (block.map (useLine uses))) = readNames read (block.map (useLine uses)) :=
    UnbrokenLines.declaredNames hnil (List.forall_mem_map.2 fun path hpath => unbroken_useLine h (hpaths path hpath))
  rw [useDeclarations, declaredNames_joinWith (separates_blankLine hnil) hnil, List.mem_flatMap]
  simp only [← hsorted]
  generalize ((uses.map (·.path)).eraseDups.mergeSort fun a b => decide (a ≤ b)) = paths at hsorted ⊢
  constructor
  · rintro ⟨text, htext, hname⟩
    obtain ⟨block, hkept, rfl⟩ := List.mem_map.1 htext
    have hpaths : ∀ path ∈ block, path ∈ paths := by
      intro path hpath
      rcases List.mem_pair.1 (List.mem_filter.1 hkept).1 with rfl | rfl
      · exact (List.mem_filter.1 hpath).1
      · exact (List.mem_filter.1 hpath).1
    rw [hblock fun path hpath => hsorted.1 (hpaths path hpath), mem_readNames] at hname
    obtain ⟨line, hline, hname⟩ := hname
    obtain ⟨path, hpath, rfl⟩ := List.mem_map.1 hline
    exact ⟨path, hpaths path hpath, hname⟩
  · rintro ⟨path, hpath, hname⟩
    -- The path is in one of the blocks, which is therefore kept.
    obtain ⟨block, hblocks, hin⟩ : ∃ block ∈ [paths.filter isStandard, paths.filter fun p => !isStandard p],
        path ∈ block := by
      cases hstandard : isStandard path with
      | true => exact ⟨_, List.mem_cons_self, List.mem_filter.2 ⟨hpath, hstandard⟩⟩
      | false =>
        exact ⟨_, List.mem_cons_of_mem _ List.mem_cons_self, List.mem_filter.2 ⟨hpath, by simp [hstandard]⟩⟩
    have hpaths : ∀ path ∈ block, path ∈ uses.map (·.path) := by
      intro path hpath
      rcases List.mem_pair.1 hblocks with rfl | rfl
      · exact hsorted.1 (List.mem_filter.1 hpath).1
      · exact hsorted.1 (List.mem_filter.1 hpath).1
    have hkept : block.isEmpty = false := List.isEmpty_eq_false_iff.2 (List.ne_nil_of_mem hin)
    refine ⟨_, List.mem_map.2 ⟨block, List.mem_filter.2 ⟨hblocks, by simp [hkept]⟩, rfl⟩, ?_⟩
    rw [hblock hpaths]
    exact mem_readNames.2 ⟨_, List.mem_map_of_mem hin, hname⟩

/-- The path of a module of the crate. -/
def modulePath (module : List Char) : String := crateName ++ "::" ++ String.ofList module

theorem toList_useLine (uses : List Use) (module : List Char) :
    (useLine uses (modulePath module)).toList =
      useOpening module ++ ((useList uses (modulePath module)).toList ++ [';']) := by
  have hopening : ("use " ++ (crateName ++ "::" ++ String.ofList module) ++ "::").toList = useOpening module := by
    simp [crateName, useOpening, String.toList_append]
  have hend : ";".toList = [';'] := rfl
  rw [useLine_eq, String.toList_append, String.toList_append, hend, ← hopening, modulePath, List.append_assoc]

/-- What use declarations use of a module is what they name at its path, if no other path begins like it. -/
theorem mem_usedNames {module : List Char} (hnil : enclosed? (useOpening module) [';'] [] = none) {uses : List Use}
    (h : UnbrokenLines (useTexts uses)) (hnames : ∀ name ∈ namesAt uses (modulePath module), IsName name)
    (hothers : ∀ path ∈ uses.map (·.path), path ≠ modulePath module →
      isSilent [useOpening module] ("use " ++ path ++ "::").toList = true) {name : String} :
    name ∈ usedNames module (useDeclarations uses) ↔ name ∈ namesAt uses (modulePath module) := by
  have hline : readNames (enclosed? (useOpening module) [';']) [useLine uses (modulePath module)] =
      [useList uses (modulePath module)] := readNames_listing (toList_useLine uses module)
  have hother : ∀ path ∈ uses.map (·.path), path ≠ modulePath module →
      readNames (enclosed? (useOpening module) [';']) [useLine uses path] = [] := by
    intro path hpath hne
    have hsilent : readNames (declaredName? [useOpening module]) [useLine uses path] = [] := by
      refine readNames_eq_nil_iff.2 (List.forall_mem_singleton.2 ?_)
      rw [useLine_eq, String.toList_append, String.toList_append, List.append_assoc]
      exact declaredName?_append (hothers path hpath hne) _
    exact readNames_enclosed List.mem_cons_self hsilent _
  rw [usedNames, listedNames, List.mem_flatMap]
  constructor
  · rintro ⟨inner, hinner, hname⟩
    obtain ⟨path, hpath, hinner⟩ := (mem_useDeclarations hnil h).1 hinner
    by_cases hmodule : path = modulePath module
    · rw [hmodule, hline, List.mem_singleton] at hinner
      rwa [hinner, nameRuns_useList hnames, map_ofList_toList] at hname
    · rw [hother path hpath hmodule] at hinner
      cases hinner
  · intro hname
    obtain ⟨u, hu, hpath, -⟩ := mem_namesAt.1 hname
    refine ⟨useList uses (modulePath module), (mem_useDeclarations hnil h).2 ⟨modulePath module, ?_, ?_⟩, ?_⟩
    · exact List.mem_map.2 ⟨u, hu, hpath⟩
    · rw [hline]
      exact List.mem_singleton_self _
    · rwa [nameRuns_useList hnames, map_ofList_toList]

/-! ## The application -/

/-- The line that creates the updater, which may construct a collector. -/
def updaterLines (s : Scene) : List String :=
  if s.hasDataSources then
    ["        let updater = DataSourceUpdater::new(data_source_configs(), " ++ metricsArgument s.design ++ ");"]
  else []

/-- The lines of the application that follow it. -/
def afterUpdater (s : Scene) : List String :=
  ["        Self \x7b",
   "            slots: vec!["] ++
  (s.behaviors.flatMap (slot s.design.settings.theme)).map ("                " ++ ·) ++
  ["            ],"] ++
  (if s.hasDataSources then ["            updates: spawn_updater(updater),"] else []) ++
  ["        \x7d",
   "    \x7d",
   "",
   "    fn tick(&mut self) \x7b",
   "        for slot in self.slots.iter_mut() \x7b",
   "            slot.widget.tick();",
   "        \x7d",
   "    \x7d"] ++
  (if s.hasDataSources then receiveLines else []) ++
  ["\x7d",
   ""]

theorem appLines_eq (s : Scene) :
    appLines s = ["", "impl App \x7b", "    fn new() -> Self \x7b"] ++ (updaterLines s ++ afterUpdater s) := by
  simp only [appLines, updaterLines, afterUpdater, List.append_assoc]

theorem appNames_afterUpdater (s : Scene) : readNames (declaredName? appOpenings) (afterUpdater s) = [] := by
  have hslots : readNames (declaredName? appOpenings)
      ((s.behaviors.flatMap (slot s.design.settings.theme)).map ("                " ++ ·)) = [] :=
    readNames_begun (fun rest => declaredName?_append (by decide) rest)
      (List.forall_mem_map.2 fun _ _ => .append .whole)
  unfold afterUpdater
  generalize (s.behaviors.flatMap _).map _ = slots at hslots
  cases s.hasDataSources
  all_goals
    simp only [List.append_assoc, List.cons_append, List.nil_append, Bool.false_eq_true, ↓reduceIte]
    apply Outline.names_eq
    · repeat' first | apply Outline.silent hslots | constructor
    · decide
    · decide

theorem appNames_constantLines (s : Scene) : readNames (declaredName? appOpenings) (constantLines s) = [] := by
  unfold constantLines
  cases s.hasDataSources
  all_goals
    apply Outline.names_eq
    · repeat' constructor
    · decide
    · decide

theorem appNames_structureLines (s : Scene) : readNames (declaredName? appOpenings) (structureLines s) = [] := by
  unfold structureLines
  cases s.hasDataSources
  all_goals
    apply Outline.names_eq
    · repeat' constructor
    · decide
    · decide

theorem appNames_functions (sources scaled : Bool) :
    readNames (declaredName? appOpenings)
      ((if sources then spawnLines else []) ++ (placeLines scaled ++ runLines sources)) = [] := by
  cases sources <;> cases scaled
  all_goals
    apply Outline.names_eq
    · repeat' constructor
    · decide
    · decide

/-- Of what is looked for, an application has at most the one line that creates its updater. -/
theorem declaredNames_app {read : List Char → Option (List Char)} (hnil : read [] = none)
    (hread : ∀ line, declaredName? appOpenings line = none → read line = none) (s : Scene) :
    declaredNames read (app s) = readNames read (updaterLines s) := by
  have hsilent {items : List String} (hitems : readNames (declaredName? appOpenings) items = []) :
      readNames read items = [] := readNames_of_silent hread hitems
  have hcomment : readNames (declaredName? appOpenings)
      (if s.options.includeComments then ["// Application"] else []) = [] := by
    cases s.options.includeComments <;> decide
  have hfunctions := appNames_functions s.hasDataSources s.design.settings.autoResize
  have hstart : readNames (declaredName? appOpenings) ["", "impl App \x7b", "    fn new() -> Self \x7b"] = [] := by
    decide
  rw [readNames_append, readNames_append, List.append_eq_nil_iff, List.append_eq_nil_iff] at hfunctions
  obtain ⟨hspawn, hplace, hrun⟩ := hfunctions
  rw [app, (unbroken_app s).declaredNames hnil]
  simp only [readNames_append, appLines_eq, hsilent hcomment, hsilent (appNames_constantLines s),
    hsilent (appNames_structureLines s), hsilent hstart, hsilent (appNames_afterUpdater s), hsilent hspawn,
    hsilent hplace, hsilent hrun, List.nil_append, List.append_nil]

theorem constructedNames_app (s : Scene) :
    constructedNames (app s) =
      if s.hasDataSources ∧ s.design.usesSystemMetrics then ["SystemMetricsCollector"] else [] := by
  have hline : readNames (declaredName? [collectorOpening]) (updaterLines s) =
      if s.hasDataSources ∧ s.design.usesSystemMetrics then ["SystemMetricsCollector"] else [] := by
    unfold updaterLines metricsArgument
    cases s.hasDataSources <;> cases s.design.usesSystemMetrics <;> decide +kernel
  rw [constructedNames, declaredNames_app (by decide) (fun line hline => ?_) s, hline]
  exact declaredName?_eq_none_of_subset (by decide) hline

/-- The application uses nothing below its use declarations. -/
theorem used_app {module : List Char} (hmodule : module ∈ [widgetsModule, sourcesModule]) (s : Scene) :
    declaredNames (enclosed? (useOpening module) [';']) (app s) = [] := by
  have hmem : useOpening module ∈ [useOpening widgetsModule, useOpening sourcesModule] := List.mem_map_of_mem hmodule
  have hopening := mem_appOpenings hmodule
  have hline : readNames (declaredName? [useOpening widgetsModule, useOpening sourcesModule])
      (updaterLines s) = [] := by
    unfold updaterLines
    split
    · apply Outline.names_eq
      · repeat' constructor
      · decide
      · decide
    · rfl
  rw [declaredNames_app (use_skipsBlank hopening [] rfl) (fun line hnone => enclosed?_eq_none hopening hnone _) s]
  exact readNames_enclosed hmem hline _

theorem appNames_entryPoint : declaredNames (declaredName? appOpenings) entryPoint = [] := by
  rw [entryPoint, UnbrokenLines.declaredNames appName?_nil]
  · apply Outline.names_eq
    · repeat' constructor
    · decide
    · decide
  · apply Spelled.unbrokenLines
    · repeat constructor
    · decide

/-! ## Headers -/

theorem appNames_banner (s : Scene) (role : FileRole) : readNames (declaredName? appOpenings) (banner s role) = [] := by
  unfold banner
  cases s.options.includeComments <;> cases hasHelpers role
  all_goals
    apply Outline.names_eq
    · repeat' constructor
    · decide
    · decide

/-- A header reads like its parts. -/
theorem declaredNames_header {read : List Char → Option (List Char)} (hskip : SkipsBlank read) (s : Scene)
    (role : FileRole) :
    declaredNames read (header s role) = readNames read (banner s role) ++
      (declaredNames read (useDeclarations (fileUses s role)) ++
        declaredNames read (if hasHelpers role then helpers else "")) := by
  have hnil : read [] = none := hskip [] rfl
  rw [header_eq, declaredNames_joinSections (separates_blankLine hnil) hskip]
  simp only [List.flatMap_cons, List.flatMap_nil, List.append_nil, (unbroken_banner s role).declaredNames hnil]

/-- Every path that an application may use. -/
def appPaths : List String :=
  ["std", "std::time", "crossterm", "crossterm::event", "crossterm::terminal", "ratatui::backend", "ratatui::layout",
   "ratatui::style", "ratatui::text", "ratatui::widgets", "ratatui", "std::collections", "std::sync::mpsc",
   "serde_json", modulePath widgetsModule, modulePath sourcesModule]

theorem path_fileUses (s : Scene) : ∀ path ∈ (fileUses s .app).map (·.path), path ∈ appPaths := by
  unfold fileUses appUses crateUses
  cases s.hasDataSources
  · simp only [Bool.false_eq_true, ↓reduceIte, List.append_nil, List.map_append, List.map_cons, List.map_nil]
    decide
  · simp only [↓reduceIte, List.map_append, List.map_cons, List.map_nil]
    decide

theorem mem_usedNames_fileUses {module : List Char} (hmodule : module ∈ [widgetsModule, sourcesModule]) (s : Scene)
    (hnames : ∀ name ∈ namesAt (fileUses s .app) (modulePath module), IsName name) {name : String} :
    name ∈ usedNames module (useDeclarations (fileUses s .app)) ↔
      name ∈ namesAt (fileUses s .app) (modulePath module) := by
  have hothers : ∀ module ∈ [widgetsModule, sourcesModule], ∀ path ∈ appPaths, path ≠ modulePath module →
      isSilent [useOpening module] ("use " ++ path ++ "::").toList = true := by decide
  have hopening := mem_appOpenings hmodule
  exact mem_usedNames (use_skipsBlank hopening [] rfl) (unbroken_fileUses s .app) hnames fun path hpath =>
    hothers module hmodule path (path_fileUses s path hpath)

/-- Items of the modules of the crate are used by the lines for its own modules alone. -/
theorem mem_namesAt_crate {module : List Char} (hmodule : module ∈ [widgetsModule, sourcesModule]) (s : Scene)
    {name : String} :
    name ∈ namesAt (fileUses s .app) (modulePath module) ↔
      ∃ u ∈ crateUses s, u.path = modulePath module ∧ name ∈ u.names := by
  have happ : ∀ module ∈ [widgetsModule, sourcesModule], ∀ u ∈ appUses s, u.path ≠ modulePath module := by
    unfold appUses
    cases s.hasDataSources <;> decide
  rw [mem_namesAt, fileUses]
  constructor
  · rintro ⟨u, hu, hpath, hname⟩
    exact ⟨u, (List.mem_append.1 hu).resolve_left fun hu => happ module hmodule u hu hpath, hpath, hname⟩
  · rintro ⟨u, hu, hpath, hname⟩
    exact ⟨u, List.mem_append_right _ hu, hpath, hname⟩

theorem namesAt_widgets (s : Scene) {name : String} :
    name ∈ namesAt (fileUses s .app) (modulePath widgetsModule) ↔
      name ∈ "DashboardWidget" :: s.behaviors.map Behavior.typeName := by
  have hwidgets : crateName ++ "::widgets" = modulePath widgetsModule := by decide
  have hsources : crateName ++ "::data_sources" ≠ modulePath widgetsModule := by decide
  rw [mem_namesAt_crate List.mem_cons_self, crateUses]
  cases s.hasDataSources <;> simp [hwidgets, hsources]

/-- The items of the sources that the application uses. -/
def sourceItems (d : Design) : List String :=
  ["data_source_configs", "DataSourceUpdater", "MetricSource"] ++
    if d.usesSystemMetrics then ["SystemMetricsCollector"] else []

theorem namesAt_sources (s : Scene) {name : String} :
    name ∈ namesAt (fileUses s .app) (modulePath sourcesModule) ↔
      name ∈ if s.hasDataSources then sourceItems s.design else [] := by
  have hwidgets : crateName ++ "::widgets" ≠ modulePath sourcesModule := by decide
  have hsources : crateName ++ "::data_sources" = modulePath sourcesModule := by decide
  rw [mem_namesAt_crate (List.mem_cons_of_mem _ List.mem_cons_self), crateUses]
  cases s.hasDataSources <;> simp [hwidgets, hsources, sourceItems]

theorem isName_widgetItems (s : Scene) : ∀ name ∈ "DashboardWidget" :: s.behaviors.map Behavior.typeName, IsName name :=
  List.forall_mem_cons.2 ⟨by decide, List.forall_mem_map.2 fun b _ => isName_typeName b.widget.id⟩

theorem isName_sourceItems (d : Design) : ∀ name ∈ sourceItems d, IsName name := by
  unfold sourceItems
  cases d.usesSystemMetrics <;> decide

/-! ## Declarations -/

theorem publicNames_struct (b : Behavior) :
    readNames (declaredName? publicOpenings) ["pub struct " ++ b.typeName ++ " \x7b"] = [b.typeName] := by
  have hline : ("pub struct " ++ b.typeName ++ " \x7b").toList =
      ['p', 'u', 'b', ' ', 's', 't', 'r', 'u', 'c', 't', ' '] ++ (b.typeName.toList ++ ' ' :: ['\x7b']) := by
    rw [String.toList_append, String.toList_append, List.append_assoc, String.toList_ofList, String.toList_ofList]
  have hread : declaredName? publicOpenings ("pub struct " ++ b.typeName ++ " \x7b").toList =
      some b.typeName.toList := by
    rw [hline]
    exact declaredName?_opening rfl (by rfl) (isName_typeName b.widget.id).chars (by decide)
  rw [readNames, List.filterMap_cons, hread]
  simp only [List.filterMap_nil, Option.map_some, String.ofList_toList]

theorem mem_publicNames_widget (b : Behavior) (o : Options) : b.typeName ∈ publicNames (widget b o) := by
  have hline : "pub struct " ++ b.typeName ++ " \x7b" ∈ structLines b o.includeComments (partsOf b) := by
    simp [structLines]
  rw [publicNames, declaredNames, lines_widget]
  exact mem_readNames.2 ⟨_, hline, by rw [publicNames_struct]; exact List.mem_singleton_self _⟩

theorem mem_publicNames_helpers : "DashboardWidget" ∈ publicNames helpers := by
  have hfunctions : "DashboardWidget" ∈ readNames (declaredName? publicOpenings) helperFunctions := by decide
  rw [publicNames, helpers, unbroken_helpers.declaredNames (by decide), readNames_append]
  exact List.mem_append_right _ hfunctions

/-- The section of the sources declares what the application uses of it. -/
theorem mem_publicNames_dataSources (d : Design) (comments : Bool) :
    ∀ name ∈ sourceItems d, name ∈ publicNames (dataSources d comments) := by
  have hfixed := unbroken_fixed
  simp only [UnbrokenLines, List.forall_mem_append] at hfixed
  obtain ⟨⟨-, hcollector⟩, hupdater⟩ := hfixed
  have hnil : declaredName? publicOpenings [] = none := by decide
  have htableNames : "data_source_configs" ∈ publicNames (sourceTable d) := by
    rw [publicNames, sourceTable, (unbroken_sourceTable d).declaredNames hnil]
    exact List.mem_filterMap.2 ⟨_, List.mem_cons_self, by decide⟩
  have hupdaterNames : "DataSourceUpdater" ∈ publicNames (joinLines updater) ∧
      "MetricSource" ∈ publicNames (joinLines updater) := by
    rw [publicNames, UnbrokenLines.declaredNames hnil hupdater]
    decide
  have hcollectorNames : "SystemMetricsCollector" ∈ publicNames (joinLines collector) := by
    rw [publicNames, UnbrokenLines.declaredNames hnil hcollector]
    decide
  have hsection {text name : String} (htext : text ∈ [joinLines (constants comments), joinLines sourceTypes,
      sourceTable d, joinLines updater] ++ if d.usesSystemMetrics then [joinLines collector] else [])
      (hname : name ∈ publicNames text) : name ∈ publicNames (dataSources d comments) := by
    rw [publicNames, dataSources, declaredNames_joinWith (separates_blankLine hnil) hnil]
    exact List.mem_flatMap.2 ⟨text, htext, hname⟩
  refine List.forall_mem_append.2 ⟨?_, ?_⟩
  · refine List.forall_mem_cons.2 ⟨hsection (by simp) htableNames, ?_⟩
    refine List.forall_mem_cons.2 ⟨hsection (by simp) hupdaterNames.1, ?_⟩
    exact List.forall_mem_singleton.2 (hsection (by simp) hupdaterNames.2)
  · split
    · rename_i hmetrics
      exact List.forall_mem_singleton.2 (hsection (by simp [hmetrics]) hcollectorNames)
    · exact List.forall_mem_nil _

theorem moduleNames_moduleIndex (s : Scene) :
    moduleNames (moduleIndex s) = "widgets" :: if s.hasDataSources then ["data_sources"] else [] := by
  unfold moduleIndex
  cases s.hasDataSources <;> decide

/-! ## Files -/

/-- What the binary of a project uses is public in the modules of its library, the root of the library declares the
modules that there are, and the application constructs a collector if the sources declare one. -/
structure Links (p : Project) (d : Design) (parts : Sections) : Prop where
  usesWidgets : ∀ name, name ∈ p.namesIn "src/main.rs" (usedNames widgetsModule) ↔
    name ∈ "DashboardWidget" :: d.widgets.map fun w => Name.typeName w.id
  declaresWidgets : ∀ name ∈ p.namesIn "src/main.rs" (usedNames widgetsModule),
    name ∈ p.namesIn "src/widgets.rs" publicNames
  usesSources : ∀ name, name ∈ p.namesIn "src/main.rs" (usedNames sourcesModule) ↔
    name ∈ if d.hasDataSources then sourceItems d else []
  declaresSources : ∀ name ∈ p.namesIn "src/main.rs" (usedNames sourcesModule),
    name ∈ p.namesIn "src/data_sources.rs" publicNames
  declaresModules : p.namesIn "src/lib.rs" moduleNames = emittedModules p
  collector : "SystemMetricsCollector" ∈ constructedNames parts.app ↔
    "SystemMetricsCollector" ∈ declaredNames typeName? parts.dataSources

section Scenes

variable {s : Scene} {parts : Sections}

theorem used_appFile (hparts : Target.ratatui.sections s = .ok parts) {module : List Char}
    (hmodule : module ∈ [widgetsModule, sourcesModule]) :
    usedNames module (Target.ratatui.sourceFile s .app "src/main.rs"
      (Target.ratatui.join [parts.app, parts.entryPoint]) true).content =
        usedNames module (useDeclarations (fileUses s .app)) := by
  obtain ⟨-, -, happ, hentry⟩ := Target.sections_ok hparts
  have hopening := mem_appOpenings hmodule
  have hskip := use_skipsBlank hopening
  have hnil : enclosed? (useOpening module) [';'] [] = none := hskip [] rfl
  have hseparates : Separates (enclosed? (useOpening module) [';']) Target.ratatui.separator :=
    separates_blankLine hnil
  have hempty := declaredNames_empty hnil
  have hbanner := readNames_enclosed hopening (appNames_banner s .app) [';']
  have happNames : declaredNames (enclosed? (useOpening module) [';']) parts.app = [] := by
    rw [← Except.ok.inj happ]
    exact used_app hmodule s
  have hentryNames : declaredNames (enclosed? (useOpening module) [';']) parts.entryPoint = [] := by
    rw [hentry]
    exact readNames_enclosed hopening appNames_entryPoint _
  have hheader (text : String) : Target.ratatui.header s .app text = header s .app := rfl
  have hfooter : Target.ratatui.footer s .app = "" := rfl
  have hshared : (if hasHelpers .app then helpers else "") = "" := rfl
  rw [usedNames, listedNames, listedNames, Target.declaredNames_sourceFile hseparates hskip,
    Target.declaredNames_join hseparates hskip, hheader, hfooter, declaredNames_header hskip, hbanner, hshared, hempty]
  simp only [List.flatMap_cons, List.flatMap_nil, happNames, hentryNames, List.append_nil, List.nil_append]

theorem mem_publicNames_widgetsFile (hparts : Target.ratatui.sections s = .ok parts) (executable : Bool) :
    ∀ name ∈ "DashboardWidget" :: s.behaviors.map Behavior.typeName, name ∈ publicNames (Target.ratatui.sourceFile s
      .widgets "src/widgets.rs" (Target.ratatui.join parts.widgets) executable).content := by
  have hskip : SkipsBlank (declaredName? publicOpenings) := declaredName?_skipsBlank (by decide)
  have hseparates : Separates (declaredName? publicOpenings) Target.ratatui.separator :=
    separates_blankLine (hskip [] rfl)
  refine List.forall_mem_cons.2 ⟨?_, List.forall_mem_map.2 fun b hb => ?_⟩
  · have hheader (text : String) : Target.ratatui.header s .widgets text = header s .widgets := rfl
    rw [publicNames, Target.declaredNames_sourceFile hseparates hskip, hheader, declaredNames_header hskip]
    exact List.mem_append_left _ (List.mem_append_right _ (List.mem_append_right _ mem_publicNames_helpers))
  · exact Target.mem_widgetsFile hseparates hskip hparts hb (mem_publicNames_widget b s.options)

theorem dataSources_section (hparts : Target.ratatui.sections s = .ok parts) (hfed : s.hasDataSources = true) :
    parts.dataSources = dataSources s.design s.options.includeComments :=
  (Except.ok.inj (Target.dataSources_of_fed hparts hfed)).symm

theorem mem_publicNames_sourcesFile (hparts : Target.ratatui.sections s = .ok parts) (hfed : s.hasDataSources = true)
    (executable : Bool) :
    ∀ name ∈ sourceItems s.design, name ∈ publicNames (Target.ratatui.sourceFile s .dataSources "src/data_sources.rs"
      parts.dataSources executable).content := by
  have hskip : SkipsBlank (declaredName? publicOpenings) := declaredName?_skipsBlank (by decide)
  have hseparates : Separates (declaredName? publicOpenings) Target.ratatui.separator :=
    separates_blankLine (hskip [] rfl)
  rw [dataSources_section hparts hfed]
  exact fun name hname => Target.mem_sourceFile hseparates hskip (mem_publicNames_dataSources _ _ name hname)

/-- The application constructs a collector exactly if the section of the sources declares its type. -/
theorem constructed_iff_declared (hparts : Target.ratatui.sections s = .ok parts) :
    "SystemMetricsCollector" ∈ constructedNames parts.app ↔
      "SystemMetricsCollector" ∈ declaredNames typeName? parts.dataSources := by
  have hconstructed := constructedNames_app s
  rw [Except.ok.inj (Target.sections_ok hparts).2.2.1] at hconstructed
  refine Target.collector_iff hconstructed (fun hfed => ?_) fun hfed => ?_
  · have hdesign : s.design.hasDataSources = true := hfed
    rw [dataSources_section hparts hfed, typeNames_dataSources hdesign, templateTypes, if_pos hdesign]
    cases s.design.usesSystemMetrics <;> decide
  · rw [Target.dataSources_of_unfed hparts hfed]
    exact declaredNames_empty typeName?_nil

/-- The root of the library declares the modules of the project. -/
theorem moduleNames_lib {p : Project}
    (hfiles : p.files = Target.ratatui.modularFiles s parts ++ Target.ratatui.furtherFiles s) :
    p.namesIn "src/lib.rs" moduleNames = emittedModules p := by
  have hlib : p.file? "src/lib.rs" = some ⟨"src/lib.rs", "rust", false, moduleIndex s⟩ := by
    rw [Project.file?, hfiles, Target.modularFiles]
    cases s.hasDataSources <;> rfl
  have hfilenames : p.filenames = ["src/main.rs", "src/widgets.rs"] ++
      ((if s.hasDataSources then ["src/data_sources.rs"] else []) ++ ["src/lib.rs", "Cargo.toml", "README.md"]) := by
    rw [Project.filenames, hfiles, Target.modularFiles]
    cases s.hasDataSources <;> rfl
  rw [Project.namesIn_of_file? hlib, moduleNames_moduleIndex, emittedModules, hfilenames]
  cases s.hasDataSources <;> decide

/-- **The modules of a project link.** -/
theorem links {p : Project} (hparts : Target.ratatui.sections s = .ok parts)
    (hwidgets : s.behaviors.map (·.widget) = s.design.widgets)
    (hfiles : p.files = Target.ratatui.modularFiles s parts ++ Target.ratatui.furtherFiles s) :
    Links p s.design parts := by
  have hnamed : Target.ratatui.NamesFiles := Target.namesFiles_ofFramework .ratatui
  obtain ⟨happ, hwidgetsFile, hsourcesFile⟩ := Target.file?_modular hnamed hfiles
  have htypes : s.behaviors.map Behavior.typeName = s.design.widgets.map fun w => Name.typeName w.id := by
    rw [← hwidgets, List.map_map]
    rfl
  have hused {module : List Char} (hmodule : module ∈ [widgetsModule, sourcesModule]) :
      p.namesIn "src/main.rs" (usedNames module) = usedNames module (useDeclarations (fileUses s .app)) :=
    (Project.namesIn_of_file? happ _).trans (used_appFile hparts hmodule)
  have husesWidgets (name : String) : name ∈ p.namesIn "src/main.rs" (usedNames widgetsModule) ↔
      name ∈ "DashboardWidget" :: s.behaviors.map Behavior.typeName := by
    rw [hused List.mem_cons_self, mem_usedNames_fileUses List.mem_cons_self s, namesAt_widgets]
    exact fun name hname => isName_widgetItems s name ((namesAt_widgets s).1 hname)
  have husesSources (name : String) : name ∈ p.namesIn "src/main.rs" (usedNames sourcesModule) ↔
      name ∈ if s.hasDataSources then sourceItems s.design else [] := by
    have hmodule : sourcesModule ∈ [widgetsModule, sourcesModule] := List.mem_cons_of_mem _ (List.mem_singleton_self _)
    rw [hused hmodule, mem_usedNames_fileUses hmodule s, namesAt_sources]
    intro name hname
    rw [namesAt_sources] at hname
    split at hname
    · exact isName_sourceItems _ name hname
    · cases hname
  constructor
  · rw [← htypes]
    exact husesWidgets
  · intro name hname
    have hpublic : p.namesIn "src/widgets.rs" publicNames = publicNames _ := Project.namesIn_of_file? hwidgetsFile _
    rw [hpublic]
    exact mem_publicNames_widgetsFile hparts false name ((husesWidgets name).1 hname)
  · exact husesSources
  · intro name hname
    rw [husesSources] at hname
    split at hname
    · rename_i hfed
      rw [if_pos hfed] at hsourcesFile
      have hpublic : p.namesIn "src/data_sources.rs" publicNames = publicNames _ :=
        Project.namesIn_of_file? hsourcesFile _
      rw [hpublic]
      exact mem_publicNames_sourcesFile hparts hfed false name hname
    · cases hname
  · exact moduleNames_lib hfiles
  · exact constructed_iff_declared hparts

end Scenes

end DashboardCompiler.Ratatui
