import DashboardCompiler.Proofs.Target.Ratatui.Code
import DashboardCompiler.Proofs.Target.Types
import DashboardCompiler.Target.All

/-!
# Types of Ratatui programs

Structs, enums and traits, public or not, that stand at the start of a line. Methods and fields are indented,
and implementations declare no type.
-/

namespace DashboardCompiler.Ratatui

open Code Text

def typeKeywords : List (List Char) :=
  [['s', 't', 'r', 'u', 'c', 't', ' '], ['e', 'n', 'u', 'm', ' '], ['u', 'n', 'i', 'o', 'n', ' '],
   ['t', 'r', 'a', 'i', 't', ' '], ['t', 'y', 'p', 'e', ' ']]

/-- What opens the declaration of a type. -/
def typeOpenings : List (List Char) := typeKeywords ++ typeKeywords.map (['p', 'u', 'b', ' '] ++ ·)

/-- The name of the type that a line declares. -/
def typeName? : List Char → Option (List Char) := declaredName? typeOpenings

/-- The types that the templates declare. -/
def templateTypes (d : Design) : TemplateTypes where
  helpers := ["DashboardWidget", "Rng"]
  dataSources :=
    if d.hasDataSources then
      ["SourceConfig", "MetricSource", "DataSourceUpdater"] ++
        if d.usesSystemMetrics then ["SystemMetricsCollector"] else []
    else []
  app := ["Slot", "App"]

theorem inked_typeOpenings : Inked typeOpenings := by decide

theorem typeName?_skipsBlank : SkipsBlank typeName? := declaredName?_skipsBlank inked_typeOpenings

theorem typeName?_nil : typeName? [] = none := typeName?_skipsBlank [] rfl

/-- Lines of a program, of which those that are not fixed begin like nothing that is declared. -/
theorem typeNames_eq {items : List String} {fixed begun : List (List Char)} {names : List String}
    (h : Outline typeName? items fixed begun) (hbegun : begun.all (isSilent typeOpenings) = true)
    (hfixed : (fixed.filterMap typeName?).map String.ofList = names) : readNames typeName? items = names :=
  h.names_eq hbegun hfixed

theorem typeNames_joinLines {items : List String} (h : UnbrokenLines items) :
    declaredNames typeName? (joinLines items) = readNames typeName? items :=
  declaredNames_joinLines typeName?_nil h.oneLine

/-- Lines that all begin alike. -/
theorem typeNames_begun {cs : List Char} (hcs : isSilent typeOpenings cs = true) {items : List String}
    (h : ∀ line ∈ items, Begins cs line) : readNames typeName? items = [] :=
  readNames_begun (fun rest => declaredName?_append hcs rest) h

/-! ## Widgets -/

theorem typeNames_code (b : Behavior) : readNames typeName? (partsOf b).code = [] := by
  obtain ⟨w, simulate, state⟩ := b
  cases state
  all_goals
    apply typeNames_eq
    · repeat' constructor
    · decide
    · decide

theorem typeNames_init (b : Behavior) : readNames typeName? (partsOf b).init = [] := by
  obtain ⟨w, simulate, state⟩ := b
  cases state with
  | logViewer p seed =>
    dsimp only [partsOf, logViewerParts]
    split
    · rfl
    · apply typeNames_eq
      · repeat' constructor
      · decide
      · decide
  | _ => rfl

/-- The line that opens the struct of a widget. -/
theorem typeNames_struct (b : Behavior) :
    readNames typeName? ["pub struct " ++ b.typeName ++ " \x7b"] = [b.typeName] := by
  have hline : ("pub struct " ++ b.typeName ++ " \x7b").toList =
      ['p', 'u', 'b', ' ', 's', 't', 'r', 'u', 'c', 't', ' '] ++ (b.typeName.toList ++ ' ' :: ['\x7b']) := by
    rw [String.toList_append, String.toList_append, List.append_assoc, String.toList_ofList, String.toList_ofList]
  have hname : ∀ c ∈ b.typeName.toList, Name.isNameChar c = true := by
    intro c hc
    rw [Behavior.typeName, Name.typeName, String.toList_ofList] at hc
    exact Name.isNameChar_of_mem_typeChars hc
  have hread : typeName? ("pub struct " ++ b.typeName ++ " \x7b").toList = some b.typeName.toList := by
    rw [typeName?, hline]
    exact declaredName?_opening rfl (by rfl) hname (by decide)
  rw [readNames, List.filterMap_cons, hread]
  simp only [List.filterMap_nil, Option.map_some, String.ofList_toList]

theorem typeNames_constructorLines {init : List String} (hinit : readNames typeName? init = [])
    (fields : List Field) : readNames typeName? (constructorLines fields init) = [] := by
  have hinitial : ∀ line ∈ fields.map fun f => "            " ++ f.name ++ ": " ++ f.initial ++ ",",
      Begins [' ', ' ', ' ', ' ', ' ', ' ', ' ', ' ', ' ', ' ', ' ', ' '] line :=
    List.forall_mem_map.2 fun _ _ => .append (.append (.append (.append .whole)))
  have hassigned := typeNames_begun (by decide) hinitial
  unfold constructorLines
  generalize fields.map _ = initial at hassigned
  split
  all_goals
    simp only [List.append_assoc, List.cons_append, List.nil_append]
    apply typeNames_eq
    · repeat' first | apply Outline.silent hassigned | apply Outline.silent hinit | constructor
    · decide
    · decide

theorem typeNames_updateLines {body : List String} (h : readNames typeName? body = []) :
    readNames typeName? (updateLines body) = [] := by
  unfold updateLines
  split
  · apply typeNames_eq
    · repeat' constructor
    · decide
    · decide
  · simp only [List.cons_append, List.nil_append]
    apply typeNames_eq
    · repeat' first | apply Outline.silent h | constructor
    · decide
    · decide

theorem typeNames_tickLines {parts : StructParts} (h : readNames typeName? (parts.tick.getD []) = [])
    (b : Behavior) : readNames typeName? (tickLines (parts.timer? b)) = [] := by
  cases htimer : parts.timer? b with
  | none =>
    apply typeNames_eq
    · repeat' constructor
    · decide
    · decide
  | some timer =>
    obtain ⟨ms, body⟩ := timer
    rw [StructParts.tick_of_timer? htimer, Option.getD_some] at h
    unfold tickLines
    dsimp only
    split
    all_goals
      simp only [List.cons_append, List.nil_append]
      apply typeNames_eq
      · repeat' first | apply Outline.silent h | constructor
      · decide
      · decide

theorem typeNames_structLines (b : Behavior) (comments : Bool) :
    readNames typeName? (structLines b comments (partsOf b)) = [b.typeName] := by
  have hcode := typeNames_code b
  have hinit := typeNames_init b
  simp only [StructParts.code, readNames_append, List.append_eq_nil_iff] at hcode
  obtain ⟨⟨⟨hrender, hupdate⟩, htick⟩, hmethods⟩ := hcode
  generalize partsOf b = parts at *
  have hcomment : readNames typeName? (if comments then
      ["/// " ++ parts.description ++ " widget `" ++ commentText b.widget.id ++ "`."] else []) = [] := by
    cases comments
    all_goals
      apply typeNames_eq
      · repeat' constructor
      · decide
      · decide
  have hfields : readNames typeName?
      ((allFields b parts).map fun f => "    " ++ f.name ++ ": " ++ f.type ++ ",") = [] :=
    typeNames_begun (by decide) (List.forall_mem_map.2 fun _ _ => .append (.append (.append (.append .whole))))
  have hconstructor := typeNames_constructorLines hinit (allFields b parts)
  have hmore : readNames typeName? (if parts.methods.isEmpty then [] else "" :: parts.methods) = [] := by
    split
    · rfl
    · rw [readNames_cons_empty typeName?_nil]
      exact hmethods
  have hupdateLines := typeNames_updateLines hupdate
  have htickLines := typeNames_tickLines htick b
  simp only [structLines, List.append_assoc]
  rw [readNames_append, readNames_append, hcomment, typeNames_struct, List.nil_append]
  refine congrArg (b.typeName :: ·) ?_
  simp only [List.cons_append, List.nil_append]
  apply typeNames_eq
  · repeat' first
      | apply Outline.silent hfields
      | apply Outline.silent hconstructor
      | apply Outline.silent hmore
      | apply Outline.silent hrender
      | apply Outline.silent hupdateLines
      | apply Outline.silent htickLines
      | constructor
  · decide
  · decide

theorem typeNames_widget (b : Behavior) (o : Options) : declaredNames typeName? (widget b o) = [b.typeName] := by
  rw [declaredNames, lines_widget, typeNames_structLines]

/-! ## Shared code -/

theorem typeNames_helpers : declaredNames typeName? helpers = ["DashboardWidget", "Rng"] := by
  rw [helpers, typeNames_joinLines unbroken_helpers]
  apply typeNames_eq
  · repeat' constructor
  · decide
  · decide

/-! ## Data sources -/

theorem typeNames_sourceTable (d : Design) : declaredNames typeName? (sourceTable d) = [] := by
  have hrows : readNames typeName? (d.referencedSources.map sourceRow) = [] :=
    typeNames_begun (by decide) (List.forall_mem_map.2 fun _ _ => .append (.append (.append (.append .whole))))
  rw [sourceTable, typeNames_joinLines (unbroken_sourceTable d)]
  generalize d.referencedSources.map sourceRow = rows at hrows
  simp only [List.cons_append, List.nil_append]
  apply typeNames_eq
  · repeat' first | apply Outline.silent hrows | constructor
  · decide
  · decide

theorem typeNames_constants (comments : Bool) : readNames typeName? (constants comments) = [] := by
  cases comments
  all_goals
    apply typeNames_eq
    · repeat' constructor
    · decide
    · decide

theorem typeNames_dataSources {d : Design} (hfed : d.hasDataSources = true) (comments : Bool) :
    declaredNames typeName? (dataSources d comments) = (templateTypes d).dataSources := by
  have hfixed := unbroken_fixed
  simp only [UnbrokenLines, List.forall_mem_append] at hfixed
  obtain ⟨⟨htypes, hcollector⟩, hupdater⟩ := hfixed
  have htypeNames : readNames typeName? sourceTypes = ["SourceConfig"] := by
    apply typeNames_eq
    · repeat' constructor
    · decide
    · decide
  have hcollectorNames : readNames typeName? collector = ["SystemMetricsCollector"] := by
    apply typeNames_eq
    · repeat' constructor
    · decide
    · decide
  have hupdaterNames : readNames typeName? updater = ["MetricSource", "DataSourceUpdater"] := by
    apply typeNames_eq
    · repeat' constructor
    · decide
    · decide
  rw [dataSources, declaredNames_joinWith (separates_blankLine typeName?_nil) typeName?_nil]
  cases hmetrics : d.usesSystemMetrics <;>
    simp [templateTypes, hfed, hmetrics, typeNames_joinLines (unbroken_constants comments), typeNames_constants,
      typeNames_joinLines htypes, htypeNames, typeNames_sourceTable, typeNames_joinLines hcollector,
      hcollectorNames, typeNames_joinLines hupdater, hupdaterNames]

/-! ## The application -/

theorem typeNames_constantLines (s : Scene) : readNames typeName? (constantLines s) = [] := by
  unfold constantLines
  cases s.hasDataSources
  all_goals
    apply typeNames_eq
    · repeat' constructor
    · decide
    · decide

theorem typeNames_structureLines (s : Scene) : readNames typeName? (structureLines s) = ["Slot", "App"] := by
  unfold structureLines
  cases s.hasDataSources
  all_goals
    apply typeNames_eq
    · repeat' constructor
    · decide
    · decide

theorem typeNames_appLines (s : Scene) : readNames typeName? (appLines s) = [] := by
  have hslots : readNames typeName?
      ((s.behaviors.flatMap (slot s.design.settings.theme)).map ("                " ++ ·)) = [] :=
    typeNames_begun (by decide) (List.forall_mem_map.2 fun _ _ => .append .whole)
  unfold appLines
  generalize (s.behaviors.flatMap _).map _ = slots at hslots
  cases s.hasDataSources
  all_goals
    simp only [List.append_assoc, List.cons_append, List.nil_append, Bool.false_eq_true, ↓reduceIte]
    apply typeNames_eq
    · repeat' first | apply Outline.silent hslots | constructor
    · decide
    · decide

/-- The functions below the application declare no type. -/
theorem typeNames_functions (sources scaled : Bool) :
    readNames typeName? ((if sources then spawnLines else []) ++ (placeLines scaled ++ runLines sources)) = [] := by
  cases sources <;> cases scaled
  all_goals
    apply typeNames_eq
    · repeat' constructor
    · decide
    · decide

theorem typeNames_app (s : Scene) : declaredNames typeName? (app s) = ["Slot", "App"] := by
  have hcomment : readNames typeName? (if s.options.includeComments then ["// Application"] else []) = [] := by
    cases s.options.includeComments
    all_goals
      apply typeNames_eq
      · repeat' constructor
      · decide
      · decide
  have hfunctions := typeNames_functions s.hasDataSources s.design.settings.autoResize
  rw [readNames_append, readNames_append] at hfunctions
  rw [app, typeNames_joinLines (unbroken_app s)]
  simp only [readNames_append, List.append_assoc, hcomment, typeNames_constantLines, typeNames_structureLines,
    typeNames_appLines, hfunctions, List.nil_append, List.append_nil]

theorem typeNames_entryPoint : declaredNames typeName? entryPoint = [] := by
  rw [entryPoint, typeNames_joinLines]
  · apply typeNames_eq
    · repeat' constructor
    · decide
    · decide
  · apply Spelled.unbrokenLines
    · repeat constructor
    · decide

/-! ## Headers -/

/-- Every path and every name of some use declarations. -/
def useTexts (uses : List Use) : List String := uses.flatMap fun u => u.path :: u.names

theorem mem_useTexts {uses : List Use} {path name : String} (h : name ∈ namesAt uses path) :
    name ∈ useTexts uses := by
  rw [namesAt, List.mem_mergeSort, List.mem_eraseDups, List.mem_flatMap] at h
  obtain ⟨u, hu, hname⟩ := h
  exact List.mem_flatMap.2 ⟨u, (List.mem_filter.1 hu).1, List.mem_cons_of_mem _ hname⟩

theorem unbroken_useLine {uses : List Use} (h : UnbrokenLines (useTexts uses)) {path : String}
    (hpath : path ∈ uses.map (·.path)) : Unbroken (useLine uses path) := by
  have huse : Plain "use " := plain_ofList (by decide)
  have hcolons : Plain "::" := plain_ofList (by decide)
  have hend : Plain ";" := plain_ofList (by decide)
  have hopening : Plain "::\x7b" := plain_ofList (by decide)
  have hclosing : Plain "\x7d;" := plain_ofList (by decide)
  have hpathUnbroken : Unbroken path := by
    obtain ⟨u, hu, rfl⟩ := List.mem_map.1 hpath
    exact h _ (List.mem_flatMap.2 ⟨u, hu, List.mem_cons_self⟩)
  have hnames : ∀ name ∈ namesAt uses path, Unbroken name := fun name hname => h name (mem_useTexts hname)
  have hstart := huse.piece.unbroken.append hpathUnbroken
  unfold useLine
  split
  · rename_i name hname
    rw [hname, List.forall_mem_singleton] at hnames
    exact ((hstart.append hcolons.piece.unbroken).append hnames).append hend.piece.unbroken
  · exact ((hstart.append hopening.piece.unbroken).append
      (unbroken_joinWith plain_comma.piece.unbroken hnames)).append hclosing.piece.unbroken

theorem begins_useLine (uses : List Use) (path : String) : Begins ['u', 's', 'e', ' '] (useLine uses path) := by
  unfold useLine
  split
  · exact .append (.append (.append (.append .whole)))
  · exact .append (.append (.append (.append .whole)))

theorem typeNames_useDeclarations {uses : List Use} (h : UnbrokenLines (useTexts uses)) :
    declaredNames typeName? (useDeclarations uses) = [] := by
  have hblock {block : List String} (hpaths : ∀ path ∈ block, path ∈ uses.map (·.path)) :
      declaredNames typeName? (joinLines (block.map (useLine uses))) = [] := by
    rw [typeNames_joinLines (List.forall_mem_map.2 fun path hpath => unbroken_useLine h (hpaths path hpath))]
    exact typeNames_begun (by decide) (List.forall_mem_map.2 fun path _ => begins_useLine uses path)
  rw [useDeclarations, declaredNames_joinWith (separates_blankLine typeName?_nil) typeName?_nil,
    List.flatMap_eq_nil_iff]
  intro text htext
  obtain ⟨block, hkept, rfl⟩ := List.mem_map.1 htext
  refine hblock fun path hpath => ?_
  have hsorted : path ∈ ((uses.map (·.path)).eraseDups.mergeSort fun a b => decide (a ≤ b)) := by
    rcases List.mem_pair.1 (List.mem_filter.1 hkept).1 with rfl | rfl
    · exact (List.mem_filter.1 hpath).1
    · exact (List.mem_filter.1 hpath).1
  rwa [List.mem_mergeSort, List.mem_eraseDups] at hsorted

theorem unbroken_crateUses (s : Scene) : UnbrokenLines (useTexts (crateUses s)) := by
  have hcrate : Plain crateName := plain_ofList (by decide)
  have hwidgets : Plain "::widgets" := plain_ofList (by decide)
  have hsources : Plain "::data_sources" := plain_ofList (by decide)
  have hnames : UnbrokenLines (s.behaviors.map Behavior.typeName) :=
    List.forall_mem_map.2 fun b _ => (Name.plain_typeName b.widget.id).piece.unbroken
  have hitems : UnbrokenLines (["data_source_configs", "DataSourceUpdater", "MetricSource"] ++
      if s.design.usesSystemMetrics then ["SystemMetricsCollector"] else []) := by
    cases s.design.usesSystemMetrics
    all_goals
      apply Spelled.unbrokenLines
      · repeat constructor
      · decide
  unfold useTexts crateUses
  rw [List.flatMap_append, List.flatMap_singleton]
  refine .append (.cons (hcrate.append hwidgets).piece.unbroken (.cons (tidy_ofList (by decide)).unbroken hnames)) ?_
  split
  · rw [List.flatMap_singleton]
    exact .cons (hcrate.append hsources).piece.unbroken hitems
  · exact .nil

theorem unbroken_fileUses (s : Scene) (role : FileRole) : UnbrokenLines (useTexts (fileUses s role)) := by
  have hfixed : UnbrokenLines (useTexts (appUses s ++ widgetUses ++ sourceUses s.design)) := by
    unfold appUses sourceUses
    cases s.hasDataSources <;> cases s.design.usesSystemMetrics
    all_goals
      apply Spelled.unbrokenLines
      · repeat constructor
      · decide
  simp only [useTexts, UnbrokenLines, List.flatMap_append, List.forall_mem_append] at hfixed
  obtain ⟨⟨happ, hwidgets⟩, hsources⟩ := hfixed
  cases role with
  | single =>
    unfold useTexts fileUses
    rw [List.flatMap_append, List.flatMap_append]
    refine .append (.append happ hwidgets) ?_
    split
    · exact hsources
    · exact .nil
  | app =>
    unfold useTexts fileUses
    rw [List.flatMap_append]
    exact .append happ (unbroken_crateUses s)
  | widgets => exact hwidgets
  | dataSources => exact hsources

/-- The lines above the use declarations. -/
def banner (s : Scene) (role : FileRole) : List String :=
  (if s.options.includeComments then
    ["// " ++ commentText s.design.metadata.name ++ ": " ++ replaceAll (Named.name role) "_" " " ++ " module.",
     "// Generated by tuidesigner. Edit the design and regenerate instead.",
     ""] else []) ++
  (if hasHelpers role then ["#![allow(dead_code)]"] else [])

theorem header_eq (s : Scene) (role : FileRole) :
    header s role = joinSections [joinLines (banner s role), useDeclarations (fileUses s role),
      if hasHelpers role then helpers else ""] "\n\n" := rfl

theorem unbroken_banner (s : Scene) (role : FileRole) : UnbrokenLines (banner s role) := by
  have hslashes : Plain "// " := plain_ofList (by decide)
  have hend : Plain " module." := plain_ofList (by decide)
  have hrole : Plain (replaceAll (Named.name role) "_" " ") := by
    cases role <;> exact plain_ofList (by decide)
  have hcomment := (((hslashes.piece.unbroken.append (unbroken_commentText s.design.metadata.name)).append
    plain_colon.piece.unbroken).append hrole.piece.unbroken).append hend.piece.unbroken
  refine .append (.optional (.cons hcomment ?_)) (.optional (.cons (tidy_ofList (by decide)).unbroken .nil))
  exact .cons (tidy_ofList (by decide)).unbroken (.cons (tidy_ofList (by decide)).unbroken .nil)

theorem typeNames_banner (s : Scene) (role : FileRole) : declaredNames typeName? (joinLines (banner s role)) = [] := by
  rw [typeNames_joinLines (unbroken_banner s role), banner]
  cases s.options.includeComments <;> cases hasHelpers role
  all_goals
    apply typeNames_eq
    · repeat' constructor
    · decide
    · decide

theorem typeNames_header (s : Scene) (role : FileRole) :
    declaredNames typeName? (header s role) = (templateTypes s.design).inHeader role := by
  have hempty : declaredNames typeName? "" = [] := declaredNames_empty typeName?_nil
  rw [header_eq, declaredNames_joinSections (separates_blankLine typeName?_nil) typeName?_skipsBlank]
  simp only [List.flatMap_cons, List.flatMap_nil, typeNames_banner,
    typeNames_useDeclarations (unbroken_fileUses s role), List.nil_append, List.append_nil]
  cases role with
  | single => exact typeNames_helpers
  | widgets => exact typeNames_helpers
  | app => exact hempty
  | dataSources => exact hempty

theorem typeNames_moduleIndex (s : Scene) : declaredNames typeName? (moduleIndex s) = [] := by
  have hunbroken : UnbrokenLines (["pub mod widgets;"] ++ if s.hasDataSources then ["pub mod data_sources;"] else []) :=
    .append (.cons (tidy_ofList (by decide)).unbroken .nil) (.optional (.cons (tidy_ofList (by decide)).unbroken .nil))
  rw [moduleIndex, declaredNames_append_feed typeName?_nil, typeNames_joinLines hunbroken]
  cases s.hasDataSources
  all_goals
    apply typeNames_eq
    · repeat' constructor
    · decide
    · decide

theorem declares : Target.ratatui.Declares typeName? templateTypes := by
  constructor
  · rfl
  · exact typeName?_skipsBlank
  · intro b o
    dsimp only [Target.ratatui]
    exact typeNames_widget b o
  · intro s text hfed htext
    dsimp only [Target.ratatui] at htext
    rw [← Except.ok.inj htext]
    exact typeNames_dataSources hfed _
  · intro s hfed
    have hnone : s.design.hasDataSources = false := hfed
    simp [templateTypes, hnone]
  · intro s text htext
    dsimp only [Target.ratatui] at htext
    rw [← Except.ok.inj htext]
    exact typeNames_app s
  · intro s
    dsimp only [Target.ratatui]
    exact typeNames_entryPoint
  · intro s role body
    dsimp only [Target.ratatui]
    exact typeNames_header s role
  · exact fun _ _ => rfl
  · intro s entry hentry
    dsimp only [Target.ratatui] at hentry
    rw [List.mem_singleton.1 hentry]
    exact typeNames_moduleIndex s

end DashboardCompiler.Ratatui
