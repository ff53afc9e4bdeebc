import DashboardCompiler.Proofs.Target.Headers
import DashboardCompiler.Proofs.Target.Types

/-!
# Types of Bubble Tea programs

The templates are written with spaces and turned to tabs as a whole, which moves no declaration away from the
start of its line and none to it.
-/

namespace DashboardCompiler.BubbleTea

open Code Text

/-- What opens the declaration of a type. -/
def typeOpenings : List (List Char) := [['t', 'y', 'p', 'e', ' ']]

/-- The name of the type that a line declares. -/
def typeName? : List Char → Option (List Char) := declaredName? typeOpenings

/-- The types that the templates declare. -/
def templateTypes (d : Design) : TemplateTypes where
  helpers := ["DashboardWidget", "bar"]
  dataSources :=
    if d.hasDataSources then
      ["SourceConfig", "NamedSource"] ++
        (if d.usesSystemMetrics then ["SystemMetricsCollector"] else []) ++
        ["MetricSource", "DataSourceUpdater"]
    else []
  app := ["widgetSlot", "animationMsg"] ++ (if d.hasDataSources then ["refreshMsg", "dataMsg"] else []) ++ ["model"]

theorem inked_typeOpenings : Inked typeOpenings := by decide

theorem typeName?_skipsBlank : SkipsBlank typeName? := declaredName?_skipsBlank inked_typeOpenings

/-- The name of the type that a line of a template declares. -/
def templateName? : List Char → Option (List Char) := tabbedName? typeOpenings

theorem templateName?_nil : templateName? [] = none := by decide

theorem typeNames_tabIndent (s : String) : declaredNames typeName? (tabIndent s) = declaredNames templateName? s :=
  declaredNames_tabIndent s

/-- Lines of a template, of which those that are not fixed begin like nothing that is declared. -/
theorem templateNames_eq {items : List String} {fixed begun : List (List Char)} {names : List String}
    (h : Outline templateName? items fixed begun) (hbegun : begun.all (isSilentTabbed typeOpenings) = true)
    (hfixed : (fixed.filterMap templateName?).map String.ofList = names) : readNames templateName? items = names :=
  h.tabbedNames_eq inked_typeOpenings hbegun hfixed

theorem templateNames_joinLines {items : List String} (h : TidyLines items) :
    declaredNames templateName? (joinLines items) = readNames templateName? items :=
  declaredNames_joinLines templateName?_nil fun line hline => (h line hline).unbroken.oneLine

/-- Lines that all begin alike. -/
theorem templateNames_begun {cs : List Char} (hcs : isSilentTabbed typeOpenings cs = true) {items : List String}
    (h : ∀ line ∈ items, Begins cs line) : readNames templateName? items = [] :=
  readNames_begun (fun rest => declaredName?_tabbed inked_typeOpenings hcs rest) h

/-! ## Widgets -/

/-- How lines begin that belong to a declaration or close it, are comments, or declare methods. -/
def innerOpenings : List (List Char) :=
  [[' ', ' ', ' ', ' '], ['\x7d'], ['/', '/'], ['f', 'u', 'n', 'c', ' ', '(']]

def isInner (cs : List Char) : Bool := innerOpenings.any (·.isPrefixOf cs)

/-- Readers to which such lines are nothing. -/
structure SkipsInner (read : List Char → Option (List Char)) : Prop where
  empty : read [] = none
  inner : ∀ opening ∈ innerOpenings, ∀ rest, read (opening ++ rest) = none

namespace SkipsInner

variable {read : List Char → Option (List Char)} (hread : SkipsInner read)

include hread

theorem append {cs : List Char} (h : isInner cs = true) (rest : List Char) : read (cs ++ rest) = none := by
  obtain ⟨opening, hopening, hbegins⟩ := List.any_eq_true.1 h
  obtain ⟨more, rfl⟩ := List.isPrefixOf_iff_prefix.1 hbegins
  rw [List.append_assoc]
  exact hread.inner opening hopening (more ++ rest)

theorem readNames_eq_nil {items : List String} {fixed begun : List (List Char)} (h : Outline read items fixed begun)
    (hfixed : (fixed.all fun cs => cs.isEmpty || isInner cs) = true) (hbegun : begun.all isInner = true) :
    readNames read items = [] := by
  have hnone : fixed.filterMap read = [] := by
    refine List.filterMap_eq_nil_iff.2 fun cs hcs => ?_
    have hcase := List.all_eq_true.1 hfixed cs hcs
    rw [Bool.or_eq_true, List.isEmpty_iff] at hcase
    rcases hcase with rfl | hinner
    · exact hread.empty
    · rw [← List.append_nil cs]
      exact hread.append hinner []
  rw [h.readNames_eq fun cs hcs rest => hread.append (List.all_eq_true.1 hbegun cs hcs) rest, hnone, List.map_nil]

theorem readNames_begun {cs : List Char} (hcs : isInner cs = true) {items : List String}
    (h : ∀ line ∈ items, Begins cs line) : readNames read items = [] :=
  Code.readNames_begun (hread.append hcs) h

theorem readNames_code (b : Behavior) (name : String) : readNames read ((partsOf b).code name) = [] := by
  obtain ⟨w, simulate, state⟩ := b
  cases state
  all_goals
    apply hread.readNames_eq_nil
    · repeat' constructor
    · decide
    · decide

theorem readNames_tickLines {parts : StructParts} (h : readNames read (parts.tick.getD []) = []) (name : String)
    (b : Behavior) : readNames read (tickLines name parts b) = [] := by
  unfold tickLines
  split
  · rename_i body ms hbody hms
    rw [hbody, Option.getD_some] at h
    split
    all_goals
      simp only [List.cons_append, List.nil_append]
      apply hread.readNames_eq_nil
      · repeat' first | apply Outline.silent h | constructor
      · decide
      · decide
  · apply hread.readNames_eq_nil
    · repeat' constructor
    · decide
    · decide

/-- All that a widget can declare is its struct and its constructor. -/
theorem readNames_structLines (b : Behavior) (comments : Bool) :
    readNames read (structLines b comments (partsOf b)) =
      readNames read ["type " ++ b.typeName ++ " struct \x7b"] ++
        readNames read ["func New" ++ b.typeName ++ "() *" ++ b.typeName ++ " \x7b"] := by
  have hcode := hread.readNames_code b b.typeName
  simp only [StructParts.code, readNames_append, List.append_eq_nil_iff] at hcode
  obtain ⟨⟨⟨⟨hrender, hupdate⟩, htick⟩, hinit⟩, hmethods⟩ := hcode
  generalize partsOf b = parts at *
  have hcomment : readNames read (if comments then
      ["// " ++ b.typeName ++ " is the " ++ parts.description ++ " widget " ++
        commentText b.widget.id ++ "."] else []) = [] := by
    cases comments
    all_goals
      apply hread.readNames_eq_nil
      · repeat' constructor
      · decide
      · decide
  have hdeclared (rows : List (String × String)) : readNames read ((aligned rows).map ("    " ++ ·)) = [] :=
    hread.readNames_begun (by decide) (List.forall_mem_map.2 fun _ _ => .append .whole)
  have hassigned (rows : List (String × String)) :
      readNames read ((aligned rows).map fun line => "        " ++ line ++ ",") = [] :=
    hread.readNames_begun (by decide) (List.forall_mem_map.2 fun _ _ => .append (.append .whole))
  have hclosing : read "\x7d".toList = none := hread.inner ['\x7d'] (by decide) []
  have htickLines := hread.readNames_tickLines htick b.typeName b
  have hmore : readNames read (if (parts.methods b.typeName).isEmpty then []
      else "" :: parts.methods b.typeName) = [] := by
    split
    · rfl
    · rw [readNames_cons_empty hread.empty]
      exact hmethods
  -- The empty end makes a run of the methods, too.
  rw [← List.append_nil (structLines b comments parts)]
  simp only [structLines, List.append_assoc]
  rw [readNames_append, readNames_append, hcomment, List.nil_append]
  refine congrArg (readNames read ["type " ++ b.typeName ++ " struct \x7b"] ++ ·) ?_
  rw [readNames_append, hdeclared, List.nil_append]
  simp only [List.cons_append, List.nil_append]
  rw [readNames_cons_none hclosing, readNames_cons_empty hread.empty, readNames_cons]
  refine List.append_right_eq_self.2 ?_
  apply hread.readNames_eq_nil
  · repeat' first
      | apply Outline.silent (hassigned _)
      | apply Outline.silent hinit
      | apply Outline.silent hrender
      | apply Outline.silent hupdate
      | apply Outline.silent htickLines
      | apply Outline.silent hmore
      | constructor
  · decide
  · decide

end SkipsInner

theorem skipsInner_templateName? : SkipsInner templateName? where
  empty := templateName?_nil
  inner opening hopening rest := by
    have hsilent : ∀ opening ∈ innerOpenings, isSilentTabbed typeOpenings opening = true := by decide
    exact declaredName?_tabbed inked_typeOpenings (hsilent opening hopening) rest

theorem isNameChar_of_mem_typeName {b : Behavior} : ∀ c ∈ b.typeName.toList, Name.isNameChar c = true := by
  intro c hc
  rw [Behavior.typeName, Name.typeName, String.toList_ofList] at hc
  exact Name.isNameChar_of_mem_typeChars hc

/-- The line that opens the struct of a widget. -/
theorem templateNames_struct (b : Behavior) :
    readNames templateName? ["type " ++ b.typeName ++ " struct \x7b"] = [b.typeName] := by
  have hline : tabIndentLine ("type " ++ b.typeName ++ " struct \x7b").toList =
      ['t', 'y', 'p', 'e', ' '] ++ (b.typeName.toList ++ ' ' :: ['s', 't', 'r', 'u', 'c', 't', ' ', '\x7b']) := by
    rw [String.toList_append, String.toList_append, List.append_assoc, String.toList_ofList, String.toList_ofList]
    exact tabIndentLine_of_ne (by decide) _
  have hread : templateName? ("type " ++ b.typeName ++ " struct \x7b").toList = some b.typeName.toList := by
    rw [templateName?, tabbedName?, hline]
    exact declaredName?_opening rfl (by rfl) isNameChar_of_mem_typeName (by decide)
  rw [readNames, List.filterMap_cons, hread]
  simp only [List.filterMap_nil, Option.map_some, String.ofList_toList]

/-- The line that opens the constructor of a widget. -/
theorem templateNames_constructor (b : Behavior) :
    readNames templateName? ["func New" ++ b.typeName ++ "() *" ++ b.typeName ++ " \x7b"] = [] := by
  apply templateNames_eq
  · repeat' constructor
  · decide
  · decide

theorem typeNames_widget (b : Behavior) (o : Options) : declaredNames typeName? (widget b o) = [b.typeName] := by
  rw [widget, typeNames_tabIndent, templateNames_joinLines (alike_structLines b o.includeComments).left,
    skipsInner_templateName?.readNames_structLines, templateNames_struct, templateNames_constructor, List.append_nil]

/-! ## Shared code -/

theorem typeNames_helpers : declaredNames typeName? helpers = ["DashboardWidget", "bar"] := by
  have hfixed := tidy_fixed
  simp only [TidyLines, List.forall_mem_append] at hfixed
  obtain ⟨⟨⟨⟨hfunctions, -⟩, -⟩, -⟩, -⟩ := hfixed
  rw [helpers, typeNames_tabIndent, templateNames_joinLines (tidy_helperConstants.append hfunctions)]
  apply templateNames_eq
  · repeat' constructor
  · decide
  · decide +kernel

/-! ## Data sources -/

theorem begins_sourceRow {source : DataSource} {row : String} (h : sourceRow source = .ok row) :
    Begins [' ', ' ', ' ', ' ', ' ', ' ', ' ', ' ', '\x7b', 'I', 'D', ':', ' '] row := by
  obtain ⟨fields, -, rfl⟩ := sourceRow_ok h
  exact .append (.append (.append (.append .whole)))

theorem templateNames_sourceTable {d : Design} {table : String} (h : sourceTable d = .ok table) :
    declaredNames templateName? table = [] := by
  obtain ⟨rows, hrows, h⟩ := bind_ok_iff.1 h
  have hrow := forall₂_of_mapM_ok hrows
  have hopening : TidyLines ["func dataSourceConfigs() []NamedSource \x7b", "    return []NamedSource\x7b"] :=
    .cons (tidy_ofList (by decide)) (.cons (tidy_ofList (by decide)) .nil)
  have hclosing : TidyLines ["    \x7d", "\x7d"] :=
    .cons (tidy_ofList (by decide)) (.cons (tidy_ofList (by decide)) .nil)
  have htidy : TidyLines rows := forall_right_of_forall₂ hrow fun _ _ hok => (piece_sourceRow hok.2).tidy
  have hrowNames : readNames templateName? rows = [] :=
    templateNames_begun (by decide) (forall_right_of_forall₂ hrow fun _ _ hok => begins_sourceRow hok.2)
  rw [← Except.ok.inj h, templateNames_joinLines ((hopening.append htidy).append hclosing)]
  simp only [List.cons_append, List.nil_append]
  apply templateNames_eq
  · repeat' first | apply Outline.silent hrowNames | constructor
  · decide
  · decide

theorem templateNames_constants (comments : Bool) : readNames templateName? (constants comments) = [] := by
  cases comments
  all_goals
    apply templateNames_eq
    · repeat' constructor
    · decide
    · decide

theorem typeNames_dataSources {d : Design} (hfed : d.hasDataSources = true) {comments : Bool} {text : String}
    (h : dataSources d comments = .ok text) :
    declaredNames typeName? text = (templateTypes d).dataSources := by
  have hfixed := tidy_fixed
  simp only [TidyLines, List.forall_mem_append] at hfixed
  obtain ⟨⟨⟨⟨-, htypes⟩, hcollector⟩, hupdater⟩, -⟩ := hfixed
  obtain ⟨table, htable, h⟩ := bind_ok_iff.1 h
  have htypeNames : readNames templateName? sourceTypes = ["SourceConfig", "NamedSource"] := by
    apply templateNames_eq
    · repeat' constructor
    · decide
    · decide
  have hcollectorNames : readNames templateName? collector = ["SystemMetricsCollector"] := by
    apply templateNames_eq
    · repeat' constructor
    · decide
    · decide
  have hupdaterNames : readNames templateName? updater = ["MetricSource", "DataSourceUpdater"] := by
    apply templateNames_eq
    · repeat' constructor
    · decide
    · decide +kernel
  rw [← Except.ok.inj h, typeNames_tabIndent,
    declaredNames_joinWith (separates_blankLine templateName?_nil) templateName?_nil]
  cases hmetrics : d.usesSystemMetrics <;>
    simp [templateTypes, hfed, hmetrics, templateNames_joinLines (tidy_constants comments), templateNames_constants,
      templateNames_joinLines htypes, htypeNames, templateNames_sourceTable htable,
      templateNames_joinLines hcollector, hcollectorNames, templateNames_joinLines hupdater, hupdaterNames]

/-! ## The application -/

theorem templateNames_styleLines (theme : Theme) :
    readNames templateName? (styleLines theme) = ["widgetSlot", "animationMsg"] := by
  apply templateNames_eq
  · repeat' constructor
  · decide
  · decide

theorem templateNames_modelLines (s : Scene) :
    readNames templateName? (modelLines s) =
      (if s.hasDataSources then ["refreshMsg", "dataMsg"] else []) ++ ["model"] := by
  have hslots : readNames templateName? ((drawingOrder s).map fun b =>
      "            " ++ slot s.design.settings.theme b ++ ",") = [] :=
    templateNames_begun (by decide) (List.forall_mem_map.2 fun _ _ => .append (.append .whole))
  unfold modelLines
  generalize (drawingOrder s).map _ = slots at hslots
  cases s.hasDataSources <;> cases s.design.usesSystemMetrics
  all_goals
    simp only [List.append_assoc, List.cons_append, List.nil_append, Bool.false_eq_true, ↓reduceIte]
    apply templateNames_eq
    · repeat' first | apply Outline.silent hslots | constructor
    · decide
    · decide

/-- The functions below the model declare no type. -/
theorem templateNames_functions (s : Scene) :
    readNames templateName? (timerLines s ++ updateLines s ++ viewLines) = [] := by
  unfold timerLines updateLines
  cases s.hasDataSources
  all_goals
    apply templateNames_eq
    · repeat' constructor
    · decide
    · decide

/-- The lines of an application, before their indentation is by tabs. -/
theorem tidy_app (s : Scene) :
    TidyLines ((if s.options.includeComments then ["// Application"] else []) ++ styleLines s.design.settings.theme ++
      modelLines s ++ timerLines s ++ updateLines s ++ viewLines) := by
  have hfixed := tidy_fixed
  have happ := tidy_appLines s
  simp only [TidyLines, List.forall_mem_append] at hfixed happ
  obtain ⟨⟨hstyle, htimers⟩, hupdate⟩ := happ
  have hcomment : TidyLines (if s.options.includeComments then ["// Application"] else []) :=
    .optional (.cons (tidy_ofList (by decide)) .nil)
  exact ((((hcomment.append hstyle).append (alike_modelLines s).left).append htimers).append hupdate).append hfixed.2

theorem typeNames_app (s : Scene) : declaredNames typeName? (app s) = (templateTypes s.design).app := by
  have hcommentNames : readNames templateName? (if s.options.includeComments then ["// Application"] else []) = [] := by
    cases s.options.includeComments
    all_goals
      apply templateNames_eq
      · repeat' constructor
      · decide
      · decide
  have hfunctions := templateNames_functions s
  rw [readNames_append, readNames_append, List.append_eq_nil_iff, List.append_eq_nil_iff] at hfunctions
  obtain ⟨⟨htimerNames, hupdateNames⟩, hviewNames⟩ := hfunctions
  have hfed : s.design.hasDataSources = s.hasDataSources := rfl
  rw [app, typeNames_tabIndent, templateNames_joinLines (tidy_app s)]
  simp only [readNames_append, hcommentNames, templateNames_styleLines, templateNames_modelLines, htimerNames,
    hupdateNames, hviewNames, List.append_nil, List.nil_append, templateTypes, hfed, List.append_assoc]

theorem typeNames_entryPoint : declaredNames typeName? entryPoint = [] := by
  rw [entryPoint, typeNames_tabIndent, templateNames_joinLines]
  · apply templateNames_eq
    · repeat' constructor
    · decide
    · decide
  · apply Spelled.tidyLines
    · repeat constructor
    · decide

/-! ## Headers -/

theorem unbroken_specs : UnbrokenLines ((standardPackages ++ foreignPackages).map (·.spec)) := by
  apply Spelled.unbrokenLines
  · repeat constructor
  · decide

theorem typeNames_importsOf (text : String) {packages : List Package}
    (h : UnbrokenLines (packages.map (·.spec))) :
    declaredNames typeName? (joinLines (importsOf text packages)) = [] := by
  have htab : Plain "\t" := plain_ofList (by decide)
  have hone : ∀ line ∈ importsOf text packages, OneLine line := by
    intro line hline
    obtain ⟨p, hp, rfl⟩ := List.mem_map.1 hline
    exact (htab.piece.unbroken.append (h _ (List.mem_map_of_mem (List.mem_filter.1 hp).1))).oneLine
  have hbegins : ∀ line ∈ importsOf text packages, Begins ['\t'] line :=
    List.forall_mem_map.2 fun _ _ => .append .whole
  rw [declaredNames_joinLines (typeName?_skipsBlank [] rfl) hone]
  exact readNames_begun (fun rest => declaredName?_append (by decide) rest) hbegins

theorem typeNames_imports (text : String) : declaredNames typeName? (imports text) = [] := by
  have hnil : typeName? [] = none := typeName?_skipsBlank [] rfl
  have hspecs := unbroken_specs
  rw [List.map_append, UnbrokenLines, List.forall_mem_append] at hspecs
  have hgroups : ∀ group ∈ [importsOf text standardPackages, importsOf text foreignPackages],
      declaredNames typeName? (joinLines group) = [] :=
    List.forall_mem_cons.2 ⟨typeNames_importsOf text hspecs.1,
      List.forall_mem_singleton.2 (typeNames_importsOf text hspecs.2)⟩
  unfold imports
  dsimp only
  split
  · exact declaredNames_empty hnil
  · have hframe : readNames typeName? ["import (", ")"] = [] := by
      apply Outline.names_eq
      · repeat' constructor
      · decide
      · decide
    rw [← List.singleton_append, readNames_append, List.append_eq_nil_iff] at hframe
    have hjoin (middle : String) :
        joinLines ["import (", middle, ")"] = "import (" ++ "\n" ++ (middle ++ "\n" ++ ")") := rfl
    rw [hjoin, declaredNames_feed, declaredNames_feed,
      declaredNames_of_oneLine (tidy_ofList (by decide)).unbroken.oneLine,
      declaredNames_of_oneLine (tidy_ofList (by decide)).unbroken.oneLine, hframe.1, hframe.2,
      declaredNames_joinWith (separates_blankLine hnil) hnil, List.nil_append, List.append_nil, List.flatMap_eq_nil_iff]
    intro text htext
    obtain ⟨group, hgroup, rfl⟩ := List.mem_map.1 htext
    exact hgroups group (List.mem_filter.1 hgroup).1

theorem typeNames_banner (s : Scene) (role : FileRole) : declaredNames typeName? (joinLines (banner s role)) = [] := by
  rw [declaredNames_joinLines (typeName?_skipsBlank [] rfl) fun line hline =>
    (tidy_banner s role line hline).unbroken.oneLine, banner]
  cases s.options.includeComments
  all_goals
    apply Outline.names_eq
    · repeat' constructor
    · decide
    · decide

theorem typeNames_header (s : Scene) (role : FileRole) (body : String) :
    declaredNames typeName? (header s role body) = (templateTypes s.design).inHeader role := by
  have hempty : declaredNames typeName? "" = [] := declaredNames_empty (typeName?_skipsBlank [] rfl)
  rw [header_eq, declaredNames_joinSections (separates_blankLine (typeName?_skipsBlank [] rfl)) typeName?_skipsBlank]
  simp only [List.flatMap_cons, List.flatMap_nil, typeNames_banner, typeNames_imports, List.nil_append,
    List.append_nil]
  cases role with
  | single => exact typeNames_helpers
  | widgets => exact typeNames_helpers
  | app => exact hempty
  | dataSources => exact hempty

/-- The module file is no source, though its language is the same. -/
theorem typeNames_moduleFile : declaredNames typeName? moduleFile = [] := by
  have hnil : typeName? [] = none := typeName?_skipsBlank [] rfl
  have htab : Plain "\t" := plain_ofList (by decide)
  have hspace : Plain " " := plain_ofList (by decide)
  have hrequired {name version : List Char} (hname : name.all isPlain = true) (hversion : version.all isPlain = true) :
      Tidy ("\t" ++ String.ofList name ++ " " ++ String.ofList version) :=
    (((htab.append (plain_ofList hname)).append hspace).append (plain_ofList hversion)).piece.tidy
  have htidy : TidyLines (["module dashboard", "", "go 1.19", "", "require ("] ++
      modules.map (fun entry => "\t" ++ entry.1 ++ " " ++ entry.2) ++ [")"]) := by
    apply Spelled.tidyLines
    · repeat' first | with_reducible exact hrequired (by decide) (by decide) | constructor
    · decide
  rw [moduleFile, declaredNames_append_feed hnil,
    declaredNames_joinLines hnil fun line hline => (htidy line hline).unbroken.oneLine]
  apply Outline.names_eq
  · repeat' constructor
  · decide
  · decide

theorem declares : Target.bubbleTea.Declares typeName? templateTypes := by
  constructor
  · rfl
  · exact typeName?_skipsBlank
  · intro b o
    dsimp only [Target.bubbleTea]
    exact typeNames_widget b o
  · intro s text hfed htext
    dsimp only [Target.bubbleTea] at htext
    exact typeNames_dataSources hfed htext
  · intro s hfed
    have hnone : s.design.hasDataSources = false := hfed
    simp [templateTypes, hnone]
  · intro s text htext
    dsimp only [Target.bubbleTea] at htext
    rw [← Except.ok.inj htext]
    exact typeNames_app s
  · intro s
    dsimp only [Target.bubbleTea]
    exact typeNames_entryPoint
  · intro s role body
    dsimp only [Target.bubbleTea]
    exact typeNames_header s role body
  · exact fun _ _ => rfl
  · exact fun _ _ hentry => absurd hentry List.not_mem_nil

end DashboardCompiler.BubbleTea
