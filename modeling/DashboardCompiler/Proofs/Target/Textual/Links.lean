import DashboardCompiler.Proofs.Generation.Files
import DashboardCompiler.Proofs.Target.Textual.Code
import DashboardCompiler.Proofs.Target.Textual.StyleSheet

/-!
# Modules of Textual programs

The application imports the classes of the widgets, and of the sources their table and the classes that poll it.
What a file imports and declares is read off its lines. An application has one literal of several lines, which is
left out of the reading: that of its style sheet, up to where the literal really ends.
-/

namespace DashboardCompiler

open Code Text

/-- No colour that the style sheet holds ends the literal of the sheet. -/
def Design.KeepsSheet (d : Design) : Prop := ∀ color ∈ d.sheetColors, longBody? color.toList = none

namespace Textual

def widgetsModule : List Char := ['w', 'i', 'd', 'g', 'e', 't', 's']

def sourcesModule : List Char := ['d', 'a', 't', 'a', '_', 's', 'o', 'u', 'r', 'c', 'e', 's']

/-- What opens the import of names from a module of the project. -/
def importOpening (module : List Char) : List Char :=
  ['f', 'r', 'o', 'm', ' '] ++ module ++ [' ', 'i', 'm', 'p', 'o', 'r', 't', ' ']

/-- The call that constructs the collector of an application. -/
def collectorOpening : List Char :=
  [' ', ' ', ' ', ' ', ' ', ' ', ' ', ' ', 's', 'e', 'l', 'f', '.', 'c', 'o', 'l', 'l', 'e', 'c', 't', 'o', 'r', ' ',
   '=', ' ']

/-- The line that opens the literal of the style sheet. -/
def sheetLine : String := "    CSS = \"\"\""

/-! ## Around the style sheet -/

/-- The code of an application before and after the literal of its style sheet. -/
def aroundSheet? (s : String) : Option (String × String) :=
  let before := (lines s).takeWhile (· ≠ sheetLine)
  let rest := (lines s).drop (before.length + 1)
  (longBody? ('\n' :: (joinLines rest).toList)).map fun found => (joinLines before, String.ofList found.2)

/-- What a reader finds in a file outside of a style sheet. -/
def readAround (read : String → List String) (s : String) : List String :=
  match aroundSheet? s with
  | some (before, after) => read before ++ read after
  | none => read s

/-- The names that a file imports from a module of the project. -/
def importedNames (module : List Char) : String → List String :=
  readAround (listedNames (importOpening module) [])

/-- The collectors that a text constructs. -/
def constructedNames : String → List String := readAround (listedNames collectorOpening ['(', ')'])

def classOpening : List Char := ['c', 'l', 'a', 's', 's', ' ']

/-- The name that a line at the outermost level assigns. -/
def assignedName? (line : List Char) : Option (List Char) :=
  let name := line.takeWhile Name.isNameChar
  if !name.isEmpty && [' ', '=', ' '].isPrefixOf (line.drop name.length) then some name else none

/-- The name that a line declares at the outermost level. -/
def topName? (line : List Char) : Option (List Char) :=
  (declaredName? [classOpening, ['d', 'e', 'f', ' ']] line).or (assignedName? line)

/-- The names that a file declares at the outermost level. -/
def topNames : String → List String := declaredNames topName?

/-- The classes that a text declares. -/
def classNames : String → List String := declaredNames (declaredName? [classOpening])

/-- The literal of a sheet is left out, wherever it stands, if the sheet does not end it itself. -/
theorem aroundSheet?_rules {s : Scene} (hends : longBody? (rules s).toList = none) {head : String}
    (hhead : sheetLine ∉ lines head) (after : String) :
    aroundSheet? (head ++ "\n    CSS = " ++ "\"\"\"" ++ rules s ++ "\"\"\"" ++ after) = some (head, after) := by
  obtain ⟨sheet, hsheet⟩ : ∃ sheet, rules s = "\n" ++ sheet := ⟨_, String.append_assoc⟩
  have hmargin : "\n    CSS = " ++ "\"\"\"" = "\n" ++ sheetLine := by decide
  have hcontent : head ++ "\n    CSS = " ++ "\"\"\"" ++ rules s ++ "\"\"\"" ++ after =
      head ++ "\n" ++ (sheetLine ++ "\n" ++ (sheet ++ "\"\"\"" ++ after)) := by
    have hstart : head ++ "\n    CSS = " ++ "\"\"\"" = head ++ "\n" ++ sheetLine := by
      rw [String.append_assoc, hmargin, ← String.append_assoc]
    rw [hstart, hsheet]
    simp only [String.append_assoc]
  have hone : OneLine sheetLine := by unfold OneLine sheetLine; decide
  have hbefore : (lines head ++ sheetLine :: lines (sheet ++ "\"\"\"" ++ after)).takeWhile (· ≠ sheetLine) =
      lines head := by
    rw [List.takeWhile_append_of_pos fun line hline => ?_]
    · simp
    · simpa using fun heq : line = sheetLine => hhead (heq ▸ hline)
  have hrest : '\n' :: (sheet ++ "\"\"\"" ++ after).toList = (rules s ++ "\"\"\"" ++ after).toList := by
    rw [hsheet]
    simp [String.toList_append]
  have hlines : lines (head ++ "\n" ++ (sheetLine ++ "\n" ++ (sheet ++ "\"\"\"" ++ after))) =
      lines head ++ sheetLine :: lines (sheet ++ "\"\"\"" ++ after) := by
    rw [lines_append, lines_append, lines_of_oneLine hone, List.singleton_append]
  have hdrop : (lines head ++ sheetLine :: lines (sheet ++ "\"\"\"" ++ after)).drop ((lines head).length + 1) =
      lines (sheet ++ "\"\"\"" ++ after) := by
    rw [List.drop_append, List.drop_of_length_le (by omega), Nat.add_sub_cancel_left]
    rfl
  rw [aroundSheet?, hcontent, hlines, hbefore, hdrop, joinLines_lines head, joinLines_lines, hrest,
    (longBody?_rules s after).2 hends, Option.map_some, String.ofList_toList]

/-! ## Headers -/

/-- The lines at the top of a file. -/
def bannerLines (s : Scene) (role : FileRole) : List String :=
  (match role with
    | .single | .app => ["#!/usr/bin/env python3"]
    | .widgets | .dataSources => []) ++
  ["\"\"\"" ++ commentText s.design.metadata.name ++ ": " ++ replaceAll (Named.name role) "_" " " ++
    " module.\"\"\""] ++
  (if s.options.includeComments then ["# Generated by tuidesigner. Edit the design and regenerate instead."] else [])

theorem unbroken_bannerLines (s : Scene) (role : FileRole) : UnbrokenLines (bannerLines s role) := by
  have hquotes : Unbroken "\"\"\"" := unbroken_ofList (by decide)
  have hend : Unbroken " module.\"\"\"" := unbroken_ofList (by decide)
  have hrole : Plain (replaceAll (Named.name role) "_" " ") := by
    cases role <;> exact plain_ofList (by decide)
  have hdocumentation := (((hquotes.append (unbroken_commentText s.design.metadata.name)).append
    plain_colon.piece.unbroken).append hrole.piece.unbroken).append hend
  have hscript : UnbrokenLines ["#!/usr/bin/env python3"] := .cons (tidy_ofList (by decide)).unbroken .nil
  have hcomment : UnbrokenLines (if s.options.includeComments then
      ["# Generated by tuidesigner. Edit the design and regenerate instead."] else []) :=
    .optional (.cons (tidy_ofList (by decide)).unbroken .nil)
  have hrest := UnbrokenLines.append (.cons hdocumentation .nil) hcomment
  unfold bannerLines
  cases role with
  | single => exact (hscript.append (.cons hdocumentation .nil)).append hcomment
  | app => exact (hscript.append (.cons hdocumentation .nil)).append hcomment
  | widgets => exact hrest
  | dataSources => exact hrest

/-- The imports of the standard library that a text calls for. -/
def standardImports (text : String) : List String :=
  (usedModules text standardModules).map ("import " ++ ·) ++
    if contains text "datetime.now" then ["from datetime import datetime"] else []

/-- The imports of other packages. -/
def foreignImports (text : String) (toolkit : List String) : List String :=
  (usedModules text foreignModules).map ("import " ++ ·) ++ toolkit

theorem unbroken_modules (text : String) {candidates : List String} (h : UnbrokenLines candidates) :
    UnbrokenLines ((usedModules text candidates).map ("import " ++ ·)) := by
  have himport : Unbroken "import " := unbroken_ofList (by decide)
  exact List.forall_mem_map.2 fun name hname => himport.append (h name (List.mem_filter.1 hname).1)

theorem unbroken_standardImports (text : String) : UnbrokenLines (standardImports text) := by
  refine (unbroken_modules text ?_).append (.optional (.cons (tidy_ofList (by decide)).unbroken .nil))
  apply Spelled.unbrokenLines
  · repeat constructor
  · decide

theorem unbroken_foreignImports (text : String) {toolkit : List String} (h : UnbrokenLines toolkit) :
    UnbrokenLines (foreignImports text toolkit) := by
  refine (unbroken_modules text ?_).append h
  apply Spelled.unbrokenLines
  · repeat constructor
  · decide

theorem unbroken_toolkitImports (s : Scene) (role : FileRole) : UnbrokenLines (toolkitImports s role) := by
  unfold toolkitImports
  cases role <;> cases s.hasDataSources
  all_goals
    apply Spelled.unbrokenLines
    · repeat constructor
    · decide

theorem unbroken_moduleImports (s : Scene) (role : FileRole) : UnbrokenLines (moduleImports s role) := by
  have hwidgets : Plain "from widgets import " := plain_ofList (by decide)
  have hnames : Plain (joinWith ", " (s.behaviors.map (·.typeName))) :=
    plain_joinWith plain_comma (List.forall_mem_map.2 fun b _ => Name.plain_typeName b.widget.id)
  have hsources : Plain "from data_sources import DATA_SOURCES, DataSourceUpdater" := plain_ofList (by decide)
  have hcollector : Plain (if s.design.usesSystemMetrics then ", SystemMetricsCollector" else "") := by
    cases s.design.usesSystemMetrics <;> exact plain_ofList (by decide)
  unfold moduleImports
  split
  · refine .append ?_ (.optional (.cons (hsources.append hcollector).piece.unbroken .nil))
    split
    · exact .nil
    · exact .cons (hwidgets.append hnames).piece.unbroken .nil
  · exact .nil

/-- An import block reads like its lines. -/
theorem declaredNames_imports {read : List Char → Option (List Char)} (hnil : read [] = none) (text : String)
    {toolkit modules : List String} (htoolkit : UnbrokenLines toolkit) (hmodules : UnbrokenLines modules) :
    declaredNames read (imports text toolkit modules) = readNames read (standardImports text) ++
      (readNames read (foreignImports text toolkit) ++ readNames read modules) := by
  have hblocks : ∀ block ∈ [standardImports text, foreignImports text toolkit, modules],
      declaredNames read (joinLines block) = readNames read block := by
    simp only [List.forall_mem_cons]
    exact ⟨(unbroken_standardImports text).declaredNames hnil,
      (unbroken_foreignImports text htoolkit).declaredNames hnil, hmodules.declaredNames hnil, List.forall_mem_nil _⟩
  have hdropped (blocks : List (List String)) :
      (blocks.filter (!·.isEmpty)).flatMap (readNames read) = blocks.flatMap (readNames read) := by
    induction blocks with
    | nil => rfl
    | cons block blocks ih =>
      cases block with
      | nil => exact ih
      | cons line block => rw [List.filter_cons_of_pos rfl, List.flatMap_cons, List.flatMap_cons, ih]
  have himports : imports text toolkit modules =
      joinWith "\n\n" (([standardImports text, foreignImports text toolkit, modules].filter (!·.isEmpty)).map
        joinLines) := rfl
  rw [himports, declaredNames_joinWith (separates_blankLine hnil) hnil, List.flatMap_map,
    List.flatMap_congr fun block hblock => hblocks block (List.mem_filter.1 hblock).1, hdropped]
  simp only [List.flatMap_cons, List.flatMap_nil, List.append_nil]

/-- The header of an application reads like its parts. -/
theorem declaredNames_header {read : List Char → Option (List Char)} (hskip : SkipsBlank read) (s : Scene)
    (text : String) :
    ∃ code, declaredNames read (header s .app text) = readNames read (bannerLines s .app) ++
      (readNames read (standardImports code) ++ (readNames read (foreignImports code (toolkitImports s .app)) ++
        readNames read (moduleImports s .app))) := by
  have hnil : read [] = none := hskip [] rfl
  have hheader : header s .app text = joinSections
      [joinLines (bannerLines s .app) ++ "\n\n" ++
        imports ("" ++ "\n" ++ text) (toolkitImports s .app) (moduleImports s .app), ""] "\n\n\n" := rfl
  refine ⟨"" ++ "\n" ++ text, ?_⟩
  rw [hheader, declaredNames_joinSections (separates_blankLines hnil) hskip, List.flatMap_cons, List.flatMap_singleton,
    declaredNames_empty hnil, List.append_nil, separates_blankLine hnil,
    (unbroken_bannerLines s .app).declaredNames hnil,
    declaredNames_imports hnil _ (unbroken_toolkitImports s .app) (unbroken_moduleImports s .app)]

/-- Everything that is looked for in an application. -/
def appOpenings : List (List Char) :=
  [importOpening widgetsModule, importOpening sourcesModule, collectorOpening, sheetLine.toList]

theorem inked_appOpenings : Inked appOpenings := by decide

theorem appNames_bannerLines (s : Scene) : readNames (declaredName? appOpenings) (bannerLines s .app) = [] := by
  unfold bannerLines
  cases s.options.includeComments
  all_goals
    apply Outline.names_eq
    · repeat' constructor
    · decide
    · decide

theorem appNames_imports (s : Scene) (code : String) :
    readNames (declaredName? appOpenings)
      (standardImports code ++ foreignImports code (toolkitImports s .app)) = [] := by
  have himport (candidates : List String) :
      readNames (declaredName? appOpenings) ((usedModules code candidates).map ("import " ++ ·)) = [] :=
    readNames_begun (fun rest => declaredName?_append (by decide) rest)
      (List.forall_mem_map.2 fun _ _ => .append .whole)
  have htime : readNames (declaredName? appOpenings)
      (if contains code "datetime.now" then ["from datetime import datetime"] else []) = [] := by
    split <;> decide
  have htoolkit : readNames (declaredName? appOpenings) (toolkitImports s .app) = [] := by
    unfold toolkitImports
    cases s.hasDataSources <;> decide
  simp only [standardImports, foreignImports, readNames_append, himport, htime, htoolkit, List.append_nil]

/-! ## The application -/

/-- The lines of the class down to its collector. -/
def beforeCollector (s : Scene) : List String :=
  ["    BINDINGS = [(\"q\", \"quit\", \"Quit\")]"] ++
    if s.hasDataSources then ["", "    def __init__(self) -> None:", "        super().__init__()"] else []

/-- The line that sets the collector, which is there if there are sources. -/
def collectorLines (s : Scene) : List String :=
  if s.hasDataSources then
    ["        self.collector = " ++ (if s.design.usesSystemMetrics then "SystemMetricsCollector()" else "None")]
  else []

/-- The lines of the class after it. -/
def afterCollector (s : Scene) : List String :=
  (if s.hasDataSources then
    ["        self.updater = DataSourceUpdater(DATA_SOURCES, self.collector)",
     "        self.subscribers = " ++
       literal (.object ((subscribers s).map fun (source, ws) => (source, texts ws)))] else []) ++
  (composeLines s ++ if s.hasDataSources then refreshLines s else [])

theorem classBody_eq (s : Scene) : classBody s = beforeCollector s ++ (collectorLines s ++ afterCollector s) := by
  unfold classBody beforeCollector collectorLines afterCollector wiringLines
  cases s.hasDataSources <;> simp only [Bool.false_eq_true, ↓reduceIte, List.nil_append, List.cons_append]

theorem unbroken_classHead (s : Scene) : UnbrokenLines (classHead s) := by
  have hopening : Unbroken "    \"\"\"" := unbroken_ofList (by decide)
  have hclosing : Unbroken "\"\"\"" := unbroken_ofList (by decide)
  have hdocumentation := (hopening.append (unbroken_commentText s.design.metadata.name)).append hclosing
  have htitle : Tidy ("    TITLE = " ++ text s.design.metadata.name) := tidy_valued (by decide) (piece_source _)
  refine .append (.optional (.cons (tidy_ofList (by decide)).unbroken .nil)) ?_
  exact .cons (tidy_ofList (by decide)).unbroken (.cons hdocumentation (.cons (tidy_ofList (by decide)).unbroken
    (.cons htitle.unbroken .nil)))

theorem unbroken_composeLines (s : Scene) : UnbrokenLines (composeLines s) := by
  have hyield : Plain "            yield " := plain_ofList (by decide)
  have hcall : Plain "()" := plain_ofList (by decide)
  refine UnbrokenLines.append (.append ?_ ?_) (.cons (tidy_ofList (by decide)).unbroken .nil)
  · apply Spelled.unbrokenLines
    · repeat constructor
    · decide
  · split
    · exact .cons (tidy_ofList (by decide)).unbroken .nil
    · exact List.forall_mem_map.2 fun b _ =>
        ((hyield.append (Name.plain_typeName b.widget.id)).append hcall).piece.unbroken

theorem unbroken_refreshLines (s : Scene) : UnbrokenLines (refreshLines s) := by
  have hinterval : Tidy ("        self.set_interval(" ++ (Literal.seconds s.design.settings.refreshRate).text ++
      ", self.refresh_data_sources)") :=
    tidy_around (by decide) (by decide) (by decide) (Double.plain_text _).piece
  refine .cons (tidy_ofList (by decide)).unbroken (.cons (tidy_ofList (by decide)).unbroken ?_)
  refine .cons (tidy_ofList (by decide)).unbroken (.cons hinterval.unbroken ?_)
  apply Spelled.unbrokenLines
  · repeat constructor
  · decide

theorem unbroken_classBody (s : Scene) : UnbrokenLines (classBody s) := by
  have hsubscribers : Tidy ("        self.subscribers = " ++
      literal (.object ((subscribers s).map fun (source, ws) => (source, texts ws)))) :=
    tidy_valued (by decide) (piece_literal _)
  have hbefore : UnbrokenLines (beforeCollector s) := by
    unfold beforeCollector
    cases s.hasDataSources
    all_goals
      apply Spelled.unbrokenLines
      · repeat constructor
      · decide
  have hcollector : UnbrokenLines (collectorLines s) := by
    have hstart : Plain "        self.collector = " := plain_ofList (by decide)
    have hvalue : Plain (if s.design.usesSystemMetrics then "SystemMetricsCollector()" else "None") := by
      cases s.design.usesSystemMetrics <;> exact plain_ofList (by decide)
    exact .optional (.cons (hstart.append hvalue).piece.unbroken .nil)
  rw [classBody_eq]
  refine hbefore.append (hcollector.append (.append (.optional ?_) ?_))
  · exact .cons (tidy_ofList (by decide)).unbroken (.cons hsubscribers.unbroken .nil)
  · exact (unbroken_composeLines s).append (.optional (unbroken_refreshLines s))

theorem appNames_classHead (s : Scene) : readNames (declaredName? appOpenings) (classHead s) = [] := by
  unfold classHead
  cases s.options.includeComments
  all_goals
    apply Outline.names_eq
    · repeat' constructor
    · decide
    · decide

theorem appNames_beforeCollector (s : Scene) : readNames (declaredName? appOpenings) (beforeCollector s) = [] := by
  unfold beforeCollector
  cases s.hasDataSources <;> decide

theorem appNames_afterCollector (s : Scene) : readNames (declaredName? appOpenings) (afterCollector s) = [] := by
  have hchildren : readNames (declaredName? appOpenings)
      (if s.behaviors.isEmpty then ["            yield Static(\"No widgets\")"]
       else s.behaviors.map fun b => "            yield " ++ b.typeName ++ "()") = [] := by
    split
    · decide
    · exact readNames_begun (fun rest => declaredName?_append (by decide) rest)
        (List.forall_mem_map.2 fun _ _ => .append (.append .whole))
  unfold afterCollector composeLines refreshLines
  generalize (if s.behaviors.isEmpty then _ else _) = children at hchildren
  cases s.hasDataSources
  all_goals
    simp only [List.append_assoc, List.cons_append, List.nil_append, Bool.false_eq_true, ↓reduceIte]
    apply Outline.names_eq
    · repeat' first | apply Outline.silent hchildren | constructor
    · decide
    · decide

/-- Of what is looked for, the code of an application around its sheet has at most the line of the collector. -/
theorem readNames_classBody {read : List Char → Option (List Char)}
    (hread : ∀ line, declaredName? appOpenings line = none → read line = none) (s : Scene) :
    readNames read (classHead s) = [] ∧ readNames read (classBody s) = readNames read (collectorLines s) := by
  refine ⟨readNames_of_silent hread (appNames_classHead s), ?_⟩
  rw [classBody_eq, readNames_append, readNames_append, readNames_of_silent hread (appNames_beforeCollector s),
    readNames_of_silent hread (appNames_afterCollector s), List.nil_append, List.append_nil]

theorem appNames_entryPoint : declaredNames (declaredName? appOpenings) entryPoint = [] := by
  rw [entryPoint, UnbrokenLines.declaredNames (by decide)]
  · apply Outline.names_eq
    · repeat' constructor
    · decide
    · decide
  · apply Spelled.unbrokenLines
    · repeat constructor
    · decide

theorem sheetLine_not_mem {text : String} (h : declaredNames (declaredName? [sheetLine.toList]) text = []) :
    sheetLine ∉ lines text := by
  have hread : declaredName? [sheetLine.toList] sheetLine.toList ≠ none := by decide
  exact fun hmem => hread (readNames_eq_nil_iff.1 h sheetLine hmem)

/-- The code of the section of the application. -/
theorem readAround_app {read : String → List String} {s : Scene} (hends : longBody? (rules s).toList = none) :
    readAround read (app s) = read (joinLines (classHead s)) ++ read (afterRules s) := by
  have hnil : declaredName? [sheetLine.toList] [] = none := by decide
  have hhead : sheetLine ∉ lines (joinLines (classHead s)) := by
    refine sheetLine_not_mem ?_
    rw [(unbroken_classHead s).declaredNames hnil]
    exact readNames_of_subset (by decide) (appNames_classHead s)
  rw [app_eq, beforeRules, readAround, aroundSheet?_rules hends hhead]

theorem declaredNames_afterRules {read : List Char → Option (List Char)} (hnil : read [] = none)
    (hread : ∀ line, declaredName? appOpenings line = none → read line = none) (s : Scene) :
    declaredNames read (afterRules s) = readNames read (collectorLines s) := by
  have hafter : afterRules s = "" ++ "\n" ++ joinLines (classBody s) := rfl
  rw [hafter, declaredNames_feed, declaredNames_empty hnil, (unbroken_classBody s).declaredNames hnil,
    (readNames_classBody hread s).2, List.nil_append]

/-- The text of the file of an application around its style sheet. -/
theorem content_appFile {s : Scene} {parts : Sections} (hparts : Target.textual.sections s = .ok parts) :
    ∃ text, (Target.textual.sourceFile s .app "app.py"
        (Target.textual.join [parts.app, parts.entryPoint]) true).content =
      (trimFeeds (header s .app text) ++ "\n\n\n" ++ joinLines (classHead s)) ++ "\n    CSS = " ++ "\"\"\"" ++
        rules s ++ "\"\"\"" ++ (afterRules s ++ "\n\n\n" ++ (entryPoint ++ "\n")) := by
  obtain ⟨-, -, happ, hentry⟩ := Target.sections_ok hparts
  have hsolid : ∀ text ∈ [app s, entryPoint], Solid text :=
    List.forall_mem_cons.2 ⟨app_solid s, List.forall_mem_singleton.2 entryPoint_solid⟩
  have hfile := Target.join_file (t := Target.textual) (header_inked s .app (Target.textual.join [app s, entryPoint]))
    hsolid (.inl rfl)
  have happText : parts.app = app s := (Except.ok.inj happ).symm
  refine ⟨Target.textual.join [app s, entryPoint], ?_⟩
  rw [happText, hentry]
  refine hfile.trans ?_
  have hplain : Target.textual.plainFile (header s .app (Target.textual.join [app s, entryPoint]))
      [app s, entryPoint] "" =
      trimFeeds (header s .app (Target.textual.join [app s, entryPoint])) ++ "\n\n\n" ++
        (app s ++ "\n\n\n" ++ entryPoint) ++ "\n" := rfl
  rw [hplain, app_eq, beforeRules]
  simp only [String.append_assoc]

theorem constructedNames_app {s : Scene} (hends : longBody? (rules s).toList = none) :
    constructedNames (app s) =
      if s.hasDataSources ∧ s.design.usesSystemMetrics then ["SystemMetricsCollector"] else [] := by
  have hmem : collectorOpening ∈ appOpenings := by decide
  have hnil : enclosed? collectorOpening ['(', ')'] [] = none := enclosed?_skipsBlank inked_appOpenings hmem _ [] rfl
  have hread (line : List Char) (h : declaredName? appOpenings line = none) :
      enclosed? collectorOpening ['(', ')'] line = none := enclosed?_eq_none hmem h _
  have hhead : declaredNames (enclosed? collectorOpening ['(', ')']) (joinLines (classHead s)) = [] := by
    rw [(unbroken_classHead s).declaredNames hnil, (readNames_classBody hread s).1]
  rw [constructedNames, readAround_app hends, listedNames, listedNames, hhead, declaredNames_afterRules hnil hread,
    collectorLines]
  cases s.hasDataSources <;> cases s.design.usesSystemMetrics <;> decide

/-- The names that the application imports of the sources. -/
def sourceNames (d : Design) : List String :=
  ["DATA_SOURCES", "DataSourceUpdater"] ++ if d.usesSystemMetrics then ["SystemMetricsCollector"] else []

theorem isName_sourceNames (d : Design) : ∀ name ∈ sourceNames d, IsName name := by
  unfold sourceNames
  cases d.usesSystemMetrics <;> decide

/-- The line that imports the sources. -/
theorem toList_sourceImport (d : Design) :
    ("from data_sources import DATA_SOURCES, DataSourceUpdater" ++
      (if d.usesSystemMetrics then ", SystemMetricsCollector" else "")).toList =
        importOpening sourcesModule ++ ((joinWith ", " (sourceNames d)).toList ++ []) := by
  unfold sourceNames
  cases d.usesSystemMetrics <;> decide

theorem imported_moduleImports (s : Scene) :
    listedNames (importOpening widgetsModule) [] (joinLines (moduleImports s .app)) = s.behaviors.map (·.typeName) ∧
      listedNames (importOpening sourcesModule) [] (joinLines (moduleImports s .app)) =
        if s.hasDataSources then sourceNames s.design else [] := by
  have hread (module : List Char) (hnil : enclosed? (importOpening module) [] [] = none) :
      declaredNames (enclosed? (importOpening module) []) (joinLines (moduleImports s .app)) =
        readNames (enclosed? (importOpening module) []) (if s.behaviors.isEmpty then [] else
          ["from widgets import " ++ joinWith ", " (s.behaviors.map (·.typeName))]) ++
        readNames (enclosed? (importOpening module) []) (if s.hasDataSources then
          ["from data_sources import DATA_SOURCES, DataSourceUpdater" ++
            (if s.design.usesSystemMetrics then ", SystemMetricsCollector" else "")] else []) := by
    rw [(unbroken_moduleImports s .app).declaredNames hnil, moduleImports, if_pos rfl, readNames_append]
  have hwidgets : ("from widgets import " ++ joinWith ", " (s.behaviors.map (·.typeName))).toList =
      importOpening widgetsModule ++ ((joinWith ", " (s.behaviors.map (·.typeName))).toList ++ []) := by
    rw [String.toList_append, List.append_nil]
    rfl
  constructor
  · have hother : readNames (enclosed? (importOpening widgetsModule) []) (if s.hasDataSources then
        ["from data_sources import DATA_SOURCES, DataSourceUpdater" ++
          (if s.design.usesSystemMetrics then ", SystemMetricsCollector" else "")] else []) = [] := by
      split
      · cases s.design.usesSystemMetrics <;> decide
      · rfl
    cases hnone : s.behaviors.isEmpty with
    | true =>
      rw [listedNames, hread _ (by decide), hother, hnone, List.isEmpty_iff.1 hnone]
      rfl
    | false =>
      refine listedNames_of_joinWith ?_ (List.forall_mem_map.2 fun b _ => isName_typeName b.widget.id)
      rw [hread _ (by decide), hother, hnone, List.append_nil]
      exact readNames_listing hwidgets
  · have hother : readNames (enclosed? (importOpening sourcesModule) []) (if s.behaviors.isEmpty then [] else
        ["from widgets import " ++ joinWith ", " (s.behaviors.map (·.typeName))]) = [] := by
      split
      · rfl
      · have hsilent : readNames (declaredName? [importOpening sourcesModule])
            ["from widgets import " ++ joinWith ", " (s.behaviors.map (·.typeName))] = [] :=
          readNames_begun (fun rest => declaredName?_append (by decide) rest)
            (List.forall_mem_singleton.2 (.append .whole))
        exact readNames_enclosed List.mem_cons_self hsilent _
    cases hfed : s.hasDataSources with
    | true =>
      refine listedNames_of_joinWith ?_ (isName_sourceNames s.design)
      rw [hread _ (by decide), hother, hfed, List.nil_append]
      exact readNames_listing (toList_sourceImport s.design)
    | false =>
      rw [listedNames, hread _ (by decide), hother, hfed]
      rfl

theorem sheetLine_not_mem_header (s : Scene) (text : String) :
    sheetLine ∉ lines (trimFeeds (header s .app text) ++ "\n\n\n" ++ joinLines (classHead s)) := by
  have hskip : SkipsBlank (declaredName? [sheetLine.toList]) := declaredName?_skipsBlank (by decide)
  have hnil : declaredName? [sheetLine.toList] [] = none := hskip [] rfl
  have hsubset : [sheetLine.toList] ⊆ appOpenings := by decide
  obtain ⟨code, hheader⟩ := declaredNames_header hskip s text
  have himports := readNames_of_subset hsubset (appNames_imports s code)
  rw [readNames_append, List.append_eq_nil_iff] at himports
  have hmodules : readNames (declaredName? [sheetLine.toList]) (moduleImports s .app) = [] := by
    have hwidgets : readNames (declaredName? [sheetLine.toList]) (if s.behaviors.isEmpty then [] else
        ["from widgets import " ++ joinWith ", " (s.behaviors.map (·.typeName))]) = [] := by
      split
      · rfl
      · exact readNames_begun (fun rest => declaredName?_append (by decide) rest)
          (List.forall_mem_singleton.2 (.append .whole))
    have hsources : readNames (declaredName? [sheetLine.toList]) (if s.hasDataSources then
        ["from data_sources import DATA_SOURCES, DataSourceUpdater" ++
          (if s.design.usesSystemMetrics then ", SystemMetricsCollector" else "")] else []) = [] := by
      split
      · cases s.design.usesSystemMetrics <;> decide
      · rfl
    rw [moduleImports, if_pos rfl, readNames_append, hwidgets, hsources]
    rfl
  refine sheetLine_not_mem ?_
  rw [separates_blankLines hnil, declaredNames_trimFeeds hnil, hheader,
    readNames_of_subset hsubset (appNames_bannerLines s), himports.1, himports.2, hmodules,
    (unbroken_classHead s).declaredNames hnil, readNames_of_subset hsubset (appNames_classHead s)]
  rfl

/-- The file of the application imports what its import block lists. -/
theorem imported_appFile {s : Scene} {parts : Sections} (hparts : Target.textual.sections s = .ok parts)
    (hends : longBody? (rules s).toList = none) {module : List Char}
    (hmodule : module ∈ [widgetsModule, sourcesModule]) :
    importedNames module (Target.textual.sourceFile s .app "app.py"
      (Target.textual.join [parts.app, parts.entryPoint]) true).content =
        listedNames (importOpening module) [] (joinLines (moduleImports s .app)) := by
  obtain ⟨text, hcontent⟩ := content_appFile hparts
  have hmem : importOpening module ∈ appOpenings :=
    List.subset_append_left [importOpening widgetsModule, importOpening sourcesModule] _ (List.mem_map_of_mem hmodule)
  have hskip := enclosed?_skipsBlank inked_appOpenings hmem []
  have hnil : enclosed? (importOpening module) [] [] = none := hskip [] rfl
  have hread (line : List Char) (h : declaredName? appOpenings line = none) :
      enclosed? (importOpening module) [] line = none := enclosed?_eq_none hmem h _
  obtain ⟨code, hheader⟩ := declaredNames_header hskip s text
  have himports := readNames_enclosed hmem (appNames_imports s code) []
  rw [readNames_append, List.append_eq_nil_iff] at himports
  have hcollector : readNames (enclosed? (importOpening module) []) (collectorLines s) = [] := by
    have hsilent : readNames (declaredName? [importOpening widgetsModule, importOpening sourcesModule])
        (collectorLines s) = [] := by
      unfold collectorLines
      cases s.hasDataSources <;> cases s.design.usesSystemMetrics <;> decide
    exact readNames_enclosed (List.mem_map_of_mem hmodule) hsilent _
  have hentry : declaredNames (enclosed? (importOpening module) []) entryPoint = [] :=
    readNames_enclosed hmem appNames_entryPoint _
  -- The import block is in front of the sheet, and behind it there are no imports.
  have hbefore : declaredNames (enclosed? (importOpening module) [])
      (trimFeeds (header s .app text) ++ "\n\n\n" ++ joinLines (classHead s)) =
        declaredNames (enclosed? (importOpening module) []) (joinLines (moduleImports s .app)) := by
    rw [separates_blankLines hnil, declaredNames_trimFeeds hnil, hheader,
      readNames_enclosed hmem (appNames_bannerLines s), himports.1, himports.2,
      (unbroken_classHead s).declaredNames hnil, (readNames_classBody hread s).1,
      (unbroken_moduleImports s .app).declaredNames hnil, List.nil_append, List.nil_append, List.nil_append,
      List.append_nil]
  have hafter : declaredNames (enclosed? (importOpening module) [])
      (afterRules s ++ "\n\n\n" ++ (entryPoint ++ "\n")) = [] := by
    rw [separates_blankLines hnil, declaredNames_afterRules hnil hread, hcollector, declaredNames_append_feed hnil,
      hentry]
    rfl
  rw [hcontent, importedNames, readAround, aroundSheet?_rules hends (sheetLine_not_mem_header s text)]
  simp only [listedNames, hbefore, hafter, List.flatMap_nil, List.append_nil]

/-! ## Declarations -/

theorem topName?_skipsBlank : SkipsBlank topName? := by
  have hopenings : SkipsBlank (declaredName? [classOpening, ['d', 'e', 'f', ' ']]) :=
    declaredName?_skipsBlank (by decide)
  intro line hline
  have hname : line.takeWhile Name.isNameChar = [] := by
    cases line with
    | nil => rfl
    | cons c line =>
      have hc : Name.isNameChar c = false := by
        refine Bool.eq_false_iff.2 fun hname => ?_
        have hink := Name.of_isNameChar (P := fun c => !Unicode.isBlank c) (by decide) hname
        simp only [List.all_cons, Bool.and_eq_true] at hline
        rw [hline.1] at hink
        cases hink
      exact List.takeWhile_cons_of_neg (by simp [hc])
  rw [topName?, hopenings line hline, assignedName?, hname]
  rfl

/-- The line that opens the class of a widget. -/
theorem topName?_class (b : Behavior) :
    topName? ("class " ++ b.typeName ++ "(Static):").toList = some b.typeName.toList := by
  have hline : ("class " ++ b.typeName ++ "(Static):").toList =
      classOpening ++ (b.typeName.toList ++ '(' :: ['S', 't', 'a', 't', 'i', 'c', ')', ':']) := by
    rw [String.toList_append, String.toList_append, List.append_assoc, String.toList_ofList, String.toList_ofList]
    rfl
  have hread : declaredName? [classOpening, ['d', 'e', 'f', ' ']] ("class " ++ b.typeName ++ "(Static):").toList =
      some b.typeName.toList := by
    rw [hline]
    exact declaredName?_opening rfl (by rfl) (isName_typeName b.widget.id).chars (by decide)
  rw [topName?, hread]
  rfl

theorem mem_topNames_widget (b : Behavior) (o : Options) : b.typeName ∈ topNames (widget b o) := by
  have hline : "class " ++ b.typeName ++ "(Static):" ∈ classLines b o.includeComments (partsOf b) := by
    simp only [classLines, List.append_assoc]
    exact List.mem_append_right _ List.mem_cons_self
  rw [topNames, declaredNames, lines_widget]
  refine List.mem_filterMap.2 ⟨_, hline, ?_⟩
  rw [topName?_class, Option.map_some, String.ofList_toList]

/-! ## Data sources -/

/-- The lines of the table. -/
def tableLines (d : Design) : List String :=
  ["DATA_SOURCES = \x7b"] ++ d.referencedSources.map sourceRow ++ ["\x7d"]

theorem unbroken_tableLines (d : Design) : UnbrokenLines (tableLines d) := by
  refine .append (.append (.cons (tidy_ofList (by decide)).unbroken .nil) ?_) ?_
  · exact List.forall_mem_map.2 fun source _ => (piece_sourceRow source).unbroken
  · exact .cons (tidy_ofList (by decide)).unbroken .nil

theorem unbroken_constants (comments : Bool) : UnbrokenLines (constants comments) := by
  have hopening : Plain "VALUE_KEYS = (" := plain_ofList (by decide)
  have hclosing : Plain ")" := plain_ofList (by decide)
  have hkeys : Piece (joinWith ", " (Display.valueKeys.map text)) := piece_list fun item hitem => by
    obtain ⟨key, -, rfl⟩ := List.mem_map.1 hitem
    exact piece_source key
  refine .append (.optional (.cons (tidy_ofList (by decide)).unbroken .nil)) ?_
  refine .cons (tidy_ofList (by decide)).unbroken (.cons (tidy_ofList (by decide)).unbroken ?_)
  refine .cons (tidy_valued (by decide) (plain_toString _).piece).unbroken ?_
  refine .cons (tidy_valued (by decide) (plain_toString _).piece).unbroken ?_
  exact .cons (piece_between hopening hkeys hclosing).unbroken .nil

/-- The classes of the sources. -/
theorem unbroken_classes : UnbrokenLines (collector ++ updater) := by
  apply Spelled.unbrokenLines
  · repeat constructor
  · decide

theorem declaredNames_dataSources {read : List Char → Option (List Char)} (hnil : read [] = none) (d : Design)
    (comments : Bool) :
    declaredNames read (dataSources d comments) = readNames read (constants comments) ++
      (readNames read (tableLines d) ++
        ((if d.usesSystemMetrics then readNames read collector else []) ++ readNames read updater)) := by
  have hclasses := unbroken_classes
  simp only [UnbrokenLines, List.forall_mem_append] at hclasses
  have htable : sourceTable d = joinLines (tableLines d) := rfl
  rw [dataSources, declaredNames_joinWith (separates_blankLines hnil) hnil, htable]
  cases d.usesSystemMetrics <;>
    simp [(unbroken_constants comments).declaredNames hnil, (unbroken_tableLines d).declaredNames hnil,
      UnbrokenLines.declaredNames hnil hclasses.1, UnbrokenLines.declaredNames hnil hclasses.2]

/-- The section of the sources declares a collector if some source samples the host. -/
theorem classNames_dataSources (d : Design) (comments : Bool) :
    classNames (dataSources d comments) =
      (if d.usesSystemMetrics then ["SystemMetricsCollector"] else []) ++ ["DataSourceUpdater"] := by
  have hconstants : readNames (declaredName? [classOpening]) (constants comments) = [] := by
    cases comments
    all_goals
      apply Outline.names_eq
      · repeat' constructor
      · decide
      · decide
  have htable : readNames (declaredName? [classOpening]) (tableLines d) = [] := by
    have hrows : readNames (declaredName? [classOpening]) (d.referencedSources.map sourceRow) = [] :=
      readNames_begun (fun rest => declaredName?_append (by decide) rest)
        (List.forall_mem_map.2 fun _ _ => .append (.append (.append (.append .whole))))
    rw [tableLines, List.append_assoc, List.singleton_append]
    apply Outline.names_eq
    · repeat' first | apply Outline.silent hrows | constructor
    · decide
    · decide
  have hcollector : readNames (declaredName? [classOpening]) collector = ["SystemMetricsCollector"] := by
    apply Outline.names_eq
    · repeat' constructor
    · decide
    · decide
  have hupdater : readNames (declaredName? [classOpening]) updater = ["DataSourceUpdater"] := by
    apply Outline.names_eq
    · repeat' constructor
    · decide
    · decide
  rw [classNames, declaredNames_dataSources (by decide), hconstants, htable, hcollector, hupdater]
  rfl

/-- Everything that the application imports of the sources is declared in their section. -/
theorem mem_topNames_dataSources (d : Design) (comments : Bool) :
    ∀ name ∈ sourceNames d, name ∈ topNames (dataSources d comments) := by
  have htable : "DATA_SOURCES" ∈ readNames topName? (tableLines d) :=
    List.mem_filterMap.2 ⟨_, List.mem_cons_self, by decide⟩
  have hupdater : "DataSourceUpdater" ∈ readNames topName? updater := by decide
  have hcollector : "SystemMetricsCollector" ∈ readNames topName? collector := by decide
  rw [topNames, declaredNames_dataSources (by decide)]
  refine List.forall_mem_append.2 ⟨?_, ?_⟩
  · simp only [List.forall_mem_cons, List.mem_append, htable, hupdater, or_true, true_or, true_and]
    exact List.forall_mem_nil _
  · cases d.usesSystemMetrics with
    | false => exact List.forall_mem_nil _
    | true =>
      refine List.forall_mem_singleton.2 ?_
      exact List.mem_append_right _ (List.mem_append_right _ (List.mem_append_left _ hcollector))

/-! ## Files -/

/-- The modules of a project declare what the application imports of them, and the application constructs a collector
if the sources declare one; what the application does is read around its style sheet. -/
structure Links (p : Project) (d : Design) (parts : Sections) : Prop where
  importsWidgets : d.KeepsSheet →
    p.namesIn "app.py" (importedNames widgetsModule) = d.widgets.map fun w => Name.typeName w.id
  declaresWidgets : ∀ w ∈ d.widgets, Name.typeName w.id ∈ p.namesIn "widgets.py" topNames
  importsSources : d.KeepsSheet →
    p.namesIn "app.py" (importedNames sourcesModule) = if d.hasDataSources then sourceNames d else []
  declaresSources : d.hasDataSources → ∀ name ∈ sourceNames d, name ∈ p.namesIn "data_sources.py" topNames
  collector : d.KeepsSheet → ("SystemMetricsCollector" ∈ constructedNames parts.app ↔
    "SystemMetricsCollector" ∈ classNames parts.dataSources)

section Scenes

variable {s : Scene} {parts : Sections}

theorem mem_topNames_widgetsFile (hparts : Target.textual.sections s = .ok parts) (executable : Bool) :
    ∀ b ∈ s.behaviors, b.typeName ∈ topNames (Target.textual.sourceFile s .widgets "widgets.py"
      (Target.textual.join parts.widgets) executable).content := by
  have hseparates : Separates topName? Target.textual.separator := separates_blankLines (topName?_skipsBlank [] rfl)
  exact fun b hb =>
    Target.mem_widgetsFile hseparates topName?_skipsBlank hparts hb (mem_topNames_widget b s.options)

theorem dataSources_section (hparts : Target.textual.sections s = .ok parts) (hfed : s.hasDataSources = true) :
    parts.dataSources = dataSources s.design s.options.includeComments :=
  (Except.ok.inj (Target.dataSources_of_fed hparts hfed)).symm

theorem mem_topNames_sourcesFile (hparts : Target.textual.sections s = .ok parts) (hfed : s.hasDataSources = true)
    (executable : Bool) :
    ∀ name ∈ sourceNames s.design, name ∈ topNames (Target.textual.sourceFile s .dataSources "data_sources.py"
      parts.dataSources executable).content := by
  have hseparates : Separates topName? Target.textual.separator := separates_blankLines (topName?_skipsBlank [] rfl)
  rw [dataSources_section hparts hfed]
  exact fun name hname => Target.mem_sourceFile hseparates topName?_skipsBlank (mem_topNames_dataSources _ _ name hname)

/-- The application constructs a collector exactly if the section of the sources declares its class. -/
theorem constructed_iff_declared (hparts : Target.textual.sections s = .ok parts)
    (hends : longBody? (rules s).toList = none) :
    "SystemMetricsCollector" ∈ constructedNames parts.app ↔
      "SystemMetricsCollector" ∈ classNames parts.dataSources := by
  have hconstructed := constructedNames_app hends
  rw [Except.ok.inj (Target.sections_ok hparts).2.2.1] at hconstructed
  refine Target.collector_iff hconstructed (fun hfed => ?_) fun hfed => ?_
  · rw [dataSources_section hparts hfed, classNames_dataSources]
    cases s.design.usesSystemMetrics <;> decide
  · rw [Target.dataSources_of_unfed hparts hfed]
    exact declaredNames_empty (by decide)

/-- **The modules of a project link**, as long as the style sheet of its application keeps to its literal. -/
theorem links {p : Project} (hparts : Target.textual.sections s = .ok parts)
    (hwidgets : s.behaviors.map (·.widget) = s.design.widgets)
    (hfiles : p.files = Target.textual.modularFiles s parts ++ Target.textual.furtherFiles s) :
    Links p s.design parts := by
  have hnamed : Target.textual.NamesFiles := Target.namesFiles_ofFramework .textual
  obtain ⟨happ, hwidgetsFile, hsourcesFile⟩ := Target.file?_modular hnamed hfiles
  have hends (hkeeps : s.design.KeepsSheet) : longBody? (rules s).toList = none :=
    (piecewise_rules piecewise_longBody? hwidgets).2 hkeeps
  have himported (hkeeps : s.design.KeepsSheet) {module : List Char}
      (hmodule : module ∈ [widgetsModule, sourcesModule]) :
      p.namesIn "app.py" (importedNames module) =
        listedNames (importOpening module) [] (joinLines (moduleImports s .app)) :=
    (Project.namesIn_of_file? happ _).trans (imported_appFile hparts (hends hkeeps) hmodule)
  obtain ⟨hwidgetNames, hsourceNames⟩ := imported_moduleImports s
  constructor
  · intro hkeeps
    rw [himported hkeeps List.mem_cons_self, hwidgetNames, ← hwidgets, List.map_map]
    rfl
  · rw [← hwidgets, List.forall_mem_map]
    intro b hb
    have htops : p.namesIn "widgets.py" topNames = topNames _ := Project.namesIn_of_file? hwidgetsFile _
    rw [htops]
    exact mem_topNames_widgetsFile hparts false b hb
  · intro hkeeps
    rw [himported hkeeps (List.mem_cons_of_mem _ (List.mem_singleton_self _)), hsourceNames]
    rfl
  · intro hfed name hname
    have hscene : s.hasDataSources = true := hfed
    rw [if_pos hscene] at hsourcesFile
    have htops : p.namesIn "data_sources.py" topNames = topNames _ := Project.namesIn_of_file? hsourcesFile _
    rw [htops]
    exact mem_topNames_sourcesFile hparts hscene false name hname
  · exact fun hkeeps => constructed_iff_declared hparts (hends hkeeps)

end Scenes

end Textual

end DashboardCompiler
