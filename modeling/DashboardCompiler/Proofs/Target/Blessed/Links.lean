import DashboardCompiler.Proofs.Generation.Files
import DashboardCompiler.Proofs.Target.Headers

/-!
# Modules of blessed programs

A modular program requires its own files by name and takes from each what the file exports. Both lists are
written from the design, the one into the header of the application and the other at the end of each file.
-/

namespace DashboardCompiler.Blessed

open Code Text

/-- What opens the names that a file requires of another one. -/
def requireOpening : List Char := ['c', 'o', 'n', 's', 't', ' ', '\x7b', ' ']

/-- The same for the names that a file exports. -/
def exportOpening : List Char :=
  ['m', 'o', 'd', 'u', 'l', 'e', '.', 'e', 'x', 'p', 'o', 'r', 't', 's', ' ', '=', ' ', '\x7b', ' ']

def exportClosing : List Char := [' ', '\x7d', ';']

/-- What closes the names that are required of a module of the project. -/
def requireClosing (module : List Char) : List Char :=
  [' ', '\x7d', ' ', '=', ' ', 'r', 'e', 'q', 'u', 'i', 'r', 'e', '(', '"', '.', '/'] ++ module ++ ['"', ')', ';']

def widgetsModule : List Char := ['w', 'i', 'd', 'g', 'e', 't', 's']

def sourcesModule : List Char := ['d', 'a', 't', 'a', 's', 'o', 'u', 'r', 'c', 'e', 's']

/-- The names that a file requires of a module of the project. -/
def requiredNames (module : List Char) : String → List String := listedNames requireOpening (requireClosing module)

/-- The names that a file exports. -/
def exportedNames : String → List String := listedNames exportOpening exportClosing

def classOpening : List Char := ['c', 'l', 'a', 's', 's', ' ']

/-- What opens a declaration at the outermost level. -/
def topOpenings : List (List Char) :=
  [classOpening, ['f', 'u', 'n', 'c', 't', 'i', 'o', 'n', ' '], ['c', 'o', 'n', 's', 't', ' '], ['l', 'e', 't', ' '],
   ['v', 'a', 'r', ' ']]

/-- The names that a file declares at the outermost level. -/
def topNames : String → List String := declaredNames (declaredName? topOpenings)

/-- The classes that a text declares. -/
def classNames : String → List String := declaredNames (declaredName? [classOpening])

/-- The call that constructs a collector for the updater. -/
def collectorOpening : List Char :=
  [' ', ' ', 'r', 'e', 't', 'u', 'r', 'n', ' ', 'n', 'e', 'w', ' ', 'D', 'a', 't', 'a', 'S', 'o', 'u', 'r', 'c', 'e',
   'U', 'p', 'd', 'a', 't', 'e', 'r', '(', 'D', 'A', 'T', 'A', '_', 'S', 'O', 'U', 'R', 'C', 'E', 'S', ',', ' ', 'n',
   'e', 'w', ' ']

/-- The collectors that a text constructs. -/
def constructedNames : String → List String := declaredNames (declaredName? [collectorOpening])

/-- Everything that is looked for in an application. -/
def appOpenings : List (List Char) := [requireOpening, exportOpening, collectorOpening]

theorem inked_appOpenings : Inked appOpenings := by decide

theorem appName?_nil : declaredName? appOpenings [] = none := declaredName?_skipsBlank inked_appOpenings [] rfl

theorem require_skipsBlank (module : List Char) : SkipsBlank (enclosed? requireOpening (requireClosing module)) :=
  enclosed?_skipsBlank inked_appOpenings List.mem_cons_self _

theorem export_skipsBlank : SkipsBlank (enclosed? exportOpening exportClosing) :=
  enclosed?_skipsBlank inked_appOpenings (List.mem_cons_of_mem _ List.mem_cons_self) _

/-! ## Widgets -/

theorem exports_code (b : Behavior) : readNames (declaredName? [exportOpening]) (partsOf b).code = [] := by
  obtain ⟨w, simulate, state⟩ := b
  cases state
  all_goals
    apply Outline.names_eq
    · repeat' constructor
    · decide
    · decide

theorem exports_init (b : Behavior) : readNames (declaredName? [exportOpening]) (partsOf b).init = [] := by
  obtain ⟨w, simulate, state⟩ := b
  cases state with
  | logViewer p seed =>
    dsimp only [partsOf, logViewerParts]
    split
    · rfl
    · apply Outline.names_eq
      · repeat' constructor
      · decide
      · decide
  | _ => rfl

theorem exports_methodLines (signature : String) {body : List String}
    (h : readNames (declaredName? [exportOpening]) body = []) :
    readNames (declaredName? [exportOpening]) (methodLines signature body) = [] := by
  unfold methodLines
  split
  · apply Outline.names_eq
    · repeat' constructor
    · decide
    · decide
  · simp only [List.cons_append, List.nil_append]
    apply Outline.names_eq
    · repeat' first | apply Outline.silent h | constructor
    · decide
    · decide

theorem exports_tickBody {parts : ClassParts}
    (h : readNames (declaredName? [exportOpening]) (parts.tick.getD []) = []) (b : Behavior) :
    readNames (declaredName? [exportOpening]) (tickBody (parts.timer? b)) = [] := by
  cases htimer : parts.timer? b with
  | none => rfl
  | some timer =>
    obtain ⟨ms, body⟩ := timer
    rw [ClassParts.tick_of_timer? htimer, Option.getD_some] at h
    unfold tickBody
    dsimp only
    rw [readNames_append, h, List.append_nil]
    split
    · rfl
    · apply Outline.names_eq
      · repeat' constructor
      · decide
      · decide

/-- The class of a widget exports nothing. -/
theorem exports_classLines (b : Behavior) (comments : Bool) :
    readNames (declaredName? [exportOpening]) (classLines b comments (partsOf b)) = [] := by
  have hcode := exports_code b
  have hinit := exports_init b
  simp only [ClassParts.code, readNames_append, List.append_eq_nil_iff] at hcode
  obtain ⟨⟨⟨hrender, hupdate⟩, htick⟩, hmethods⟩ := hcode
  generalize partsOf b = parts at *
  have hcomment : readNames (declaredName? [exportOpening]) (if comments then
      ["// " ++ parts.description ++ ": " ++ commentText b.widget.id] else []) = [] := by
    cases comments
    all_goals
      apply Outline.names_eq
      · repeat' constructor
      · decide
      · decide
  have hfields : readNames (declaredName? [exportOpening])
      ((allFields b parts).map fun f => "    this." ++ f.name ++ " = " ++ f.initial ++ ";") = [] :=
    readNames_begun (fun rest => declaredName?_append (by decide) rest)
      (List.forall_mem_map.2 fun _ _ => .append (.append (.append (.append .whole))))
  have hrenderLines := exports_methodLines "render()" hrender
  have hupdateLines := exports_methodLines "update(value)" hupdate
  have htickLines := exports_methodLines "tick()" (exports_tickBody htick b)
  have hmore : readNames (declaredName? [exportOpening])
      (if parts.methods.isEmpty then [] else "" :: parts.methods) = [] := by
    split
    · rfl
    · rw [readNames_cons_empty (by decide)]
      exact hmethods
  simp only [classLines, List.append_assoc, List.cons_append, List.nil_append]
  apply Outline.names_eq
  · repeat' first
      | apply Outline.silent hcomment
      | apply Outline.silent hfields
      | apply Outline.silent hinit
      | apply Outline.silent hrenderLines
      | apply Outline.silent hupdateLines
      | apply Outline.silent htickLines
      | apply Outline.silent hmore
      | constructor
  · decide
  · decide

theorem exports_widget (b : Behavior) (o : Options) :
    declaredNames (declaredName? [exportOpening]) (widget b o) = [] := by
  have htidy : TidyLines (classLines b o.includeComments (partsOf b)) := (alike_classLines b o.includeComments).left
  rw [widget, htidy.declaredNames (by decide), exports_classLines]

/-- The line that opens the class of a widget. -/
theorem topName?_class (b : Behavior) :
    declaredName? topOpenings ("class " ++ b.typeName ++ " \x7b").toList = some b.typeName.toList := by
  have hline : ("class " ++ b.typeName ++ " \x7b").toList = classOpening ++ (b.typeName.toList ++ ' ' :: ['\x7b']) := by
    rw [String.toList_append, String.toList_append, List.append_assoc, String.toList_ofList, String.toList_ofList]
    rfl
  rw [hline]
  exact declaredName?_opening rfl (by rfl) (isName_typeName b.widget.id).chars (by decide)

theorem mem_topNames_widget (b : Behavior) (o : Options) : b.typeName ∈ topNames (widget b o) := by
  have htidy : TidyLines (classLines b o.includeComments (partsOf b)) := (alike_classLines b o.includeComments).left
  have hline : "class " ++ b.typeName ++ " \x7b" ∈ classLines b o.includeComments (partsOf b) := by
    simp only [classLines, List.append_assoc]
    exact List.mem_append_right _ List.mem_cons_self
  rw [topNames, widget, htidy.declaredNames (by decide)]
  refine List.mem_filterMap.2 ⟨_, hline, ?_⟩
  rw [topName?_class, Option.map_some, String.ofList_toList]

/-! ## Headers -/

/-- A header reads like its parts. -/
theorem declaredNames_header {read : List Char → Option (List Char)} (hskip : SkipsBlank read) (s : Scene)
    (role : FileRole) (text : String) :
    declaredNames read (header s role text) = readNames read (banner s role) ++
      (declaredNames read (requires (shared role ++ "\n" ++ text)) ++
        (declaredNames read (ownFiles s role) ++ declaredNames read (shared role))) := by
  have hnil : read [] = none := hskip [] rfl
  have hbanner : TidyLines (banner s role) := (alike_banner s role).left
  rw [header_eq, declaredNames_joinSections (separates_blankLine hnil) hskip]
  simp only [List.flatMap_cons, List.flatMap_nil, List.append_nil, hbanner.declaredNames hnil]

theorem appNames_banner (s : Scene) (role : FileRole) : readNames (declaredName? appOpenings) (banner s role) = [] := by
  unfold banner
  cases isProgram role <;> cases s.options.includeComments
  all_goals
    apply Outline.names_eq
    · repeat' constructor
    · decide
    · decide

/-- Requires of packages are none of the listings. -/
theorem declaredNames_requires {read : List Char → Option (List Char)} (hnil : read [] = none)
    (h : ∀ line ∈ "const \x7b exec \x7d = require(\"child_process\");" :: requirements.map (·.line),
      read line.toList = none) (text : String) : declaredNames read (requires text) = [] := by
  obtain ⟨items, hitems, hsubset⟩ := exists_requires text
  have htidy : TidyLines items := fun line hline => (solid_requirements line (hsubset hline)).1
  rw [hitems, htidy.declaredNames hnil]
  exact readNames_eq_nil_iff.2 fun line hline => h line (hsubset hline)

/-- No package is required by a path. -/
theorem require_requirements (module : List Char) :
    ∀ line ∈ "const \x7b exec \x7d = require(\"child_process\");" :: requirements.map (·.line),
      enclosed? requireOpening (requireClosing module) line.toList = none := by
  have hslash : ∀ line ∈ "const \x7b exec \x7d = require(\"child_process\");" :: requirements.map (·.line),
      '/' ∉ line.toList := by decide
  intro line hline
  refine Option.eq_none_iff_forall_ne_some.2 fun inner hinner => hslash line hline (subset_of_enclosed? hinner ?_)
  simp [requireClosing]

theorem toList_requireLine {file : String} {module : List Char}
    (hfile : (text file).toList = ['"', '.', '/'] ++ module ++ ['"']) (names : List String) :
    (requireLine names file).toList = requireOpening ++ ((joinWith ", " names).toList ++ requireClosing module) := by
  simp [requireLine, String.toList_append, hfile, requireOpening, requireClosing]

theorem readNames_requireLine {file : String} {module : List Char}
    (hfile : (text file).toList = ['"', '.', '/'] ++ module ++ ['"']) (names : List String) :
    readNames (enclosed? requireOpening (requireClosing module)) [requireLine names file] = [joinWith ", " names] :=
  readNames_listing (toList_requireLine hfile names)

/-- Names that are required of one module are not required of another. -/
theorem readNames_requireLine_other {file : String} {module other : List Char}
    (hfile : (text file).toList = ['"', '.', '/'] ++ other ++ ['"'])
    (h : ¬ requireClosing module <:+ requireClosing other) (h' : ¬ requireClosing other <:+ requireClosing module)
    (names : List String) :
    readNames (enclosed? requireOpening (requireClosing module)) [requireLine names file] = [] := by
  refine readNames_eq_nil_iff.2 (List.forall_mem_singleton.2 ?_)
  rw [toList_requireLine hfile]
  exact enclosed?_other h h' _ _

theorem isName_widgetExports (s : Scene) : ∀ name ∈ widgetExports s, IsName name :=
  List.forall_mem_map.2 fun b _ => isName_typeName b.widget.id

theorem isName_sourceExports (d : Design) : ∀ name ∈ sourceExports d, IsName name := by
  unfold sourceExports
  cases d.usesSystemMetrics <;> decide

/-- The application requires of each module what the module exports. -/
theorem required_localRequires (s : Scene) :
    requiredNames widgetsModule (localRequires s) = widgetExports s ∧
      requiredNames sourcesModule (localRequires s) = if s.hasDataSources then sourceExports s.design else [] := by
  have hwidgets : (text "./widgets").toList = ['"', '.', '/'] ++ widgetsModule ++ ['"'] := by decide
  have hsources : (text "./datasources").toList = ['"', '.', '/'] ++ sourcesModule ++ ['"'] := by decide
  have hread (module : List Char) :
      declaredNames (enclosed? requireOpening (requireClosing module)) (localRequires s) =
        readNames (enclosed? requireOpening (requireClosing module))
          (if s.behaviors.isEmpty then [] else [requireLine (widgetExports s) "./widgets"]) ++
        readNames (enclosed? requireOpening (requireClosing module))
          (if s.hasDataSources then [requireLine (sourceExports s.design) "./datasources"] else []) := by
    have htidy : TidyLines ((if s.behaviors.isEmpty then [] else [requireLine (widgetExports s) "./widgets"]) ++
        if s.hasDataSources then [requireLine (sourceExports s.design) "./datasources"] else []) := by
      refine .append ?_ (.optional (.cons (solid_requireLine (plain_sourceExports _) _).1 .nil))
      split
      · exact .nil
      · exact .cons (solid_requireLine (plain_widgetExports s) _).1 .nil
    rw [localRequires, htidy.declaredNames (require_skipsBlank module [] rfl), readNames_append]
  constructor
  · have hother : readNames (enclosed? requireOpening (requireClosing widgetsModule))
        (if s.hasDataSources then [requireLine (sourceExports s.design) "./datasources"] else []) = [] := by
      split
      · exact readNames_requireLine_other hsources (by decide) (by decide) _
      · rfl
    cases hnone : s.behaviors.isEmpty with
    | true =>
      have hexports : widgetExports s = [] := by rw [widgetExports, List.isEmpty_iff.1 hnone, List.map_nil]
      rw [hexports, requiredNames, listedNames, hread, hother, hnone]
      rfl
    | false =>
      refine listedNames_of_joinWith ?_ (isName_widgetExports s)
      rw [hread, hother, hnone, List.append_nil]
      exact readNames_requireLine hwidgets _
  · have hother : readNames (enclosed? requireOpening (requireClosing sourcesModule))
        (if s.behaviors.isEmpty then [] else [requireLine (widgetExports s) "./widgets"]) = [] := by
      split
      · rfl
      · exact readNames_requireLine_other hwidgets (by decide) (by decide) _
    cases hfed : s.hasDataSources with
    | true =>
      refine listedNames_of_joinWith ?_ (isName_sourceExports _)
      rw [hread, hother, hfed, List.nil_append]
      exact readNames_requireLine hsources _
    | false =>
      rw [requiredNames, listedNames, hread, hother, hfed]
      rfl

/-! ## The application -/

/-- The constants of an application. -/
def constantLines (s : Scene) : List String :=
  [textConstant "DASHBOARD_TITLE" s.design.metadata.name,
   textConstant "ACCENT_COLOR" (Display.palette s.design.settings.theme).accent,
   numberConstant "ANIMATION_INTERVAL_MS" Display.animationTickMs,
   constant "REFRESH_INTERVAL_MS" (int s.design.settings.refreshRate),
   ""]

theorem tidy_constantLines (s : Scene) : TidyLines (constantLines s) := by
  refine .cons (tidy_textConstant (by decide) _) (.cons (tidy_textConstant (by decide) _) ?_)
  refine .cons (tidy_numberConstant (by decide) _) ?_
  exact .cons (tidy_constant (by decide) (Number.plain_intText _).piece) (.cons (tidy_ofList (by decide)) .nil)

theorem appName?_constant {name : List Char}
    (h : isSilent appOpenings (['c', 'o', 'n', 's', 't', ' '] ++ name) = true) (value : String) :
    declaredName? appOpenings (constant (String.ofList name) value).toList = none := by
  have hline : (constant (String.ofList name) value).toList =
      ['c', 'o', 'n', 's', 't', ' '] ++ name ++ (" = ".toList ++ (value.toList ++ ";".toList)) := by
    simp [constant, String.toList_append]
  rw [hline]
  exact declaredName?_append h _

theorem appNames_constantLines (s : Scene) : readNames (declaredName? appOpenings) (constantLines s) = [] := by
  refine readNames_eq_nil_iff.2 (List.forall_mem_cons.2 ⟨appName?_constant (by decide) _, ?_⟩)
  refine List.forall_mem_cons.2 ⟨appName?_constant (by decide) _, ?_⟩
  refine List.forall_mem_cons.2 ⟨appName?_constant (by decide) _, ?_⟩
  exact List.forall_mem_cons.2 ⟨appName?_constant (by decide) _, List.forall_mem_singleton.2 appName?_nil⟩

/-- The application above the line that may construct a collector. -/
def beforeUpdater (s : Scene) (slots : List String) : List String :=
  (if s.options.includeComments then ["// Application"] else []) ++
    (constantLines s ++ (slotFactory ++ (["", "function createSlots(screen) \x7b", "  return ["] ++
      (slots.map ("    " ++ ·) ++ ["  ];", "\x7d", "", "function createUpdater() \x7b"]))))

/-- The application below that line. -/
def afterUpdater : List String := ["\x7d", ""] ++ appClass

theorem app_updater {s : Scene} {program : String} (h : app s = .ok program) :
    ∃ slots, s.behaviors.mapM (slot s.design.settings) = .ok slots ∧
      program = joinLines (beforeUpdater s slots ++ updaterLine s :: afterUpdater) := by
  obtain ⟨slots, hslots, h⟩ := bind_ok_iff.1 h
  refine ⟨slots, hslots, ?_⟩
  rw [← Except.ok.inj h]
  simp only [beforeUpdater, afterUpdater, constantLines, List.append_assoc, List.cons_append, List.nil_append]

theorem tidy_beforeUpdater {s : Scene} {slots : List String}
    (h : s.behaviors.mapM (slot s.design.settings) = .ok slots) : TidyLines (beforeUpdater s slots) := by
  have hfixed := tidy_fixed
  simp only [TidyLines, List.forall_mem_append] at hfixed
  obtain ⟨⟨-, hfactory⟩, -⟩ := hfixed
  have hcreate : TidyLines ["", "function createSlots(screen) \x7b", "  return ["] :=
    .cons (tidy_ofList (by decide)) (.cons (tidy_ofList (by decide)) (.cons (tidy_ofList (by decide)) .nil))
  have hupdater : TidyLines ["  ];", "\x7d", "", "function createUpdater() \x7b"] := by
    refine .cons (tidy_ofList (by decide)) (.cons (tidy_ofList (by decide)) ?_)
    exact .cons (tidy_ofList (by decide)) (.cons (tidy_ofList (by decide)) .nil)
  refine .append (.optional (.cons (tidy_ofList (by decide)) .nil)) ((tidy_constantLines s).append ?_)
  exact TidyLines.append hfactory (hcreate.append ((tidy_slots h).append hupdater))

theorem tidy_afterUpdater : TidyLines afterUpdater := by
  have hfixed := tidy_fixed
  simp only [TidyLines, List.forall_mem_append] at hfixed
  exact .cons (tidy_ofList (by decide)) (.cons (tidy_ofList (by decide)) hfixed.2)

theorem appNames_beforeUpdater (s : Scene) (slots : List String) :
    readNames (declaredName? appOpenings) (beforeUpdater s slots) = [] := by
  have hcomment : readNames (declaredName? appOpenings)
      (if s.options.includeComments then ["// Application"] else []) = [] := by
    cases s.options.includeComments <;> decide
  have hslots : readNames (declaredName? appOpenings) (slots.map ("    " ++ ·)) = [] :=
    readNames_begun (fun rest => declaredName?_append (by decide) rest)
      (List.forall_mem_map.2 fun _ _ => .append .whole)
  rw [beforeUpdater, readNames_append, hcomment, readNames_append, appNames_constantLines]
  apply Outline.names_eq
  · repeat' first | apply Outline.silent hslots | constructor
  · decide
  · decide

theorem appNames_afterUpdater : readNames (declaredName? appOpenings) afterUpdater = [] := by
  apply Outline.names_eq
  · repeat' constructor
  · decide
  · decide

/-- Of what is looked for, an application has at most the one line in its middle. -/
theorem declaredNames_app {read : List Char → Option (List Char)} (hnil : read [] = none)
    (hread : ∀ line, declaredName? appOpenings line = none → read line = none) {s : Scene} {program : String}
    (h : app s = .ok program) : declaredNames read program = readNames read [updaterLine s] := by
  obtain ⟨slots, hslots, rfl⟩ := app_updater h
  rw [((tidy_beforeUpdater hslots).append (.cons (tidy_updaterLine s) tidy_afterUpdater)).declaredNames hnil,
    readNames_append, readNames_cons, readNames_of_silent hread (appNames_beforeUpdater s slots),
    readNames_of_silent hread appNames_afterUpdater, List.append_nil, List.nil_append]

theorem constructedNames_updaterLine (s : Scene) :
    readNames (declaredName? [collectorOpening]) [updaterLine s] =
      if s.hasDataSources ∧ s.design.usesSystemMetrics then ["SystemMetricsCollector"] else [] := by
  unfold updaterLine
  cases s.hasDataSources <;> cases s.design.usesSystemMetrics <;> decide

theorem required_updaterLine (s : Scene) (module : List Char) :
    readNames (enclosed? requireOpening (requireClosing module)) [updaterLine s] = [] := by
  have hsilent : readNames (declaredName? [requireOpening]) [updaterLine s] = [] := by
    unfold updaterLine
    cases s.hasDataSources <;> cases s.design.usesSystemMetrics <;> decide
  exact readNames_enclosed List.mem_cons_self hsilent _

theorem constructedNames_app {s : Scene} {program : String} (h : app s = .ok program) :
    constructedNames program =
      if s.hasDataSources ∧ s.design.usesSystemMetrics then ["SystemMetricsCollector"] else [] := by
  rw [constructedNames, declaredNames_app (by decide) (fun line hline => ?_) h, constructedNames_updaterLine]
  exact declaredName?_eq_none_of_subset (by decide) hline

theorem required_app {s : Scene} {program : String} (h : app s = .ok program) (module : List Char) :
    declaredNames (enclosed? requireOpening (requireClosing module)) program = [] := by
  rw [declaredNames_app (require_skipsBlank module [] rfl) (fun line hline => ?_) h, required_updaterLine]
  exact enclosed?_eq_none List.mem_cons_self hline _

theorem appNames_entryPoint : declaredNames (declaredName? appOpenings) entryPoint = [] := by
  have htidy : TidyLines ["function main() \x7b", "  new DashboardApp().start();", "\x7d", "",
      "if (require.main === module) \x7b", "  main();", "\x7d"] := by
    apply Spelled.tidyLines
    · repeat constructor
    · decide
  rw [entryPoint, htidy.declaredNames appName?_nil]
  apply Outline.names_eq
  · repeat' constructor
  · decide
  · decide

/-! ## Exports -/

theorem exports_helpers : declaredNames (declaredName? [exportOpening]) helpers = [] := by
  have hfixed := tidy_fixed
  simp only [TidyLines, List.forall_mem_append] at hfixed
  obtain ⟨⟨⟨⟨⟨hfunctions, -⟩, -⟩, -⟩, -⟩, -⟩ := hfixed
  rw [helpers, (tidy_helperConstants.append hfunctions).declaredNames (by decide)]
  apply Outline.names_eq
  · repeat' constructor
  · decide
  · decide

/-- Headers export nothing. -/
theorem exports_header (s : Scene) {role : FileRole} (hrole : role ≠ .app) (text : String) :
    declaredNames (enclosed? exportOpening exportClosing) (header s role text) = [] := by
  have hnil : enclosed? exportOpening exportClosing [] = none := export_skipsBlank [] rfl
  have hbanner := readNames_enclosed (List.mem_cons_of_mem _ List.mem_cons_self) (appNames_banner s role) exportClosing
  have hrequires (text : String) : declaredNames (enclosed? exportOpening exportClosing) (requires text) = [] :=
    declaredNames_requires hnil (by decide) text
  have hshared : declaredNames (enclosed? exportOpening exportClosing) (shared role) = [] := by
    unfold shared
    split
    · exact readNames_enclosed List.mem_cons_self exports_helpers _
    · exact declaredNames_empty hnil
  rw [declaredNames_header export_skipsBlank, hbanner, hrequires, hshared, ownFiles, if_neg hrole,
    declaredNames_empty hnil]
  rfl

theorem exports_line {names : List String} (h : ∀ name ∈ names, IsName name) :
    exportedNames ("module.exports = \x7b " ++ joinWith ", " names ++ " \x7d;") = names := by
  have hline : ("module.exports = \x7b " ++ joinWith ", " names ++ " \x7d;").toList =
      exportOpening ++ ((joinWith ", " names).toList ++ exportClosing) := by
    rw [String.toList_append, String.toList_append, List.append_assoc]
    rfl
  have htidy : Tidy ("module.exports = \x7b " ++ joinWith ", " names ++ " \x7d;") :=
    tidy_named (plain_ofList (by decide))
      (plain_joinWith (plain_ofList (by decide)) fun name hname => (h name hname).plain) (plain_ofList (by decide))
  refine listedNames_of_joinWith ?_ h
  rw [declaredNames_of_oneLine htidy.unbroken.oneLine, readNames_listing hline]

/-! ## Data sources -/

/-- The lines of the table. -/
def tableLines (d : Design) : List String :=
  "const DATA_SOURCES = \x7b" :: (d.referencedSources.map sourceRow ++ ["\x7d;"])

theorem declaredNames_dataSources {read : List Char → Option (List Char)} (hnil : read [] = none) (d : Design)
    (comments : Bool) :
    declaredNames read (dataSources d comments) = readNames read (constants comments) ++
      (readNames read (tableLines d) ++ (readNames read logFunction ++
        ((if d.usesSystemMetrics then readNames read collector else []) ++ readNames read updater))) := by
  have hfixed := tidy_fixed
  simp only [TidyLines, List.forall_mem_append] at hfixed
  obtain ⟨⟨⟨⟨⟨-, hlog⟩, hcollector⟩, hupdater⟩, -⟩, -⟩ := hfixed
  have htable : sourceTable d = joinLines (tableLines d) := rfl
  have htidy : TidyLines (tableLines d) := tidy_sourceTable d
  rw [dataSources, declaredNames_joinWith (separates_blankLine hnil) hnil, htable]
  cases d.usesSystemMetrics <;>
    simp [(tidy_constants comments).declaredNames hnil, htidy.declaredNames hnil,
      TidyLines.declaredNames hnil hlog, TidyLines.declaredNames hnil hcollector, TidyLines.declaredNames hnil hupdater]

theorem begins_sourceRow (source : DataSource) : Begins [' ', ' '] (sourceRow source) :=
  .append (.append (.append (.append .whole)))

/-- What is looked for in the section of the sources. -/
def sourceOpenings : List (List Char) := [exportOpening, classOpening]

/-- Above its classes the section of the sources has nothing of it. -/
theorem sourceNames_table (d : Design) (comments : Bool) :
    readNames (declaredName? sourceOpenings) (constants comments ++ (tableLines d ++ logFunction)) = [] := by
  have hconstants : readNames (declaredName? sourceOpenings) (constants comments) = [] := by
    cases comments
    all_goals
      apply Outline.names_eq
      · repeat' constructor
      · decide
      · decide
  have hrows : readNames (declaredName? sourceOpenings) (d.referencedSources.map sourceRow) = [] :=
    readNames_begun (fun rest => declaredName?_append (by decide) rest)
      (List.forall_mem_map.2 fun source _ => begins_sourceRow source)
  rw [readNames_append, hconstants, List.nil_append, tableLines, List.cons_append, List.append_assoc]
  apply Outline.names_eq
  · repeat' first | apply Outline.silent hrows | constructor
  · decide
  · decide

theorem exports_dataSources (d : Design) (comments : Bool) :
    declaredNames (declaredName? [exportOpening]) (dataSources d comments) = [] := by
  have hsubset : [exportOpening] ⊆ sourceOpenings := by decide
  have htable := readNames_of_subset hsubset (sourceNames_table d comments)
  have hclasses : readNames (declaredName? [exportOpening]) (collector ++ updater) = [] := by
    apply Outline.names_eq
    · repeat' constructor
    · decide
    · decide
  simp only [readNames_append, List.append_eq_nil_iff] at htable hclasses
  obtain ⟨hconstants, hrows, hlog⟩ := htable
  rw [declaredNames_dataSources (by decide), hconstants, hrows, hlog, hclasses.1, hclasses.2, ite_self]
  rfl

/-- The section of the sources declares a collector if some source samples the host. -/
theorem classNames_dataSources (d : Design) (comments : Bool) :
    classNames (dataSources d comments) =
      (if d.usesSystemMetrics then ["SystemMetricsCollector"] else []) ++ ["DataSourceUpdater"] := by
  have hsubset : [classOpening] ⊆ sourceOpenings := by decide
  have htable := readNames_of_subset hsubset (sourceNames_table d comments)
  have hcollector : readNames (declaredName? [classOpening]) collector = ["SystemMetricsCollector"] := by
    apply Outline.names_eq
    · repeat' constructor
    · decide
    · decide
  have hupdater : readNames (declaredName? [classOpening]) updater = ["DataSourceUpdater"] := by
    apply Outline.names_eq
    · repeat' constructor
    · decide
    · decide
  simp only [readNames_append, List.append_eq_nil_iff] at htable
  obtain ⟨hconstants, hrows, hlog⟩ := htable
  rw [classNames, declaredNames_dataSources (by decide), hconstants, hrows, hlog, hcollector, hupdater]
  rfl

/-- Everything that the file of the sources exports is declared in their section. -/
theorem mem_topNames_dataSources (d : Design) (comments : Bool) :
    ∀ name ∈ sourceExports d, name ∈ topNames (dataSources d comments) := by
  have htable : "DATA_SOURCES" ∈ readNames (declaredName? topOpenings) (tableLines d) :=
    List.mem_filterMap.2 ⟨_, List.mem_cons_self, by decide⟩
  have hupdater : "DataSourceUpdater" ∈ readNames (declaredName? topOpenings) updater ∧
      "extractValue" ∈ readNames (declaredName? topOpenings) updater := by decide
  have hcollector : "SystemMetricsCollector" ∈ readNames (declaredName? topOpenings) collector := by decide
  rw [topNames, declaredNames_dataSources (by decide)]
  refine List.forall_mem_append.2 ⟨?_, ?_⟩
  · simp only [List.forall_mem_cons, List.mem_append, htable, hupdater, or_true, true_or, true_and]
    exact List.forall_mem_nil _
  · cases d.usesSystemMetrics with
    | false => exact List.forall_mem_nil _
    | true =>
      refine List.forall_mem_singleton.2 ?_
      rw [if_pos rfl]
      simp only [List.mem_append, hcollector, or_true, true_or]

/-! ## Files -/

/-- The modules of a project take from each other what they export, which they declare, and the application
constructs a collector if the sources declare one. -/
structure Links (p : Project) (d : Design) (parts : Sections) : Prop where
  requiresWidgets : p.namesIn "app.js" (requiredNames widgetsModule) = p.namesIn "widgets.js" exportedNames
  exportsWidgets : p.namesIn "widgets.js" exportedNames = d.widgets.map fun w => Name.typeName w.id
  declaresWidgets : ∀ name ∈ p.namesIn "widgets.js" exportedNames, name ∈ p.namesIn "widgets.js" topNames
  requiresSources : p.namesIn "app.js" (requiredNames sourcesModule) = p.namesIn "datasources.js" exportedNames
  exportsSources : p.namesIn "datasources.js" exportedNames = if d.hasDataSources then sourceExports d else []
  declaresSources : ∀ name ∈ p.namesIn "datasources.js" exportedNames, name ∈ p.namesIn "datasources.js" topNames
  collector : "SystemMetricsCollector" ∈ constructedNames parts.app ↔
    "SystemMetricsCollector" ∈ classNames parts.dataSources

theorem required_appFile {s : Scene} {parts : Sections} (hparts : Target.blessed.sections s = .ok parts)
    (module : List Char) :
    requiredNames module (Target.blessed.sourceFile s .app "app.js"
      (Target.blessed.join [parts.app, parts.entryPoint]) true).content = requiredNames module (localRequires s) := by
  obtain ⟨-, -, happ, hentry⟩ := Target.sections_ok hparts
  have hskip := require_skipsBlank module
  have hnil : enclosed? requireOpening (requireClosing module) [] = none := hskip [] rfl
  have hseparates : Separates (enclosed? requireOpening (requireClosing module)) Target.blessed.separator :=
    separates_blankLine hnil
  have hempty := declaredNames_empty hnil
  have hbanner := readNames_enclosed List.mem_cons_self (appNames_banner s .app) (requireClosing module)
  have hrequires (text : String) :
      declaredNames (enclosed? requireOpening (requireClosing module)) (requires text) = [] :=
    declaredNames_requires hnil (require_requirements module) text
  have hentryNames : declaredNames (enclosed? requireOpening (requireClosing module)) parts.entryPoint = [] := by
    rw [hentry]
    exact readNames_enclosed List.mem_cons_self appNames_entryPoint _
  have hheader (text : String) : Target.blessed.header s .app text = header s .app text := rfl
  have hfooter : Target.blessed.footer s .app = "" := rfl
  have hown : ownFiles s .app = localRequires s := rfl
  have hshared : shared .app = "" := rfl
  rw [requiredNames, listedNames, listedNames, Target.declaredNames_sourceFile hseparates hskip,
    Target.declaredNames_join hseparates hskip, hheader, hfooter, declaredNames_header hskip, hbanner, hrequires, hown,
    hshared, hempty]
  simp only [List.flatMap_cons, List.flatMap_nil, required_app happ, hentryNames, List.append_nil, List.nil_append]

theorem exported_sourceFile {s : Scene} {role : FileRole} (hrole : role ≠ .app) {body : String}
    (hbody : declaredNames (declaredName? [exportOpening]) body = []) (filename : String) (executable : Bool) :
    exportedNames (Target.blessed.sourceFile s role filename body executable).content =
      exportedNames (footer s role) := by
  have hnil : enclosed? exportOpening exportClosing [] = none := export_skipsBlank [] rfl
  have hseparates : Separates (enclosed? exportOpening exportClosing) Target.blessed.separator :=
    separates_blankLine hnil
  have hheader : Target.blessed.header s role body = header s role body := rfl
  have hfooter : Target.blessed.footer s role = footer s role := rfl
  have hnone : declaredNames (enclosed? exportOpening exportClosing) body = [] :=
    readNames_enclosed List.mem_cons_self hbody _
  rw [exportedNames, listedNames, listedNames, Target.declaredNames_sourceFile hseparates export_skipsBlank, hheader,
    hfooter, exports_header s hrole, hnone, List.nil_append, List.nil_append]

section Scenes

variable {s : Scene} {parts : Sections}

theorem exported_widgetsFile (hparts : Target.blessed.sections s = .ok parts) (executable : Bool) :
    exportedNames (Target.blessed.sourceFile s .widgets "widgets.js" (Target.blessed.join parts.widgets)
      executable).content = widgetExports s := by
  have hskip : SkipsBlank (declaredName? [exportOpening]) := declaredName?_skipsBlank (by decide)
  have hseparates : Separates (declaredName? [exportOpening]) Target.blessed.separator :=
    separates_blankLine (hskip [] rfl)
  rw [exported_sourceFile (by decide)]
  · exact exports_line (isName_widgetExports s)
  · rw [Target.declaredNames_join hseparates hskip, (Target.sections_ok hparts).2.1, List.flatMap_map,
      List.flatMap_eq_nil_iff]
    exact fun b _ => exports_widget b s.options

theorem mem_topNames_widgetsFile (hparts : Target.blessed.sections s = .ok parts) (executable : Bool) :
    ∀ name ∈ widgetExports s, name ∈ topNames (Target.blessed.sourceFile s .widgets "widgets.js"
      (Target.blessed.join parts.widgets) executable).content := by
  have hseparates : Separates (declaredName? topOpenings) Target.blessed.separator := separates_blankLine (by decide)
  have hskip : SkipsBlank (declaredName? topOpenings) := declaredName?_skipsBlank (by decide)
  exact List.forall_mem_map.2 fun b hb =>
    Target.mem_widgetsFile hseparates hskip hparts hb (mem_topNames_widget b s.options)

theorem dataSources_section (hparts : Target.blessed.sections s = .ok parts) (hfed : s.hasDataSources = true) :
    parts.dataSources = dataSources s.design s.options.includeComments :=
  (Except.ok.inj (Target.dataSources_of_fed hparts hfed)).symm

theorem exported_sourcesFile (hparts : Target.blessed.sections s = .ok parts) (hfed : s.hasDataSources = true)
    (executable : Bool) :
    exportedNames (Target.blessed.sourceFile s .dataSources "datasources.js" parts.dataSources executable).content =
      sourceExports s.design := by
  rw [exported_sourceFile (by decide)]
  · exact exports_line (isName_sourceExports s.design)
  · rw [dataSources_section hparts hfed]
    exact exports_dataSources _ _

theorem mem_topNames_sourcesFile (hparts : Target.blessed.sections s = .ok parts) (hfed : s.hasDataSources = true)
    (executable : Bool) :
    ∀ name ∈ sourceExports s.design, name ∈ topNames (Target.blessed.sourceFile s .dataSources "datasources.js"
      parts.dataSources executable).content := by
  have hseparates : Separates (declaredName? topOpenings) Target.blessed.separator := separates_blankLine (by decide)
  have hskip : SkipsBlank (declaredName? topOpenings) := declaredName?_skipsBlank (by decide)
  rw [dataSources_section hparts hfed]
  exact fun name hname => Target.mem_sourceFile hseparates hskip (mem_topNames_dataSources _ _ name hname)

/-- The application constructs a collector exactly if the section of the sources declares its class. -/
theorem constructed_iff_declared (hparts : Target.blessed.sections s = .ok parts) :
    "SystemMetricsCollector" ∈ constructedNames parts.app ↔
      "SystemMetricsCollector" ∈ classNames parts.dataSources := by
  refine Target.collector_iff (constructedNames_app (Target.sections_ok hparts).2.2.1) (fun hfed => ?_) fun hfed => ?_
  · rw [dataSources_section hparts hfed, classNames_dataSources]
    cases s.design.usesSystemMetrics <;> decide
  · rw [Target.dataSources_of_unfed hparts hfed]
    exact declaredNames_empty (by decide)

/-- **The modules of a project link.** -/
theorem links {p : Project} (hparts : Target.blessed.sections s = .ok parts)
    (hwidgets : s.behaviors.map (·.widget) = s.design.widgets)
    (hfiles : p.files = Target.blessed.modularFiles s parts ++ Target.blessed.furtherFiles s) :
    Links p s.design parts := by
  have hnamed : Target.blessed.NamesFiles := Target.namesFiles_ofFramework .blessed
  obtain ⟨happ, hwidgetsFile, hsourcesFile⟩ := Target.file?_modular hnamed hfiles
  obtain ⟨hwidgetsRequired, hsourcesRequired⟩ := required_localRequires s
  have happNames (module : List Char) :
      p.namesIn "app.js" (requiredNames module) = requiredNames module (localRequires s) :=
    (Project.namesIn_of_file? happ _).trans (required_appFile hparts module)
  have hwidgetNames : p.namesIn "widgets.js" exportedNames = widgetExports s :=
    (Project.namesIn_of_file? hwidgetsFile _).trans (exported_widgetsFile hparts false)
  have hwidgetTops : p.namesIn "widgets.js" topNames = topNames _ := Project.namesIn_of_file? hwidgetsFile _
  have hsourceNames : p.namesIn "datasources.js" exportedNames =
        (if s.hasDataSources then sourceExports s.design else []) ∧
      ∀ name ∈ p.namesIn "datasources.js" exportedNames, name ∈ p.namesIn "datasources.js" topNames := by
    cases hfed : s.hasDataSources with
    | true =>
      rw [hfed, if_pos rfl] at hsourcesFile
      have hexports : p.namesIn "datasources.js" exportedNames = sourceExports s.design :=
        (Project.namesIn_of_file? hsourcesFile _).trans (exported_sourcesFile hparts hfed false)
      have htops : p.namesIn "datasources.js" topNames = topNames _ := Project.namesIn_of_file? hsourcesFile _
      rw [hexports, htops]
      exact ⟨rfl, mem_topNames_sourcesFile hparts hfed false⟩
    | false =>
      rw [hfed] at hsourcesFile
      have hexports : p.namesIn "datasources.js" exportedNames = [] := Project.namesIn_of_none hsourcesFile _
      rw [hexports]
      exact ⟨rfl, List.forall_mem_nil _⟩
  obtain ⟨hsourceExports, hsourceTops⟩ := hsourceNames
  refine ⟨?_, ?_, ?_, ?_, hsourceExports, hsourceTops, constructed_iff_declared hparts⟩
  · rw [happNames, hwidgetsRequired, hwidgetNames]
  · rw [hwidgetNames, ← hwidgets, List.map_map]
    rfl
  · rw [hwidgetNames, hwidgetTops]
    exact mem_topNames_widgetsFile hparts false
  · rw [happNames, hsourcesRequired, hsourceExports]

end Scenes

end DashboardCompiler.Blessed
