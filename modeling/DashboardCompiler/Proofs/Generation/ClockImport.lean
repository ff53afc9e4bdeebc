import DashboardCompiler.Proofs.Generation.Imports
import DashboardCompiler.Proofs.Generation.RawProperties
import DashboardCompiler.Proofs.Target.Textual.Imports

/-!
# The import of the clock

What a Textual program imports does not depend on the texts of its widgets, with one exception. The scan for modules
does not look into literals, but the search for the call of the clock does: a text with the call in it makes its
program import the clock, although nothing in the program calls it.
-/

namespace DashboardCompiler

open Text Code

theorem Target.generate_ok_iff {t : Target} {d : Design} {o : Options} {p : Project} :
    t.generate d o = .ok p ↔ ∃ s, Scene.ofDesign d o = .accepted s ∧ t.generateScene s = .ok p := by
  rw [generate]
  cases Scene.ofDesign d o with
  | rejected problems => simp
  | accepted s => cases hproject : t.generateScene s <;> simp [hproject]

/-- The source files of a project are all its files in the language of the target. -/
theorem Target.perFile_generateScene {t : Target} {s : Scene} {parts : Sections} {p : Project}
    (hparts : t.sections s = .ok parts) (h : t.generateScene s = .ok p)
    (hlanguage : t.language ∉ "markdown" :: (t.manifests s).map (·.2.2)) (read : String → List String) :
    p.perFile t.language read =
      (if s.isModular then t.modularFiles s parts else t.singleFiles s parts).map
        fun file => (file.filename, read file.content) := by
  obtain ⟨q, hq, hfiles⟩ := generateScene_ok hparts
  rw [h] at hq
  cases hq
  have hfurther : ∀ file ∈ t.furtherFiles s, ¬ decide (file.language = t.language) = true := by
    intro file hfile hsame
    exact hlanguage (of_decide_eq_true hsame ▸ language_furtherFiles file hfile)
  have hsources : ∀ file ∈ (if s.isModular then t.modularFiles s parts else t.singleFiles s parts),
      decide (file.language = t.language) = true := fun file hfile => decide_eq_true (language_sources file hfile)
  rw [Project.perFile, hfiles, List.filter_append, List.filter_eq_nil_iff.2 hfurther, List.append_nil,
    List.filter_eq_self.2 hsources]

/-! ## Designs without the texts of their widgets -/

/-- The same dashboard, with its name but with no text in its widgets. -/
def Design.withoutWidgetTexts (d : Design) : Design := d.mapWidgets Widget.withoutTexts

def Scene.withoutWidgetTexts (s : Scene) : Scene := s.mapWidgets Widget.withoutTexts Behavior.withoutTexts

/-- Whether some text that is shown has the call of the clock in its literal. -/
def Scene.TellsTime (s : Scene) : Prop := ∃ b ∈ s.behaviors, ∃ text ∈ b.texts, Textual.TellsTime text

/-- Whether a design shows some text that has the call of the clock in its literal. -/
def Design.TellsTime (d : Design) (o : Options) : Prop := ∃ s, Scene.ofDesign d o = .accepted s ∧ s.TellsTime

theorem Design.tellsTime_iff {d : Design} {o : Options} {s : Scene} (h : Scene.ofDesign d o = .accepted s) :
    d.TellsTime o ↔ s.TellsTime := by
  constructor
  · rintro ⟨other, hother, htells⟩
    rw [h] at hother
    cases hother
    exact htells
  · exact fun htells => ⟨s, h, htells⟩

theorem Scene.ofDesign_withoutWidgetTexts {d : Design} {o : Options} {s : Scene} (h : ofDesign d o = .accepted s) :
    ofDesign d.withoutWidgetTexts o = .accepted s.withoutWidgetTexts := by
  obtain ⟨bs, hbs, rfl⟩ := Checked.map_accepted_iff.1 h
  exact Checked.map_accepted_iff.2 ⟨_, Behavior.ofWidgets_withoutTexts hbs, rfl⟩

theorem Widget.dataSource_withoutTexts (w : Widget) : w.withoutTexts.dataSource = w.dataSource := rfl

theorem Behavior.keepsFrame_withoutTexts : KeepsFrame withoutTexts :=
  ⟨fun _ => rfl, fun _ => rfl, fun _ => rfl, fun _ => rfl, fun _ => rfl, colors_withoutTexts⟩

/-- Every widget has a type that the targets know. -/
def Scene.Known (s : Scene) : Prop := ∀ b ∈ s.behaviors, ∃ kind : WidgetKind, b.widget.type = Named.name kind

theorem Scene.known_of_designFaults {f : Framework} {d : Design} {o : Options} {s : Scene}
    (hsuits : (Target.ofFramework f).designFaults d = []) (h : ofDesign d o = .accepted s) : s.Known := by
  have htypes : (Target.ofFramework f).widgetTypes = Named.names WidgetKind := by cases f <;> rfl
  obtain ⟨bs, hbs, rfl⟩ := Checked.map_accepted_iff.1 h
  intro b hb
  have hwidget : b.widget ∈ d.widgets := by
    rw [← Behavior.widgets_of_accepted hbs]
    exact List.mem_map_of_mem hb
  have hsupported := (List.append_eq_nil_iff.1 hsuits).1
  rw [Target.unsupported, List.map_eq_nil_iff, List.filter_eq_nil_iff, htypes] at hsupported
  have hknown : b.widget.type ∈ Named.names WidgetKind := by simpa using hsupported _ hwidget
  obtain ⟨kind, -, hkind⟩ := List.mem_map.1 hknown
  exact ⟨kind, hkind.symm⟩

namespace Textual

section Bare

variable (s : Scene)

theorem dataSources_withoutWidgetTexts (comments : Bool) :
    dataSources s.withoutWidgetTexts.design comments = dataSources s.design comments :=
  dataSources_mapWidgets Widget.dataSource_withoutTexts s.design comments

theorem app_withoutWidgetTexts : app s.withoutWidgetTexts = app s :=
  app_mapWidgets Widget.dataSource_withoutTexts Behavior.keepsFrame_withoutTexts s

theorem header_withoutWidgetTexts (role : FileRole) :
    Target.textual.header s.withoutWidgetTexts role = Target.textual.header s role :=
  header_mapWidgets Widget.dataSource_withoutTexts Behavior.keepsFrame_withoutTexts s role

end Bare

/-! ## The file with the widgets -/

section Widgets

variable (s : Scene)

def widgetsRole : FileRole := if s.isModular then .widgets else .single

def widgetsFile : String := if s.isModular then Target.textual.widgetsFile else Target.textual.singleFile

/-- What stands above the widgets in their file. -/
def aboveWidgets : List String :=
  if s.isModular then [] else if s.hasDataSources then [dataSources s.design s.options.includeComments] else []

/-- What stands below the widgets in their file. -/
def belowWidgets : List String := if s.isModular then [] else [app s, entryPoint]

/-- The sections of the file with the widgets. -/
def widgetSections : List String := aboveWidgets s ++ s.behaviors.map (widget · s.options) ++ belowWidgets s

/-- What is scanned for the imports of the file with the widgets. -/
def scannedWidgets : String := scanned (Target.textual.join (widgetSections s))

theorem holdsWidgets_widgetsRole : HoldsWidgets (widgetsRole s) := by
  unfold widgetsRole
  split
  · exact .inr rfl
  · exact .inl rfl

theorem solid_widgetSections : ∀ text ∈ widgetSections s, Solid text := by
  simp only [widgetSections, List.forall_mem_append, List.forall_mem_map]
  refine ⟨⟨?_, fun b _ => widget_solid b s.options⟩, ?_⟩
  · unfold aboveWidgets
    split
    · exact List.forall_mem_nil _
    · split
      · exact List.forall_mem_singleton.2 (dataSources_solid _ _)
      · exact List.forall_mem_nil _
  · unfold belowWidgets
    split
    · exact List.forall_mem_nil _
    · exact List.forall_mem_cons.2 ⟨app_solid s, List.forall_mem_singleton.2 entryPoint_solid⟩

theorem scannedWidgets_eq :
    scannedWidgets s = helpers ++ "\n" ++ (joinWith "\n\n\n" (widgetSections s) ++ "\n") := by
  rw [scannedWidgets, scanned, Target.join, joinSections_of_solid (solid_widgetSections s)]
  rfl

theorem has_scannedWidgets : Has (scannedWidgets s) clockCall ↔ Has helpers clockCall ∨
    (∃ text ∈ s.behaviors.map (widget · s.options), Has text clockCall) ∨
      ∃ text ∈ aboveWidgets s ++ belowWidgets s, Has text clockCall := by
  rw [scannedWidgets_eq, has_append oneLine_clockCall, has_sections oneLine_clockCall clockCall_ne_empty, widgetSections]
  simp only [List.mem_append, or_and_right, exists_or]
  rw [or_assoc, or_left_comm (b := ∃ text ∈ s.behaviors.map (widget · s.options), Has text clockCall)]

theorem aboveWidgets_withoutWidgetTexts : aboveWidgets s.withoutWidgetTexts = aboveWidgets s := by
  rw [aboveWidgets, aboveWidgets, dataSources_withoutWidgetTexts]
  rfl

theorem belowWidgets_withoutWidgetTexts : belowWidgets s.withoutWidgetTexts = belowWidgets s := by
  rw [belowWidgets, belowWidgets, app_withoutWidgetTexts]
  rfl

variable {s} (hknown : s.Known)

include hknown

/-- The texts of the widgets do not show in the code that is scanned. -/
theorem codeChars_scannedWidgets :
    codeChars (scannedWidgets s).toList = codeChars (scannedWidgets s.withoutWidgetTexts).toList := by
  have habove : List.Forall₂ SameCode (aboveWidgets s) (aboveWidgets s) := by
    refine List.forall₂_same.2 fun text htext => .refl ?_
    unfold aboveWidgets at htext
    split at htext
    · cases htext
    · split at htext
      · rw [List.mem_singleton.1 htext]
        exact passage_dataSources _ _
      · cases htext
  have hwidgets : List.Forall₂ SameCode (s.behaviors.map (widget · s.options))
      (s.withoutWidgetTexts.behaviors.map (widget · s.options)) := by
    rw [Scene.withoutWidgetTexts, Scene.mapWidgets, List.map_map, List.forall₂_map_left_iff, List.forall₂_map_right_iff]
    refine List.forall₂_same.2 fun b hb => ?_
    obtain ⟨kind, hkind⟩ := hknown b hb
    exact (alike_widget hkind s.options).sameCode
  rw [scannedWidgets_eq, scannedWidgets_eq, widgetSections, widgetSections, aboveWidgets_withoutWidgetTexts,
    belowWidgets_withoutWidgetTexts]
  exact (SameCode.refl passage_helpers).codeChars_append
    (SameCode.codeChars_sections (List.rel_append habove hwidgets) (belowWidgets s))

/-- The call of the clock is found without the texts of the widgets, or in one of the texts. -/
theorem has_scannedWidgets_iff : Has (scannedWidgets s) clockCall ↔
    Has (scannedWidgets s.withoutWidgetTexts) clockCall ∨ s.TellsTime := by
  have hwidgets : (∃ text ∈ s.behaviors.map (widget · s.options), Has text clockCall) ↔
      (∃ text ∈ s.withoutWidgetTexts.behaviors.map (widget · s.withoutWidgetTexts.options), Has text clockCall) ∨
        s.TellsTime := by
    have hbare : s.withoutWidgetTexts.behaviors.map (widget · s.withoutWidgetTexts.options) =
        s.behaviors.map fun b => widget b.withoutTexts s.options := List.map_map
    rw [hbare, Scene.TellsTime]
    simp only [List.mem_map, exists_exists_and_eq_and]
    rw [← exists_or]
    refine exists_congr fun b => ?_
    rw [← and_or_left]
    refine and_congr_right fun hb => ?_
    obtain ⟨kind, hkind⟩ := hknown b hb
    exact has_widget hkind s.options
  rw [has_scannedWidgets, has_scannedWidgets, hwidgets, aboveWidgets_withoutWidgetTexts, belowWidgets_withoutWidgetTexts,
    or_right_comm, ← or_assoc]

end Widgets

/-! ## The import blocks of a program -/

section Tables

variable (s : Scene)

/-- The import block of the application, if it has a file of its own. -/
def appImports : List (String × List String) :=
  if s.isModular then
    [(Target.textual.appFile, pythonImportBlock (Target.textual.plainFile
      (Target.textual.header s .app (Target.textual.join [app s, entryPoint])) [app s, entryPoint] ""))]
  else []

/-- The import block of the sources, if they have a file of their own. -/
def sourcesImports : List (String × List String) :=
  if s.isModular && s.hasDataSources then
    let sources := dataSources s.design s.options.includeComments
    [(Target.textual.sourcesFile, pythonImportBlock (Target.textual.plainFile
      (Target.textual.header s .dataSources sources) [sources] ""))]
  else []

/-- The import block of the file with the widgets, given whether the call of the clock is found in it. -/
def widgetsImports (clock : Bool) : List String :=
  fileBlock s (widgetsRole s) (Target.textual.join (widgetSections s)) clock ++ ["", ""]

/-- The import blocks of a program, given whether the call of the clock is found in the file with the widgets. -/
def importTable (clock : Bool) : List (String × List String) :=
  appImports s ++ (widgetsFile s, widgetsImports s clock) :: sourcesImports s

/-- The sections of a program, which are always found. -/
def textualSections : Sections :=
  ⟨if s.hasDataSources then dataSources s.design s.options.includeComments else "",
    s.behaviors.map (widget · s.options), app s, entryPoint⟩

theorem sections_textual : Target.textual.sections s = .ok (textualSections s) := by
  unfold Target.sections textualSections
  cases s.hasDataSources <;> rfl

theorem appImports_withoutWidgetTexts : appImports s.withoutWidgetTexts = appImports s := by
  rw [appImports, appImports, app_withoutWidgetTexts, header_withoutWidgetTexts]
  rfl

theorem sourcesImports_withoutWidgetTexts : sourcesImports s.withoutWidgetTexts = sourcesImports s := by
  rw [sourcesImports, sourcesImports, dataSources_withoutWidgetTexts, header_withoutWidgetTexts]
  rfl

variable {s}

/-- Without the texts of the widgets the files import the same, as long as the clock stays what it is. -/
theorem importTable_withoutWidgetTexts (hknown : s.Known) (clock : Bool) :
    importTable s.withoutWidgetTexts clock = importTable s clock := by
  have hcode : codeChars (scanned (Target.textual.join (widgetSections s.withoutWidgetTexts))).toList =
      codeChars (scanned (Target.textual.join (widgetSections s))).toList := (codeChars_scannedWidgets hknown).symm
  have hmodules (candidates : List String) :
      usedModules (scanned (Target.textual.join (widgetSections s.withoutWidgetTexts))) candidates =
        usedModules (scanned (Target.textual.join (widgetSections s))) candidates := by
    rw [usedModules, usedModules, hcode]
  have hwidgets : widgetsImports s.withoutWidgetTexts clock = widgetsImports s clock := by
    rw [widgetsImports, widgetsImports, fileBlock, fileBlock, hmodules, hmodules]
    rfl
  rw [importTable, importTable, appImports_withoutWidgetTexts, sourcesImports_withoutWidgetTexts, hwidgets]
  rfl

theorem clockImport_mem_widgetsImports (s : Scene) (clock : Bool) :
    clockImport ∈ widgetsImports s clock ↔ clock = true := by
  have htoolkit : clockImport ∉ toolkitImports s (widgetsRole s) := fun hmem =>
    ((toolkitImports_holds (holdsWidgets_widgetsRole s)).1 _ hmem).2 rfl
  have hblank : clockImport ∉ ["", ""] := by decide
  rw [widgetsImports, List.mem_append, or_iff_left hblank, fileBlock, clockImport_mem_blockLines htoolkit]

theorem importTable_inj {clock other : Bool} : importTable s clock = importTable s other ↔ clock = other := by
  refine ⟨fun h => ?_, congrArg _⟩
  have hblocks : widgetsImports s clock = widgetsImports s other :=
    (Prod.mk.inj (List.cons.inj (List.append_cancel_left h)).1).2
  rw [Bool.eq_iff_iff, ← clockImport_mem_widgetsImports s, hblocks, clockImport_mem_widgetsImports]

theorem besideClock_widgetsImports (s : Scene) (clock other : Bool) :
    besideClock (widgetsImports s clock) = besideClock (widgetsImports s other) := by
  rw [widgetsImports, widgetsImports, besideClock_append, besideClock_append, fileBlock, fileBlock, besideClock_blockLines,
    besideClock_blockLines]

end Tables

end Textual

namespace Project

/-- The import block of each Python file. -/
def pythonImports (p : Project) : List (String × List String) := p.perFile "python" pythonImportBlock

/-- What each Python file imports beside the clock. -/
def otherImports (p : Project) : List (String × List String) :=
  p.pythonImports.map fun entry => (entry.1, Textual.besideClock entry.2)

/-- Whether the file with the widgets imports the clock. -/
def WidgetsImportClock (p : Project) : Prop :=
  ∃ entry ∈ p.pythonImports, entry.1 ∈ [Target.textual.singleFile, Target.textual.widgetsFile] ∧
    Textual.clockImport ∈ entry.2

end Project

namespace Textual

section Projects

variable {s : Scene} {p : Project}

theorem singleFiles_imports (hsingle : s.isModular = false) :
    (Target.textual.singleFiles s (textualSections s)).map (fun file => (file.filename, pythonImportBlock file.content)) =
      importTable s (contains (scannedWidgets s) clockCall) := by
  have hprogram : (textualSections s).program s.hasDataSources = widgetSections s := by
    rw [widgetSections, aboveWidgets, belowWidgets, hsingle, Sections.program, textualSections]
    cases s.hasDataSources <;> rfl
  have hblock := pythonImportBlock_file (s := s) (.inl rfl) (Target.textual.join (widgetSections s)) (widgetSections s) ""
  rw [Target.firm_textual.singleFiles_eq (sections_textual s), Target.singleLayout, hprogram, importTable, appImports,
    sourcesImports, widgetsFile, widgetsImports, widgetsRole, hsingle]
  exact congrArg (fun block => [(Target.textual.singleFile, block)]) hblock

theorem modularFiles_imports (hmodular : s.isModular = true) :
    (Target.textual.modularFiles s (textualSections s)).map (fun file => (file.filename, pythonImportBlock file.content)) =
      importTable s (contains (scannedWidgets s) clockCall) := by
  have hwidgets : (textualSections s).widgets = widgetSections s := by
    rw [widgetSections, aboveWidgets, belowWidgets, hmodular]
    exact (List.append_nil _).symm
  have hblock : pythonImportBlock (Target.textual.plainFile
      (Target.textual.header s .widgets (Target.textual.join (widgetSections s))) (widgetSections s)
      (Target.textual.footer s .widgets)) = widgetsImports s (contains (scannedWidgets s) clockCall) := by
    rw [widgetsImports, widgetsRole, hmodular]
    exact pythonImportBlock_file (.inr rfl) _ _ ""
  rw [Target.firm_textual.modularFiles_eq (sections_textual s), Target.modularLayout, hwidgets, importTable, appImports,
    sourcesImports, widgetsFile, hmodular]
  simp only [if_true, Bool.true_and, List.map_append, List.map_cons, List.map_nil, hblock]
  have hindex : Target.textual.moduleIndex s = [] := rfl
  have hfooter : Target.textual.footer s .dataSources = "" := rfl
  rw [hindex, hfooter, List.map_nil, List.map_nil, List.append_nil]
  cases hfed : s.hasDataSources with
  | false => rfl
  | true =>
    have hsources : (textualSections s).dataSources = dataSources s.design s.options.includeComments := by
      rw [textualSections, hfed]
      rfl
    rw [hsources]
    rfl

theorem pythonImports_of_generateScene (h : Target.textual.generateScene s = .ok p) :
    p.pythonImports = importTable s (contains (scannedWidgets s) clockCall) := by
  have hfiles := Target.perFile_generateScene (sections_textual s) h (by simp [Target.textual]) pythonImportBlock
  refine Eq.trans hfiles ?_
  split
  · rename_i hmodular
    exact modularFiles_imports hmodular
  · rename_i hsingle
    exact singleFiles_imports (Bool.not_eq_true _ ▸ hsingle)

theorem otherImports_eq {clock : Bool} (h : p.pythonImports = importTable s clock) :
    p.otherImports = (importTable s false).map fun entry => (entry.1, besideClock entry.2) := by
  rw [Project.otherImports, h, importTable, importTable, List.map_append, List.map_append, List.map_cons, List.map_cons,
    besideClock_widgetsImports s clock false]

theorem widgetsImportClock_iff {clock : Bool} (h : p.pythonImports = importTable s clock) :
    p.WidgetsImportClock ↔ clock = true := by
  have happFile : Target.textual.appFile ∉ [Target.textual.singleFile, Target.textual.widgetsFile] := by decide
  have hsourcesFile : Target.textual.sourcesFile ∉ [Target.textual.singleFile, Target.textual.widgetsFile] := by decide
  have happ : ∀ entry ∈ appImports s, entry.1 ∉ [Target.textual.singleFile, Target.textual.widgetsFile] := by
    unfold appImports
    split
    · exact List.forall_mem_singleton.2 happFile
    · exact List.forall_mem_nil _
  have hsources : ∀ entry ∈ sourcesImports s, entry.1 ∉ [Target.textual.singleFile, Target.textual.widgetsFile] := by
    unfold sourcesImports
    split
    · exact List.forall_mem_singleton.2 hsourcesFile
    · exact List.forall_mem_nil _
  have hwidgets : widgetsFile s ∈ [Target.textual.singleFile, Target.textual.widgetsFile] := by
    unfold widgetsFile
    split <;> decide
  rw [Project.WidgetsImportClock, h, ← clockImport_mem_widgetsImports s]
  constructor
  · rintro ⟨entry, hentry, hfile, hclock⟩
    rcases List.mem_append.1 hentry with hentry | hentry
    · exact absurd hfile (happ entry hentry)
    · rcases List.mem_cons.1 hentry with rfl | hentry
      · exact hclock
      · exact absurd hfile (hsources entry hentry)
  · exact fun hclock => ⟨_, List.mem_append_right _ List.mem_cons_self, hwidgets, hclock⟩

end Projects

end Textual

/-- The file with the widgets imports the clock if and only if the call of the clock is found in it. -/
theorem Generator.widgetsImportClock_iff {d : Design} {o : Options} {p : Project} {s : Scene}
    (htextual : o.framework = .textual) (hs : Scene.ofDesign d o = .accepted s)
    (hp : Generator.default.generate d o = .ok p) : p.WidgetsImportClock ↔ Has (Textual.scannedWidgets s) Textual.clockCall := by
  obtain ⟨-, hp⟩ := default_generate_ok hp
  rw [htextual] at hp
  obtain ⟨other, hother, hscene⟩ := Target.generate_ok_iff.1 hp
  obtain rfl : s = other := Checked.accepted.inj (hs.symm.trans hother)
  rw [Textual.widgetsImportClock_iff (Textual.pythonImports_of_generateScene hscene), contains_iff]

/-- A program imports what it imports without the texts of its widgets, and the clock if one of them tells the time. -/
theorem Generator.generate_withoutWidgetTexts {d : Design} {o : Options} {p : Project} (htextual : o.framework = .textual)
    (hp : Generator.default.generate d o = .ok p) :
    ∃ s r, Scene.ofDesign d.withoutWidgetTexts o = .accepted s ∧
      Generator.default.generate d.withoutWidgetTexts o = .ok r ∧
      ∃ bare full, r.pythonImports = Textual.importTable s bare ∧ p.pythonImports = Textual.importTable s full ∧
        (full = true ↔ bare = true ∨ d.TellsTime o) := by
  obtain ⟨hsuits, hp⟩ := default_generate_ok hp
  have hbareSuits : (Target.ofFramework o.framework).designFaults d.withoutWidgetTexts = [] :=
    (Target.designFaults_mapWidgets (f := Widget.withoutTexts) (fun _ => rfl) (fun _ => rfl) _ d).trans hsuits
  rw [htextual] at hp
  obtain ⟨s, hs, hscene⟩ := Target.generate_ok_iff.1 hp
  have hknown : s.Known := Scene.known_of_designFaults hsuits hs
  have hbare := Scene.ofDesign_withoutWidgetTexts hs
  obtain ⟨r, hr, -⟩ := Target.generateScene_ok (Textual.sections_textual s.withoutWidgetTexts)
  have himports := Textual.pythonImports_of_generateScene hscene
  rw [← Textual.importTable_withoutWidgetTexts hknown] at himports
  refine ⟨s.withoutWidgetTexts, r, hbare, ?_, _, _, Textual.pythonImports_of_generateScene hr, himports, ?_⟩
  · rw [default_generate_of_designFaults hbareSuits, htextual]
    exact Target.generate_ok_iff.2 ⟨_, hbare, hr⟩
  · rw [contains_iff, contains_iff, Textual.has_scannedWidgets_iff hknown, Design.tellsTime_iff hs]

/-- **No text of a widget gets into the imports of a Textual program, but it may call for the clock.** Two designs that
are the same without the texts of their widgets give files that import the same beside the clock. They import the
same altogether if and only if the program needs the clock without any text, or the texts of both designs tell the
time, or those of neither do. -/
theorem Generator.generate_pythonImports {d e : Design} {o : Options} {p q : Project} (htextual : o.framework = .textual)
    (hsame : d.withoutWidgetTexts = e.withoutWidgetTexts) (hp : Generator.default.generate d o = .ok p)
    (hq : Generator.default.generate e o = .ok q) :
    p.otherImports = q.otherImports ∧
      ∃ r, Generator.default.generate d.withoutWidgetTexts o = .ok r ∧
        (p.pythonImports = q.pythonImports ↔ r.WidgetsImportClock ∨ (d.TellsTime o ↔ e.TellsTime o)) := by
  obtain ⟨s, r, hs, hr, bare, first, hbare, hfirst, hd⟩ := generate_withoutWidgetTexts htextual hp
  obtain ⟨s', r', hs', hr', bare', second, hbare', hsecond, he⟩ := generate_withoutWidgetTexts htextual hq
  rw [← hsame] at hs' hr'
  obtain rfl : s = s' := Checked.accepted.inj (hs.symm.trans hs')
  obtain rfl : r = r' := Except.ok.inj (hr.symm.trans hr')
  obtain rfl : bare = bare' := Textual.importTable_inj.1 (hbare.symm.trans hbare')
  refine ⟨(Textual.otherImports_eq hfirst).trans (Textual.otherImports_eq hsecond).symm, r, hr, ?_⟩
  rw [hfirst, hsecond, Textual.importTable_inj, Bool.eq_iff_iff, hd, he, Textual.widgetsImportClock_iff hbare]
  by_cases hclock : bare = true <;> simp [hclock]

/-- A text that shows nothing of its own. -/
def Behavior.blankNote : Behavior :=
  ⟨⟨"w", "text", ⟨0, 0⟩, ⟨10, 3⟩, none, none, none, []⟩, true, .text ⟨"Text content", .left, true⟩⟩

theorem Textual.not_has_blankNote (o : Options) (hcomments : o.includeComments = false) :
    ¬ Has (widget .blankNote o) clockCall := by
  have hhead : ∀ line ∈ widgetHead .blankNote false (partsOf .blankNote), ¬ Has line clockCall := by decide +kernel
  have hstart : ∀ line ∈ constructorStart .blankNote, ¬ Has line clockCall := by decide +kernel
  have hattributes : ∀ line ∈ titleLine .blankNote :: commonAttributes .blankNote, ¬ Has line clockCall := by
    decide +kernel
  have hstate : ∀ line ∈ (partsOf .blankNote).state, ¬ Has line clockCall := by decide +kernel
  have hupdate : ∀ line ∈ (partsOf .blankNote).update, ¬ Has line clockCall := by
    apply Silent.not_has
    · repeat constructor
    · decide +kernel
  have hrender : ∀ line ∈ (partsOf .blankNote).render, ¬ Has line clockCall := by
    apply Silent.not_has
    · repeat constructor
    · decide +kernel
  have hmethods : ∀ line ∈ methodLines .blankNote (partsOf .blankNote), ¬ Has line clockCall := by
    unfold methodLines
    simp only [List.forall_mem_append]
    refine ⟨⟨⟨⟨⟨⟨⟨⟨?_, ?_⟩, ?_⟩, not_has_bodyLines hrender⟩, ?_⟩, not_has_bodyLines hupdate⟩, ?_⟩, ?_⟩, ?_⟩
    all_goals
      apply Silent.not_has
      · repeat constructor
      · decide +kernel
  rw [widget, has_joinLines oneLine_clockCall clockCall_ne_empty, hcomments, classLines_eq]
  rintro ⟨line, hline, hhas⟩
  refine (?_ : ∀ line ∈ _, ¬ Has line clockCall) line hline hhas
  simp only [List.forall_mem_append]
  exact ⟨⟨hhead, ⟨hstart, hattributes⟩, not_has_bodyLines hstate⟩, hmethods⟩

/-- Two dashboards of one text, of which one says how to ask for the time. -/
theorem Generator.generate_pythonImports_labelled :
    ∃ p q, Generator.default.generate (Design.labelled "clock" "Clock" "datetime.now") ⟨.textual, .modular, false, true⟩ =
        .ok p ∧
      Generator.default.generate (Design.labelled "clock" "Clock" "12:00") ⟨.textual, .modular, false, true⟩ = .ok q ∧
      p.otherImports = q.otherImports ∧ p.pythonImports ≠ q.pythonImports := by
  obtain ⟨p, hp⟩ : ∃ p, Generator.default.generate (Design.labelled "clock" "Clock" "datetime.now")
      ⟨.textual, .modular, false, true⟩ = .ok p := exists_ok_of_isOk (by rfl)
  obtain ⟨q, hq⟩ : ∃ q, Generator.default.generate (Design.labelled "clock" "Clock" "12:00")
      ⟨.textual, .modular, false, true⟩ = .ok q := exists_ok_of_isOk (by rfl)
  have hsame : (Design.labelled "clock" "Clock" "datetime.now").withoutWidgetTexts =
      (Design.labelled "clock" "Clock" "12:00").withoutWidgetTexts := by
    rfl
  obtain ⟨hother, r, hr, himports⟩ := generate_pythonImports rfl hsame hp hq
  refine ⟨p, q, hp, hq, hother, fun heq => ?_⟩
  have htells : (Design.labelled "clock" "Clock" "datetime.now").TellsTime ⟨.textual, .modular, false, true⟩ := by
    have htext : Textual.TellsTime "datetime.now" := by decide +kernel
    exact (Design.tellsTime_iff rfl).2 ⟨_, List.mem_cons_self, _, List.mem_cons_of_mem _ List.mem_cons_self, htext⟩
  have hsilent : ¬ (Design.labelled "clock" "Clock" "12:00").TellsTime ⟨.textual, .modular, false, true⟩ := by
    have htexts : ∀ text ∈ ["Clock", "12:00"], ¬ Textual.TellsTime text := by decide +kernel
    rw [Design.tellsTime_iff rfl]
    rintro ⟨b, hb, text, htext, htells⟩
    obtain rfl := List.mem_singleton.1 hb
    exact htexts text htext htells
  rcases himports.1 heq with hclock | hboth
  · rw [widgetsImportClock_iff rfl rfl hr, Textual.has_scannedWidgets] at hclock
    rcases hclock with hhelpers | ⟨text, htext, hhas⟩ | ⟨text, htext, -⟩
    · exact Textual.not_has_helpers hhelpers
    · obtain rfl := List.mem_singleton.1 htext
      exact Textual.not_has_blankNote _ rfl hhas
    · cases htext
  · exact hsilent (hboth.1 htells)

end DashboardCompiler
