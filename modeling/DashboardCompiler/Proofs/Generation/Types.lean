import DashboardCompiler.Proofs.Generation.Wiring
import DashboardCompiler.Proofs.Target.BubbleTea.Types
import DashboardCompiler.Proofs.Target.Ratatui.Types

/-!
# The types of one program

A Go or Rust program must declare each type once. The widgets of a design have distinct type names, which the
target has checked, and the templates have theirs; what no check compares is the names of the one kind with
those of the other. They meet in one name, that of what all widgets implement.
-/

namespace DashboardCompiler

open Code Text

/-- The types that a file of a program declares, as its language has it. -/
def GeneratedFile.declaredTypes (file : GeneratedFile) : List String :=
  if file.language = "go" then declaredNames BubbleTea.typeName? file.content
  else if file.language = "rust" then declaredNames Ratatui.typeName? file.content
  else []

/-- The types that a program declares, file after file. -/
def Project.declaredTypes (p : Project) : List String := p.files.flatMap (·.declaredTypes)

namespace Target

variable {t : Target} {read : List Char → Option (List Char)} {types : Design → TemplateTypes}

/-! ## Files -/

theorem Declares.join (h : t.Declares read types) (sections : List String) :
    declaredNames read (t.join sections) = sections.flatMap (declaredNames read) := by
  rw [Target.join, h.separator, declaredNames_joinSections (separates_blankLine (h.skipsBlank [] rfl)) h.skipsBlank]

/-- A file declares what its header and its body do. -/
theorem Declares.sourceFile (h : t.Declares read types) (s : Scene) (role : FileRole) (filename body : String)
    (executable : Bool) :
    declaredNames read (t.sourceFile s role filename body executable).content =
      (types s.design).inHeader role ++ declaredNames read body := by
  have hempty : declaredNames read "" = [] := declaredNames_empty (h.skipsBlank [] rfl)
  rw [Target.sourceFile, h.join]
  simp only [List.flatMap_cons, List.flatMap_nil, h.header, h.footer, hempty, List.append_nil]

variable {s : Scene} {parts : Sections}

theorem Declares.dataSources_section (h : t.Declares read types) (hparts : t.sections s = .ok parts) :
    declaredNames read parts.dataSources = (types s.design).dataSources := by
  have hsources := (sections_ok hparts).1
  cases hfed : s.hasDataSources with
  | true =>
    rw [if_pos hfed] at hsources
    exact h.dataSources s _ hfed hsources
  | false =>
    rw [hfed] at hsources
    rw [h.unfed s hfed, show parts.dataSources = "" from hsources]
    exact declaredNames_empty (h.skipsBlank [] rfl)

theorem Declares.widget_sections (h : t.Declares read types) (hparts : t.sections s = .ok parts) :
    parts.widgets.flatMap (declaredNames read) = s.behaviors.map (·.typeName) := by
  rw [(sections_ok hparts).2.1, List.flatMap_map]
  simp only [h.widget]
  exact List.flatMap_pure_eq_map _ _

/-- The source files declare the types of the templates and of the widgets, in either layout. -/
theorem Declares.sources (h : t.Declares read types) (hparts : t.sections s = .ok parts) :
    ((if s.isModular then t.modularFiles s parts else t.singleFiles s parts).flatMap
      fun file => declaredNames read file.content).Perm
        ((types s.design).all ++ s.behaviors.map (·.typeName)) := by
  obtain ⟨-, -, happ, hentry⟩ := sections_ok hparts
  have happNames := h.app s _ happ
  have hentryNames : declaredNames read parts.entryPoint = [] := by rw [hentry, h.entryPoint]
  have hsources := h.dataSources_section hparts
  have hwidgets := h.widget_sections hparts
  rw [List.perm_iff_count]
  intro name
  split
  · obtain ⟨index, hfiles, hmem⟩ := t.modularFiles_split s parts
    have hindex : index.flatMap (fun file => declaredNames read file.content) = [] :=
      List.flatMap_eq_nil_iff.2 fun file hfile => h.moduleIndex s _ (hmem file hfile).2
    have hfedNames : (if s.hasDataSources then
        [t.sourceFile s .dataSources t.sourcesFile parts.dataSources false] else []).flatMap
          (fun file => declaredNames read file.content) = (types s.design).dataSources := by
      cases hfed : s.hasDataSources with
      | true => simp [h.sourceFile, hsources, TemplateTypes.inHeader]
      | false => simp [h.unfed s hfed]
    simp only [hfiles, List.flatMap_append, List.flatMap_cons, List.flatMap_nil, hindex, hfedNames,
      h.sourceFile, h.join, happNames, hentryNames, hwidgets, TemplateTypes.inHeader, TemplateTypes.all,
      List.count_append, List.append_nil, List.nil_append]
    omega
  · simp only [singleFiles, List.flatMap_append, List.flatMap_cons, List.flatMap_nil, h.sourceFile, h.join, hsources,
      hwidgets, happNames, hentryNames, TemplateTypes.inHeader, TemplateTypes.all, List.count_append,
      List.append_nil]
    omega

/-- A program declares the types of the templates and those of the widgets, and nothing else. -/
theorem Declares.generate (h : t.Declares read types)
    (hown : ∀ file : GeneratedFile, file.language = t.language → file.declaredTypes = declaredNames read file.content)
    (hfurther : ∀ s, ∀ file ∈ t.furtherFiles s, file.declaredTypes = []) {d : Design} {o : Options} {p : Project}
    (hp : t.generate d o = .ok p) :
    p.declaredTypes.Perm ((types d).all ++ d.widgets.map fun w => Name.typeName w.id) := by
  obtain ⟨bs, parts, hbs, hparts, hfiles⟩ := generate_ok hp
  have hnames : bs.map (·.typeName) = d.widgets.map fun w => Name.typeName w.id := by
    rw [← Behavior.widgets_of_accepted hbs, List.map_map]
    rfl
  have hsources := h.sources hparts
  rw [hnames] at hsources
  rw [Project.declaredTypes, hfiles, List.flatMap_append, List.flatMap_eq_nil_iff.2 (hfurther _), List.append_nil,
    List.flatMap_congr fun file hfile => hown file (language_sources file hfile)]
  exact hsources

theorem perm_bubbleTea {d : Design} {o : Options} {p : Project} (h : bubbleTea.generate d o = .ok p) :
    p.declaredTypes.Perm ((BubbleTea.templateTypes d).all ++ d.widgets.map fun w => Name.typeName w.id) := by
  refine BubbleTea.declares.generate (fun file hlanguage => if_pos hlanguage) (fun s file hfile => ?_) h
  rcases List.mem_append.1 hfile with hmanifest | hreadme
  · rw [List.mem_singleton.1 hmanifest]
    exact BubbleTea.typeNames_moduleFile
  · rw [List.mem_singleton.1 hreadme]
    rfl

theorem perm_ratatui {d : Design} {o : Options} {p : Project} (h : ratatui.generate d o = .ok p) :
    p.declaredTypes.Perm ((Ratatui.templateTypes d).all ++ d.widgets.map fun w => Name.typeName w.id) := by
  refine Ratatui.declares.generate (fun file hlanguage => ?_) (fun s file hfile => ?_) h
  · have hrust : file.language = "rust" := hlanguage
    rw [GeneratedFile.declaredTypes, hrust]
    rfl
  · rcases List.mem_append.1 hfile with hmanifest | hreadme
    · rw [List.mem_singleton.1 hmanifest]
      rfl
    · rw [List.mem_singleton.1 hreadme]
      rfl

end Target

/-! ## Names -/

/-- Among some types there is the one that all widgets implement, and no other ends like the name of a widget. -/
structure TemplateTypes.Reserved (types : TemplateTypes) : Prop where
  nodup : types.all.Nodup
  mem_iff : ∀ id, Name.typeName id ∈ types.all ↔ Name.pascalCase id = "Dashboard"

theorem TemplateTypes.reserved {types : TemplateTypes} (hnodup : types.all.Nodup)
    (hmem : "DashboardWidget" ∈ types.all)
    (hends : ∀ name ∈ types.all, "Widget".toList <:+ name.toList → name = "DashboardWidget") : types.Reserved := by
  refine ⟨hnodup, fun id => ?_⟩
  rw [← Name.typeName_eq_dashboardWidget_iff]
  constructor
  · exact fun hid => hends _ hid (Name.suffix_typeName id)
  · intro hid
    rw [hid]
    exact hmem

theorem BubbleTea.reserved (d : Design) : (BubbleTea.templateTypes d).Reserved := by
  unfold templateTypes
  cases d.hasDataSources <;> cases d.usesSystemMetrics
  all_goals exact TemplateTypes.reserved (by decide) (by decide) (by decide)

theorem Ratatui.reserved (d : Design) : (Ratatui.templateTypes d).Reserved := by
  unfold templateTypes
  cases d.hasDataSources <;> cases d.usesSystemMetrics
  all_goals exact TemplateTypes.reserved (by decide) (by decide) (by decide)

/-- A program declares the types of its templates and those of its widgets, each of the latter once. -/
structure Project.Declares (p : Project) (d : Design) (types : TemplateTypes) : Prop where
  perm : p.declaredTypes.Perm (types.all ++ d.widgets.map fun w => Name.typeName w.id)
  taken : ∀ w ∈ d.widgets, Name.typeName w.id ∈ types.all ↔ Name.pascalCase w.id = "Dashboard"
  once : p.declaredTypes.Nodup ↔ ∀ w ∈ d.widgets, Name.pascalCase w.id ≠ "Dashboard"

theorem Project.declares_of_perm {p : Project} {d : Design} {types : TemplateTypes} (hreserved : types.Reserved)
    (hnames : (d.widgets.map fun w => Name.typeName w.id).Nodup)
    (hperm : p.declaredTypes.Perm (types.all ++ d.widgets.map fun w => Name.typeName w.id)) : p.Declares d types := by
  refine ⟨hperm, fun w _ => hreserved.mem_iff w.id, ?_⟩
  rw [hperm.nodup_iff, List.nodup_append']
  constructor
  · rintro ⟨-, -, hdisjoint⟩ w hw hdashboard
    exact hdisjoint ((hreserved.mem_iff w.id).2 hdashboard) (List.mem_map.2 ⟨w, hw, rfl⟩)
  · intro hclear
    refine ⟨hreserved.nodup, hnames, fun name htemplate hwidget => ?_⟩
    obtain ⟨w, hw, rfl⟩ := List.mem_map.1 hwidget
    exact hclear w hw ((hreserved.mem_iff w.id).1 htemplate)

/-- **Every type of a program is declared once, unless a widget is named like what all widgets implement.** The
types of a Go or Rust program are those of its templates and one for each widget. The two meet exactly if the
id of a widget comes out as `Dashboard`, which no check of the design excludes. -/
theorem Generator.generate_declares {d : Design} {o : Options} {p : Project}
    (h : Generator.default.generate d o = .ok p) :
    (o.framework = .bubbleTea → p.Declares d (BubbleTea.templateTypes d)) ∧
      (o.framework = .ratatui → p.Declares d (Ratatui.templateTypes d)) := by
  obtain ⟨hsuits, h⟩ := default_generate_ok h
  have hnames := Target.nodup_typeNames hsuits
  constructor
  · intro hframework
    rw [hframework] at h
    exact Project.declares_of_perm (BubbleTea.reserved d) hnames (Target.perm_bubbleTea h)
  · intro hframework
    rw [hframework] at h
    exact Project.declares_of_perm (Ratatui.reserved d) hnames (Target.perm_ratatui h)

/-- A design whose one widget is a text with this id. -/
def Design.lone (id : String) : Design where
  version := "1.0.0"
  metadata := ⟨"lone", none, none, "1.0.0", none, none, .textual, []⟩
  settings := .default
  widgets := [⟨id, "text", ⟨0, 0⟩, ⟨10, 3⟩, none, none, none, []⟩]
  dataSources := []

/-- A widget with the id `dashboard` takes the name of what it implements; one with another id does not. -/
theorem Generator.generate_declares_lone :
    ∃ p q r, Generator.default.generate (Design.lone "dashboard") ⟨.bubbleTea, .single, true, true⟩ = .ok p ∧
      Generator.default.generate (Design.lone "dashboard") ⟨.ratatui, .single, true, true⟩ = .ok q ∧
      Generator.default.generate (Design.lone "clock") ⟨.ratatui, .single, true, true⟩ = .ok r ∧
      ¬ p.declaredTypes.Nodup ∧ ¬ q.declaredTypes.Nodup ∧ r.declaredTypes.Nodup := by
  have hgo (id : String) :
      ∃ p, Generator.default.generate (Design.lone id) ⟨.bubbleTea, .single, true, true⟩ = .ok p :=
    exists_ok_of_isOk (by rfl)
  have hrust (id : String) :
      ∃ p, Generator.default.generate (Design.lone id) ⟨.ratatui, .single, true, true⟩ = .ok p :=
    exists_ok_of_isOk (by rfl)
  obtain ⟨p, hp⟩ := hgo "dashboard"
  obtain ⟨q, hq⟩ := hrust "dashboard"
  obtain ⟨r, hr⟩ := hrust "clock"
  have hdashboard : Name.pascalCase "dashboard" = "Dashboard" := by decide
  have hclock : Name.pascalCase "clock" ≠ "Dashboard" := by decide
  refine ⟨p, q, r, hp, hq, hr, fun hnodup => ?_, fun hnodup => ?_, ?_⟩
  · exact ((generate_declares hp).1 rfl).once.1 hnodup _ List.mem_cons_self hdashboard
  · exact ((generate_declares hq).2 rfl).once.1 hnodup _ List.mem_cons_self hdashboard
  · exact ((generate_declares hr).2 rfl).once.2 (List.forall_mem_singleton.2 hclock)

end DashboardCompiler
