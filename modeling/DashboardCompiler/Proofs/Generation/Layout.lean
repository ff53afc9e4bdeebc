import DashboardCompiler.Proofs.Schema.Checked
import DashboardCompiler.Proofs.Target.Sections

/-!
# Two layouts of one program

Single output and modular output lay out the same sections: the output format reaches no section, and the
joins of the assembly drop and trim nothing but the ends of the headers. A file can therefore be read as the
plain list of its parts, which is how the two layouts are compared here.
-/

namespace DashboardCompiler

open Text

/-- The sections of the program in their order; a design without sources has no section for them. -/
def Sections.program (parts : Sections) (fed : Bool) : List String :=
  (if fed then [parts.dataSources] else []) ++ parts.widgets ++ [parts.app, parts.entryPoint]

namespace Target

/-- A file that holds its parts one after the other, with only the header trimmed. -/
def plainFile (t : Target) (header : String) (body : List String) (footer : String) : String :=
  joinWith t.separator (trimFeeds header :: body ++ if footer = "" then [] else [footer]) ++ "\n"

/-- The header comes first. -/
theorem prefix_lines_plainFile {t : Target} {gap : String} (hseparator : t.separator = "\n" ++ gap ++ "\n") (header : String)
    (body : List String) (footer : String) : lines (trimFeeds header) <+: lines (t.plainFile header body footer) := by
  have hfirst := prefix_lines_joinWith gap (trimFeeds header) (body ++ if footer = "" then [] else [footer])
  have hend := lines_append
    (joinWith ("\n" ++ gap ++ "\n") (trimFeeds header :: body ++ if footer = "" then [] else [footer])) ""
  rw [String.append_empty] at hend
  rw [plainFile, hseparator, hend]
  exact hfirst.trans (List.prefix_append _ _)

/-- The whole program in one file. -/
def singleLayout (t : Target) (s : Scene) (parts : Sections) : List GeneratedFile :=
  let program := parts.program s.hasDataSources
  [⟨t.singleFile, t.language, true, t.plainFile (t.header s .single (t.join program)) program ""⟩]

/-- The program in a file for the application, one for the widgets, and one for the sources if there are any. -/
def modularLayout (t : Target) (s : Scene) (parts : Sections) : List GeneratedFile :=
  let main := [parts.app, parts.entryPoint]
  [⟨t.appFile, t.language, true, t.plainFile (t.header s .app (t.join main)) main ""⟩,
   ⟨t.widgetsFile, t.language, false,
     t.plainFile (t.header s .widgets (t.join parts.widgets)) parts.widgets (t.footer s .widgets)⟩] ++
  if s.hasDataSources then
    [⟨t.sourcesFile, t.language, false,
      t.plainFile (t.header s .dataSources parts.dataSources) [parts.dataSources]
        (t.footer s .dataSources)⟩]
  else []

variable {t : Target}

/-! ## Files -/

theorem isBlankText_join_nil : isBlankText (t.join []) = true := by
  have hfeed : t.join [] = "\n" := rfl
  rw [hfeed]
  decide

theorem isBlankText_join {body : List String} (hne : body ≠ []) (h : ∀ s ∈ body, Solid s) :
    isBlankText (t.join body) = false :=
  inked_joinSections (List.head_mem hne) (h _ (List.head_mem hne)).inked _

theorem trimFeeds_join {body : List String} (hne : body ≠ []) (h : ∀ s ∈ body, Solid s) :
    trimFeeds (t.join body) = joinWith t.separator body := by
  rw [join, joinSections_of_solid h, trimFeeds_append_feed, (solid_joinWith hne h).trimFeeds]

/-- The outer join of a file takes the inner one apart again. -/
theorem join_file {header footer : String} {body : List String} (hheader : isBlankText header = false)
    (hbody : ∀ s ∈ body, Solid s) (hfooter : footer = "" ∨ Solid footer) :
    t.join [header, t.join body, footer] = t.plainFile header body footer := by
  have hkept : t.join [header, t.join body, footer] = joinWith t.separator
      (([header, t.join body, footer].filter fun s => !isBlankText s).map trimFeeds) ++ "\n" := rfl
  have hempty : isBlankText "" = true := rfl
  rw [hkept, plainFile]
  congr 1
  by_cases hne : body = []
  · subst hne
    rcases hfooter with rfl | hfooter
    · simp [hheader, hempty, isBlankText_join_nil]
    · simp [hheader, isBlankText_join_nil, hfooter.inked, hfooter.trimFeeds, hfooter.ne_empty]
  · have hink : isBlankText (t.join body) = false := isBlankText_join hne hbody
    have htrim := trimFeeds_join (t := t) hne hbody
    rcases hfooter with rfl | hfooter
    · simp [hheader, hempty, hink, htrim, joinWith, joinWith_cons_of_ne_nil _ _ hne]
    · have hrest : body ++ [footer] ≠ [] := by simp
      simp [hheader, hink, htrim, hfooter.inked, hfooter.trimFeeds, hfooter.ne_empty, joinWith,
        joinWith_cons_of_ne_nil _ _ hrest, joinWith_append _ hne (List.cons_ne_nil footer []),
        String.append_assoc]

/-- A file whose body is one section. -/
theorem join_file_single {header only footer : String} (hheader : isBlankText header = false)
    (honly : Solid only) (hfooter : footer = "" ∨ Solid footer) :
    t.join [header, only, footer] = t.plainFile header [only] footer := by
  have hempty : isBlankText "" = true := rfl
  rw [join, joinSections, plainFile]
  rcases hfooter with rfl | hfooter
  · simp [hheader, hempty, honly.inked, honly.trimFeeds]
  · simp [hheader, honly.inked, honly.trimFeeds, hfooter.inked, hfooter.trimFeeds, hfooter.ne_empty]

end Target

/-! ## The output format -/

/-- The same options with another output format. -/
def Options.laidOut (o : Options) (format : OutputFormat) : Options := { o with outputFormat := format }

/-- Options under which each widget behaves the same. -/
theorem Behavior.ofWidgets_congr {o o' : Options} (h : ∀ w, Behavior.ofWidget w o = Behavior.ofWidget w o')
    (ws : List Widget) : Behavior.ofWidgets o ws = Behavior.ofWidgets o' ws := by
  induction ws with
  | nil => rfl
  | cons w ws ih => rw [Behavior.ofWidgets, Behavior.ofWidgets, h, ih]

theorem Behavior.ofWidgets_laidOut (o : Options) (format : OutputFormat) (ws : List Widget) :
    Behavior.ofWidgets (o.laidOut format) ws = Behavior.ofWidgets o ws := by
  have hwidget (w : Widget) : Behavior.ofWidget w (o.laidOut format) = Behavior.ofWidget w o := rfl
  exact ofWidgets_congr hwidget ws

theorem Behavior.widget_of_accepted {o : Options} {w : Widget} {b : Behavior}
    (h : Behavior.ofWidget w o = .accepted b) : b.widget = w := by
  unfold Behavior.ofWidget at h
  split at h
  · cases h
    rfl
  · obtain ⟨properties, -, rfl⟩ := Checked.map_accepted_iff.1 h
    rfl

/-- The behaviours of widgets are those of the single widgets, in their order. -/
theorem Behavior.forall₂_ofWidgets {o : Options} {ws : List Widget} {bs : List Behavior} :
    ofWidgets o ws = .accepted bs ↔ List.Forall₂ (fun w b => ofWidget w o = .accepted b) ws bs := by
  induction ws generalizing bs with
  | nil =>
    rw [List.forall₂_nil_left_iff]
    exact ⟨fun h => by cases h; rfl, fun h => by rw [h]; rfl⟩
  | cons w ws ih =>
    rw [ofWidgets, List.forall₂_cons_left_iff, Checked.andThen_accepted_iff]
    simp only [Checked.map_accepted_iff, ih]
    constructor
    · rintro ⟨b, hb, rest, hrest, rfl⟩
      exact ⟨b, rest, hb, hrest, rfl⟩
    · rintro ⟨b, rest, hb, hrest, rfl⟩
      exact ⟨b, hb, rest, hrest, rfl⟩

/-- Behaviours keep their widgets. -/
theorem Behavior.widgets_of_accepted {o : Options} {ws : List Widget} {bs : List Behavior}
    (h : Behavior.ofWidgets o ws = .accepted bs) : bs.map (·.widget) = ws := by
  induction ws generalizing bs with
  | nil =>
    cases h
    rfl
  | cons w ws ih =>
    obtain ⟨b, hb, h⟩ := Checked.andThen_accepted_iff.1 h
    obtain ⟨rest, hrest, rfl⟩ := Checked.map_accepted_iff.1 h
    rw [List.map_cons, ih hrest, Behavior.widget_of_accepted hb]

namespace Target

/-- No section looks at the output format. -/
theorem sections_laidOut (f : Framework) (d : Design) (o : Options) (format : OutputFormat)
    (bs : List Behavior) :
    (ofFramework f).sections ⟨d, o.laidOut format, bs⟩ = (ofFramework f).sections ⟨d, o, bs⟩ := by
  cases f with
  | textual => rfl
  | bubbleTea => rfl
  | ratatui => rfl
  | blessed => rfl

variable {t : Target} {s : Scene} {parts : Sections}

/-! ## The files of a scene -/

theorem sections_ok (h : t.sections s = .ok parts) :
    (if s.hasDataSources then t.dataSources s = .ok parts.dataSources else parts.dataSources = "") ∧
      parts.widgets = s.behaviors.map (t.widget · s.options) ∧
      t.app s = .ok parts.app ∧ parts.entryPoint = t.entryPoint s := by
  cases hfed : s.hasDataSources with
  | true =>
    simp only [sections, hfed, if_true] at h
    obtain ⟨dataSources, hsources, h⟩ := bind_ok_iff.1 h
    obtain ⟨app, happ, h⟩ := bind_ok_iff.1 h
    cases h
    exact ⟨hsources, rfl, happ, rfl⟩
  | false =>
    simp only [sections, hfed] at h
    obtain ⟨dataSources, hnone, h⟩ := bind_ok_iff.1 h
    cases hnone
    obtain ⟨app, happ, h⟩ := bind_ok_iff.1 h
    cases h
    exact ⟨rfl, rfl, happ, rfl⟩

/-- Every section that the design has is solid. -/
theorem Firm.solid_sections (hfirm : t.Firm) (h : t.sections s = .ok parts) :
    (s.hasDataSources → Solid parts.dataSources) ∧ (∀ fragment ∈ parts.widgets, Solid fragment) ∧
      Solid parts.app ∧ Solid parts.entryPoint := by
  obtain ⟨hsources, hwidgets, happ, hentry⟩ := sections_ok h
  refine ⟨fun hfed => ?_, fun fragment hfragment => ?_, hfirm.app s _ happ, ?_⟩
  · rw [if_pos hfed] at hsources
    exact hfirm.dataSources s _ hsources
  · rw [hwidgets] at hfragment
    obtain ⟨b, -, rfl⟩ := List.mem_map.1 hfragment
    exact hfirm.widget b s.options
  · rw [hentry]
    exact hfirm.entryPoint s

/-- There is a section of the sources exactly if the design has some. -/
theorem Firm.dataSources_eq_empty_iff (hfirm : t.Firm) (h : t.sections s = .ok parts) :
    parts.dataSources = "" ↔ s.design.dataSources = [] := by
  cases hfed : s.hasDataSources with
  | true =>
    have hsolid := (hfirm.solid_sections h).1 hfed
    have hne : s.design.dataSources ≠ [] := by simpa [Scene.hasDataSources, Design.hasDataSources] using hfed
    exact iff_of_false hsolid.ne_empty hne
  | false =>
    have hnone : s.design.dataSources = [] := by simpa [Scene.hasDataSources, Design.hasDataSources] using hfed
    have hempty : parts.dataSources = "" := by simpa [hfed] using (sections_ok h).1
    exact iff_of_true hempty hnone

theorem Firm.solid_main (hfirm : t.Firm) (h : t.sections s = .ok parts) :
    ∀ text ∈ [parts.app, parts.entryPoint], Solid text := by
  obtain ⟨-, -, happ, hentry⟩ := hfirm.solid_sections h
  simpa using ⟨happ, hentry⟩

theorem Firm.solid_program (hfirm : t.Firm) (h : t.sections s = .ok parts) :
    ∀ text ∈ parts.program s.hasDataSources, Solid text := by
  obtain ⟨hsources, hwidgets, -, -⟩ := hfirm.solid_sections h
  intro text htext
  rw [Sections.program, List.mem_append, List.mem_append] at htext
  rcases htext with (htext | htext) | htext
  · split at htext
    · rename_i hfed
      rw [List.mem_singleton.1 htext]
      exact hsources hfed
    · exact absurd htext List.not_mem_nil
  · exact hwidgets text htext
  · exact hfirm.solid_main h text htext

/-- The empty section of a design without sources is not in the body. -/
theorem join_program (h : t.sections s = .ok parts) :
    t.join ([parts.dataSources] ++ parts.widgets ++ [parts.app, parts.entryPoint]) =
      t.join (parts.program s.hasDataSources) := by
  cases hfed : s.hasDataSources with
  | true => rfl
  | false =>
    have hempty : parts.dataSources = "" := by simpa [hfed] using (sections_ok h).1
    have hblank : isBlankText "" = true := rfl
    simp [join, joinSections, Sections.program, hempty, hblank]

theorem Firm.singleFiles_eq (hfirm : t.Firm) (h : t.sections s = .ok parts) :
    t.singleFiles s parts = t.singleLayout s parts := by
  have hfile := join_file (t := t) (hfirm.header s .single (t.join (parts.program s.hasDataSources)))
    (hfirm.solid_program h) (.inl rfl)
  simp only [singleFiles, sourceFile, singleLayout, join_program h, (hfirm.programFooter s).1, hfile]

theorem Firm.modularFiles_eq (hfirm : t.Firm) (h : t.sections s = .ok parts) :
    t.modularFiles s parts = t.modularLayout s parts ++
      (t.moduleIndex s).map fun (filename, content) => ⟨filename, t.language, false, content⟩ := by
  obtain ⟨hsources, hwidgets, -, -⟩ := hfirm.solid_sections h
  have happFile := join_file (t := t) (hfirm.header s .app (t.join [parts.app, parts.entryPoint]))
    (hfirm.solid_main h) (.inl rfl)
  have hwidgetsFile := join_file (t := t) (hfirm.header s .widgets (t.join parts.widgets)) hwidgets
    (hfirm.footer s .widgets)
  simp only [modularFiles, sourceFile, modularLayout, (hfirm.programFooter s).2, happFile, hwidgetsFile]
  cases hfed : s.hasDataSources with
  | false => rfl
  | true =>
    have hsourcesFile := join_file_single (t := t) (hfirm.header s .dataSources parts.dataSources)
      (hsources hfed) (hfirm.footer s .dataSources)
    simp only [if_true, hsourcesFile]

/-! ## Both layouts -/

/-- What comes after the source files of a project. -/
def furtherFiles (t : Target) (s : Scene) : List GeneratedFile :=
  t.manifestFiles s ++ [⟨"README.md", "markdown", false, t.readme (t.instructions s)⟩]

theorem generate_eq {d : Design} {o : Options} {bs : List Behavior}
    (hbs : Behavior.ofWidgets o d.widgets = .accepted bs) :
    t.generate d o = match t.generateScene ⟨d, o, bs⟩ with
      | .error fault => .error (.arithmetic fault)
      | .ok p => .ok p := by
  have hscene : Scene.ofDesign d o = .accepted ⟨d, o, bs⟩ := by
    rw [Scene.ofDesign, hbs]
    rfl
  cases hproject : t.generateScene ⟨d, o, bs⟩ <;> simp only [generate, hscene, hproject]

/-- Two scenes in which every step of the target sees the same. -/
structure SeesAlike (t : Target) (s s' : Scene) : Prop where
  modular : s.isModular = s'.isModular
  fed : s.hasDataSources = s'.hasDataSources
  widgets : s.behaviors.map (t.widget · s.options) = s'.behaviors.map (t.widget · s'.options)
  dataSources : t.dataSources s = t.dataSources s'
  app : t.app s = t.app s'
  entryPoint : t.entryPoint s = t.entryPoint s'
  header : t.header s = t.header s'
  footer : t.footer s = t.footer s'
  manifests : t.manifests s = t.manifests s'
  moduleIndex : t.moduleIndex s = t.moduleIndex s'
  instructions : t.instructions s = t.instructions s'

theorem SeesAlike.generateScene {s' : Scene} (h : t.SeesAlike s s') : t.generateScene s = t.generateScene s' := by
  have hsections : t.sections s = t.sections s' := by
    rw [sections, sections, h.fed, h.widgets, h.dataSources, h.app, h.entryPoint]
  have hsingle : t.singleFiles s = t.singleFiles s' := by
    funext parts
    simp only [singleFiles, sourceFile, h.header, h.footer]
  have hmodular : t.modularFiles s = t.modularFiles s' := by
    funext parts
    simp only [modularFiles, sourceFile, h.header, h.footer, h.moduleIndex, h.fed]
  simp only [Target.generateScene, manifestFiles, hsections, hsingle, hmodular, h.manifests, h.instructions, h.modular]

theorem generateScene_ok (h : t.sections s = .ok parts) :
    ∃ p, t.generateScene s = .ok p ∧
      p.files = (if s.isModular then t.modularFiles s parts else t.singleFiles s parts) ++
        t.furtherFiles s := by
  rw [generateScene, h]
  refine ⟨_, rfl, ?_⟩
  exact List.append_assoc _ _ _

/-- A project consists of the source files, laid out from the sections of its scene, and of what comes after them. -/
theorem generate_ok {d : Design} {o : Options} {p : Project} (h : t.generate d o = .ok p) :
    ∃ bs parts, Behavior.ofWidgets o d.widgets = .accepted bs ∧ t.sections ⟨d, o, bs⟩ = .ok parts ∧
      p.files = (if Scene.isModular ⟨d, o, bs⟩ then t.modularFiles ⟨d, o, bs⟩ parts
        else t.singleFiles ⟨d, o, bs⟩ parts) ++ t.furtherFiles ⟨d, o, bs⟩ := by
  cases hbs : Behavior.ofWidgets o d.widgets with
  | rejected problems =>
    rw [generate, Scene.ofDesign, hbs] at h
    cases h
  | accepted bs =>
    rw [generate_eq hbs] at h
    cases hparts : t.sections ⟨d, o, bs⟩ with
    | error fault =>
      rw [generateScene, hparts] at h
      cases h
    | ok parts =>
      obtain ⟨q, hq, hfiles⟩ := generateScene_ok hparts
      rw [hq] at h
      cases h
      exact ⟨bs, parts, rfl, hparts, hfiles⟩

theorem language_sources :
    ∀ file ∈ (if s.isModular then t.modularFiles s parts else t.singleFiles s parts), file.language = t.language := by
  split
  · refine List.forall_mem_append.2 ⟨List.forall_mem_append.2 ⟨?_, ?_⟩, fun file hfile => ?_⟩
    · exact List.forall_mem_cons.2 ⟨rfl, List.forall_mem_singleton.2 rfl⟩
    · split
      · exact List.forall_mem_singleton.2 rfl
      · exact List.forall_mem_nil _
    · obtain ⟨⟨filename, content⟩, -, rfl⟩ := List.mem_map.1 hfile
      rfl
  · exact List.forall_mem_singleton.2 rfl

theorem language_furtherFiles :
    ∀ file ∈ t.furtherFiles s, file.language ∈ "markdown" :: (t.manifests s).map (·.2.2) := by
  refine List.forall_mem_append.2 ⟨fun file hfile => ?_, List.forall_mem_singleton.2 List.mem_cons_self⟩
  obtain ⟨⟨filename, content, language⟩, hmanifest, rfl⟩ := List.mem_map.1 hfile
  exact List.mem_cons_of_mem _ (List.mem_map.2 ⟨_, hmanifest, rfl⟩)

/-- **Both output formats lay out one program.** Either no run gives a project, for the same reason, or both
runs lay out the same sections: the sources if the design has any, the fragments in the order of the widgets,
the application and the entry point. Each file holds its header, its share of the sections, and its footer. -/
theorem generate_laidOut (f : Framework) (d : Design) (o : Options) :
    let t := ofFramework f
    let single := o.laidOut .single
    let modular := o.laidOut .modular
    (∃ fault, t.generate d single = .error fault ∧ t.generate d modular = .error fault) ∨
    ∃ bs parts p q,
      t.generate d single = .ok p ∧ t.generate d modular = .ok q ∧
      Behavior.ofWidgets o d.widgets = .accepted bs ∧ bs.map (·.widget) = d.widgets ∧
      t.sections ⟨d, single, bs⟩ = .ok parts ∧ t.sections ⟨d, modular, bs⟩ = .ok parts ∧
      parts.widgets = bs.map (t.widget · o) ∧ (parts.dataSources = "" ↔ d.dataSources = []) ∧
      p.files = t.singleLayout ⟨d, single, bs⟩ parts ++ t.furtherFiles ⟨d, single, bs⟩ ∧
      q.files = t.modularLayout ⟨d, modular, bs⟩ parts ++
        (t.moduleIndex ⟨d, modular, bs⟩).map
          (fun (filename, content) => ⟨filename, t.language, false, content⟩) ++
        t.furtherFiles ⟨d, modular, bs⟩ := by
  intro t single modular
  have hfirm : t.Firm := firm_ofFramework f
  cases hbs : Behavior.ofWidgets o d.widgets with
  | rejected problems =>
    have hmisfit (format) : t.generate d (o.laidOut format) = .error (.misfit problems) := by
      rw [generate, Scene.ofDesign, Behavior.ofWidgets_laidOut, hbs]
      rfl
    exact .inl ⟨_, hmisfit .single, hmisfit .modular⟩
  | accepted bs =>
    have hlaidOut (format) : Behavior.ofWidgets (o.laidOut format) d.widgets = .accepted bs := by
      rw [Behavior.ofWidgets_laidOut, hbs]
    cases hparts : t.sections ⟨d, o, bs⟩ with
    | error fault =>
      have hfault (format) : t.generate d (o.laidOut format) = .error (.arithmetic fault) := by
        rw [generate_eq (hlaidOut format), generateScene, sections_laidOut, hparts]
        rfl
      exact .inl ⟨_, hfault .single, hfault .modular⟩
    | ok parts =>
      have hboth (format) : t.sections ⟨d, o.laidOut format, bs⟩ = .ok parts := by
        rw [sections_laidOut, hparts]
      obtain ⟨p, hp, hpfiles⟩ := generateScene_ok (hboth .single)
      obtain ⟨q, hq, hqfiles⟩ := generateScene_ok (hboth .modular)
      obtain ⟨-, hwidgets, -, -⟩ := sections_ok hparts
      refine .inr ⟨bs, parts, p, q, ?_, ?_, rfl, Behavior.widgets_of_accepted hbs, hboth .single,
        hboth .modular, hwidgets, hfirm.dataSources_eq_empty_iff hparts, ?_, ?_⟩
      · rw [generate_eq (hlaidOut .single), hp]
      · rw [generate_eq (hlaidOut .modular), hq]
      · rw [hpfiles, hfirm.singleFiles_eq (hboth .single)]
        rfl
      · rw [hqfiles, hfirm.modularFiles_eq (hboth .modular)]
        rfl

end Target

end DashboardCompiler
