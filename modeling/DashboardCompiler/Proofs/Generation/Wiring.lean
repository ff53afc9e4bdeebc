import DashboardCompiler.Proofs.Design.References
import DashboardCompiler.Proofs.Generation.Layout
import DashboardCompiler.Proofs.Generation.Totality
import DashboardCompiler.Proofs.Target.Wiring

/-!
# Sources, tables and wiring

The table of a program and its wiring are written by different functions, the one from the declared sources
and the other from the widgets. They agree: the table has a row for each source that a widget names, and every
widget is wired to the source it names. Where the wiring goes by identifiers of widgets, it tells the widgets
apart only as far as their identifiers do.
-/

namespace DashboardCompiler

open Text

namespace Target

variable {t : Target}

/-! ## Sections in files -/

theorem separator_ofFramework (f : Framework) : ∃ gap, (ofFramework f).separator = "\n" ++ gap ++ "\n" := by
  cases f with
  | textual => exact ⟨"\n", by decide⟩
  | bubbleTea => exact ⟨"", by decide⟩
  | ratatui => exact ⟨"", by decide⟩
  | blessed => exact ⟨"", by decide⟩

theorem infix_lines_plainFile {gap : String} (hseparator : t.separator = "\n" ++ gap ++ "\n")
    {header footer text : String} {body : List String} (h : text ∈ body) :
    lines text <:+: lines (t.plainFile header body footer) := by
  have hmem : text ∈ trimFeeds header :: body ++ if footer = "" then [] else [footer] :=
    List.mem_append_left _ (List.mem_cons_of_mem _ h)
  have hend := lines_append
    (joinWith t.separator (trimFeeds header :: body ++ if footer = "" then [] else [footer])) ""
  rw [String.append_empty] at hend
  rw [plainFile, hend, hseparator]
  exact (infix_lines_joinWith gap hmem).trans (List.prefix_append _ _).isInfix

theorem exists_mem_modularLayout {gap : String} (hseparator : t.separator = "\n" ++ gap ++ "\n") {s : Scene}
    {parts : Sections} {text : String} (h : text ∈ parts.program s.hasDataSources) :
    ∃ file ∈ t.modularLayout s parts, lines text <:+: lines file.content := by
  have hshown {header footer name : String} {body : List String} {executable : Bool} (htext : text ∈ body)
      (hfile : ⟨name, t.language, executable, t.plainFile header body footer⟩ ∈ t.modularLayout s parts) :
      ∃ file ∈ t.modularLayout s parts, lines text <:+: lines file.content := by
    have hinfix : lines text <:+: lines (t.plainFile header body footer) :=
      infix_lines_plainFile hseparator htext
    exact ⟨_, hfile, hinfix⟩
  rw [Sections.program, List.mem_append, List.mem_append] at h
  rcases h with (h | h) | h
  · split at h
    · rename_i hfed
      have hfile : ⟨t.sourcesFile, t.language, false, t.plainFile (t.header s .dataSources parts.dataSources)
          [parts.dataSources] (t.footer s .dataSources)⟩ ∈ t.modularLayout s parts := by
        rw [modularLayout, if_pos hfed]
        exact List.mem_append_right _ (List.mem_singleton_self _)
      exact hshown h hfile
    · exact absurd h List.not_mem_nil
  · exact hshown h (List.mem_append_left _ (List.mem_cons_of_mem _ List.mem_cons_self))
  · exact hshown h (List.mem_append_left _ List.mem_cons_self)

/-- Each section of a program stands in a file of its project, line by line. -/
theorem Firm.section_in_file (hfirm : t.Firm) {gap : String} (hseparator : t.separator = "\n" ++ gap ++ "\n")
    {d : Design} {o : Options} {p : Project} (h : t.generate d o = .ok p) :
    ∃ bs parts, Behavior.ofWidgets o d.widgets = .accepted bs ∧ t.sections ⟨d, o, bs⟩ = .ok parts ∧
      ∀ text ∈ parts.program d.hasDataSources, ∃ file ∈ p.files, lines text <:+: lines file.content := by
  obtain ⟨bs, parts, hbs, hparts, hfiles⟩ := generate_ok h
  refine ⟨bs, parts, hbs, hparts, fun text htext => ?_⟩
  have hprogram : text ∈ parts.program (Scene.hasDataSources ⟨d, o, bs⟩) := htext
  have hsource : ∃ file ∈ (if Scene.isModular ⟨d, o, bs⟩ then t.modularFiles ⟨d, o, bs⟩ parts
      else t.singleFiles ⟨d, o, bs⟩ parts), lines text <:+: lines file.content := by
    split
    · rw [hfirm.modularFiles_eq hparts]
      obtain ⟨file, hfile, hinfix⟩ := exists_mem_modularLayout hseparator hprogram
      exact ⟨file, List.mem_append_left _ hfile, hinfix⟩
    · rw [hfirm.singleFiles_eq hparts]
      exact ⟨_, List.mem_singleton_self _, infix_lines_plainFile hseparator hprogram⟩
  obtain ⟨file, hfile, hinfix⟩ := hsource
  exact ⟨file, by rw [hfiles]; exact List.mem_append_left _ hfile, hinfix⟩

end Target

/-! ## Type names -/

theorem Target.nodup_of_sharedNames {seen : List (String × String)} {ws : List Widget}
    (h : Target.sharedNames seen ws = []) :
    (ws.map fun w => Name.typeName w.id).Nodup ∧ ∀ w ∈ ws, seen.lookup (Name.typeName w.id) = none := by
  fun_induction Target.sharedNames seen ws with
  | case1 => simp
  | case2 => cases h
  | case3 seen w rest name hnone ih =>
    obtain ⟨hnodup, hrest⟩ := ih h
    have hlater : ∀ v ∈ rest, Name.typeName v.id ≠ name ∧ seen.lookup (Name.typeName v.id) = none := by
      intro v hv
      have hv := hrest v hv
      rw [List.lookup_cons] at hv
      split at hv
      · cases hv
      · rename_i hne
        exact ⟨by simpa using hne, hv⟩
    refine ⟨List.nodup_cons.2 ⟨fun hmem => ?_, hnodup⟩,
      List.forall_mem_cons.2 ⟨hnone, fun v hv => (hlater v hv).2⟩⟩
    obtain ⟨v, hv, hname⟩ := List.mem_map.1 hmem
    exact (hlater v hv).1 hname

/-- A target that finds nothing against a design generates every type name once. -/
theorem Target.nodup_typeNames {t : Target} {d : Design} (h : t.designFaults d = []) :
    (d.widgets.map fun w => Name.typeName w.id).Nodup :=
  (nodup_of_sharedNames (List.append_eq_nil_iff.1 h).2).1

theorem Generator.default_generate_of_designFaults {d : Design} {o : Options}
    (h : (Target.ofFramework o.framework).designFaults d = []) :
    Generator.default.generate d o = (Target.ofFramework o.framework).generate d o := by
  rw [Generator.generate, find_default]
  simp only [bind, Except.bind, h, List.isEmpty_nil, ↓reduceIte]

theorem Generator.default_generate_ok {d : Design} {o : Options} {p : Project}
    (h : Generator.default.generate d o = .ok p) :
    (Target.ofFramework o.framework).designFaults d = [] ∧ (Target.ofFramework o.framework).generate d o = .ok p := by
  rw [Generator.generate, find_default] at h
  simp only [bind, Except.bind] at h
  split at h
  · rename_i hsuits
    exact ⟨List.isEmpty_iff.1 hsuits, h⟩
  · cases h

/-! ## Agreement -/

theorem Target.showsTable_dataSources {f : Framework} {s : Scene} {text : String}
    (h : (Target.ofFramework f).dataSources s = .ok text) : ShowsTable f s.design.referencedSources text := by
  cases f with
  | textual =>
    cases h
    exact Textual.showsTable s.design s.options.includeComments
  | bubbleTea => exact BubbleTea.showsTable h
  | ratatui =>
    cases h
    exact Ratatui.showsTable s.design s.options.includeComments
  | blessed =>
    cases h
    exact Blessed.showsTable s.design s.options.includeComments

theorem Target.showsSlots_app {f : Framework} (hslots : f ≠ .textual) {s : Scene}
    (hfilled : ∀ b ∈ s.behaviors, b.widget.dataSource ≠ some "") {text : String}
    (h : (Target.ofFramework f).app s = .ok text) : ShowsSlots f (s.behaviors.map (·.widget)) text := by
  cases f with
  | textual => exact absurd rfl hslots
  | bubbleTea =>
    cases h
    exact BubbleTea.showsSlots hfilled
  | ratatui =>
    cases h
    exact Ratatui.showsSlots hfilled
  | blessed => exact Blessed.showsSlots hfilled h

/-- What a project says about the sources of its design. -/
structure Project.Wired (p : Project) (f : Framework) (d : Design) : Prop where
  named : ∀ id, id ∈ d.referencedSources.map (·.id) ↔ ∃ w ∈ d.widgets, w.dataSource = some id
  once : (d.referencedSources.map (·.id)).Nodup
  ordered : d.referencedSources.Sublist d.dataSources
  /-- the table has one row for each source that a widget names -/
  table : d.hasDataSources = true → ∃ file ∈ p.files, Target.ShowsTable f d.referencedSources file.content
  types : (d.widgets.map fun w => Name.typeName w.id).Nodup
  /-- each widget has a slot with the source it names -/
  slots : f ≠ .textual → ∃ file ∈ p.files, Target.ShowsSlots f d.widgets file.content
  /-- each source has an entry with the identifiers of the widgets that name it; the entries tell all widgets
  apart that have to be told apart if, and only if, no two widgets of one identifier name different sources -/
  subscribers : f = .textual → d.hasDataSources = true → ∃ entries : List (String × List String),
    (∃ file ∈ p.files, Target.ShowsSubscribers entries file.content) ∧
    (entries.map (·.1)).Nodup ∧
    (∀ id, id ∈ entries.map (·.1) ↔ id ∈ d.referencedSources.map (·.id)) ∧
    (∀ entry ∈ entries, entry.2 = (d.widgetsBoundTo entry.1).map fun w => Name.identifier w.id) ∧
    ((∀ w ∈ d.widgets, ∀ entry ∈ entries, Name.identifier w.id ∈ entry.2 ↔ w.dataSource = some entry.1) ↔
      ∀ v ∈ d.widgets, ∀ w ∈ d.widgets, Name.identifier v.id = Name.identifier w.id →
        v.dataSource = w.dataSource)

/-- Entries that list the widgets of each source tell apart exactly the widgets that identifiers tell apart. -/
theorem Design.entries_exclusive_iff {d : Design} {entries : List (String × List String)}
    (hkeys : ∀ id, id ∈ entries.map (·.1) ↔ ∃ w ∈ d.widgets, w.dataSource = some id)
    (hlists : ∀ entry ∈ entries, entry.2 = (d.widgetsBoundTo entry.1).map fun w => Name.identifier w.id) :
    (∀ w ∈ d.widgets, ∀ entry ∈ entries, Name.identifier w.id ∈ entry.2 ↔ w.dataSource = some entry.1) ↔
      ∀ v ∈ d.widgets, ∀ w ∈ d.widgets, Name.identifier v.id = Name.identifier w.id →
        v.dataSource = w.dataSource := by
  have hlisted {entry : String × List String} (hentry : entry ∈ entries) {name : String} :
      name ∈ entry.2 ↔ ∃ v ∈ d.widgets, v.dataSource = some entry.1 ∧ Name.identifier v.id = name := by
    simp [hlists entry hentry, Design.widgetsBoundTo, and_assoc]
  constructor
  · intro hexact
    -- Of two widgets with one identifier the entry of either lists both.
    have hshared {v w : Widget} (hv : v ∈ d.widgets) (hw : w ∈ d.widgets)
        (hname : Name.identifier v.id = Name.identifier w.id) {id : String} (hid : v.dataSource = some id) :
        w.dataSource = some id := by
      obtain ⟨entry, hentry, rfl⟩ := List.mem_map.1 ((hkeys id).2 ⟨v, hv, hid⟩)
      exact (hexact w hw entry hentry).1 ((hlisted hentry).2 ⟨v, hv, hid, hname⟩)
    intro v hv w hw hname
    cases hsource : v.dataSource with
    | some id => exact (hshared hv hw hname hsource).symm
    | none =>
      cases hother : w.dataSource with
      | none => rfl
      | some id =>
        have hback := hshared hw hv hname.symm hother
        rw [hsource] at hback
        cases hback
  · intro hapart w hw entry hentry
    rw [hlisted hentry]
    constructor
    · rintro ⟨v, hv, hid, hname⟩
      rw [← hapart v hv w hw hname, hid]
    · intro hid
      exact ⟨w, hw, hid, rfl⟩

/-- **The wiring of a program and its source table agree.** The table has one row for each source that a
widget names, in the order of the declarations, and every widget is wired to the source it names; by
identifier, no two widgets of one identifier are told apart. -/
theorem Generator.generate_wired {document : Json} {d : Design} {o : Options} {p : Project}
    (hvalid : Design.validate document = .ok d) (h : Generator.default.generate d o = .ok p) :
    p.Wired o.framework d := by
  obtain ⟨hread, hwell⟩ := Design.validate_ok_iff.1 hvalid
  obtain ⟨hsuits, h⟩ := default_generate_ok h
  have hnamed (id : String) : id ∈ d.referencedSources.map (·.id) ↔ ∃ w ∈ d.widgets, w.dataSource = some id :=
    Design.mem_referencedIds hwell (Design.read_sourceIds hread)
  obtain ⟨gap, hseparator⟩ := Target.separator_ofFramework o.framework
  obtain ⟨bs, parts, hbs, hparts, hfiles⟩ := (Target.firm_ofFramework o.framework).section_in_file hseparator h
  have hwidgets := Behavior.widgets_of_accepted hbs
  obtain ⟨hsources, -, happ, -⟩ := Target.sections_ok hparts
  have hfilled : ∀ b ∈ bs, b.widget.dataSource ≠ some "" := by
    intro b hb hempty
    have hw : b.widget ∈ d.widgets := hwidgets ▸ List.mem_map_of_mem hb
    obtain ⟨s, hs, hid⟩ := hwell.references _ hw "" hempty
    exact Design.read_sourceIds hread s hs hid
  have happFile : ∃ file ∈ p.files, lines parts.app <:+: lines file.content :=
    hfiles _ (List.mem_append_right _ List.mem_cons_self)
  refine ⟨hnamed, Design.nodup_referencedIds hwell, List.filter_sublist, fun hfed => ?_,
    Target.nodup_typeNames hsuits, fun hslots => ?_, fun hentries hfed => ?_⟩
  · have hsection : parts.dataSources ∈ parts.program d.hasDataSources := by
      rw [Sections.program, if_pos hfed]
      exact List.mem_append_left _ (List.mem_append_left _ (List.mem_singleton_self _))
    obtain ⟨file, hfile, hinfix⟩ := hfiles _ hsection
    have hfedScene : Scene.hasDataSources ⟨d, o, bs⟩ = true := hfed
    rw [if_pos hfedScene] at hsources
    exact ⟨file, hfile, (Target.showsTable_dataSources hsources).mono hinfix⟩
  · obtain ⟨file, hfile, hinfix⟩ := happFile
    have hshown := (Target.showsSlots_app hslots hfilled happ).mono hinfix
    rw [hwidgets] at hshown
    exact ⟨file, hfile, hshown⟩
  · obtain ⟨file, hfile, hinfix⟩ := happFile
    obtain ⟨hnodup, hkeys, hlists⟩ := Textual.feeds_subscribers ⟨d, o, bs⟩
    rw [hentries] at happ
    have htext : Textual.app ⟨d, o, bs⟩ = parts.app := Except.ok.inj happ
    rw [← htext] at hinfix
    have hbound (id : String) : (bs.filter (·.widget.dataSource = some id)).map (·.identifier) =
        (d.widgetsBoundTo id).map fun w => Name.identifier w.id := by
      rw [Design.widgetsBoundTo, ← hwidgets, List.filter_map, List.map_map]
      rfl
    have hsources (id : String) : id ∈ (Textual.subscribers ⟨d, o, bs⟩).map (·.1) ↔
        ∃ w ∈ d.widgets, w.dataSource = some id := by
      rw [hkeys, ← hwidgets]
      simp
    have hwidgetLists : ∀ entry ∈ Textual.subscribers ⟨d, o, bs⟩,
        entry.2 = (d.widgetsBoundTo entry.1).map fun w => Name.identifier w.id :=
      fun entry hentry => (hlists entry hentry).trans (hbound entry.1)
    have hfedScene : Scene.hasDataSources ⟨d, o, bs⟩ = true := hfed
    exact ⟨_, ⟨file, hfile, (Textual.showsSubscribers hfedScene).mono hinfix⟩, hnodup,
      fun id => (hsources id).trans (hnamed id).symm, hwidgetLists,
      Design.entries_exclusive_iff hsources hwidgetLists⟩

/-- Two texts, one named by the Kelvin sign and one by the letter that it is in lower case, fed from two
sources. -/
def Design.kelvinDocument : Json :=
  .object
    [("metadata", .object [("name", .text "kelvin")]),
     ("widgets", .list
       [.object
         [("id", .text "\u212a"),
          ("type", .text "text"),
          ("position", .object [("x", .ofInt 0), ("y", .ofInt 0)]),
          ("size", .object [("width", .ofInt 10), ("height", .ofInt 3)]),
          ("dataSource", .text "a")],
        .object
         [("id", .text "k"),
          ("type", .text "text"),
          ("position", .object [("x", .ofInt 10), ("y", .ofInt 0)]),
          ("size", .object [("width", .ofInt 10), ("height", .ofInt 3)]),
          ("dataSource", .text "b")]]),
     ("dataSources", .list
       [.object [("id", .text "a"), ("config", .object [("type", .text "static"), ("value", .ofInt 1)])],
        .object [("id", .text "b"), ("config", .object [("type", .text "static"), ("value", .ofInt 2)])]])]

/-- The design of `kelvinDocument`. -/
def Design.kelvin : Design where
  version := "1.0.0"
  metadata := ⟨"kelvin", none, none, "1.0.0", none, none, .textual, []⟩
  settings := .default
  widgets :=
    [⟨"\u212a", "text", ⟨0, 0⟩, ⟨10, 3⟩, none, some "a", none, []⟩,
     ⟨"k", "text", ⟨10, 0⟩, ⟨10, 3⟩, none, some "b", none, []⟩]
  dataSources := [⟨"a", none, .static (.ofInt 1)⟩, ⟨"b", none, .static (.ofInt 2)⟩]

theorem Generator.generate_wired_kelvin :
    ∃ p, Generator.default.generate Design.kelvin ⟨.textual, .single, true, true⟩ = .ok p ∧
      p.Wired .textual Design.kelvin ∧
      ¬ ∀ v ∈ Design.kelvin.widgets, ∀ w ∈ Design.kelvin.widgets,
        Name.identifier v.id = Name.identifier w.id → v.dataSource = w.dataSource := by
  have hread : Design.read Design.kelvinDocument = .accepted Design.kelvin := by rfl
  have hwell : Design.kelvin.WellFormed := Design.kelvin.faults_eq_nil_iff.1 (by rfl)
  have hvalid : Design.validate Design.kelvinDocument = .ok Design.kelvin :=
    Design.validate_ok_iff.2 ⟨hread, hwell⟩
  obtain ⟨p, hp⟩ : ∃ p, Generator.default.generate Design.kelvin ⟨.textual, .single, true, true⟩ = .ok p := ⟨_, rfl⟩
  have hname : Name.identifier "\u212a" = Name.identifier "k" := by decide +kernel
  have hsources : some "a" ≠ some "b" := by decide
  refine ⟨p, hp, generate_wired hvalid hp, fun hall => ?_⟩
  exact hsources (hall _ List.mem_cons_self _ (List.mem_cons_of_mem _ List.mem_cons_self) hname)

end DashboardCompiler
