import DashboardCompiler.Proofs.Generation.Agreement
import DashboardCompiler.Proofs.Target.Ratatui.UseOrder

/-!
# Programs and the order of sets

A design and its options determine a program if no order in which the sets of used names may be given shows in it.
Of these sets only one depends on the design, the widget types that the application of a modular project uses. So
a modular program is determined exactly if its widget types do not tie, and a program in one file always is.
-/

namespace DashboardCompiler

namespace Ratatui

open Code Text

/-- An order in which sets are given. -/
structure Order where
  groups : List Use → List Use
  same : ∀ uses, SameSets uses (groups uses)

/-- The header of a file whose sets are given in an order. -/
def headerIn (order : Order) (s : Scene) (role : FileRole) : String :=
  joinSections [joinLines (banner s role), useDeclarations (order.groups (fileUses s role)),
    if hasHelpers role then helpers else ""] "\n\n"

/-- The order of the lists that stand for the sets. -/
def Order.listed : Order := ⟨id, .refl⟩

end Ratatui

namespace Target

/-- A target with other headers. -/
def withHeader (t : Target) (header : Scene → FileRole → String → String) : Target := { t with header := header }

/-- The target for sets that are given in an order. -/
def ratatuiIn (order : Ratatui.Order) : Target := ratatui.withHeader fun s role _ => Ratatui.headerIn order s role

theorem ratatuiIn_listed : ratatuiIn .listed = ratatui := rfl

end Target

namespace Ratatui

open Code Text

/-! ## Sets of used names -/

theorem caseApart_congr {names other : List String} (h : ∀ name, name ∈ names ↔ name ∈ other) :
    CaseApart names ↔ CaseApart other := by
  simp only [CaseApart, h]

/-- The letters of a name in lower case. -/
def letters (name : String) : List Char := name.toList.map Char.toLower

theorem lowerFrom_name {before cs : List Char} (h : ∀ c ∈ cs, Name.isNameChar c = true) :
    Unicode.lowerFrom before cs = cs.map Char.toLower := by
  induction cs generalizing before with
  | nil => rfl
  | cons c cs ih =>
    obtain ⟨hc, hcs⟩ := List.forall_mem_cons.1 h
    have hlower : Unicode.lowerBetween before c cs = [c.toLower] := by
      have hascii := Name.of_isNameChar (P := fun c => decide (c.toNat ≠ 0x3a3 ∧ Unicode.lowerChars c = [c.toLower]))
        (by decide +kernel) hc
      obtain ⟨hsigma, hlower⟩ := of_decide_eq_true hascii
      rw [Unicode.lowerBetween, if_neg hsigma, hlower]
    rw [Unicode.lowerFrom, hlower, ih hcs, List.map_cons, List.singleton_append]

/-- For names the letters tell what the lower case tells. -/
theorem letters_eq_of_lower_eq {a b : String} (ha : IsName a) (hb : IsName b) (h : Unicode.lower a = Unicode.lower b) :
    letters a = letters b := by
  rw [Unicode.lower, Unicode.lower, lowerFrom_name ha.chars, lowerFrom_name hb.chars] at h
  exact String.ofList_injective h

/-- All names of some groups are made of letters, digits and underscores, and those of one path do not tie. -/
def Distinct (uses : List Use) : Prop :=
  ∀ u ∈ uses, ∀ a ∈ u.names, IsName a ∧ ∀ v ∈ uses, u.path = v.path → ∀ b ∈ v.names, letters a = letters b → a = b

instance (uses : List Use) : Decidable (Distinct uses) :=
  inferInstanceAs (Decidable (∀ u ∈ uses, ∀ a ∈ u.names,
    IsName a ∧ ∀ v ∈ uses, u.path = v.path → ∀ b ∈ v.names, letters a = letters b → a = b))

theorem Distinct.caseApart {uses other : List Use} (h : Distinct other) (hsub : uses ⊆ other) (path : String) :
    CaseApart (merged uses path) := by
  intro a ha b hb _ _ hlower
  obtain ⟨u, hu, hpath, ha⟩ := mem_namesAt.1 (mem_merged.1 ha)
  obtain ⟨v, hv, hpath', hb⟩ := mem_namesAt.1 (mem_merged.1 hb)
  obtain ⟨hname, hdistinct⟩ := h u (hsub hu) a ha
  exact hdistinct v (hsub hv) (hpath.trans hpath'.symm) b hb
    (letters_eq_of_lower_eq hname (h v (hsub hv) b hb).1 hlower)

/-- Everything that the templates use. -/
def templateUses (s : Scene) : List Use :=
  appUses s ++ widgetUses ++ sourceUses s.design ++ [⟨modulePath sourcesModule, sourceItems s.design⟩]

theorem distinct_templateUses (s : Scene) : Distinct (templateUses s) := by
  unfold templateUses appUses sourceUses sourceItems
  cases s.hasDataSources <;> cases s.design.usesSystemMetrics <;> decide +kernel

theorem subset_templateUses (s : Scene) {role : FileRole} (hrole : role ≠ .app) : fileUses s role ⊆ templateUses s := by
  intro u hu
  cases role with
  | app => exact absurd rfl hrole
  | single =>
    cases hfed : s.hasDataSources <;>
      simp only [fileUses, templateUses, hfed, Bool.false_eq_true, ↓reduceIte, List.mem_append] at hu ⊢ <;> tauto
  | widgets =>
    simp only [fileUses, templateUses, List.mem_append] at hu ⊢
    tauto
  | dataSources =>
    simp only [fileUses, templateUses, List.mem_append] at hu ⊢
    tauto

/-- What an application uses beside the widgets. -/
def fixedUses (s : Scene) : List Use :=
  appUses s ++ if s.hasDataSources then [⟨modulePath sourcesModule, sourceItems s.design⟩] else []

theorem fixedUses_subset (s : Scene) : fixedUses s ⊆ templateUses s := by
  cases hfed : s.hasDataSources <;> simp [fixedUses, templateUses, hfed]

theorem merged_app {path : String} (hpath : path ≠ modulePath widgetsModule) (s : Scene) :
    merged (fileUses s .app) path = merged (fixedUses s) path := by
  have hwidgets : crateName ++ "::widgets" = modulePath widgetsModule := by decide
  have hsources : crateName ++ "::data_sources" = modulePath sourcesModule := by decide
  have hother : decide (modulePath widgetsModule = path) = false := by simpa using hpath.symm
  simp only [merged, fileUses, crateUses, fixedUses, hwidgets, hsources, List.filter_append, List.filter_cons, hother,
    Bool.false_eq_true, ↓reduceIte, List.filter_nil, List.nil_append]
  rfl

/-- Only widget types can tie in an application. -/
theorem caseApart_app (s : Scene) : (∀ path, CaseApart (merged (fileUses s .app) path)) ↔
    CaseApart ("DashboardWidget" :: s.behaviors.map Behavior.typeName) := by
  have hwidgets : CaseApart (merged (fileUses s .app) (modulePath widgetsModule)) ↔
      CaseApart ("DashboardWidget" :: s.behaviors.map Behavior.typeName) :=
    caseApart_congr fun name => mem_merged.trans (namesAt_widgets s)
  refine ⟨fun h => hwidgets.1 (h _), fun h path => ?_⟩
  by_cases hpath : path = modulePath widgetsModule
  · rw [hpath]
    exact hwidgets.2 h
  · rw [merged_app hpath]
    exact (distinct_templateUses s).caseApart (fixedUses_subset s) path

/-! ## Headers -/

theorem headerIn_eq {s : Scene} {role : FileRole} (h : ∀ path, CaseApart (merged (fileUses s role) path))
    (order : Order) : headerIn order s role = header s role := by
  rw [header_eq, headerIn, (order.same _).useDeclarations_eq h]

/-- Outside of an application no order shows. -/
theorem headerIn_of_ne {role : FileRole} (hrole : role ≠ .app) (order : Order) (s : Scene) :
    headerIn order s role = header s role :=
  headerIn_eq ((distinct_templateUses s).caseApart (subset_templateUses s hrole)) order

/-- The lines above the use declarations of an application, without a last empty one. -/
def appBanner (s : Scene) : String :=
  if s.options.includeComments then
    joinLines
      ["// " ++ commentText s.design.metadata.name ++ ": " ++ replaceAll (Named.name FileRole.app) "_" " " ++ " module.",
       "// Generated by tuidesigner. Edit the design and regenerate instead."]
  else ""

theorem appBanner_solid (s : Scene) : appBanner s = "" ∨ Solid (appBanner s) := by
  unfold appBanner
  split
  · right
    constructor
    · simp only [String.append_assoc]
      exact opens_joinWith rfl (.append (opens_ofList (by decide)) _)
    · exact closes_joinWith rfl (closes_ofList rfl (by decide))
  · exact .inl rfl

theorem headerIn_app (order : Order) (s : Scene) : headerIn order s .app =
    joinSections [appBanner s, useDeclarations (order.groups (fileUses s .app)), ""] "\n\n" := by
  have hbanner : joinLines (banner s .app) = if s.options.includeComments then appBanner s ++ "\n" else "" := by
    have hlast (first second : String) : joinLines [first, second, ""] = joinLines [first, second] ++ "\n" := by
      simp only [joinLines, joinWith, String.append_assoc, String.append_empty]
    have hhelpers : hasHelpers .app = false := rfl
    unfold banner appBanner
    cases s.options.includeComments with
    | false => rfl
    | true => simp only [hhelpers, ↓reduceIte, Bool.false_eq_true, List.append_nil, hlast]
  have hhelpers : (if hasHelpers .app then helpers else "") = "" := rfl
  rw [headerIn, hbanner, hhelpers]
  split
  · exact joinSections_append_feed _ _ _
  · rename_i hcomments
    rw [appBanner, if_neg hcomments]

theorem useDeclarations_solid {uses : List Use} (h : uses ≠ []) : Solid (useDeclarations uses) := by
  have hline (path : String) : Solid (useLine uses path) := by
    refine ⟨opens_useLine uses path, ?_⟩
    have hend : Closes ";" := closes_ofList rfl (by decide)
    rw [useLine_eq]
    exact hend.prepend _
  obtain ⟨u, hu⟩ := List.exists_mem_of_ne_nil uses h
  obtain ⟨block, hblock, -⟩ := mem_useBlocks.2 (List.mem_map_of_mem hu)
  rw [useDeclarations_eq_blocks]
  refine solid_joinWith (fun hnone => List.ne_nil_of_mem hblock (List.map_eq_nil_iff.1 hnone)) ?_
  refine List.forall_mem_map.2 fun block hblock => solid_joinWith ?_ (List.forall_mem_map.2 fun path _ => hline path)
  intro hnone
  have hkept := (List.mem_filter.1 hblock).2
  rw [List.map_eq_nil_iff.1 hnone] at hkept
  cases hkept

theorem fileUses_ne_nil (s : Scene) (role : FileRole) : fileUses s role ≠ [] := by
  cases role <;> exact List.cons_ne_nil _ _

theorem Order.groups_ne_nil (order : Order) {uses : List Use} (h : uses ≠ []) : order.groups uses ≠ [] := by
  obtain ⟨u, hu⟩ := List.exists_mem_of_ne_nil _ h
  intro hnone
  have hpath := ((order.same _).paths u.path).1 (List.mem_map_of_mem hu)
  rw [hnone] at hpath
  cases hpath

theorem inked_headerIn (order : Order) (s : Scene) (role : FileRole) : isBlankText (headerIn order s role) = false :=
  inked_joinSections (List.mem_cons_of_mem _ List.mem_cons_self)
    (useDeclarations_inked (order.groups_ne_nil (fileUses_ne_nil s role))) _

theorem trimFeeds_headerIn (order : Order) (s : Scene) : trimFeeds (headerIn order s .app) =
    joinWith "\n\n" ([appBanner s].filter (· ≠ "") ++ [useDeclarations (order.groups (fileUses s .app))]) := by
  have huses : Solid (useDeclarations (order.groups (fileUses s .app))) :=
    useDeclarations_solid (order.groups_ne_nil (fileUses_ne_nil s .app))
  have hsections : [appBanner s, useDeclarations (order.groups (fileUses s .app)), ""].filter (· ≠ "") =
      [appBanner s].filter (· ≠ "") ++ [useDeclarations (order.groups (fileUses s .app))] := by
    by_cases hbanner : appBanner s = "" <;> simp [hbanner, huses.ne_empty]
  rw [headerIn_app, trimFeeds_joinSections, hsections]
  · simpa using ⟨appBanner_solid s, Or.inr huses⟩
  · rw [hsections]
    exact List.append_ne_nil_of_right_ne_nil _ (List.cons_ne_nil _ _)

/-- The header of an application shows its use declarations. -/
theorem useDeclarations_eq_of_trimFeeds {order order' : Order} {s : Scene}
    (h : trimFeeds (headerIn order s .app) = trimFeeds (headerIn order' s .app)) :
    useDeclarations (order.groups (fileUses s .app)) = useDeclarations (order'.groups (fileUses s .app)) := by
  rw [trimFeeds_headerIn, trimFeeds_headerIn] at h
  by_cases hbanner : [appBanner s].filter (· ≠ "") = []
  · rwa [hbanner] at h
  · rwa [joinWith_append _ hbanner (List.cons_ne_nil _ _), joinWith_append _ hbanner (List.cons_ne_nil _ _),
      String.append_right_inj] at h

/-- The order that gives two names of a path before all others, if they are there. -/
def Order.leading (path a b : String) : Order where
  groups uses := if a ∈ merged uses path ∧ b ∈ merged uses path then Ratatui.leading path a b uses else uses
  same uses := by
    split
    · rename_i h
      exact sameSets_leading h.1 h.2
    · exact .refl uses

theorem Order.groups_leading {uses : List Use} {path a b : String} (ha : a ∈ merged uses path)
    (hb : b ∈ merged uses path) : (leading path a b).groups uses = Ratatui.leading path a b uses :=
  if_pos ⟨ha, hb⟩

/-- Two widget types that tie show in the header of an application. -/
theorem caseApart_of_headerIn {s : Scene}
    (h : ∀ order, trimFeeds (headerIn order s .app) = trimFeeds (header s .app)) :
    CaseApart ("DashboardWidget" :: s.behaviors.map Behavior.typeName) := by
  refine (caseApart_app s).1 fun path => caseApart_iff.2 fun a ha b hb hkey => ?_
  by_contra hne
  have htext := useDeclarations_eq_of_trimFeeds ((h (.leading path a b)).trans (h (.leading path b a)).symm)
  rw [Order.groups_leading ha hb, Order.groups_leading hb ha] at htext
  exact useDeclarations_leading_ne ha hb hne hkey htext

end Ratatui

/-! ## Projects -/

namespace Target

open Ratatui

section Headers

variable {t : Target} {header header' : Scene → FileRole → String → String} {s : Scene} {parts : Sections}

/-- The files of a project that hold code. -/
def codeFiles (t : Target) (s : Scene) (parts : Sections) : List GeneratedFile :=
  if s.isModular then t.modularFiles s parts else t.singleFiles s parts

theorem generateScene_withHeader (hparts : t.sections s = .ok parts) : (t.withHeader header).generateScene s =
    .ok ⟨t.framework, (t.withHeader header).codeFiles s parts ++ t.furtherFiles s, t.dependencies, t.instructions s⟩ := by
  have hsections : (t.withHeader header).sections s = .ok parts := hparts
  rw [generateScene, hsections, furtherFiles, ← List.append_assoc]
  rfl

theorem designFaults_withHeader (d : Design) : (t.withHeader header).designFaults d = t.designFaults d := rfl

theorem sourceFile_withHeader_congr {role : FileRole} (h : header s role = header' s role)
    (filename body : String) (executable : Bool) : (t.withHeader header).sourceFile s role filename body executable =
      (t.withHeader header').sourceFile s role filename body executable := by
  have hheader : (t.withHeader header).header s role body = (t.withHeader header').header s role body := congrFun h body
  rw [sourceFile, hheader]
  rfl

/-- Code shows the headers of its own layout only. -/
theorem codeFiles_withHeader_congr (h : ∀ role, (role = .app → s.isModular = true) → header s role = header' s role) :
    (t.withHeader header).codeFiles s parts = (t.withHeader header').codeFiles s parts := by
  have hfile {role : FileRole} (hrole : role = .app → s.isModular = true) (filename body : String) (executable : Bool) :=
    sourceFile_withHeader_congr (t := t) (h role hrole) filename body executable
  unfold codeFiles
  split
  · rename_i hmodular
    simp only [modularFiles, hfile fun _ => hmodular]
    rfl
  · have hsingle (h : FileRole.single = .app) : s.isModular = true := by cases h
    simp only [singleFiles, hfile hsingle]
    rfl

/-- The code of an application shows its header. -/
theorem trimFeeds_eq_of_codeFiles (h : (t.withHeader header).codeFiles s parts = (t.withHeader header').codeFiles s parts)
    (hmodular : s.isModular = true) (hinked : ∀ body, Text.isBlankText (header s .app body) = false)
    (hinked' : ∀ body, Text.isBlankText (header' s .app body) = false) :
    ∃ body, Text.trimFeeds (header s .app body) = Text.trimFeeds (header' s .app body) := by
  rw [codeFiles, codeFiles, if_pos hmodular, if_pos hmodular] at h
  have hcontent := congrArg GeneratedFile.content (List.cons.inj h).1
  exact ⟨_, Text.trimFeeds_eq_of_joinSections (hinked _) (hinked' _) hcontent⟩

end Headers

theorem sections_ratatui (s : Scene) : ∃ parts, ratatui.sections s = .ok parts := by
  unfold sections
  cases s.hasDataSources <;> exact ⟨_, rfl⟩

/-- A scene determines its program exactly if the widget types of a modular one do not tie. -/
theorem generateScene_ratatuiIn_iff (s : Scene) :
    (∀ order, (ratatuiIn order).generateScene s = ratatui.generateScene s) ↔
      (s.isModular = true → CaseApart ("DashboardWidget" :: s.behaviors.map Behavior.typeName)) := by
  obtain ⟨parts, hparts⟩ := sections_ratatui s
  have hscene (order : Order) : (ratatuiIn order).generateScene s = .ok ⟨ratatui.framework,
      (ratatuiIn order).codeFiles s parts ++ ratatui.furtherFiles s, ratatui.dependencies, ratatui.instructions s⟩ :=
    generateScene_withHeader hparts
  constructor
  · intro h hmodular
    refine caseApart_of_headerIn fun order => ?_
    have hproject := h order
    rw [← ratatuiIn_listed, hscene, hscene] at hproject
    have hfiles := List.append_cancel_right (Project.mk.inj (Except.ok.inj hproject)).2.1
    obtain ⟨-, hheader⟩ := trimFeeds_eq_of_codeFiles hfiles hmodular (fun _ => inked_headerIn order s .app)
      fun _ => inked_headerIn .listed s .app
    exact hheader
  · intro h order
    rw [← ratatuiIn_listed, hscene, hscene, ratatuiIn, ratatuiIn, codeFiles_withHeader_congr fun role hrole => ?_]
    funext body
    by_cases happ : role = .app
    · subst happ
      exact headerIn_eq ((caseApart_app s).2 (h (hrole rfl))) order
    · exact headerIn_of_ne happ order s

end Target

namespace Generator

open Ratatui

theorem find_register_ratatuiIn (order : Order) :
    (default.register (Target.ratatuiIn order)).find .ratatui = .ok (Target.ratatuiIn order) := rfl

/-- With sets in another order the generator does the same up to the code. -/
theorem generate_register_ratatuiIn {d : Design} {o : Options} {bs : List Behavior} (hframework : o.framework = .ratatui)
    (hsuits : Target.ratatui.designFaults d = []) (hbs : Behavior.ofWidgets o d.widgets = .accepted bs) (order : Order)
    (p : Project) : (default.register (Target.ratatuiIn order)).generate d o = .ok p ↔
      (Target.ratatuiIn order).generateScene ⟨d, o, bs⟩ = .ok p := by
  have hnone : ((Target.ratatuiIn order).designFaults d).isEmpty = true := by
    rw [Target.ratatuiIn, Target.designFaults_withHeader, hsuits, List.isEmpty_nil]
  have hgenerate : (default.register (Target.ratatuiIn order)).generate d o = (Target.ratatuiIn order).generate d o := by
    rw [generate, hframework, find_register_ratatuiIn]
    exact if_pos hnone
  rw [hgenerate, Target.generate_eq hbs]
  cases (Target.ratatuiIn order).generateScene ⟨d, o, bs⟩ with
  | error fault =>
    refine iff_of_false ?_ ?_
    · intro hok
      cases hok
    · intro hok
      cases hok
  | ok q => simp only [Except.ok.injEq]

/-- **When the order of sets is of no matter.** Use declarations have one text, whatever order the sets of names are
given in, exactly if no path has two names that differ in case alone. For a program this comes down to the widget types
of a modular one: these tie if they differ from each other, or from the trait, in case alone. -/
theorem program_determined_iff (uses : List Use) (d : Design) (o : Options) :
    ((∀ other, SameSets uses other → useDeclarations other = useDeclarations uses) ↔
      ∀ path, CaseApart (merged uses path)) ∧
    ∀ p, default.generate d o = .ok p → o.framework = .ratatui →
      ((∀ order, (default.register (Target.ratatuiIn order)).generate d o = .ok p) ↔
        (o.outputFormat = .modular → CaseApart ("DashboardWidget" :: d.widgets.map fun w => Name.typeName w.id))) := by
  refine ⟨useDeclarations_stable_iff, fun p hgenerate hframework => ?_⟩
  obtain ⟨hsuits, hproject⟩ := default_generate_ok hgenerate
  rw [hframework] at hsuits hproject
  obtain ⟨bs, -, hbs, -⟩ := Target.generate_ok hproject
  have hregister := generate_register_ratatuiIn hframework hsuits hbs
  have hscene : Target.ratatui.generateScene ⟨d, o, bs⟩ = .ok p := by
    have hlisted := hregister .listed p
    rw [Target.ratatuiIn_listed, generate, hframework] at hlisted
    exact hlisted.1 (by rw [← hproject]; exact if_pos (List.isEmpty_iff.2 hsuits))
  have htypes : bs.map Behavior.typeName = d.widgets.map fun w => Name.typeName w.id := by
    rw [← Behavior.widgets_of_accepted hbs, List.map_map]
    rfl
  have hmodular : Scene.isModular ⟨d, o, bs⟩ = true ↔ o.outputFormat = .modular := decide_eq_true_iff
  have hiff := Target.generateScene_ratatuiIn_iff ⟨d, o, bs⟩
  simp only [hscene, htypes, hmodular] at hiff
  simp only [hregister, hiff]

end Generator

end DashboardCompiler
