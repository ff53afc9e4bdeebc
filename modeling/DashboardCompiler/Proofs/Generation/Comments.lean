import DashboardCompiler.Proofs.Generation.Imports
import DashboardCompiler.Proofs.Target.Comments

/-!
# Projects without comments

Two runs that differ in whether comments are asked for are followed through the assembly: their sections, headers
and files have the same code, line by line, and everything else is the same. That the imports are the same too needs
bodies that the scan for modules can read, with whatever a design puts into their literals and comments.
-/

namespace DashboardCompiler

open Text Code

/-- The languages in which two slashes begin a comment. -/
def slashLanguages : List String := ["go", "rust", "javascript"]

/-- A file beside its counterpart with other comments. -/
structure GeneratedFile.SameCode (file other : GeneratedFile) : Prop where
  filename : file.filename = other.filename
  language : file.language = other.language
  executable : file.executable = other.executable
  code : file.language ∈ slashLanguages → codeLines file.content = codeLines other.content
  rest : file.language ∉ slashLanguages → file.content = other.content

/-- A project beside its counterpart with other comments. -/
structure Project.SameCode (p q : Project) : Prop where
  framework : p.framework = q.framework
  files : List.Forall₂ GeneratedFile.SameCode p.files q.files
  dependencies : p.dependencies = q.dependencies
  instructions : p.instructions = q.instructions

theorem GeneratedFile.SameCode.refl (file : GeneratedFile) : file.SameCode file :=
  ⟨rfl, rfl, rfl, fun _ => rfl, fun _ => rfl⟩

/-- Sections with the same lines that are neither empty nor comments. -/
structure Sections.SameCode (parts others : Sections) : Prop where
  dataSources : bareLines parts.dataSources = bareLines others.dataSources
  widgets : parts.widgets.map bareLines = others.widgets.map bareLines
  app : bareLines parts.app = bareLines others.app
  entryPoint : bareLines parts.entryPoint = bareLines others.entryPoint

namespace Sections.SameCode

variable {parts others : Sections}

theorem main (h : Sections.SameCode parts others) :
    [parts.app, parts.entryPoint].map bareLines = [others.app, others.entryPoint].map bareLines := by
  simp only [List.map_cons, List.map_nil, h.app, h.entryPoint]

theorem program (h : Sections.SameCode parts others) (fed : Bool) :
    (parts.program fed).map bareLines = (others.program fed).map bareLines := by
  have hsources : (if fed then [parts.dataSources] else []).map bareLines =
      (if fed then [others.dataSources] else []).map bareLines := by
    cases fed with
    | true => exact congrArg ([·]) h.dataSources
    | false => rfl
  rw [Sections.program, Sections.program, List.map_append, List.map_append, List.map_append, List.map_append,
    hsources, h.widgets, h.main]

end Sections.SameCode

namespace Target

variable {t : Target} {Read : String → Prop} {s : Scene} {parts others : Sections}

/-! ## Bodies -/

/-- What holds of the bodies of all files of a program. -/
structure OfBodies (t : Target) (Read : String → Prop) (s : Scene) (parts : Sections) : Prop where
  program : Read (t.join (parts.program s.hasDataSources))
  main : Read (t.join [parts.app, parts.entryPoint])
  widgets : Read (t.join parts.widgets)
  dataSources : s.hasDataSources = true → Read parts.dataSources

/-- Where no text of a design gets into the imports, the scan ends with each line of a body. -/
theorem Reticent.scans (hreticent : t.Reticent) (hfirm : t.Firm) (h : t.sections s = .ok parts) :
    t.OfBodies Scans s parts := by
  obtain ⟨others, hothers, halike⟩ := hreticent.sections h
  obtain ⟨-, hwidgets, -, -⟩ := hfirm.solid_sections h
  obtain ⟨-, hotherWidgets, -, -⟩ := hfirm.solid_sections hothers
  exact
    { program := (alike_join hreticent.separator (hfirm.solid_program h) (hfirm.solid_program hothers)
        halike.program).scans
      main := (alike_join hreticent.separator (hfirm.solid_main h) (hfirm.solid_main hothers) halike.main).scans
      widgets := (alike_join hreticent.separator hwidgets hotherWidgets halike.widgets).scans
      dataSources := fun hfed => (halike.dataSources hfed).scans }

theorem flatMap_bareLines_congr {body others : List String} (h : body.map bareLines = others.map bareLines) :
    body.flatMap bareLines = others.flatMap bareLines := by
  rw [List.flatMap_def, List.flatMap_def, h]

theorem bareLines_join (hseparator : t.separator = "\n\n") {body : List String} (hbody : ∀ text ∈ body, Solid text) :
    bareLines (t.join body) = body.flatMap bareLines := by
  rw [join_of_solid hseparator hbody, String.append_empty, bareLines, declaredNames_append_feed rfl]
  exact bareLines_joinWith body

theorem bareLines_plainFile (hseparator : t.separator = "\n\n") (header : String) (body : List String)
    (footer : String) :
    bareLines (t.plainFile header body footer) = bareLines header ++ (body.flatMap bareLines ++ bareLines footer) := by
  have hheader : bareLines (trimFeeds header) = bareLines header := declaredNames_trimFeeds rfl header
  have hfooter : (if footer = "" then [] else [footer]).flatMap bareLines = bareLines footer := by
    split
    · rename_i hempty
      rw [hempty]
      exact (declaredNames_empty rfl).symm
    · rw [List.flatMap_singleton]
  rw [plainFile, hseparator, bareLines, declaredNames_append_feed rfl, ← bareLines, bareLines_joinWith,
    List.cons_append, List.flatMap_cons, List.flatMap_append, hheader, hfooter]

/-! ## Files -/

/-- A source file has the code of its header, its body and its footer. -/
theorem Annotates.file (hannotates : t.Annotates Read) (hlanguage : t.language ∈ slashLanguages) (role : FileRole)
    (name : String) (executable : Bool) {text other footer : String} {body bodies : List String} (htext : Read text)
    (hother : Read other) (hbody : body.map bareLines = bodies.map bareLines)
    (hsame : bareLines text = bareLines other) :
    GeneratedFile.SameCode ⟨name, t.language, executable, t.plainFile (t.header s role text) body footer⟩
      ⟨name, t.language, executable, t.plainFile (t.header s.uncommented role other) bodies footer⟩ := by
  refine ⟨rfl, rfl, rfl, fun _ => ?_, fun hno => absurd hlanguage hno⟩
  rw [codeLines_eq, codeLines_eq, bareLines_plainFile hannotates.separator, bareLines_plainFile hannotates.separator,
    hannotates.header s role text other htext hother hsame, flatMap_bareLines_congr hbody]

/-- A file whose body is joined from sections. -/
theorem Annotates.joinedFile (hannotates : t.Annotates Read) (hlanguage : t.language ∈ slashLanguages)
    (role : FileRole) (name : String) (executable : Bool) {footer : String} {body bodies : List String}
    (htext : Read (t.join body)) (hother : Read (t.join bodies)) (hbody : ∀ text ∈ body, Solid text)
    (hbodies : ∀ text ∈ bodies, Solid text) (hsame : body.map bareLines = bodies.map bareLines) :
    GeneratedFile.SameCode ⟨name, t.language, executable, t.plainFile (t.header s role (t.join body)) body footer⟩
      ⟨name, t.language, executable,
        t.plainFile (t.header s.uncommented role (t.join bodies)) bodies footer⟩ := by
  refine hannotates.file hlanguage role name executable htext hother hsame ?_
  rw [bareLines_join hannotates.separator hbody, bareLines_join hannotates.separator hbodies,
    flatMap_bareLines_congr hsame]

section Layouts

variable (hannotates : t.Annotates Read) (hlanguage : t.language ∈ slashLanguages) (hfirm : t.Firm)
  (h : t.sections s = .ok parts) (hothers : t.sections s.uncommented = .ok others)
  (hread : t.OfBodies Read s parts) (hotherRead : t.OfBodies Read s.uncommented others)
  (hsame : parts.SameCode others)

include hannotates hlanguage hfirm h hothers hread hotherRead hsame

theorem Annotates.singleLayout :
    List.Forall₂ GeneratedFile.SameCode (t.singleLayout s parts) (t.singleLayout s.uncommented others) :=
  .cons (hannotates.joinedFile hlanguage .single _ _ hread.program hotherRead.program (hfirm.solid_program h)
    (hfirm.solid_program hothers) (hsame.program s.hasDataSources)) .nil

theorem Annotates.modularLayout :
    List.Forall₂ GeneratedFile.SameCode (t.modularLayout s parts) (t.modularLayout s.uncommented others) := by
  obtain ⟨-, hwidgets, -, -⟩ := hfirm.solid_sections h
  obtain ⟨-, hotherWidgets, -, -⟩ := hfirm.solid_sections hothers
  have hfed : s.uncommented.hasDataSources = s.hasDataSources := rfl
  rw [Target.modularLayout, Target.modularLayout, hannotates.footer, hfed]
  refine List.rel_append (.cons ?_ (.cons ?_ .nil)) ?_
  · exact hannotates.joinedFile hlanguage .app _ _ hread.main hotherRead.main (hfirm.solid_main h)
      (hfirm.solid_main hothers) hsame.main
  · exact hannotates.joinedFile hlanguage .widgets _ _ hread.widgets hotherRead.widgets hwidgets hotherWidgets
      hsame.widgets
  · cases hcase : s.hasDataSources with
    | true =>
      exact .cons (hannotates.file hlanguage .dataSources _ _ (hread.dataSources hcase) (hotherRead.dataSources hcase)
        (congrArg ([·]) hsame.dataSources) hsame.dataSources) .nil
    | false => exact .nil

end Layouts

/-! ## Projects -/

theorem Annotates.sections (hannotates : t.Annotates Read) (s : Scene) :
    Concur Sections.SameCode (t.sections s) (t.sections s.uncommented) := by
  have hfed : s.uncommented.hasDataSources = s.hasDataSources := rfl
  have hwidgets : (s.behaviors.map (t.widget · s.options)).map bareLines =
      (s.uncommented.behaviors.map (t.widget · s.uncommented.options)).map bareLines := by
    rw [List.map_map, List.map_map]
    exact List.map_congr_left fun b _ => hannotates.widget b s.options
  have hrest {sources others : String} (hsources : bareLines sources = bareLines others) :
      Concur Sections.SameCode
        (do return ⟨sources, s.behaviors.map (t.widget · s.options), ← t.app s, t.entryPoint s⟩)
        (do return ⟨others, s.uncommented.behaviors.map (t.widget · s.uncommented.options),
          ← t.app s.uncommented, t.entryPoint s⟩) :=
    (hannotates.app s).bind fun _ _ _ _ happ => .ok ⟨hsources, hwidgets, happ, rfl⟩
  cases hcase : s.hasDataSources with
  | true =>
    simp only [Target.sections, hfed, hcase, if_true, hannotates.entryPoint]
    exact (hannotates.dataSources s).bind fun _ _ _ _ hsources => hrest hsources
  | false =>
    simp only [Target.sections, hfed, hcase, hannotates.entryPoint]
    exact hrest rfl

theorem Annotates.furtherFiles (hannotates : t.Annotates Read) (s : Scene) :
    t.furtherFiles s.uncommented = t.furtherFiles s := by
  rw [Target.furtherFiles, Target.furtherFiles, manifestFiles, manifestFiles, hannotates.manifests,
    hannotates.instructions]

theorem Annotates.generateScene (hannotates : t.Annotates Read) (hlanguage : t.language ∈ slashLanguages)
    (hfirm : t.Firm) (hread : ∀ s parts, t.sections s = .ok parts → t.OfBodies Read s parts) (s : Scene) :
    Concur Project.SameCode (t.generateScene s) (t.generateScene s.uncommented) := by
  refine (hannotates.sections s).bind fun parts others h hothers hsame => .ok ?_
  have hlayout : List.Forall₂ GeneratedFile.SameCode
      (if s.isModular then t.modularFiles s parts else t.singleFiles s parts)
      (if s.isModular then t.modularFiles s.uncommented others else t.singleFiles s.uncommented others) := by
    split
    · rw [hfirm.modularFiles_eq h, hfirm.modularFiles_eq hothers, hannotates.moduleIndex]
      exact List.rel_append (hannotates.modularLayout hlanguage hfirm h hothers (hread s _ h) (hread _ _ hothers) hsame)
        (List.forall₂_same.2 fun file _ => .refl file)
    · rw [hfirm.singleFiles_eq h, hfirm.singleFiles_eq hothers]
      exact hannotates.singleLayout hlanguage hfirm h hothers (hread s _ h) (hread _ _ hothers) hsame
  have hfiles : List.Forall₂ GeneratedFile.SameCode
      ((if s.isModular then t.modularFiles s parts else t.singleFiles s parts) ++ t.furtherFiles s)
      ((if s.isModular then t.modularFiles s.uncommented others else t.singleFiles s.uncommented others) ++
        t.furtherFiles s.uncommented) := by
    rw [hannotates.furtherFiles]
    exact List.rel_append hlayout (List.forall₂_same.2 fun file _ => .refl file)
  rw [Target.furtherFiles, Target.furtherFiles, ← List.append_assoc, ← List.append_assoc] at hfiles
  exact ⟨rfl, hfiles, rfl, (hannotates.instructions s).symm⟩

theorem Annotates.generate (hannotates : t.Annotates Read) (hlanguage : t.language ∈ slashLanguages)
    (hfirm : t.Firm) (hread : ∀ s parts, t.sections s = .ok parts → t.OfBodies Read s parts) (d : Design)
    (o : Options) : Concur Project.SameCode (t.generate d o) (t.generate d (o.commented false)) := by
  have hwidget (w : Widget) : Behavior.ofWidget w (o.commented false) = Behavior.ofWidget w o := rfl
  have hwidgets := Behavior.ofWidgets_congr hwidget d.widgets
  cases hbs : Behavior.ofWidgets o d.widgets with
  | rejected problems =>
    rw [hbs] at hwidgets
    rw [Target.generate, Target.generate, Scene.ofDesign, Scene.ofDesign, hwidgets, hbs]
    exact .error _
  | accepted bs =>
    rw [hbs] at hwidgets
    rw [generate_eq hwidgets, generate_eq hbs]
    have hscenes := hannotates.generateScene hlanguage hfirm hread ⟨d, o, bs⟩
    have hbare : Scene.uncommented ⟨d, o, bs⟩ = ⟨d, o.commented false, bs⟩ := rfl
    rw [hbare] at hscenes
    generalize t.generateScene ⟨d, o, bs⟩ = run, t.generateScene ⟨d, o.commented false, bs⟩ = other at hscenes ⊢
    cases hscenes with
    | error fault => exact .error _
    | ok h => exact .ok h

/-- Every target but that for Python writes its comments after two slashes. -/
theorem generate_uncommented {f : Framework} (hf : f ≠ .textual) (d : Design) (o : Options) :
    Concur Project.SameCode ((ofFramework f).generate d o) ((ofFramework f).generate d (o.commented false)) := by
  cases f with
  | textual => exact absurd rfl hf
  | bubbleTea =>
    exact BubbleTea.annotates.generate (by decide) firm_bubbleTea (fun _ _ => reticent_bubbleTea.scans firm_bubbleTea) d o
  | ratatui =>
    exact Ratatui.annotates.generate (by decide) firm_ratatui (fun _ _ _ => ⟨⟨⟩, ⟨⟩, ⟨⟩, fun _ => ⟨⟩⟩) d o
  | blessed =>
    exact Blessed.annotates.generate (by decide) firm_blessed (fun _ _ => reticent_blessed.scans firm_blessed) d o

end Target

/-- **Switching comments off removes only comments.** With a target that writes its comments after two slashes, the run
with comments and the run without them fail with the same fault or give the same files, in the same order, with
the same names, languages and flags; and once the empty lines and the comments of a source file are deleted, nothing
in it tells the runs apart. -/
theorem Generator.generate_commented {o : Options} (h : o.framework ≠ .textual) (d : Design) :
    Concur Project.SameCode (Generator.default.generate d (o.commented true))
      (Generator.default.generate d (o.commented false)) := by
  have htargets := Target.generate_uncommented h d (o.commented true)
  have hframework (shown : Bool) : (o.commented shown).framework = o.framework := rfl
  rw [Generator.generate, Generator.generate, hframework, hframework, find_default]
  simp only [bind, Except.bind]
  split
  · exact htargets
  · exact .error _

/-- A dashboard whose name reads like calls and comments of its program. -/
theorem Generator.generate_commented_labelled :
    ∃ p q, Generator.default.generate (.labelled "http.Get(\n// exec.Command(" "*/" "// math.Abs(")
        ⟨.bubbleTea, .modular, true, true⟩ = .ok p ∧
      Generator.default.generate (.labelled "http.Get(\n// exec.Command(" "*/" "// math.Abs(")
        ⟨.bubbleTea, .modular, false, true⟩ = .ok q ∧ p.SameCode q := by
  obtain ⟨p, hp⟩ := generate_labelled "http.Get(\n// exec.Command(" "*/" "// math.Abs("
  have hruns := generate_commented (o := ⟨.bubbleTea, .modular, true, true⟩) (by decide)
    (.labelled "http.Get(\n// exec.Command(" "*/" "// math.Abs(")
  have hshown : Options.commented ⟨.bubbleTea, .modular, true, true⟩ true = ⟨.bubbleTea, .modular, true, true⟩ := rfl
  rw [hshown, hp] at hruns
  generalize hq : Generator.default.generate _ (Options.commented _ false) = run at hruns
  cases hruns with
  | ok hsame => exact ⟨p, _, hp, hq, hsame⟩

end DashboardCompiler
