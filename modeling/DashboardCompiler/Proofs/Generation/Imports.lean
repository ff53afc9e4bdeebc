import DashboardCompiler.Proofs.Generation.Wiring
import DashboardCompiler.Proofs.Target.Headers

/-!
# What the files of a project import

Which modules a file needs is read off its code, so it has to be shown that the reader sees no text of the
design in it. Each section is alike to that of the design without its texts; hence each file uses the same
modules as its counterpart, and its imports stand where they stand there.
-/

namespace DashboardCompiler

open Text Code

/-! ## Imports of a file -/

/-- The import block of a Go file, up to the bracket that closes it. -/
def importBlock (content : String) : List String :=
  ((lines content).dropWhile (· ≠ "import (")).takeWhile (· ≠ ")")

/-- Whether a line defines constants and has nothing but the call of `require` before its first quote. -/
def isRequireLine (line : String) : Bool :=
  "const ".toList.isPrefixOf line.toList &&
    "require(".toList.isSuffixOf (line.toList.takeWhile fun c => !isQuote c)

/-- The lines of a JavaScript file that require a module. -/
def requireLines (content : String) : List String := (lines content).filter isRequireLine

namespace Project

/-- What is read off each file in a language, in the order of the files. -/
def perFile (p : Project) (language : String) (read : String → List String) : List (String × List String) :=
  (p.files.filter (·.language = language)).map fun file => (file.filename, read file.content)

/-- The import block of each Go file. -/
def goImports (p : Project) : List (String × List String) := p.perFile "go" importBlock

/-- The require lines of each JavaScript file. -/
def nodeRequires (p : Project) : List (String × List String) := p.perFile "javascript" requireLines

end Project

/-- A file beside its counterpart that imports the same. -/
structure GeneratedFile.SameImports (file other : GeneratedFile) : Prop where
  filename : file.filename = other.filename
  language : file.language = other.language
  imports : file.language = "go" → importBlock file.content = importBlock other.content
  requires : file.language = "javascript" → requireLines file.content = requireLines other.content

theorem GeneratedFile.SameImports.refl (file : GeneratedFile) : file.SameImports file :=
  ⟨rfl, rfl, fun _ => rfl, fun _ => rfl⟩

namespace Project

variable {p q : Project} {language : String} {read : String → List String}

theorem perFile_congr (h : List.Forall₂ GeneratedFile.SameImports p.files q.files)
    (hread : ∀ file other : GeneratedFile, file.SameImports other → file.language = language →
      read file.content = read other.content) :
    p.perFile language read = q.perFile language read := by
  unfold perFile
  generalize p.files = files, q.files = others at h
  induction h with
  | nil => rfl
  | @cons file other files others hfile _ ih =>
    by_cases hlanguage : file.language = language
    · have hother : other.language = language := hfile.language.symm.trans hlanguage
      rw [List.filter_cons_of_pos (by simpa using hlanguage), List.filter_cons_of_pos (by simpa using hother),
        List.map_cons, List.map_cons, ih, hfile.filename, hread _ _ hfile hlanguage]
    · have hother : other.language ≠ language := fun hother => hlanguage (hfile.language.trans hother)
      rw [List.filter_cons_of_neg (by simpa using hlanguage), List.filter_cons_of_neg (by simpa using hother), ih]

theorem goImports_congr (h : List.Forall₂ GeneratedFile.SameImports p.files q.files) :
    p.goImports = q.goImports :=
  perFile_congr h fun _ _ hfile => hfile.imports

theorem nodeRequires_congr (h : List.Forall₂ GeneratedFile.SameImports p.files q.files) :
    p.nodeRequires = q.nodeRequires :=
  perFile_congr h fun _ _ hfile => hfile.requires

theorem perFile_eq_nil (h : ∀ file ∈ p.files, file.language ≠ language) : p.perFile language read = [] := by
  rw [perFile, List.filter_eq_nil_iff.2 fun file hfile => by simpa using h file hfile, List.map_nil]

end Project

/-- The block ends where it was opened, whatever stands around it. -/
theorem importBlock_of_lines {content : String} {before within after : List String}
    (hlines : lines content = before ++ (("import (" :: within ++ [")"]) ++ after))
    (hbefore : "import (" ∉ before) :
    importBlock content = ("import (" :: within ++ [")"]).takeWhile (· ≠ ")") := by
  have hskip : ∀ line ∈ before, decide (line ≠ "import (") = true := fun line hline =>
    decide_eq_true fun hopening => hbefore (hopening ▸ hline)
  have hfound : (before ++ (("import (" :: within ++ [")"]) ++ after)).dropWhile (· ≠ "import (") =
      ("import (" :: within ++ [")"]) ++ after := by
    rw [List.dropWhile_append_of_pos hskip]
    simp
  have hclosed : (("import (" :: within ++ [")"]).takeWhile (· ≠ ")")).length ≠
      ("import (" :: within ++ [")"]).length := by
    intro hlength
    have hall := (List.takeWhile_prefix (· ≠ ")")).eq_of_length hlength
    have hbracket : ")" ∈ ("import (" :: within ++ [")"]).takeWhile (· ≠ ")") := by
      rw [hall]
      simp
    simpa using List.mem_takeWhile_imp hbracket
  rw [importBlock, hlines, hfound, List.takeWhile_append, if_neg hclosed]

/-! ### Lines with texts of the design -/

theorem not_isRequireLine_of_closed {line : String} (h : '(' ∉ emptyLiterals 0 line.toList) :
    isRequireLine line = false := by
  refine Bool.eq_false_iff.2 fun hrequire => h ?_
  rw [isRequireLine, Bool.and_eq_true, List.isSuffixOf_iff_suffix] at hrequire
  have hcall : '(' ∈ line.toList.takeWhile fun c => !isQuote c := hrequire.2.subset (by decide)
  rw [← List.takeWhile_append_dropWhile (p := fun c => !isQuote c) (l := line.toList),
    emptyLiterals_append_of_plain fun c hc => by simpa using List.mem_takeWhile_imp hc]
  exact List.mem_append_left _ hcall

theorem not_isRequireLine_of_comment {line : String} (h : isCommentLine line.toList = true) :
    isRequireLine line = false := by
  refine Bool.eq_false_iff.2 fun hrequire => ?_
  rw [isRequireLine, Bool.and_eq_true, List.isPrefixOf_iff_prefix] at hrequire
  obtain ⟨rest, hrest⟩ := hrequire.1
  rw [← hrest] at h
  cases h

/-- No line with a text of the design requires a module. -/
theorem isRequireLine_of_alike {a b : String} (h : Alike a b) :
    a = b ∨ isRequireLine a = false ∧ isRequireLine b = false := by
  cases h with
  | same => exact .inl rfl
  | literal ha hb hascan hbscan hcode hopen =>
    exact .inr ⟨not_isRequireLine_of_closed hopen, not_isRequireLine_of_closed (hcode ▸ hopen)⟩
  | comment ha hb hacomment hbcomment =>
    exact .inr ⟨not_isRequireLine_of_comment hacomment, not_isRequireLine_of_comment hbcomment⟩

theorem requireLines_eq_of_alike {s t : String} (h : AlikeTexts s t) : requireLines s = requireLines t := by
  unfold requireLines
  unfold AlikeTexts at h
  generalize lines s = as, lines t = bs at h
  induction h with
  | nil => rfl
  | @cons a b as bs hline _ ih =>
    rcases isRequireLine_of_alike hline with rfl | ⟨ha, hb⟩
    · rw [List.filter_cons, List.filter_cons, ih]
    · rw [List.filter_cons_of_neg (by simp [ha]), List.filter_cons_of_neg (by simp [hb]), ih]

/-! ## Files of alike sections -/

/-- Two texts that import the same as files in a language. -/
structure ImportsAlike (language content other : String) : Prop where
  imports : language = "go" → importBlock content = importBlock other
  requires : language = "javascript" → requireLines content = requireLines other

namespace Target

/-- No text of the design gets from the sections of a program into the imports of its files. -/
structure Reticent (t : Target) : Prop where
  separator : t.separator = "\n\n"
  widget : ∀ b o, AlikeTexts (t.widget b o) (t.widget b.withoutTexts o)
  dataSources : ∀ s text, t.dataSources s = .ok text →
    t.dataSources s.withoutTexts = .ok text ∧ AlikeTexts text text
  app : ∀ s text, t.app s = .ok text → ∃ other, t.app s.withoutTexts = .ok other ∧ AlikeTexts text other
  entryPoint : ∀ s, t.entryPoint s.withoutTexts = t.entryPoint s ∧ AlikeTexts (t.entryPoint s) (t.entryPoint s)
  file : ∀ s role text other body others, t.Carries s role text → AlikeTexts text other →
    List.Forall₂ AlikeTexts body others →
    ImportsAlike t.language (t.plainFile (t.header s role text) body (t.footer s role))
      (t.plainFile (t.header s.withoutTexts role other) others (t.footer s.withoutTexts role))
  moduleIndex : ∀ s, t.moduleIndex s = []
  further : ∀ s, List.Forall₂ GeneratedFile.SameImports (t.furtherFiles s) (t.furtherFiles s.withoutTexts)

variable {t : Target}

/-- Alike sections make alike files. -/
theorem alike_plainFile (hseparator : t.separator = "\n\n") {header other : String} {body others : List String}
    {footer : String} (hheader : AlikeTexts (trimFeeds header) (trimFeeds other))
    (hbody : List.Forall₂ AlikeTexts body others) (hfooter : AlikeTexts footer footer) :
    AlikeTexts (t.plainFile header body footer) (t.plainFile other others footer) := by
  have hlast : List.Forall₂ AlikeTexts (if footer = "" then [] else [footer])
      (if footer = "" then [] else [footer]) := by
    split
    · exact .nil
    · exact .cons hfooter .nil
  have hjoined := (AlikeTexts.joinSections (.cons hheader (List.rel_append hbody hlast))).append .empty
  rw [String.append_empty, String.append_empty] at hjoined
  rw [plainFile, plainFile, hseparator]
  exact hjoined

/-! ### The two runtimes -/

/-- A Go file has its imports after a banner that opens no block. -/
theorem importBlock_bubbleTea (s : Scene) (role : FileRole) {text : String} (body : List String) (footer : String)
    (hsolid : Solid (BubbleTea.imports (BubbleTea.shared role ++ "\n" ++ text))) {within : List String}
    (hwithin : lines (BubbleTea.imports (BubbleTea.shared role ++ "\n" ++ text)) =
      "import (" :: within ++ [")"]) :
    importBlock (bubbleTea.plainFile (BubbleTea.header s role text) body footer) =
      ("import (" :: within ++ [")"]).takeWhile (· ≠ ")") := by
  obtain ⟨below, hheader⟩ := BubbleTea.lines_header s role hsolid
  have hseparator : bubbleTea.separator = "\n" ++ "" ++ "\n" := rfl
  obtain ⟨after, hcontent⟩ := prefix_lines_plainFile hseparator (BubbleTea.header s role text) body footer
  have hbanner : "import (" ∉ BubbleTea.banner s role ++ [""] := by
    rw [List.mem_append, not_or]
    exact ⟨BubbleTea.not_mem_banner s role, by decide⟩
  have hlines : lines (bubbleTea.plainFile (BubbleTea.header s role text) body footer) =
      BubbleTea.banner s role ++ [""] ++ (("import (" :: within ++ [")"]) ++ (below ++ after)) := by
    rw [← hcontent, hheader, hwithin, List.append_assoc (BubbleTea.banner s role ++ [""]),
      List.append_assoc ("import (" :: within ++ [")"])]
  exact importBlock_of_lines hlines hbanner

theorem importBlock_bubbleTea_congr (s : Scene) (role : FileRole) {text other : String} (body others : List String)
    (footer : String) (hcarries : bubbleTea.Carries s role text) (h : AlikeTexts text other) :
    importBlock (bubbleTea.plainFile (BubbleTea.header s role text) body footer) =
      importBlock (bubbleTea.plainFile (BubbleTea.header s.withoutTexts role other) others footer) := by
  have hcode := (BubbleTea.settled_shared role).alike.append h
  have hsame := BubbleTea.imports_congr hcode
  obtain ⟨hsolid, within, hwithin⟩ :=
    BubbleTea.lines_imports ((BubbleTea.usesFmt_code hcarries).mem_usedModules hcode)
  rw [importBlock_bubbleTea s role body footer hsolid hwithin,
    importBlock_bubbleTea s.withoutTexts role others footer (hsame ▸ hsolid) (hsame ▸ hwithin)]

theorem alike_blessed_file (s : Scene) (role : FileRole) {text other : String} {body others : List String}
    (h : AlikeTexts text other) (hbody : List.Forall₂ AlikeTexts body others) :
    AlikeTexts (blessed.plainFile (Blessed.header s role text) body (Blessed.footer s role))
      (blessed.plainFile (Blessed.header s.withoutTexts role other) others
        (Blessed.footer s.withoutTexts role)) := by
  rw [Blessed.footer_withoutTexts]
  exact alike_plainFile rfl (Blessed.alike_header s role h) hbody (Blessed.alike_footer s role)

theorem reticent_bubbleTea : bubbleTea.Reticent := by
  have hsources (d : Design) (comments : Bool) :
      BubbleTea.dataSources d.withoutTexts comments = BubbleTea.dataSources d comments := by
    rw [BubbleTea.dataSources, BubbleTea.dataSources, BubbleTea.sourceTable, BubbleTea.sourceTable,
      d.referencedSources_withoutTexts, d.usesSystemMetrics_withoutTexts]
  constructor
  · rfl
  · intro b o
    dsimp only [bubbleTea]
    exact BubbleTea.alike_widget b o
  · intro s text h
    dsimp only [bubbleTea] at h ⊢
    exact ⟨(hsources _ _).trans h, BubbleTea.alike_dataSources h⟩
  · intro s text h
    dsimp only [bubbleTea] at h ⊢
    rw [← Except.ok.inj h]
    exact ⟨_, rfl, BubbleTea.alike_app s⟩
  · intro s
    dsimp only [bubbleTea]
    exact ⟨rfl, BubbleTea.alike_entryPoint⟩
  · intro s role text other body others hcarries h _
    exact ⟨fun _ => importBlock_bubbleTea_congr s role body others "" hcarries h, nofun⟩
  · exact fun _ => rfl
  · exact fun s => List.forall₂_same.2 fun file _ => .refl file

/-- The manifest has the name of the dashboard in it, but it imports nothing. -/
theorem furtherFiles_blessed (s : Scene) :
    List.Forall₂ GeneratedFile.SameImports (blessed.furtherFiles s) (blessed.furtherFiles s.withoutTexts) := by
  have hgo : "json" ≠ "go" := by decide
  have hnode : "json" ≠ "javascript" := by decide
  have hfiles (s : Scene) : blessed.furtherFiles s =
      [⟨"package.json", "json", false, (Blessed.packageManifest s).indented ++ "\n"⟩,
       ⟨"README.md", "markdown", false, blessed.readme (Blessed.instructions s)⟩] := rfl
  have hinstructions : Blessed.instructions s.withoutTexts = Blessed.instructions s := by
    have hmain : Blessed.mainFile s.withoutTexts = Blessed.mainFile s := rfl
    rw [Blessed.instructions, Blessed.instructions, hmain]
  rw [hfiles, hfiles, hinstructions]
  exact .cons ⟨rfl, rfl, fun h => absurd h hgo, fun h => absurd h hnode⟩ (.cons (.refl _) .nil)

theorem reticent_blessed : blessed.Reticent := by
  constructor
  · rfl
  · intro b o
    dsimp only [blessed]
    exact Blessed.alike_widget b o
  · intro s text h
    dsimp only [blessed] at h ⊢
    rw [← Except.ok.inj h]
    exact ⟨congrArg Except.ok (Blessed.dataSources_withoutTexts _ _), Blessed.alike_dataSources _ _⟩
  · intro s text h
    dsimp only [blessed] at h ⊢
    exact Blessed.alike_app h
  · intro s
    dsimp only [blessed]
    exact ⟨rfl, Blessed.alike_entryPoint⟩
  · intro s role text other body others _ h hbody
    exact ⟨nofun, fun _ => requireLines_eq_of_alike (alike_blessed_file s role h hbody)⟩
  · exact fun _ => rfl
  · exact furtherFiles_blessed

/-! ### Whole projects -/

end Target

/-- Sections beside their counterparts. -/
structure Sections.Alike (fed : Bool) (parts others : Sections) : Prop where
  dataSources : fed = true → AlikeTexts parts.dataSources others.dataSources
  widgets : List.Forall₂ AlikeTexts parts.widgets others.widgets
  app : AlikeTexts parts.app others.app
  entryPoint : AlikeTexts parts.entryPoint others.entryPoint

namespace Sections.Alike

variable {fed : Bool} {parts others : Sections}

theorem main (h : Sections.Alike fed parts others) :
    List.Forall₂ AlikeTexts [parts.app, parts.entryPoint] [others.app, others.entryPoint] :=
  .cons h.app (.cons h.entryPoint .nil)

theorem program (h : Sections.Alike fed parts others) :
    List.Forall₂ AlikeTexts (parts.program fed) (others.program fed) := by
  refine List.rel_append (List.rel_append ?_ h.widgets) h.main
  split
  · rename_i hfed
    exact .cons (h.dataSources hfed) .nil
  · exact .nil

end Sections.Alike

namespace Target

variable {t : Target} {s : Scene} {parts others : Sections}

theorem Reticent.sections (hreticent : t.Reticent) (h : t.sections s = .ok parts) :
    ∃ others, t.sections s.withoutTexts = .ok others ∧ parts.Alike s.hasDataSources others := by
  obtain ⟨hsources, hwidgets, happ, hentry⟩ := sections_ok h
  obtain ⟨app, hother, happAlike⟩ := hreticent.app s _ happ
  obtain ⟨hentryEq, hentryAlike⟩ := hreticent.entryPoint s
  have hwidgetsAlike : List.Forall₂ AlikeTexts parts.widgets
      (s.withoutTexts.behaviors.map (t.widget · s.withoutTexts.options)) := by
    rw [hwidgets, Scene.withoutTexts, List.map_map, List.forall₂_map_left_iff, List.forall₂_map_right_iff]
    exact List.forall₂_same.2 fun b _ => hreticent.widget b s.options
  have hentryPoint : AlikeTexts parts.entryPoint (t.entryPoint s.withoutTexts) := by
    rw [hentry, hentryEq]
    exact hentryAlike
  have hdataSources : ∃ text, (if s.withoutTexts.hasDataSources then t.dataSources s.withoutTexts else pure "") =
      .ok text ∧ (s.hasDataSources = true → AlikeTexts parts.dataSources text) := by
    have hfed : s.withoutTexts.hasDataSources = s.hasDataSources := rfl
    rw [hfed]
    split at hsources
    · rename_i hcase
      obtain ⟨hotherSources, hsourcesAlike⟩ := hreticent.dataSources s _ hsources
      exact ⟨_, by rw [if_pos hcase, hotherSources], fun _ => hsourcesAlike⟩
    · rename_i hcase
      exact ⟨"", by rw [if_neg hcase]; rfl, fun h => absurd h hcase⟩
  obtain ⟨text, htext, hsourcesAlike⟩ := hdataSources
  refine ⟨⟨text, _, app, _⟩, ?_, hsourcesAlike, hwidgetsAlike, happAlike, hentryPoint⟩
  unfold Target.sections
  split at htext
  · rename_i hcase
    rw [if_pos hcase, htext, hother]
    rfl
  · rename_i hcase
    rw [if_neg hcase, ← Except.ok.inj htext, hother]
    rfl

theorem join_of_solid (hseparator : t.separator = "\n\n") {body : List String}
    (hbody : ∀ text ∈ body, Solid text) : t.join body = joinWith "\n\n" body ++ "\n" ++ "" := by
  rw [join, hseparator, joinSections_of_solid hbody, String.append_empty]

theorem alike_join (hseparator : t.separator = "\n\n") {body others : List String}
    (hbody : ∀ text ∈ body, Solid text) (hothers : ∀ text ∈ others, Solid text)
    (h : List.Forall₂ AlikeTexts body others) : AlikeTexts (t.join body) (t.join others) := by
  rw [join_of_solid hseparator hbody, join_of_solid hseparator hothers]
  exact (AlikeTexts.joinSections h).append .empty

theorem lines_subset_join (hseparator : t.separator = "\n\n") {body : List String}
    (hbody : ∀ text ∈ body, Solid text) {text : String} (htext : text ∈ body) : lines text ⊆ lines (t.join body) := by
  rw [join_of_solid hseparator hbody, lines_append]
  exact List.subset_append_of_subset_left _ (infix_lines_joinWith "" htext).subset

theorem Reticent.singleLayout (hreticent : t.Reticent) (hfirm : t.Firm) (h : t.sections s = .ok parts)
    (hother : t.sections s.withoutTexts = .ok others) (halike : parts.Alike s.hasDataSources others) :
    List.Forall₂ GeneratedFile.SameImports (t.singleLayout s parts) (t.singleLayout s.withoutTexts others) := by
  have hjoin := alike_join hreticent.separator (hfirm.solid_program h) (hfirm.solid_program hother) halike.program
  have hfile := hreticent.file s .single _ _ _ _ trivial hjoin halike.program
  rw [(hfirm.programFooter s).1, (hfirm.programFooter s.withoutTexts).1] at hfile
  exact .cons ⟨rfl, rfl, hfile.imports, hfile.requires⟩ .nil

theorem Reticent.modularLayout (hreticent : t.Reticent) (hfirm : t.Firm) (h : t.sections s = .ok parts)
    (hother : t.sections s.withoutTexts = .ok others) (halike : parts.Alike s.hasDataSources others) :
    List.Forall₂ GeneratedFile.SameImports (t.modularLayout s parts) (t.modularLayout s.withoutTexts others) := by
  obtain ⟨hsourcesOk, -, -, hentryOk⟩ := sections_ok h
  obtain ⟨-, hwidgets, -, -⟩ := hfirm.solid_sections h
  obtain ⟨-, hotherWidgets, -, -⟩ := hfirm.solid_sections hother
  have hmain := hfirm.solid_main h
  have hcarries : t.Carries s .app (t.join [parts.app, parts.entryPoint]) := by
    have hentryPoint : parts.entryPoint ∈ [parts.app, parts.entryPoint] := List.mem_cons_of_mem _ List.mem_cons_self
    rw [Carries, ← hentryOk]
    exact lines_subset_join hreticent.separator hmain hentryPoint
  have happFile := hreticent.file s .app _ _ _ _ hcarries
    (alike_join hreticent.separator hmain (hfirm.solid_main hother) halike.main) halike.main
  have hwidgetsFile := hreticent.file s .widgets _ _ _ _ trivial
    (alike_join hreticent.separator hwidgets hotherWidgets halike.widgets) halike.widgets
  rw [(hfirm.programFooter s).2, (hfirm.programFooter s.withoutTexts).2] at happFile
  refine List.rel_append (.cons ⟨rfl, rfl, happFile.imports, happFile.requires⟩
    (.cons ⟨rfl, rfl, hwidgetsFile.imports, hwidgetsFile.requires⟩ .nil)) ?_
  have hfed : s.withoutTexts.hasDataSources = s.hasDataSources := rfl
  rw [hfed]
  split
  · rename_i hcase
    rw [if_pos hcase] at hsourcesOk
    have hsources := halike.dataSources hcase
    have hsourcesFile := hreticent.file s .dataSources _ _ _ _ hsourcesOk hsources (.cons hsources .nil)
    exact .cons ⟨rfl, rfl, hsourcesFile.imports, hsourcesFile.requires⟩ .nil
  · exact .nil

theorem Reticent.generateScene (hreticent : t.Reticent) (hfirm : t.Firm) {p : Project}
    (h : t.generateScene s = .ok p) :
    ∃ q, t.generateScene s.withoutTexts = .ok q ∧ List.Forall₂ GeneratedFile.SameImports p.files q.files := by
  obtain ⟨parts, hparts, hp⟩ := bind_ok_iff.1 h
  obtain ⟨others, hothers, halike⟩ := hreticent.sections hparts
  obtain ⟨p, hscene, hpfiles⟩ := generateScene_ok hparts
  obtain ⟨q, hq, hqfiles⟩ := generateScene_ok hothers
  rw [hscene] at h
  cases h
  refine ⟨q, hq, ?_⟩
  have hmodular : s.withoutTexts.isModular = s.isModular := rfl
  rw [hpfiles, hqfiles, hmodular]
  refine List.rel_append ?_ (hreticent.further s)
  split
  · rw [hfirm.modularFiles_eq hparts, hfirm.modularFiles_eq hothers, hreticent.moduleIndex, hreticent.moduleIndex,
      List.map_nil, List.append_nil, List.append_nil]
    exact hreticent.modularLayout hfirm hparts hothers halike
  · rw [hfirm.singleFiles_eq hparts, hfirm.singleFiles_eq hothers]
    exact hreticent.singleLayout hfirm hparts hothers halike

/-- What is generated imports what it imports without the texts of the design. -/
theorem Reticent.generate (hreticent : t.Reticent) (hfirm : t.Firm) {d : Design} {o : Options} {p : Project}
    (h : t.generate d o = .ok p) :
    ∃ q, t.generate d.withoutTexts o = .ok q ∧ List.Forall₂ GeneratedFile.SameImports p.files q.files := by
  cases hscene : Scene.ofDesign d o with
  | rejected problems =>
    rw [Target.generate, hscene] at h
    cases h
  | accepted s =>
    cases hproject : t.generateScene s with
    | error fault =>
      simp only [Target.generate, hscene, hproject] at h
      cases h
    | ok project =>
      simp only [Target.generate, hscene, hproject] at h
      cases h
      obtain ⟨q, hq, hfiles⟩ := hreticent.generateScene hfirm hproject
      exact ⟨q, by simp only [Target.generate, Scene.ofDesign_withoutTexts hscene, hq], hfiles⟩

/-- The language of a file is that of its target, unless it is a manifest or the readme. -/
theorem language_of_generate {d : Design} {o : Options} {p : Project} (h : t.generate d o = .ok p) :
    ∃ s, ∀ file ∈ p.files, file.language = t.language ∨
      file.language ∈ "markdown" :: (t.manifests s).map (·.2.2) := by
  obtain ⟨bs, parts, -, -, hfiles⟩ := generate_ok h
  refine ⟨⟨d, o, bs⟩, fun file hfile => ?_⟩
  rw [hfiles, List.mem_append] at hfile
  exact hfile.imp (language_sources file) (language_furtherFiles file)

theorem perFile_eq_nil {d : Design} {o : Options} {p : Project} (h : t.generate d o = .ok p) {language : String}
    (hlanguage : t.language ≠ language) (hreadme : "markdown" ≠ language)
    (hmanifests : ∀ s, language ∉ (t.manifests s).map (·.2.2)) (read : String → List String) :
    p.perFile language read = [] := by
  obtain ⟨s, hfiles⟩ := language_of_generate h
  refine Project.perFile_eq_nil fun file hfile hother => ?_
  rcases hfiles file hfile with hown | hfurther
  · exact hlanguage (hown ▸ hother)
  · rw [hother, List.mem_cons] at hfurther
    exact hfurther.elim (fun h => hreadme h.symm) (hmanifests s)

theorem imports_of_textual {d : Design} {o : Options} {p : Project} (h : textual.generate d o = .ok p) :
    p.goImports = [] ∧ p.nodeRequires = [] :=
  ⟨perFile_eq_nil h (by decide) (by decide) (fun s => by simp [textual]) _,
    perFile_eq_nil h (by decide) (by decide) (fun s => by simp [textual]) _⟩

theorem imports_of_ratatui {d : Design} {o : Options} {p : Project} (h : ratatui.generate d o = .ok p) :
    p.goImports = [] ∧ p.nodeRequires = [] :=
  ⟨perFile_eq_nil h (by decide) (by decide) (fun s => by simp [ratatui]) _,
    perFile_eq_nil h (by decide) (by decide) (fun s => by simp [ratatui]) _⟩

/-- Both runs import what the one design without texts imports. -/
theorem Reticent.imports_eq (hreticent : t.Reticent) (hfirm : t.Firm) {d e : Design} {o : Options} {p q : Project}
    (hsame : d.withoutTexts = e.withoutTexts) (hp : t.generate d o = .ok p) (hq : t.generate e o = .ok q) :
    p.goImports = q.goImports ∧ p.nodeRequires = q.nodeRequires := by
  obtain ⟨r, hr, hpr⟩ := hreticent.generate hfirm hp
  obtain ⟨r', hr', hqr⟩ := hreticent.generate hfirm hq
  have heq : r = r' := by
    rw [hsame, hr'] at hr
    exact (Except.ok.inj hr).symm
  subst heq
  exact ⟨(Project.goImports_congr hpr).trans (Project.goImports_congr hqr).symm,
    (Project.nodeRequires_congr hpr).trans (Project.nodeRequires_congr hqr).symm⟩

end Target

/-- **No text that a design shows gets into the imports of its program.** Two designs that are the same
without their texts give, with the same options, Go files with the same import blocks and JavaScript files with
the same require lines. -/
theorem Generator.generate_imports_eq {d e : Design} {o : Options} {p q : Project}
    (hsame : d.withoutTexts = e.withoutTexts) (hp : Generator.default.generate d o = .ok p)
    (hq : Generator.default.generate e o = .ok q) :
    p.goImports = q.goImports ∧ p.nodeRequires = q.nodeRequires := by
  obtain ⟨-, hp⟩ := default_generate_ok hp
  obtain ⟨-, hq⟩ := default_generate_ok hq
  cases hframework : o.framework with
  | textual =>
    rw [hframework] at hp hq
    obtain ⟨hpgo, hpnode⟩ := Target.imports_of_textual hp
    obtain ⟨hqgo, hqnode⟩ := Target.imports_of_textual hq
    exact ⟨hpgo.trans hqgo.symm, hpnode.trans hqnode.symm⟩
  | bubbleTea =>
    rw [hframework] at hp hq
    exact Target.reticent_bubbleTea.imports_eq Target.firm_bubbleTea hsame hp hq
  | ratatui =>
    rw [hframework] at hp hq
    obtain ⟨hpgo, hpnode⟩ := Target.imports_of_ratatui hp
    obtain ⟨hqgo, hqnode⟩ := Target.imports_of_ratatui hq
    exact ⟨hpgo.trans hqgo.symm, hpnode.trans hqnode.symm⟩
  | blessed =>
    rw [hframework] at hp hq
    exact Target.reticent_blessed.imports_eq Target.firm_blessed hsame hp hq

/-- A dashboard of one widget that shows some texts. -/
def Design.labelled (name title content : String) : Design where
  version := "1.0.0"
  metadata := ⟨name, none, none, "1.0.0", none, none, .bubbleTea, []⟩
  settings := .default
  widgets := [⟨"w", "text", ⟨0, 0⟩, ⟨10, 3⟩, some title, none, none, [("content", .text content)]⟩]
  dataSources := []

theorem Design.withoutTexts_labelled (name title content : String) :
    (labelled name title content).withoutTexts = (labelled "" "" "").withoutTexts := by
  simp [labelled, withoutTexts, Widget.withoutTexts, Schema.withoutTexts, textKeys]

theorem Generator.generate_labelled (name title content : String) :
    ∃ p, Generator.default.generate (Design.labelled name title content) ⟨.bubbleTea, .modular, true, true⟩ = .ok p :=
  exists_ok_of_isOk (by rfl)

theorem Generator.generate_imports_eq_labelled :
    ∃ p q, Generator.default.generate (Design.labelled "name" "title" "content")
        ⟨.bubbleTea, .modular, true, true⟩ = .ok p ∧
      Generator.default.generate
        (Design.labelled "\"http.Get(\n*/ os.Exit" "// \\" "'\nimport (\n\"net/http\"\n)")
        ⟨.bubbleTea, .modular, true, true⟩ = .ok q ∧
      p.goImports = q.goImports ∧ p.nodeRequires = q.nodeRequires := by
  obtain ⟨p, hp⟩ := generate_labelled "name" "title" "content"
  obtain ⟨q, hq⟩ := generate_labelled "\"http.Get(\n*/ os.Exit" "// \\" "'\nimport (\n\"net/http\"\n)"
  have hsame := (Design.withoutTexts_labelled "name" "title" "content").trans
    (Design.withoutTexts_labelled "\"http.Get(\n*/ os.Exit" "// \\" "'\nimport (\n\"net/http\"\n)").symm
  exact ⟨p, q, hp, hq, generate_imports_eq hsame hp hq⟩

end DashboardCompiler
