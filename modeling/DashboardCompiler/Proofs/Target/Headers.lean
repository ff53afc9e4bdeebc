import DashboardCompiler.Proofs.Target.Blessed.Code
import DashboardCompiler.Proofs.Target.BubbleTea.Code
import DashboardCompiler.Proofs.Target.Sections

/-!
# Headers with imports

The headers of Go and JavaScript files say what the code below them needs. Files with alike code need the
same, so their headers differ in the comment with the name of the dashboard only.
-/

namespace DashboardCompiler

open Code Text

/-- What the body of a file has in it by its role. -/
def Target.Carries (t : Target) (s : Scene) : FileRole → String → Prop
  | .app, text => lines (t.entryPoint s) ⊆ lines text
  | .dataSources, text => t.dataSources s = .ok text
  | .single, _ | .widgets, _ => True

/-- The comment at the top of a file. -/
theorem unbroken_bannerComment (name : String) (role : FileRole) :
    Unbroken (commentText name ++ ": " ++ replaceAll (Named.name role) "_" " " ++ " file.") := by
  have hcolon : Plain ": " := plain_ofList (by decide)
  have hend : Plain " file." := plain_ofList (by decide)
  have hrole : Plain (replaceAll (Named.name role) "_" " ") := by
    cases role <;> exact plain_ofList (by decide)
  exact (((unbroken_commentText name).append hcolon.piece.unbroken).append hrole.piece.unbroken).append
    hend.piece.unbroken

/-- The banner of a header with the sections below it that are there. -/
theorem trimFeeds_header {banner : String} {rest : List String} (hbanner : Solid banner)
    (hrest : ∀ s ∈ rest, s = "" ∨ Solid s) :
    trimFeeds (joinSections (banner :: rest) "\n\n") = joinWith "\n\n" (banner :: rest.filter (· ≠ "")) := by
  have hfilter : (banner :: rest).filter (· ≠ "") = banner :: rest.filter (· ≠ "") :=
    List.filter_cons_of_pos (by simpa using hbanner.ne_empty)
  have hne : (banner :: rest).filter (· ≠ "") ≠ [] := by
    rw [hfilter]
    exact List.cons_ne_nil _ _
  rw [trimFeeds_joinSections (List.forall_mem_cons.2 ⟨.inr hbanner, hrest⟩) hne, hfilter]

/-- A section with no text of the design in it, which the assembly takes as it is. -/
structure Settled (text : String) : Prop where
  alike : AlikeTexts text text
  kept : text = "" ∨ Solid text

theorem settled_empty : Settled "" := ⟨.empty, .inl rfl⟩

namespace BubbleTea

/-! ## Go -/

theorem imports_congr {text other : String} (h : AlikeTexts text other) : imports text = imports other := by
  unfold imports importsOf
  rw [h.usedModules_eq, h.usedModules_eq]

/-- A file that uses `fmt` has an import block. -/
theorem lines_imports {text : String} (h : "fmt" ∈ usedModules text (standardPackages.map (·.name))) :
    Solid (imports text) ∧ ∃ within, lines (imports text) = "import (" :: within ++ [")"] := by
  have hstart : OneLine "import (" := (tidy_ofList (by decide)).unbroken.oneLine
  have hend : OneLine ")" := (tidy_ofList (by decide)).unbroken.oneLine
  have hstandard : importsOf text standardPackages ≠ [] := by
    have hpackage : (⟨"fmt", "\"fmt\""⟩ : Package) ∈ standardPackages.filter fun p =>
        (usedModules text (standardPackages.map (·.name))).contains p.name :=
      List.mem_filter.2 ⟨by simp [standardPackages], List.contains_iff_mem.2 h⟩
    exact List.ne_nil_of_mem (List.mem_map_of_mem hpackage)
  have hgroups : ([importsOf text standardPackages, importsOf text foreignPackages].filter (!·.isEmpty)).isEmpty =
      false := by
    simp [hstandard]
  have hsplit (middle : String) :
      lines (joinLines ["import (", middle, ")"]) = "import (" :: lines middle ++ [")"] := by
    have hjoin : joinLines ["import (", middle, ")"] = "import (" ++ "\n" ++ (middle ++ "\n" ++ ")") := rfl
    rw [hjoin, lines_append, lines_append, lines_of_oneLine hstart, lines_of_oneLine hend]
    rfl
  unfold imports
  dsimp only
  rw [hgroups]
  exact ⟨⟨opens_joinWith rfl (opens_ofList (by decide)), closes_joinWith rfl (closes_ofList rfl (by decide))⟩,
    _, hsplit _⟩

/-- The lines above the imports. -/
def banner (s : Scene) (role : FileRole) : List String :=
  (if s.options.includeComments then
    ["// " ++ commentText s.design.metadata.name ++ ": " ++ replaceAll (Named.name role) "_" " " ++ " file.",
     "// Generated by tuidesigner. Edit the design and regenerate instead.",
     ""] else []) ++
  ["package main"]

/-- The code below the imports that files of a role have in common. -/
def shared : FileRole → String
  | .single | .widgets => helpers
  | .app | .dataSources => ""

theorem header_eq (s : Scene) (role : FileRole) (text : String) :
    header s role text =
      joinSections [joinLines (banner s role), imports (shared role ++ "\n" ++ text), shared role] "\n\n" := by
  cases role <;> rfl

theorem helpers_solid : Solid helpers :=
  ⟨opens_tabIndent (opens_joinWith rfl (opens_ofList (by decide))),
    closes_tabIndent (ClosesLast.closes ((closesLast_brace rfl).prepend _))⟩

theorem banner_solid (s : Scene) (role : FileRole) : Solid (joinLines (banner s role)) := by
  constructor
  · unfold banner
    split
    · simp only [String.append_assoc]
      exact opens_joinWith rfl (.append (opens_ofList (by decide)) _)
    · exact opens_joinWith rfl (opens_ofList (by decide))
  · exact ClosesLast.closes ((closesLast_singleton (closes_ofList rfl (by decide))).prepend _)

/-- The banner is comments and the name of the package. -/
theorem tidy_banner (s : Scene) (role : FileRole) : TidyLines (banner s role) := by
  have hcomment := tidy_comment (unbroken_bannerComment s.design.metadata.name role)
  simp only [String.append_assoc] at hcomment
  unfold banner
  simp only [String.append_assoc]
  refine .append (.optional (.cons hcomment ?_)) (.cons (tidy_ofList (by decide)) .nil)
  exact .cons (tidy_ofList (by decide)) (.cons (tidy_ofList (by decide)) .nil)

theorem not_mem_banner (s : Scene) (role : FileRole) : "import (" ∉ banner s role := by
  have hcode : isCommentLine "import (".toList = false := by
    rw [String.toList_ofList]
    decide
  have hcomment (rest : String) : "import (" ≠ "// " ++ rest := by
    intro hline
    rw [hline, isCommentLine_slashes] at hcode
    cases hcode
  unfold banner
  split
  · simp only [String.append_assoc, List.cons_append, List.mem_cons, not_or, List.nil_append]
    exact ⟨hcomment _, hcomment "Generated by tuidesigner. Edit the design and regenerate instead.", by decide,
      by decide, List.not_mem_nil⟩
  · decide

theorem settled_shared (role : FileRole) : Settled (shared role) := by
  have hhelpers : Settled helpers := ⟨alike_helpers, .inr helpers_solid⟩
  cases role with
  | single => exact hhelpers
  | widgets => exact hhelpers
  | app => exact settled_empty
  | dataSources => exact settled_empty

/-- The lines of a header: a banner, and the imports below it. -/
theorem lines_header (s : Scene) (role : FileRole) {text : String}
    (himports : Solid (imports (shared role ++ "\n" ++ text))) :
    ∃ after, lines (trimFeeds (header s role text)) =
      banner s role ++ [""] ++ (lines (imports (shared role ++ "\n" ++ text)) ++ after) := by
  have hrest : ∀ part ∈ [imports (shared role ++ "\n" ++ text), shared role], part = "" ∨ Solid part := by
    simpa using ⟨.inr himports, (settled_shared role).kept⟩
  have hfilter : [imports (shared role ++ "\n" ++ text), shared role].filter (· ≠ "") =
      imports (shared role ++ "\n" ++ text) :: [shared role].filter (· ≠ "") :=
    List.filter_cons_of_pos (by simpa using himports.ne_empty)
  have hone : ∀ line ∈ banner s role, OneLine line := fun line hline => (tidy_banner s role line hline).unbroken.oneLine
  have hne : banner s role ≠ [] := List.append_ne_nil_of_right_ne_nil _ (List.cons_ne_nil _ _)
  obtain ⟨after, hafter⟩ := prefix_lines_joinWith "" (imports (shared role ++ "\n" ++ text))
    ([shared role].filter (· ≠ ""))
  refine ⟨after, ?_⟩
  rw [header_eq, trimFeeds_header (banner_solid s role) hrest, hfilter,
    joinWith_cons_of_ne_nil _ _ (List.cons_ne_nil _ _), lines_blankLine, lines_joinLines hone hne, ← List.append_assoc]
  exact congrArg (banner s role ++ [""] ++ ·) hafter.symm

/-! ### The package `fmt` -/

/-- Whether a line uses the package in its code. -/
def mentionsFmt (cs : List Char) : Bool :=
  !isCommentLine cs && mentions ['f', 'm', 't'] (emptyLiterals 0 cs)

/-- A text uses the package in one of its lines. -/
def UsesFmt (text : String) : Prop := ∃ line ∈ lines text, mentionsFmt line.toList = true

theorem UsesFmt.mono {text more : String} (h : UsesFmt text) (hlines : lines text ⊆ lines more) : UsesFmt more := by
  obtain ⟨line, hline, hfmt⟩ := h
  exact ⟨line, hlines hline, hfmt⟩

theorem UsesFmt.mem_usedModules {text other : String} (h : UsesFmt text) (halike : AlikeTexts text other) :
    "fmt" ∈ usedModules text (standardPackages.map (·.name)) := by
  obtain ⟨line, hline, hfmt⟩ := h
  rw [mentionsFmt, Bool.and_eq_true, Bool.not_eq_true'] at hfmt
  refine halike.mem_usedModules hline ?_ (by simp [standardPackages])
  rw [lineCode, hfmt.1, String.toList_ofList]
  exact hfmt.2

theorem usesFmt_tabIndent {text : String} {cs : List Char} (hline : String.ofList cs ∈ lines text)
    (hfmt : mentionsFmt (tabIndentLine cs) = true) : UsesFmt (tabIndent text) := by
  refine ⟨String.ofList (tabIndentLine cs), ?_, by rwa [String.toList_ofList]⟩
  rw [lines_tabIndent_of_lines rfl]
  exact List.mem_map.2 ⟨_, hline, by rw [String.toList_ofList]⟩

theorem usesFmt_helpers : UsesFmt helpers := by
  have hone : OneLine "    return fmt.Sprint(value)" := (tidy_ofList (by decide)).unbroken.oneLine
  have hline : "    return fmt.Sprint(value)" ∈ helperFunctions := List.mem_of_getElem? (i := 48) rfl
  exact usesFmt_tabIndent (mem_lines_joinLines (List.mem_append_right _ hline) hone) (by decide)

theorem usesFmt_entryPoint : UsesFmt entryPoint := by
  have hone : OneLine "        fmt.Println(\"Error running dashboard:\", err)" :=
    (tidy_ofList (by decide)).unbroken.oneLine
  exact usesFmt_tabIndent (mem_lines_joinLines (List.mem_of_getElem? (i := 8) rfl) hone) (by decide)

theorem usesFmt_dataSources {d : Design} {comments : Bool} {text : String} (h : dataSources d comments = .ok text) :
    UsesFmt text := by
  have hone : OneLine "    return nil, fmt.Errorf(\"unknown data source type: %s\", cfg.Type)" :=
    (tidy_ofList (by decide)).unbroken.oneLine
  have hline : "    return nil, fmt.Errorf(\"unknown data source type: %s\", cfg.Type)" ∈ updater :=
    List.mem_of_getElem? (i := 108) rfl
  obtain ⟨table, -, h⟩ := bind_ok_iff.1 h
  rw [← Except.ok.inj h]
  have hmem := (infix_lines_joinWith "" (List.mem_append_right
    ([joinLines (constants comments), joinLines sourceTypes, table] ++
      if d.usesSystemMetrics then [joinLines collector] else [])
    (List.mem_singleton_self (joinLines updater)))).subset (mem_lines_joinLines hline hone)
  exact usesFmt_tabIndent hmem (by decide)

/-- What any file of a role prints with. -/
theorem usesFmt_code {s : Scene} {role : FileRole} {text : String} (h : Target.bubbleTea.Carries s role text) :
    UsesFmt (shared role ++ "\n" ++ text) := by
  have hsplit : lines (shared role ++ "\n" ++ text) = lines (shared role) ++ lines text := lines_append _ _
  cases role with
  | single => exact usesFmt_helpers.mono (by rw [hsplit]; exact List.subset_append_left _ _)
  | widgets => exact usesFmt_helpers.mono (by rw [hsplit]; exact List.subset_append_left _ _)
  | app =>
    dsimp only [Target.Carries, Target.bubbleTea] at h
    exact usesFmt_entryPoint.mono (by rw [hsplit]; exact List.subset_append_of_subset_right _ h)
  | dataSources => exact (usesFmt_dataSources h).mono (by rw [hsplit]; exact List.subset_append_right _ _)

end BubbleTea

namespace Blessed

/-! ## JavaScript -/

theorem requires_congr {text other : String} (h : AlikeTexts text other) : requires text = requires other := by
  unfold requires runsCommands
  rw [h.usedModules_eq, h.codeChars_eq]

/-- Each line that requires a module. -/
theorem solid_requirements : ∀ line ∈ "const \x7b exec \x7d = require(\"child_process\");" ::
    requirements.map (·.line), Tidy line ∧ Solid line := by
  have hsolid {cs : List Char} (htidy : isTidy ('c' :: cs) = true) (hlast : ('c' :: cs).getLast? = some ';') :
      Tidy (String.ofList ('c' :: cs)) ∧ Solid (String.ofList ('c' :: cs)) :=
    ⟨tidy_ofList htidy, opens_ofList (by decide), closes_ofList hlast (by decide)⟩
  refine List.forall_mem_cons.2 ⟨hsolid (by decide) rfl, ?_⟩
  refine List.forall_mem_cons.2 ⟨hsolid (by decide) rfl, ?_⟩
  refine List.forall_mem_cons.2 ⟨hsolid (by decide) rfl, ?_⟩
  refine List.forall_mem_cons.2 ⟨hsolid (by decide) rfl, ?_⟩
  refine List.forall_mem_cons.2 ⟨hsolid (by decide) rfl, ?_⟩
  exact List.forall_mem_cons.2 ⟨hsolid (by decide) rfl, List.forall_mem_nil _⟩

theorem settled_joinLines {items : List String} (h : ∀ line ∈ items, Tidy line ∧ Solid line) :
    Settled (joinLines items) := by
  have htidy : TidyLines items := fun line hline => (h line hline).1
  refine ⟨htidy.alikeTexts, ?_⟩
  by_cases hempty : items = []
  · subst hempty
    exact .inl rfl
  · exact .inr (solid_joinWith hempty fun line hline => (h line hline).2)

/-- What a text requires is some of these lines. -/
theorem exists_requires (text : String) :
    ∃ items, requires text = joinLines items ∧
      items ⊆ "const \x7b exec \x7d = require(\"child_process\");" :: requirements.map (·.line) := by
  refine ⟨_, rfl, fun line hline => ?_⟩
  rcases List.mem_append.1 hline with hline | hline
  · split at hline
    · exact List.mem_singleton.1 hline ▸ List.mem_cons_self
    · cases hline
  · obtain ⟨r, hr, rfl⟩ := List.mem_map.1 hline
    exact List.mem_cons_of_mem _ (List.mem_map_of_mem (List.mem_filter.1 hr).1)

theorem settled_requires (text : String) : Settled (requires text) := by
  obtain ⟨items, hitems, hsubset⟩ := exists_requires text
  rw [hitems]
  exact settled_joinLines fun line hline => solid_requirements line (hsubset hline)

theorem solid_requireLine {names : List String} (hnames : ∀ name ∈ names, Plain name) (file : String) :
    Tidy (requireLine names file) ∧ Solid (requireLine names file) := by
  have hstart : Plain "const \x7b " := plain_ofList (by decide)
  have hcomma : Plain ", " := plain_ofList (by decide)
  have hcall : Plain " \x7d = require(" := plain_ofList (by decide)
  have hend : Plain ");" := plain_ofList (by decide)
  have hopens : Opens "const \x7b " := opens_ofList (by decide)
  have hcloses : Closes ");" := closes_ofList rfl (by decide)
  have hlist := plain_joinWith hcomma hnames
  refine ⟨((((hstart.append hlist).append hcall).appendPiece (piece_document file)).appendPlain hend).tidy, ?_,
    hcloses.prepend _⟩
  unfold requireLine
  simp only [String.append_assoc]
  exact hopens.append _

theorem plain_widgetExports (s : Scene) : ∀ name ∈ widgetExports s, Plain name := by
  intro name hname
  obtain ⟨b, -, rfl⟩ := List.mem_map.1 hname
  exact Name.plain_typeName _

theorem plain_sourceExports (d : Design) : ∀ name ∈ sourceExports d, Plain name := by
  have hcollector : ∀ name ∈ ["SystemMetricsCollector"], Plain name :=
    List.forall_mem_singleton.2 (plain_ofList (by decide))
  refine List.forall_mem_append.2 ⟨?_, ?_⟩
  · refine List.forall_mem_cons.2 ⟨plain_ofList (by decide), ?_⟩
    refine List.forall_mem_cons.2 ⟨plain_ofList (by decide), ?_⟩
    exact List.forall_mem_singleton.2 (plain_ofList (by decide))
  · split
    · exact hcollector
    · exact List.forall_mem_nil _

theorem settled_localRequires (s : Scene) : Settled (localRequires s) := by
  refine settled_joinLines (List.forall_mem_append.2 ⟨?_, ?_⟩)
  · split
    · exact List.forall_mem_nil _
    · exact List.forall_mem_singleton.2 (solid_requireLine (plain_widgetExports s) _)
  · split
    · exact List.forall_mem_singleton.2 (solid_requireLine (plain_sourceExports _) _)
    · exact List.forall_mem_nil _

theorem widgetExports_withoutTexts (s : Scene) : widgetExports s.withoutTexts = widgetExports s := by
  rw [widgetExports, Scene.withoutTexts, List.map_map]
  rfl

theorem sourceExports_withoutTexts (d : Design) : sourceExports d.withoutTexts = sourceExports d := by
  rw [sourceExports, d.usesSystemMetrics_withoutTexts, sourceExports]

theorem localRequires_withoutTexts (s : Scene) : localRequires s.withoutTexts = localRequires s := by
  have hfed : s.withoutTexts.hasDataSources = s.hasDataSources := rfl
  have hnone : s.withoutTexts.behaviors.isEmpty = s.behaviors.isEmpty := List.isEmpty_map ..
  have hsources : sourceExports s.withoutTexts.design = sourceExports s.design := sourceExports_withoutTexts _
  rw [localRequires, localRequires, hfed, hnone, hsources, widgetExports_withoutTexts]

/-- The lines above the requires. -/
def banner (s : Scene) (role : FileRole) : List String :=
  (if isProgram role then ["#!/usr/bin/env node"] else []) ++
  (if s.options.includeComments then
    ["// " ++ commentText s.design.metadata.name ++ ": " ++ replaceAll (Named.name role) "_" " " ++ " file.",
     "// Generated by tuidesigner. Edit the design and regenerate instead."] else []) ++
  ["\"use strict\";"]

/-- What a program requires of the other files of its project. -/
def ownFiles (s : Scene) (role : FileRole) : String := if role = .app then localRequires s else ""

/-- The code below the requires that files of a role have in common. -/
def shared (role : FileRole) : String := if hasHelpers role then helpers else ""

theorem header_eq (s : Scene) (role : FileRole) (text : String) :
    header s role text = joinSections
      (joinLines (banner s role) :: [requires (shared role ++ "\n" ++ text), ownFiles s role, shared role])
      "\n\n" := rfl

theorem banner_solid (s : Scene) (role : FileRole) : Solid (joinLines (banner s role)) := by
  have hcomment (rest : String) : Opens ("// " ++ rest) := (opens_ofList (by decide) : Opens "// ").append rest
  constructor
  · unfold banner
    split
    · exact opens_joinWith rfl (opens_ofList (by decide))
    · split
      · simp only [String.append_assoc]
        exact opens_joinWith rfl (hcomment _)
      · exact opens_joinWith rfl (opens_ofList (by decide))
  · exact ClosesLast.closes ((closesLast_singleton (closes_ofList rfl (by decide))).prepend _)

theorem alike_banner (s : Scene) (role : FileRole) : AlikeLines (banner s role) (banner s.withoutTexts role) := by
  have hprogram : TidyLines (if isProgram role then ["#!/usr/bin/env node"] else []) :=
    .optional (.cons (tidy_ofList (by decide)) .nil)
  have hcomment := Alike.comments (unbroken_bannerComment s.design.metadata.name role)
    (unbroken_bannerComment s.withoutTexts.design.metadata.name role)
  have hstrict : TidyLines ["\"use strict\";"] := .cons (tidy_ofList (by decide)) .nil
  have hoptions : s.withoutTexts.options = s.options := rfl
  simp only [String.append_assoc] at hcomment
  simp only [banner, hoptions, String.append_assoc]
  refine .append (.append hprogram.alikeLines ?_) hstrict.alikeLines
  split
  · exact .cons hcomment (.cons (.same (tidy_ofList (by decide))) .nil)
  · exact .nil

theorem helpers_solid : Solid helpers := by
  constructor
  · simp only [helpers, helperConstants, textConstant, constant, List.cons_append, String.append_assoc]
    exact opens_joinWith rfl (.append (opens_ofList (by decide)) _)
  · exact ClosesLast.closes ((closesLast_brace rfl).prepend _)

theorem settled_shared (role : FileRole) : Settled (shared role) := by
  unfold shared
  split
  · exact ⟨alike_helpers, .inr helpers_solid⟩
  · exact settled_empty

theorem settled_ownFiles (s : Scene) (role : FileRole) : Settled (ownFiles s role) := by
  unfold ownFiles
  split
  · exact settled_localRequires s
  · exact settled_empty

/-- Files with alike code have alike headers. -/
theorem alike_header (s : Scene) (role : FileRole) {text other : String} (h : AlikeTexts text other) :
    AlikeTexts (trimFeeds (header s role text)) (trimFeeds (header s.withoutTexts role other)) := by
  have hrequires : requires (shared role ++ "\n" ++ text) = requires (shared role ++ "\n" ++ other) :=
    requires_congr ((settled_shared role).alike.append h)
  have hown : ownFiles s.withoutTexts role = ownFiles s role := by
    rw [ownFiles, ownFiles, localRequires_withoutTexts]
  have hsettled : ∀ part ∈ [requires (shared role ++ "\n" ++ other), ownFiles s role, shared role], Settled part := by
    simpa using ⟨settled_requires _, settled_ownFiles s role, settled_shared role⟩
  have hkept := fun part hpart => (hsettled part hpart).kept
  rw [header_eq, header_eq, hrequires, hown, trimFeeds_header (banner_solid s role) hkept,
    trimFeeds_header (banner_solid s.withoutTexts role) hkept]
  refine .joinSections (.cons (.joinLines (alike_banner s role)) ?_)
  exact List.forall₂_same.2 fun part hpart => (hsettled part (List.mem_filter.1 hpart).1).alike

/-- The exports of a module. -/
theorem footer_withoutTexts (s : Scene) (role : FileRole) : footer s.withoutTexts role = footer s role := by
  have hsources : sourceExports s.withoutTexts.design = sourceExports s.design := sourceExports_withoutTexts _
  unfold footer
  rw [hsources, widgetExports_withoutTexts]

theorem alike_footer (s : Scene) (role : FileRole) : AlikeTexts (footer s role) (footer s role) := by
  have hstart : Plain "module.exports = \x7b " := plain_ofList (by decide)
  have hcomma : Plain ", " := plain_ofList (by decide)
  have hend : Plain " \x7d;" := plain_ofList (by decide)
  have hexports {names : List String} (hnames : ∀ name ∈ names, Plain name) :
      AlikeTexts ("module.exports = \x7b " ++ joinWith ", " names ++ " \x7d;")
        ("module.exports = \x7b " ++ joinWith ", " names ++ " \x7d;") :=
    (tidy_named hstart (plain_joinWith hcomma hnames) hend).alikeTexts
  unfold footer
  split
  · exact hexports (plain_widgetExports s)
  · exact hexports (plain_sourceExports _)
  · exact .empty
  · exact .empty

end Blessed

end DashboardCompiler
