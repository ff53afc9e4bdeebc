import DashboardCompiler.Proofs.Target.Headers
import DashboardCompiler.Proofs.Target.Ratatui.Types
import DashboardCompiler.Proofs.Text.Comments

/-!
# Sections without comments

Whether comments are asked for shows in the first lines of a section or a header, and only in comments and empty
lines. A header says which modules its file uses, but the comments below it have no part in that.
-/

namespace DashboardCompiler

open Code Text

/-- The same options with comments asked for or not. -/
def Options.commented (o : Options) (shown : Bool) : Options := { o with includeComments := shown }

/-- The same scene without comments. -/
def Scene.uncommented (s : Scene) : Scene := { s with options := s.options.commented false }

/-- Texts with the same lines that are neither empty nor comments. -/
def SameLines (text other : String) : Prop := bareLines text = bareLines other

namespace Target

/-- What comments come to in each step of a target: nothing, once its comments and empty lines are deleted. The
header of a file is compared with that of another body that its scan can read. -/
structure Annotates (t : Target) (Read : String → Prop) : Prop where
  separator : t.separator = "\n\n"
  widget : ∀ b o, bareLines (t.widget b o) = bareLines (t.widget b (o.commented false))
  dataSources : ∀ s, Concur SameLines (t.dataSources s) (t.dataSources s.uncommented)
  app : ∀ s, Concur SameLines (t.app s) (t.app s.uncommented)
  entryPoint : ∀ s, t.entryPoint s.uncommented = t.entryPoint s
  header : ∀ s role text other, Read text → Read other → bareLines text = bareLines other →
    bareLines (t.header s role text) = bareLines (t.header s.uncommented role other)
  footer : ∀ s, t.footer s.uncommented = t.footer s
  manifests : ∀ s, t.manifests s.uncommented = t.manifests s
  moduleIndex : ∀ s, t.moduleIndex s.uncommented = t.moduleIndex s
  instructions : ∀ s, t.instructions s.uncommented = t.instructions s

end Target

theorem bareLines_applicationComment : ∀ line ∈ ["// Application"], bareLines line = [] :=
  List.forall_mem_singleton.2 (bareLines_comment (unbroken_ofList (by decide)) .whole)

theorem bareLines_sourcesComment : ∀ line ∈ ["// Data sources"], bareLines line = [] :=
  List.forall_mem_singleton.2 (bareLines_comment (unbroken_ofList (by decide)) .whole)

/-- The comments at the top of a file, with the name of the dashboard in the first. -/
theorem bareLines_bannerComments {first : String} (h : Unbroken first) (hbegins : Begins "// ".toList first)
    {rest : List String} (hrest : ∀ line ∈ rest, bareLines line = []) :
    ∀ line ∈ first :: "// Generated by tuidesigner. Edit the design and regenerate instead." :: rest,
      bareLines line = [] := by
  refine List.forall_mem_cons.2 ⟨bareLines_comment h hbegins, List.forall_mem_cons.2 ⟨?_, hrest⟩⟩
  exact bareLines_comment (unbroken_ofList (by decide)) .whole

theorem bareLines_emptyLine : ∀ line ∈ [""], bareLines line = [] :=
  List.forall_mem_singleton.2 (declaredNames_empty rfl)

theorem unbroken_fileComment (name : String) (role : FileRole) :
    Unbroken ("// " ++ commentText name ++ ": " ++ replaceAll (Named.name role) "_" " " ++ " file.") := by
  have hcomment := unbroken_slashes (unbroken_bannerComment name role)
  simpa only [String.append_assoc] using hcomment

/-- The code of a text with the helpers of its file above it. -/
theorem bareLines_below (above : String) {text other : String} (h : bareLines text = bareLines other) :
    bareLines (above ++ "\n" ++ text) = bareLines (above ++ "\n" ++ other) := by
  have hsplit (text : String) : bareLines (above ++ "\n" ++ text) = bareLines above ++ bareLines text :=
    declaredNames_feed above text
  rw [hsplit, hsplit, h]

/-- A header whose banner alone has comments. -/
theorem bareLines_header_of_banner {banner other : String} (hbanner : isBlankText banner = true → bareLines banner = [])
    (hother : isBlankText other = true → bareLines other = []) (h : bareLines banner = bareLines other)
    (rest : List String) :
    bareLines (joinSections (banner :: rest) "\n\n") = bareLines (joinSections (other :: rest) "\n\n") := by
  rw [bareLines_joinSections_cons hbanner, bareLines_joinSections_cons hother, h]

theorem bareLines_of_inked {s : String} (h : isBlankText s = false) : isBlankText s = true → bareLines s = [] := by
  intro hblank
  rw [h] at hblank
  cases hblank

namespace BubbleTea

/-! ## Go -/

theorem bareLines_structLines (b : Behavior) (comments : Bool) :
    bareLines (joinLines (structLines b comments (partsOf b))) =
      bareLines (joinLines (structLines b false (partsOf b))) := by
  have hcomment := (tidy_structComment b (unbroken_description b)).unbroken
  have hlines : structLines b comments (partsOf b) = (if comments then
      ["// " ++ b.typeName ++ " is the " ++ (partsOf b).description ++ " widget " ++ commentText b.widget.id ++ "."]
      else []) ++ structLines b false (partsOf b) := by
    cases comments <;> rfl
  rw [hlines]
  exact bareLines_leading (List.forall_mem_singleton.2
    (bareLines_comment hcomment (.append (.append (.append (.append (.append (.append .whole)))))))) comments

theorem bareLines_widget (b : Behavior) (o : Options) :
    bareLines (widget b o) = bareLines (widget b (o.commented false)) := by
  rw [widget, widget, bareLines_tabIndent, bareLines_tabIndent, bareLines_structLines]
  rfl

theorem bareLines_constants (comments : Bool) :
    bareLines (joinLines (constants comments)) = bareLines (joinLines (constants false)) :=
  bareLines_leading bareLines_sourcesComment comments

theorem bareLines_dataSources (d : Design) (comments : Bool) :
    Concur SameLines (dataSources d comments) (dataSources d false) := by
  unfold dataSources
  cases sourceTable d with
  | error fault => exact .error fault
  | ok table =>
    refine .ok ?_
    rw [SameLines, bareLines_tabIndent, bareLines_tabIndent]
    simp only [bareLines_joinWith, List.flatMap_append, List.flatMap_cons, bareLines_constants comments]

theorem bareLines_app (s : Scene) : bareLines (app s) = bareLines (app s.uncommented) := by
  unfold app
  rw [bareLines_tabIndent, bareLines_tabIndent]
  simp only [List.append_assoc]
  rw [bareLines_leading bareLines_applicationComment, bareLines_leading bareLines_applicationComment]
  rfl

theorem imports_congr_of_bareLines {text other : String} (htext : Scans text) (hother : Scans other)
    (h : bareLines text = bareLines other) : imports text = imports other := by
  unfold imports importsOf
  rw [usedModules_congr htext hother h (by decide), usedModules_congr htext hother h (by decide)]

theorem bareLines_banner (s : Scene) (role : FileRole) :
    bareLines (joinLines (banner s role)) = bareLines (joinLines (banner s.uncommented role)) := by
  have hcomments := bareLines_bannerComments (unbroken_fileComment s.design.metadata.name role)
    (.append (.append (.append (.append .whole)))) bareLines_emptyLine
  rw [banner, banner, bareLines_leading hcomments]
  rfl

theorem bareLines_header (s : Scene) (role : FileRole) {text other : String} (htext : Scans text)
    (hother : Scans other) (h : bareLines text = bareLines other) :
    bareLines (header s role text) = bareLines (header s.uncommented role other) := by
  have hshared := (settled_shared role).alike.scans
  have himports := imports_congr_of_bareLines (hshared.append htext) (hshared.append hother)
    (bareLines_below (shared role) h)
  rw [header_eq, header_eq, himports]
  exact bareLines_header_of_banner (bareLines_of_inked (banner_solid s role).inked)
    (bareLines_of_inked (banner_solid s.uncommented role).inked) (bareLines_banner s role) _

theorem annotates : Target.bubbleTea.Annotates Scans := by
  unfold Target.bubbleTea
  refine
    { separator := by rfl
      widget := ?_
      dataSources := ?_
      app := fun s => .ok (bareLines_app s)
      entryPoint := fun _ => rfl
      header := ?_
      footer := fun _ => rfl
      manifests := fun _ => rfl
      moduleIndex := fun _ => rfl
      instructions := fun _ => rfl }
  · dsimp only
    exact bareLines_widget
  · dsimp only
    exact fun s => bareLines_dataSources s.design s.options.includeComments
  · dsimp only
    exact fun s role _ _ => bareLines_header s role

end BubbleTea

namespace Ratatui

/-! ## Rust -/

theorem bareLines_structLines (b : Behavior) (comments : Bool) :
    bareLines (joinLines (structLines b comments (partsOf b))) =
      bareLines (joinLines (structLines b false (partsOf b))) := by
  have hcomment := (tidy_structComment b (unbroken_description b)).unbroken
  have hlines : structLines b comments (partsOf b) = (if comments then
      ["/// " ++ (partsOf b).description ++ " widget `" ++ commentText b.widget.id ++ "`."] else []) ++
      structLines b false (partsOf b) := by
    cases comments <;> rfl
  rw [hlines]
  exact bareLines_leading (List.forall_mem_singleton.2
    (bareLines_comment hcomment (.append (.append (.append (.append .whole)))))) comments

theorem bareLines_constants (comments : Bool) :
    bareLines (joinLines (constants comments)) = bareLines (joinLines (constants false)) :=
  bareLines_leading bareLines_sourcesComment comments

theorem bareLines_dataSources (d : Design) (comments : Bool) :
    bareLines (dataSources d comments) = bareLines (dataSources d false) := by
  unfold dataSources
  simp only [bareLines_joinWith, List.flatMap_append, List.flatMap_cons, bareLines_constants comments]

theorem bareLines_app (s : Scene) : bareLines (app s) = bareLines (app s.uncommented) := by
  unfold app
  simp only [List.append_assoc]
  rw [bareLines_leading bareLines_applicationComment, bareLines_leading bareLines_applicationComment]
  rfl

theorem bareLines_banner (s : Scene) (role : FileRole) :
    bareLines (joinLines (banner s role)) = bareLines (joinLines (banner s.uncommented role)) := by
  have hfirst : Unbroken ("// " ++ commentText s.design.metadata.name ++ ": " ++
      replaceAll (Named.name role) "_" " " ++ " module.") :=
    unbroken_banner { s with options := s.options.commented true } role _ List.mem_cons_self
  have hcomments := bareLines_bannerComments hfirst (.append (.append (.append (.append .whole)))) bareLines_emptyLine
  rw [banner, banner, bareLines_leading hcomments]
  rfl

/-- A file without helpers and comments has no banner. -/
theorem bareLines_blankBanner (s : Scene) (role : FileRole) :
    isBlankText (joinLines (banner s role)) = true → bareLines (joinLines (banner s role)) = [] := by
  have hslashes : Opens "// " := opens_ofList (by decide)
  unfold banner
  cases s.options.includeComments with
  | true =>
    refine bareLines_of_inked (Opens.inked (opens_joinWith rfl ?_))
    simp only [String.append_assoc]
    exact hslashes.append _
  | false =>
    cases hasHelpers role with
    | true => exact bareLines_of_inked (Opens.inked (opens_joinWith rfl (opens_ofList (by decide))))
    | false => exact fun _ => declaredNames_empty rfl

theorem bareLines_header (s : Scene) (role : FileRole) :
    bareLines (header s role) = bareLines (header s.uncommented role) := by
  rw [header_eq, header_eq]
  exact bareLines_header_of_banner (bareLines_blankBanner s role) (bareLines_blankBanner s.uncommented role)
    (bareLines_banner s role) _

theorem annotates : Target.ratatui.Annotates fun _ => True := by
  unfold Target.ratatui
  refine
    { separator := by rfl
      widget := fun b o => bareLines_structLines b o.includeComments
      dataSources := fun s => .ok (bareLines_dataSources s.design s.options.includeComments)
      app := fun s => .ok (bareLines_app s)
      entryPoint := fun _ => rfl
      header := fun s role _ _ _ _ _ => bareLines_header s role
      footer := fun _ => rfl
      manifests := fun _ => rfl
      moduleIndex := fun _ => rfl
      instructions := fun _ => rfl }

end Ratatui

namespace Blessed

/-! ## JavaScript -/

theorem bareLines_classLines (b : Behavior) (comments : Bool) :
    bareLines (joinLines (classLines b comments (partsOf b))) =
      bareLines (joinLines (classLines b false (partsOf b))) := by
  have hcomment := (tidy_classComment b (unbroken_description b)).unbroken
  have hlines : classLines b comments (partsOf b) = (if comments then
      ["// " ++ (partsOf b).description ++ ": " ++ commentText b.widget.id] else []) ++
      classLines b false (partsOf b) := by
    cases comments <;> rfl
  rw [hlines]
  exact bareLines_leading (List.forall_mem_singleton.2
    (bareLines_comment hcomment (.append (.append (.append .whole))))) comments

theorem bareLines_constants (comments : Bool) :
    bareLines (joinLines (constants comments)) = bareLines (joinLines (constants false)) :=
  bareLines_leading bareLines_sourcesComment comments

theorem bareLines_dataSources (d : Design) (comments : Bool) :
    bareLines (dataSources d comments) = bareLines (dataSources d false) := by
  unfold dataSources
  simp only [bareLines_joinWith, List.flatMap_append, List.flatMap_cons, bareLines_constants comments]

theorem bareLines_app (s : Scene) : Concur SameLines (app s) (app s.uncommented) := by
  have hslots : s.uncommented.behaviors.mapM (slot s.uncommented.design.settings) =
      s.behaviors.mapM (slot s.design.settings) := rfl
  unfold app
  dsimp only
  rw [hslots]
  cases s.behaviors.mapM (slot s.design.settings) with
  | error fault => exact .error fault
  | ok slots =>
    refine .ok ?_
    simp only [List.append_assoc]
    rw [SameLines, bareLines_leading bareLines_applicationComment, bareLines_leading bareLines_applicationComment]
    rfl

/-- Texts with the same bare lines require the same modules. -/
theorem requires_congr_of_bareLines {text other : String} (htext : Scans text) (hother : Scans other)
    (h : bareLines text = bareLines other) : requires text = requires other := by
  unfold requires runsCommands
  rw [usedModules_congr htext hother h (by decide), occurs_congr (by decide) (by decide) htext hother h]

theorem bareLines_banner (s : Scene) (role : FileRole) :
    bareLines (joinLines (banner s role)) = bareLines (joinLines (banner s.uncommented role)) := by
  have hcomments := bareLines_bannerComments (unbroken_fileComment s.design.metadata.name role)
    (.append (.append (.append (.append .whole)))) (List.forall_mem_nil _)
  rw [banner, banner, List.append_assoc, List.append_assoc, bareLines_optional _ hcomments]
  rfl

theorem bareLines_header (s : Scene) (role : FileRole) {text other : String} (htext : Scans text)
    (hother : Scans other) (h : bareLines text = bareLines other) :
    bareLines (header s role text) = bareLines (header s.uncommented role other) := by
  have hshared := (settled_shared role).alike.scans
  have hrequires := requires_congr_of_bareLines (hshared.append htext) (hshared.append hother)
    (bareLines_below (shared role) h)
  have hown : ownFiles s.uncommented role = ownFiles s role := rfl
  rw [header_eq, header_eq, hrequires, hown]
  exact bareLines_header_of_banner (bareLines_of_inked (banner_solid s role).inked)
    (bareLines_of_inked (banner_solid s.uncommented role).inked) (bareLines_banner s role) _

theorem annotates : Target.blessed.Annotates Scans := by
  unfold Target.blessed
  exact
    { separator := by rfl
      widget := fun b o => bareLines_classLines b o.includeComments
      dataSources := fun s => .ok (bareLines_dataSources s.design s.options.includeComments)
      app := bareLines_app
      entryPoint := fun _ => rfl
      header := fun s role _ _ => bareLines_header s role
      footer := fun _ => rfl
      manifests := fun _ => rfl
      moduleIndex := fun _ => rfl
      instructions := fun _ => rfl }

end Blessed

end DashboardCompiler
