import DashboardCompiler.Proofs.Except
import DashboardCompiler.Proofs.Text.Lines
import DashboardCompiler.Target.All

/-!
# The sections that the targets write

Assembly drops blank sections and trims line feeds. It never gets to do either with what the four targets
write: every section begins and ends with ink, whatever the design holds, and every header has some.
-/

namespace DashboardCompiler

open Text

/-- Nothing that the target writes is dropped or trimmed by the assembly. -/
structure Target.Firm (t : Target) : Prop where
  widget : ∀ b o, Solid (t.widget b o)
  dataSources : ∀ s text, t.dataSources s = .ok text → Solid text
  app : ∀ s text, t.app s = .ok text → Solid text
  entryPoint : ∀ s, Solid (t.entryPoint s)
  header : ∀ s role body, isBlankText (t.header s role body) = false
  programFooter : ∀ s, t.footer s .single = "" ∧ t.footer s .app = ""
  footer : ∀ s role, t.footer s role = "" ∨ Solid (t.footer s role)

/-- Lines that may start with one more line. -/
theorem opens_optional {c : Bool} {first second : String} {rest : List String} (hfirst : Opens first)
    (hsecond : Opens second) :
    Opens (joinLines ((if c then [first] else []) ++ second :: rest)) := by
  cases c with
  | false => exact opens_joinWith rfl hsecond
  | true => exact opens_joinWith rfl hfirst

/-- The last of some lines ends with ink. -/
def ClosesLast (lines : List String) : Prop := ∃ l, lines.getLast? = some l ∧ Closes l

theorem closesLast_singleton {l : String} (h : Closes l) : ClosesLast [l] := ⟨l, rfl, h⟩

theorem ClosesLast.ne_nil {lines : List String} (h : ClosesLast lines) : lines ≠ [] := by
  obtain ⟨l, hl, -⟩ := h
  rintro rfl
  cases hl

theorem ClosesLast.prepend {lines : List String} (h : ClosesLast lines) (before : List String) :
    ClosesLast (before ++ lines) := by
  obtain ⟨l, hl, hcloses⟩ := h
  refine ⟨l, ?_, hcloses⟩
  rw [List.getLast?_append, hl, Option.some_or]

theorem ClosesLast.closes {lines : List String} (h : ClosesLast lines) : Closes (joinLines lines) := by
  obtain ⟨l, hl, hcloses⟩ := h
  exact closes_joinWith hl hcloses

theorem closesLast_append_optional {lines more : List String} (h : ClosesLast lines)
    (hmore : more = [] ∨ ClosesLast more) : ClosesLast (lines ++ if more.isEmpty then [] else "" :: more) := by
  rcases hmore with rfl | hmore
  · simpa using h
  · split
    · simpa using h
    · exact (hmore.prepend [""]).prepend lines

namespace Textual

theorem closesLast_methods (b : Behavior) : (partsOf b).methods = [] ∨ ClosesLast (partsOf b).methods := by
  unfold partsOf
  cases b.state with
  | barChart p bars =>
    exact .inr ⟨"        return \"\\n\".join(lines)", rfl, closes_ofList rfl (by decide)⟩
  | logViewer p seed =>
    exact .inr ⟨"            self.entries = self.entries[-self.max_lines :]", rfl,
      closes_ofList rfl (by decide)⟩
  | metricCard p value previous history =>
    have hlast : Closes ":]" := closes_ofList rfl (by decide)
    exact .inr ⟨_, rfl, hlast.prepend _⟩
  | _ => exact .inl rfl

theorem widget_solid (b : Behavior) (o : Options) : Solid (widget b o) := by
  have hrefresh : ClosesLast ["        self.refresh_view()"] :=
    closesLast_singleton (closes_ofList rfl (by decide))
  constructor
  · simp only [widget, classLines, List.append_assoc, String.append_assoc]
    exact opens_optional (.append (opens_ofList (by decide)) _) (.append (opens_ofList (by decide)) _)
  · refine ClosesLast.closes (closesLast_append_optional ?_ (closesLast_methods b))
    cases (partsOf b).tick with
    | none =>
      dsimp only
      rw [List.append_nil]
      exact hrefresh.prepend _
    | some lines => exact (hrefresh.prepend _).prepend _

theorem dataSources_solid (d : Design) (comments : Bool) : Solid (dataSources d comments) := by
  have hupdater : Closes (joinLines updater) := closes_joinWith rfl (closes_ofList rfl (by decide))
  constructor
  · refine opens_joinWith (s := joinLines (constants comments)) rfl ?_
    exact opens_optional (opens_ofList (by decide)) (opens_ofList (by decide))
  · refine closes_joinWith (s := joinLines updater) ?_ hupdater
    rw [List.getLast?_append]
    rfl

theorem app_solid (s : Scene) : Solid (app s) := by
  constructor
  · simp only [app, appLines, List.append_assoc]
    exact opens_optional (opens_ofList (by decide)) (opens_ofList (by decide))
  · have hfooter : Closes "        yield Footer()" := closes_ofList rfl (by decide)
    have hcompose : ClosesLast (composeLines s) := (closesLast_singleton hfooter).prepend _
    have hpush : Closes "                self.query_one(f\"#\x7bwidget_id\x7d\").update_data(value)" :=
      closes_ofList rfl (by decide)
    refine ClosesLast.closes ?_
    cases hfed : s.hasDataSources with
    | false =>
      simp only [appLines, hfed, Bool.false_eq_true, if_false, List.append_nil]
      exact hcompose.prepend _
    | true =>
      simp only [appLines, hfed, if_true]
      exact ClosesLast.prepend ⟨_, rfl, hpush⟩ _

theorem entryPoint_solid : Solid entryPoint :=
  ⟨opens_joinWith rfl (opens_ofList (by decide)), closes_joinWith rfl (closes_ofList rfl (by decide))⟩

theorem opens_banner (s : Scene) (role : FileRole) : Opens (banner s role) := by
  have hquotes : Opens "\"\"\"" := opens_ofList (by decide)
  unfold banner
  simp only [String.append_assoc]
  cases role with
  | single => exact opens_joinWith rfl (opens_ofList (by decide))
  | app => exact opens_joinWith rfl (opens_ofList (by decide))
  | widgets => exact opens_joinWith rfl (hquotes.append _)
  | dataSources => exact opens_joinWith rfl (hquotes.append _)

theorem header_inked (s : Scene) (role : FileRole) (body : String) : isBlankText (header s role body) = false :=
  inked_joinSections List.mem_cons_self (((opens_banner s role).append _).append _).inked _

end Textual

theorem header_inked {banner separator : String} (h : Opens banner) (rest : List String) :
    isBlankText (joinSections (banner :: rest) separator) = false :=
  inked_joinSections List.mem_cons_self h.inked separator

/-- Most sections end with a bracket. -/
theorem closesLast_brace {lines : List String} (h : lines.getLast? = some "\x7d") : ClosesLast lines :=
  ⟨_, h, closes_ofList rfl (by decide)⟩

namespace BubbleTea

theorem closesLast_methods (b : Behavior) (name : String) :
    (partsOf b).methods name = [] ∨ ClosesLast ((partsOf b).methods name) := by
  unfold partsOf
  cases b.state with
  | barChart p sample => exact .inr (closesLast_brace rfl)
  | logViewer p seed => exact .inr (closesLast_brace rfl)
  | metricCard p value previous history => exact .inr (closesLast_brace rfl)
  | _ => exact .inl rfl

theorem closesLast_tickLines (name : String) (parts : StructParts) (b : Behavior) :
    ClosesLast (tickLines name parts b) := by
  unfold tickLines
  split
  · exact (closesLast_brace rfl).prepend _
  · have hend : Closes ") Tick() \x7b\x7d" := closes_ofList rfl (by decide)
    exact closesLast_singleton (hend.prepend _)

theorem widget_solid (b : Behavior) (o : Options) : Solid (widget b o) := by
  constructor
  · simp only [widget, structLines, List.append_assoc, String.append_assoc]
    exact opens_tabIndent (opens_optional (.append (opens_ofList (by decide)) _)
      (.append (opens_ofList (by decide)) _))
  · exact closes_tabIndent (ClosesLast.closes (closesLast_append_optional
      ((closesLast_tickLines _ _ b).prepend _) (closesLast_methods b _)))

theorem dataSources_solid (d : Design) (comments : Bool) {text : String}
    (h : dataSources d comments = .ok text) : Solid text := by
  obtain ⟨table, -, h⟩ := bind_ok_iff.1 h
  cases h
  have hupdater : Closes (joinLines updater) := (closesLast_brace rfl).closes
  constructor
  · refine opens_tabIndent (opens_joinWith (s := joinLines (constants comments)) rfl ?_)
    exact opens_optional (opens_ofList (by decide)) (opens_ofList (by decide))
  · refine closes_tabIndent (closes_joinWith (s := joinLines updater) ?_ hupdater)
    rw [List.getLast?_append]
    rfl

theorem app_solid (s : Scene) : Solid (app s) := by
  constructor
  · simp only [app, styleLines, List.append_assoc, List.cons_append, String.append_assoc]
    exact opens_tabIndent (opens_optional (opens_ofList (by decide)) (.append (opens_ofList (by decide)) _))
  · exact closes_tabIndent (ClosesLast.closes ((closesLast_brace rfl : ClosesLast viewLines).prepend _))

theorem entryPoint_solid : Solid entryPoint :=
  ⟨opens_tabIndent (opens_joinWith rfl (opens_ofList (by decide))),
    closes_tabIndent (ClosesLast.closes (closesLast_brace rfl))⟩

theorem header_inked (s : Scene) (role : FileRole) (body : String) :
    isBlankText (header s role body) = false := by
  refine DashboardCompiler.header_inked ?_ _
  cases s.options.includeComments with
  | false => exact opens_joinWith rfl (opens_ofList (by decide))
  | true =>
    simp only [String.append_assoc]
    exact opens_joinWith rfl (.append (opens_ofList (by decide)) _)

end BubbleTea

namespace Ratatui

theorem widget_solid (b : Behavior) (o : Options) : Solid (widget b o) := by
  constructor
  · simp only [widget, structLines, List.append_assoc, String.append_assoc]
    exact opens_optional (.append (opens_ofList (by decide)) _) (.append (opens_ofList (by decide)) _)
  · exact ClosesLast.closes ((closesLast_brace rfl : ClosesLast ["\x7d"]).prepend _)

theorem dataSources_solid (d : Design) (comments : Bool) : Solid (dataSources d comments) := by
  constructor
  · refine opens_joinWith (s := joinLines (constants comments)) rfl ?_
    simp only [constants, String.append_assoc]
    exact opens_optional (opens_ofList (by decide)) (.append (opens_ofList (by decide)) _)
  · unfold dataSources
    split
    · refine closes_joinWith (s := joinLines collector) ?_ (closesLast_brace rfl).closes
      rw [List.getLast?_append]
      rfl
    · rw [List.append_nil]
      exact closes_joinWith (s := joinLines updater) rfl (closesLast_brace rfl).closes

theorem app_solid (s : Scene) : Solid (app s) := by
  constructor
  · simp only [app, constantLines, List.append_assoc, List.cons_append, String.append_assoc]
    exact opens_optional (opens_ofList (by decide)) (.append (opens_ofList (by decide)) _)
  · have hrun : ClosesLast (runLines s.hasDataSources) :=
      (closesLast_brace rfl : ClosesLast ["    \x7d", "\x7d"]).prepend _
    exact ClosesLast.closes (hrun.prepend _)

theorem entryPoint_solid : Solid entryPoint :=
  ⟨opens_joinWith rfl (opens_ofList (by decide)), ClosesLast.closes (closesLast_brace rfl)⟩

theorem opens_useLine (uses : List Use) (path : String) : Opens (useLine uses path) := by
  unfold useLine
  simp only [String.append_assoc]
  split <;> exact .append (opens_ofList (by decide)) _

theorem useDeclarations_inked {uses : List Use} (h : uses ≠ []) :
    isBlankText (useDeclarations uses) = false := by
  obtain ⟨u, rest, rfl⟩ := List.exists_cons_of_ne_nil h
  have hpath : u.path ∈ (((u :: rest).map (·.path)).eraseDups.mergeSort fun a b => decide (a ≤ b)) := by
    rw [List.mem_mergeSort, List.mem_eraseDups]
    exact List.mem_map_of_mem List.mem_cons_self
  have hblock : ∃ block ∈ [
      (((u :: rest).map (·.path)).eraseDups.mergeSort fun a b => decide (a ≤ b)).filter isStandard,
      (((u :: rest).map (·.path)).eraseDups.mergeSort fun a b => decide (a ≤ b)).filter
        fun p => !isStandard p], u.path ∈ block := by
    cases hstandard : isStandard u.path with
    | true => exact ⟨_, List.mem_cons_self, List.mem_filter.2 ⟨hpath, hstandard⟩⟩
    | false =>
      exact ⟨_, List.mem_cons_of_mem _ List.mem_cons_self, List.mem_filter.2 ⟨hpath, by simp [hstandard]⟩⟩
  obtain ⟨block, hmem, hin⟩ := hblock
  have hkept : block.isEmpty = false := by
    rw [List.isEmpty_eq_false_iff]
    exact List.ne_nil_of_mem hin
  obtain ⟨c, hc, hblank⟩ := opens_useLine (u :: rest) u.path
  have hline : useLine (u :: rest) u.path ∈ block.map (useLine (u :: rest)) := List.mem_map_of_mem hin
  have hinner : c ∈ (joinLines (block.map (useLine (u :: rest)))).toList :=
    mem_joinWith hline (List.mem_of_head? hc)
  refine isBlankText_of_mem (mem_joinWith (List.mem_map.2 ⟨block, ?_, rfl⟩) hinner) hblank
  exact List.mem_filter.2 ⟨hmem, by rw [hkept]; rfl⟩

theorem header_inked (s : Scene) (role : FileRole) : isBlankText (header s role) = false := by
  have huses : fileUses s role ≠ [] := by cases role <;> exact List.cons_ne_nil _ _
  exact inked_joinSections (List.mem_cons_of_mem _ List.mem_cons_self) (useDeclarations_inked huses) _

end Ratatui

namespace Blessed

theorem closesLast_methods (b : Behavior) :
    (partsOf b).methods = [] ∨ ClosesLast (partsOf b).methods := by
  unfold partsOf
  have hlast : Closes "  \x7d" := closes_ofList rfl (by decide)
  cases b.state with
  | barChart p sample => exact .inr ⟨_, rfl, hlast⟩
  | logViewer p seed => exact .inr ⟨_, rfl, hlast⟩
  | metricCard p value previous history => exact .inr ⟨_, rfl, hlast⟩
  | _ => exact .inl rfl

theorem widget_solid (b : Behavior) (o : Options) : Solid (widget b o) := by
  constructor
  · simp only [widget, classLines, List.append_assoc, String.append_assoc]
    exact opens_optional (.append (opens_ofList (by decide)) _) (.append (opens_ofList (by decide)) _)
  · exact ClosesLast.closes ((closesLast_brace rfl : ClosesLast ["\x7d"]).prepend _)

theorem dataSources_solid (d : Design) (comments : Bool) : Solid (dataSources d comments) := by
  have hupdater : Closes (joinLines updater) := (closesLast_brace rfl).closes
  constructor
  · refine opens_joinWith (s := joinLines (constants comments)) rfl ?_
    simp only [constants, String.append_assoc]
    exact opens_optional (opens_ofList (by decide)) (.append (opens_ofList (by decide)) _)
  · refine closes_joinWith (s := joinLines updater) ?_ hupdater
    rw [List.getLast?_append]
    rfl

theorem app_solid {s : Scene} {text : String} (h : app s = .ok text) : Solid text := by
  obtain ⟨slots, -, h⟩ := bind_ok_iff.1 h
  cases h
  constructor
  · simp only [textConstant, constant, List.append_assoc, List.cons_append, String.append_assoc]
    exact opens_optional (opens_ofList (by decide)) (.append (opens_ofList (by decide)) _)
  · exact ClosesLast.closes ((closesLast_brace rfl : ClosesLast appClass).prepend _)

theorem entryPoint_solid : Solid entryPoint :=
  ⟨opens_joinWith rfl (opens_ofList (by decide)), ClosesLast.closes (closesLast_brace rfl)⟩

theorem header_inked (s : Scene) (role : FileRole) (body : String) :
    isBlankText (header s role body) = false := by
  -- The last line of the banner is there in every file.
  have hstrict : Closes "\"use strict\";" := closes_ofList rfl (by decide)
  exact inked_joinSections List.mem_cons_self
    (ClosesLast.closes ((closesLast_singleton hstrict).prepend _)).inked _

theorem exports_solid (names : String) : Solid ("module.exports = \x7b " ++ names ++ " \x7d;") := by
  have hstart : Opens "module.exports = \x7b " := opens_ofList (by decide)
  have hend : Closes " \x7d;" := closes_ofList rfl (by decide)
  exact ⟨(hstart.append _).append _, hend.prepend _⟩

theorem footer_solid (s : Scene) (role : FileRole) : footer s role = "" ∨ Solid (footer s role) := by
  cases role with
  | widgets => exact .inr (exports_solid _)
  | dataSources => exact .inr (exports_solid _)
  | single => exact .inl rfl
  | app => exact .inl rfl

end Blessed

theorem solid_of_ok {given text : String} (hgiven : Solid given)
    (h : (Except.ok given : Except ArithmeticFault String) = .ok text) : Solid text := by
  rw [← Except.ok.inj h]
  exact hgiven

namespace Target

theorem firm_textual : textual.Firm := by
  unfold textual
  exact
    { widget := Textual.widget_solid
      dataSources := fun _ _ => solid_of_ok (Textual.dataSources_solid _ _)
      app := fun s _ => solid_of_ok (Textual.app_solid s)
      entryPoint := fun _ => Textual.entryPoint_solid
      header := Textual.header_inked
      programFooter := fun _ => ⟨rfl, rfl⟩
      footer := fun _ _ => .inl rfl }

theorem firm_bubbleTea : bubbleTea.Firm := by
  constructor
  · intro b o
    dsimp only [bubbleTea]
    exact BubbleTea.widget_solid b o
  · intro s text
    dsimp only [bubbleTea]
    exact BubbleTea.dataSources_solid s.design s.options.includeComments
  · intro s text
    dsimp only [bubbleTea]
    exact solid_of_ok (BubbleTea.app_solid s)
  · intro s
    dsimp only [bubbleTea]
    exact BubbleTea.entryPoint_solid
  · intro s role body
    dsimp only [bubbleTea]
    exact BubbleTea.header_inked s role body
  · exact fun _ => ⟨rfl, rfl⟩
  · exact fun _ _ => .inl rfl

theorem firm_ratatui : ratatui.Firm := by
  unfold ratatui
  exact
    { widget := Ratatui.widget_solid
      dataSources := fun _ _ => solid_of_ok (Ratatui.dataSources_solid _ _)
      app := fun s _ => solid_of_ok (Ratatui.app_solid s)
      entryPoint := fun _ => Ratatui.entryPoint_solid
      header := fun s role _ => Ratatui.header_inked s role
      programFooter := fun _ => ⟨rfl, rfl⟩
      footer := fun _ _ => .inl rfl }

theorem firm_blessed : blessed.Firm := by
  unfold blessed
  exact
    { widget := Blessed.widget_solid
      dataSources := fun _ _ => solid_of_ok (Blessed.dataSources_solid _ _)
      app := fun _ _ => Blessed.app_solid
      entryPoint := fun _ => Blessed.entryPoint_solid
      header := Blessed.header_inked
      programFooter := fun _ => ⟨rfl, rfl⟩
      footer := Blessed.footer_solid }

theorem firm_ofFramework (f : Framework) : (ofFramework f).Firm := by
  cases f with
  | textual => exact firm_textual
  | bubbleTea => exact firm_bubbleTea
  | ratatui => exact firm_ratatui
  | blessed => exact firm_blessed

end Target

end DashboardCompiler
