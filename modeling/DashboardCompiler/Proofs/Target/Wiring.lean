import DashboardCompiler.Proofs.Target.Rows
import DashboardCompiler.Proofs.Target.Sections

/-!
# Tables and wiring as they stand in the text

What a target writes about sources is read here off the lines of its sections. The source table is a run of
lines, one for each referenced source between an opening and a closing line. Three targets wire each widget in
a slot of its own; the fourth keeps one entry for each source, with the ids of the widgets it feeds.
-/

namespace DashboardCompiler

open Code Text

namespace Target

/-! ## What is read -/

/-- How the row of a source begins. -/
def rowStart : Framework → String → String
  | .textual, id => "    " ++ Textual.text id ++ ": "
  | .bubbleTea, id => "\t\t\x7bID: " ++ BubbleTea.text id ++ ", Config: SourceConfig\x7b"
  | .ratatui, id => "        (" ++ Ratatui.text id ++ ", "
  | .blessed, id => "  " ++ Blessed.text id ++ ": "

def tableOpening : Framework → String
  | .textual => "DATA_SOURCES = \x7b"
  | .bubbleTea => "\treturn []NamedSource\x7b"
  | .ratatui => "    vec!["
  | .blessed => "const DATA_SOURCES = \x7b"

def tableClosing : Framework → String
  | .textual => "\x7d"
  | .bubbleTea => "\t\x7d"
  | .ratatui => "    ]"
  | .blessed => "\x7d;"

/-- A row of the table: one line that begins with the id of the source. -/
def IsRow (f : Framework) (s : DataSource) (row : String) : Prop :=
  Unbroken row ∧ ∃ config, row = rowStart f s.id ++ config

/-- The text has the table of these sources: one row for each, in their order, and nothing else between the
opening and the closing line. -/
def ShowsTable (f : Framework) (sources : List DataSource) (text : String) : Prop :=
  ∃ rows, List.Forall₂ (IsRow f) sources rows ∧
    [tableOpening f] ++ rows ++ [tableClosing f] <:+: lines text

/-- The lines of the slot of a widget: its source if it has one, where it stands, and its type. -/
def IsSlot (f : Framework) (w : Widget) (slot : List String) : Prop :=
  (∀ line ∈ slot, Unbroken line) ∧
  match f with
  | .textual => False
  | .bubbleTea => ∃ placement, slot =
      ["\t\t\t\x7b" ++ (w.dataSource.map fun id => "source: " ++ BubbleTea.text id ++ ", ").getD "" ++ "x: " ++
        placement ++ ", " ++ "widget: New" ++ Name.typeName w.id ++ "()\x7d,"]
  | .ratatui => ∃ placement, slot =
      ["                Slot \x7b",
       "                    source: " ++
         (w.dataSource.map fun id => "Some(" ++ Ratatui.text id ++ ")").getD "None" ++ ","] ++ placement ++
      ["                    widget: Box::new(" ++ Name.typeName w.id ++ "::new()),",
       "                \x7d,"]
  | .blessed => ∃ placement, slot =
      ["    makeSlot(screen, new " ++ Name.typeName w.id ++ "(), \x7b " ++
        (w.dataSource.map fun id => "source: " ++ asciiQuoted id ++ ", ").getD "" ++ "left: " ++ placement ++
        " \x7d),"]

def slotsOpening : Framework → String
  | .textual => ""
  | .bubbleTea => "\t\tslots: []*widgetSlot\x7b"
  | .ratatui => "            slots: vec!["
  | .blessed => "  return ["

def slotsClosing : Framework → String
  | .textual => ""
  | .bubbleTea => "\t\t\x7d,"
  | .ratatui => "            ],"
  | .blessed => "  ];"

/-- The text has one slot for each widget, and nothing else between the opening and the closing line. -/
def ShowsSlots (f : Framework) (ws : List Widget) (text : String) : Prop :=
  ∃ order slots, order.Perm ws ∧ List.Forall₂ (IsSlot f) order slots ∧
    [slotsOpening f] ++ slots.flatten ++ [slotsClosing f] <:+: lines text

/-- The text has the dictionary from sources to the ids of the widgets they feed. -/
def ShowsSubscribers (entries : List (String × List String)) (text : String) : Prop :=
  "        self.subscribers = " ++
    Textual.literal (.object (entries.map fun (source, ids) => (source, Textual.texts ids))) ∈ lines text

theorem ShowsTable.mono {f : Framework} {sources : List DataSource} {part whole : String}
    (h : ShowsTable f sources part) (hlines : lines part <:+: lines whole) : ShowsTable f sources whole := by
  obtain ⟨rows, hrows, hrun⟩ := h
  exact ⟨rows, hrows, hrun.trans hlines⟩

theorem ShowsSlots.mono {f : Framework} {ws : List Widget} {part whole : String}
    (h : ShowsSlots f ws part) (hlines : lines part <:+: lines whole) : ShowsSlots f ws whole := by
  obtain ⟨order, slots, hperm, hslots, hrun⟩ := h
  exact ⟨order, slots, hperm, hslots, hrun.trans hlines⟩

theorem ShowsSubscribers.mono {entries : List (String × List String)} {part whole : String}
    (h : ShowsSubscribers entries part) (hlines : lines part <:+: lines whole) :
    ShowsSubscribers entries whole := hlines.subset h

end Target

/-! ## Tables -/

/-- A run with the last item before it and the first item after it. -/
theorem infix_framed {α : Type} (before more : List α) (first : α) (run : List α) (last : α) (after : List α) :
    [first] ++ run ++ [last] <:+: before ++ (more ++ [first]) ++ run ++ (last :: after) :=
  ⟨before ++ more, after, by simp⟩

/-- A run of lines that are all unbroken. -/
theorem oneLine_framed {opening closing : String} (hopening : Plain opening) (hclosing : Plain closing)
    {rows : List String} (h : ∀ row ∈ rows, Unbroken row) :
    ∀ line ∈ [opening] ++ rows ++ [closing], OneLine line := by
  intro line hline
  rcases List.mem_append.1 hline with hline | hline
  · rcases List.mem_append.1 hline with hline | hline
    · rw [List.mem_singleton.1 hline]
      exact hopening.piece.unbroken.oneLine
    · exact (h line hline).oneLine
  · rw [List.mem_singleton.1 hline]
    exact hclosing.piece.unbroken.oneLine

open Target

theorem forall₂_isRow {f : Framework} {sources : List DataSource} {row : DataSource → String}
    (h : ∀ s, IsRow f s (row s)) : List.Forall₂ (IsRow f) sources (sources.map row) :=
  List.forall₂_map_right_iff.2 (List.forall₂_same.2 fun s _ => h s)

/-- The lines of a table are lines of the section that it stands in. -/
theorem showsTable_of_infix {f : Framework} {sources : List DataSource} {rows : List String} {text : String}
    (hrows : List.Forall₂ (IsRow f) sources rows)
    (h : lines (joinLines ([tableOpening f] ++ rows ++ [tableClosing f])) <:+: lines text)
    (hopening : Plain (tableOpening f)) (hclosing : Plain (tableClosing f)) : ShowsTable f sources text := by
  have hframed := oneLine_framed hopening hclosing (forall_right_of_forall₂ hrows fun _ _ hrow => hrow.1)
  have htable := lines_joinLines hframed (by simp)
  rw [htable] at h
  exact ⟨rows, hrows, h⟩

theorem Textual.showsTable (d : Design) (comments : Bool) :
    ShowsTable .textual d.referencedSources (Textual.dataSources d comments) := by
  have hrows : List.Forall₂ (IsRow .textual) d.referencedSources (d.referencedSources.map sourceRow) :=
    forall₂_isRow fun s => ⟨(piece_sourceRow s).unbroken, _, String.append_assoc⟩
  have hopening : Plain "DATA_SOURCES = \x7b" := plain_ofList (by decide)
  have hclosing : Plain "\x7d" := plain_ofList (by decide)
  have hlines : lines (sourceTable d) <:+: lines (Textual.dataSources d comments) :=
    infix_lines_joinWith "\n" (List.mem_append_left _ (List.mem_append_left _ (by simp)))
  exact showsTable_of_infix hrows hlines hopening hclosing

theorem Blessed.showsTable (d : Design) (comments : Bool) :
    ShowsTable .blessed d.referencedSources (Blessed.dataSources d comments) := by
  have hrows : List.Forall₂ (IsRow .blessed) d.referencedSources (d.referencedSources.map sourceRow) :=
    forall₂_isRow fun s => ⟨(piece_sourceRow s).unbroken, _, String.append_assoc⟩
  have hopening : Plain "const DATA_SOURCES = \x7b" := plain_ofList (by decide)
  have hclosing : Plain "\x7d;" := plain_ofList (by decide)
  have hlines : lines (sourceTable d) <:+: lines (Blessed.dataSources d comments) :=
    infix_lines_joinWith "" (List.mem_append_left _ (List.mem_append_left _ (by simp)))
  exact showsTable_of_infix hrows hlines hopening hclosing

theorem Ratatui.showsTable (d : Design) (comments : Bool) :
    ShowsTable .ratatui d.referencedSources (Ratatui.dataSources d comments) := by
  have hrows : List.Forall₂ (IsRow .ratatui) d.referencedSources (d.referencedSources.map sourceRow) :=
    forall₂_isRow fun s => ⟨(piece_sourceRow s).unbroken, _, String.append_assoc⟩
  have hopening : Plain "    vec![" := plain_ofList (by decide)
  have hclosing : Plain "    ]" := plain_ofList (by decide)
  have hframed := oneLine_framed hopening hclosing (forall_right_of_forall₂ hrows fun _ _ hrow => hrow.1)
  have hlines : lines (sourceTable d) <:+: lines (Ratatui.dataSources d comments) :=
    infix_lines_joinWith "" (List.mem_append_left _ (by simp))
  refine ⟨_, hrows, (infix_lines_joinLines ?_ hframed (by simp)).trans hlines⟩
  exact infix_framed [] ["pub fn data_source_configs() -> Vec<(&'static str, SourceConfig)> \x7b"] _ _ _ _

theorem BubbleTea.isRow_tabbed {s : DataSource} {row : String} (h : BubbleTea.sourceRow s = .ok row) :
    IsRow .bubbleTea s (String.ofList (tabIndentLine row.toList)) := by
  have hstart (rest : String) : String.ofList (tabIndentLine ("        \x7bID: " ++ rest).toList) =
      "\t\t\x7bID: " ++ rest := ofList_tabIndentLine (by decide) (by decide) rest
  have hunbroken := unbroken_tabIndentLine (piece_sourceRow h).unbroken
  obtain ⟨fields, -, rfl⟩ := sourceRow_ok h
  refine ⟨hunbroken, commaList fields ++ "\x7d\x7d,", ?_⟩
  simp only [String.append_assoc, hstart, rowStart]

/-- The section of the sources, with the table among other texts. -/
theorem BubbleTea.dataSources_ok {d : Design} {comments : Bool} {text : String}
    (h : BubbleTea.dataSources d comments = .ok text) :
    ∃ rows before after, d.referencedSources.mapM BubbleTea.sourceRow = .ok rows ∧
      text = tabIndent (joinWith ("\n" ++ "" ++ "\n")
        (before ++ joinLines ([] ++ (["func dataSourceConfigs() []NamedSource \x7b"] ++ ["    return []NamedSource\x7b"]) ++
          rows ++ ("    \x7d" :: ["\x7d"])) :: after)) := by
  obtain ⟨table, htable, h⟩ := bind_ok_iff.1 h
  obtain ⟨rows, hrows, htable⟩ := bind_ok_iff.1 htable
  cases h
  cases htable
  exact ⟨rows, [_, _], _, hrows, rfl⟩

theorem BubbleTea.showsTable {d : Design} {comments : Bool} {text : String}
    (h : BubbleTea.dataSources d comments = .ok text) : ShowsTable .bubbleTea d.referencedSources text := by
  have hopening : Plain "    return []NamedSource\x7b" := plain_ofList (by decide)
  have hclosing : Plain "    \x7d" := plain_ofList (by decide)
  have hopeningTabs : String.ofList (tabIndentLine ("    return []NamedSource\x7b" ++ "").toList) =
      "\treturn []NamedSource\x7b" ++ "" := ofList_tabIndentLine (by decide) (by decide) ""
  have hclosingTabs : String.ofList (tabIndentLine ("    \x7d" ++ "").toList) = "\t\x7d" ++ "" :=
    ofList_tabIndentLine (by decide) (by decide) ""
  rw [String.append_empty, String.append_empty] at hopeningTabs hclosingTabs
  obtain ⟨rows, before, after, hrows, rfl⟩ := dataSources_ok h
  have hread := forall₂_of_mapM_ok hrows
  have hunbroken : ∀ row ∈ rows, Unbroken row :=
    forall_right_of_forall₂ hread fun _ _ hrow => (piece_sourceRow hrow.2).unbroken
  have htabs : List.Forall₂ (IsRow .bubbleTea) d.referencedSources
      (rows.map fun row => String.ofList (tabIndentLine row.toList)) := by
    rw [List.forall₂_map_right_iff]
    exact hread.imp fun s row hrow => isRow_tabbed hrow.2
  have hframe : [tableOpening .bubbleTea] ++ rows.map (fun row => String.ofList (tabIndentLine row.toList)) ++
      [tableClosing .bubbleTea] = (["    return []NamedSource\x7b"] ++ rows ++ ["    \x7d"]).map
        fun row => String.ofList (tabIndentLine row.toList) := by
    rw [List.map_append, List.map_append, List.map_singleton, List.map_singleton, hopeningTabs, hclosingTabs]
    rfl
  refine ⟨_, htabs, ?_⟩
  rw [hframe, lines_tabIndent_of_lines rfl]
  exact List.IsInfix.map _ ((infix_lines_joinLines (infix_framed _ _ _ _ _ _)
    (oneLine_framed hopening hclosing hunbroken) (by simp)).trans
      (infix_lines_joinWith "" List.mem_append_cons_self))

/-! ## Slots -/

/-- Slots between their opening and their closing line. -/
theorem oneLine_slots {f : Framework} {opening closing : String} (hopening : Plain opening) (hclosing : Plain closing)
    {order : List Widget} {slots : List (List String)} (h : List.Forall₂ (IsSlot f) order slots) :
    ∀ line ∈ [opening] ++ slots.flatten ++ [closing], OneLine line := by
  refine oneLine_framed hopening hclosing fun line hline => ?_
  obtain ⟨slot, hslot, hline⟩ := List.mem_flatten.1 hline
  exact forall_right_of_forall₂ h (fun _ _ hslot => hslot.1) slot hslot line hline

theorem Blessed.isSlot {settings : Settings} {b : Behavior} (h : b.widget.dataSource ≠ some "") {line : String}
    (hslot : Blessed.slot settings b = .ok line) : IsSlot .blessed b.widget ["    " ++ line] := by
  have hindent : Plain "    " := plain_ofList (by decide)
  have hstart : "    " ++ "makeSlot(screen, new " = "    makeSlot(screen, new " := by simp
  refine ⟨List.forall_mem_singleton.2 (hindent.appendPiece (piece_slot hslot)).unbroken, ?_⟩
  obtain ⟨placement, -, rfl⟩ := slot_ok h hslot
  refine ⟨placement, ?_⟩
  rw [← hstart]
  simp only [String.append_assoc]
  rfl

theorem Ratatui.isSlot (theme : Theme) {b : Behavior} (h : b.widget.dataSource ≠ some "") :
    IsSlot .ratatui b.widget ((Ratatui.slot theme b).map ("                " ++ ·)) := by
  have hindent : Plain "                " := plain_ofList (by decide)
  obtain ⟨placement, -, hslot⟩ := slot_eq theme h
  refine ⟨fun line hline => ?_, placement.map ("                " ++ ·), ?_⟩
  · obtain ⟨line, hmem, rfl⟩ := List.mem_map.1 hline
    exact hindent.piece.unbroken.append (unbroken_slot theme b line hmem)
  · have hfieldStart : "                    source: " = "                " ++ "    source: " := by simp
    have hboxStart : "                    widget: Box::new(" = "                " ++ "    widget: Box::new(" := by simp
    have hslotStart : "                Slot \x7b" = "                " ++ "Slot \x7b" := by simp
    have hslotEnd : "                \x7d," = "                " ++ "\x7d," := by simp
    rw [hslot, hfieldStart, hboxStart, hslotStart, hslotEnd, List.map_append, List.map_append]
    simp [String.append_assoc, Behavior.typeName, -String.reduceAppend]

theorem BubbleTea.isSlot (theme : Theme) {b : Behavior} (h : b.widget.dataSource ≠ some "") :
    IsSlot .bubbleTea b.widget
      [String.ofList (tabIndentLine ("            " ++ BubbleTea.slot theme b ++ ",").toList)] := by
  have hindent : Plain "            " := plain_ofList (by decide)
  have hend : Plain "," := plain_ofList (by decide)
  have hbrace : "            " ++ "\x7b" = "            \x7b" := by simp
  have hstart (rest : String) : String.ofList (tabIndentLine ("            \x7b" ++ rest).toList) =
      "\t\t\t\x7b" ++ rest := ofList_tabIndentLine (by decide) (by decide) rest
  have hclosing : "()\x7d," = "()" ++ ("\x7d" ++ ",") := by simp
  have hunbroken := unbroken_tabIndentLine
    ((hindent.appendPiece (piece_slot theme b)).appendPlain hend).unbroken
  obtain ⟨placement, -, hslot⟩ := slot_eq theme h
  refine ⟨List.forall_mem_singleton.2 hunbroken, placement, ?_⟩
  have hline : "            " ++ BubbleTea.slot theme b ++ "," = "            \x7b" ++
      ((b.widget.dataSource.map fun id => "source: " ++ BubbleTea.text id ++ ", ").getD "" ++ "x: " ++
        placement ++ ", " ++ "widget: New" ++ Name.typeName b.widget.id ++ "()\x7d,") := by
    rw [hslot, ← hbrace, hclosing]
    simp only [String.append_assoc]
    rfl
  rw [hline, hstart]
  simp only [String.append_assoc]

/-- The slots of an application, among its other lines. -/
theorem showsSlots_of_infix {f : Framework} {ws : List Widget} {slots : List (List String)}
    (hslots : List.Forall₂ (IsSlot f) ws slots) {items : List String}
    (h : [slotsOpening f] ++ slots.flatten ++ [slotsClosing f] <:+: items) (hopening : Plain (slotsOpening f))
    (hclosing : Plain (slotsClosing f)) : ShowsSlots f ws (joinLines items) :=
  ⟨ws, slots, .refl _, hslots, infix_lines_joinLines h (oneLine_slots hopening hclosing hslots) (by simp)⟩

theorem Blessed.app_ok {s : Scene} {text : String} (h : Blessed.app s = .ok text) :
    ∃ slots before after, s.behaviors.mapM (Blessed.slot s.design.settings) = .ok slots ∧
      text = joinLines (before ++ (["", "function createSlots(screen) \x7b"] ++ ["  return ["]) ++
        slots.map ("    " ++ ·) ++ ("  ];" :: after)) := by
  obtain ⟨slots, hslots, h⟩ := bind_ok_iff.1 h
  cases h
  exact ⟨slots, _, _, hslots, congrArg joinLines (List.append_assoc _ _ _)⟩

theorem Blessed.showsSlots {s : Scene} (hfilled : ∀ b ∈ s.behaviors, b.widget.dataSource ≠ some "") {text : String}
    (h : Blessed.app s = .ok text) : ShowsSlots .blessed (s.behaviors.map (·.widget)) text := by
  have hopening : Plain "  return [" := plain_ofList (by decide)
  have hclosing : Plain "  ];" := plain_ofList (by decide)
  obtain ⟨lines, before, after, hlines, rfl⟩ := app_ok h
  have hslots : List.Forall₂ (IsSlot .blessed) (s.behaviors.map (·.widget))
      (lines.map fun line => ["    " ++ line]) := by
    rw [List.forall₂_map_left_iff, List.forall₂_map_right_iff]
    exact (forall₂_of_mapM_ok hlines).imp fun b line hline => isSlot (hfilled b hline.1) hline.2
  refine showsSlots_of_infix hslots ?_ hopening hclosing
  rw [← List.flatMap_def, ← List.map_eq_flatMap]
  exact infix_framed _ _ _ _ _ _

/-- The lines of the slots are among those of the application. -/
theorem Ratatui.infix_appLines (s : Scene) :
    ["            slots: vec!["] ++
      (s.behaviors.flatMap (Ratatui.slot s.design.settings.theme)).map ("                " ++ ·) ++
      ["            ],"] <:+: Ratatui.appLines s := by
  unfold Ratatui.appLines
  exact ((((infix_framed _ ["        Self \x7b"] _ _ _ []).trans (List.prefix_append _ _).isInfix).trans
    (List.prefix_append _ _).isInfix).trans (List.prefix_append _ _).isInfix).trans
      (List.prefix_append _ _).isInfix

theorem Ratatui.showsSlots {s : Scene} (hfilled : ∀ b ∈ s.behaviors, b.widget.dataSource ≠ some "") :
    ShowsSlots .ratatui (s.behaviors.map (·.widget)) (Ratatui.app s) := by
  have hopening : Plain "            slots: vec![" := plain_ofList (by decide)
  have hclosing : Plain "            ]," := plain_ofList (by decide)
  have hslots : List.Forall₂ (IsSlot .ratatui) (s.behaviors.map (·.widget))
      (s.behaviors.map fun b => (Ratatui.slot s.design.settings.theme b).map ("                " ++ ·)) := by
    rw [List.forall₂_map_left_iff, List.forall₂_map_right_iff, List.forall₂_same]
    exact fun b hb => isSlot s.design.settings.theme (hfilled b hb)
  refine showsSlots_of_infix hslots ?_ hopening hclosing
  rw [← List.flatMap_def, ← List.map_flatMap]
  exact (((infix_appLines s).trans (List.suffix_append _ _).isInfix).trans (List.prefix_append _ _).isInfix).trans
    ((List.prefix_append _ _).isInfix.trans (List.prefix_append _ _).isInfix)

/-- The lines of the slots are among those of the model. -/
theorem BubbleTea.infix_modelLines (s : Scene) :
    ["        slots: []*widgetSlot\x7b"] ++
      (drawingOrder s).map (fun b => "            " ++ BubbleTea.slot s.design.settings.theme b ++ ",") ++
      ["        \x7d,"] <:+: BubbleTea.modelLines s := by
  unfold BubbleTea.modelLines
  exact ((infix_framed _ ["    return model\x7b"] _ _ _ []).trans (List.prefix_append _ _).isInfix).trans
    (List.prefix_append _ _).isInfix

theorem BubbleTea.showsSlots {s : Scene} (hfilled : ∀ b ∈ s.behaviors, b.widget.dataSource ≠ some "") :
    ShowsSlots .bubbleTea (s.behaviors.map (·.widget)) (BubbleTea.app s) := by
  have hopening : Plain "        slots: []*widgetSlot\x7b" := plain_ofList (by decide)
  have hclosing : Plain "        \x7d," := plain_ofList (by decide)
  have hopeningTabs : String.ofList (tabIndentLine ("        slots: []*widgetSlot\x7b" ++ "").toList) =
      "\t\tslots: []*widgetSlot\x7b" ++ "" := ofList_tabIndentLine (by decide) (by decide) ""
  have hclosingTabs : String.ofList (tabIndentLine ("        \x7d," ++ "").toList) = "\t\t\x7d," ++ "" :=
    ofList_tabIndentLine (by decide) (by decide) ""
  rw [String.append_empty, String.append_empty] at hopeningTabs hclosingTabs
  have hindent : Plain "            " := plain_ofList (by decide)
  have hend : Plain "," := plain_ofList (by decide)
  have hperm : (drawingOrder s).Perm s.behaviors := List.mergeSort_perm _ _
  have hdrawn : ∀ b ∈ drawingOrder s, b.widget.dataSource ≠ some "" := fun b hb => hfilled b (hperm.subset hb)
  let raw (b : Behavior) : String := "            " ++ BubbleTea.slot s.design.settings.theme b ++ ","
  let tabbed (line : String) : String := String.ofList (tabIndentLine line.toList)
  have hslots : List.Forall₂ (IsSlot .bubbleTea) ((drawingOrder s).map (·.widget))
      ((drawingOrder s).map fun b => [tabbed (raw b)]) := by
    rw [List.forall₂_map_left_iff, List.forall₂_map_right_iff, List.forall₂_same]
    exact fun b hb => isSlot s.design.settings.theme (hdrawn b hb)
  have hunbroken : ∀ line ∈ (drawingOrder s).map raw, Unbroken line := by
    intro line hline
    obtain ⟨b, hb, rfl⟩ := List.mem_map.1 hline
    exact ((hindent.appendPiece (piece_slot _ b)).appendPlain hend).unbroken
  have hframe : [slotsOpening .bubbleTea] ++ ((drawingOrder s).map fun b => [tabbed (raw b)]).flatten ++
      [slotsClosing .bubbleTea] = (["        slots: []*widgetSlot\x7b"] ++ (drawingOrder s).map raw ++
        ["        \x7d,"]).map tabbed := by
    rw [List.map_append, List.map_append, List.map_singleton, List.map_singleton, ← List.flatMap_def,
      ← List.map_eq_flatMap, List.map_map]
    have hfirst : tabbed "        slots: []*widgetSlot\x7b" = slotsOpening .bubbleTea := hopeningTabs
    have hlast : tabbed "        \x7d," = slotsClosing .bubbleTea := hclosingTabs
    rw [hfirst, hlast]
    rfl
  refine ⟨_, _, hperm.map _, hslots, ?_⟩
  rw [hframe, BubbleTea.app, lines_tabIndent_of_lines rfl]
  refine List.IsInfix.map _ (infix_lines_joinLines ?_ (oneLine_framed hopening hclosing hunbroken) (by simp))
  exact (((infix_modelLines s).trans (List.suffix_append _ _).isInfix).trans (List.prefix_append _ _).isInfix).trans
    ((List.prefix_append _ _).isInfix.trans (List.prefix_append _ _).isInfix)

/-! ## Subscribers -/

namespace Textual

/-- What the table says of the widgets that have been gone through: each source that one of them names has one
entry, with the ids of all widgets it feeds in their order. -/
structure Feeds (table : List (String × List String)) (bs : List Behavior) : Prop where
  nodup : (table.map (·.1)).Nodup
  named : ∀ source, source ∈ table.map (·.1) ↔ ∃ b ∈ bs, b.widget.dataSource = some source
  fed : ∀ entry ∈ table, entry.2 = (bs.filter (·.widget.dataSource = some entry.1)).map (·.identifier)

theorem sources_subscribe (source widget : String) (table : List (String × List String)) :
    (subscribe source widget table).map (·.1) =
      table.map (·.1) ++ if source ∈ table.map (·.1) then [] else [source] := by
  fun_induction subscribe source widget table with
  | case1 => rfl
  | case2 ws rest => simp
  | case3 s ws rest hs ih =>
    have hmem : source ∈ ((s, ws) :: rest).map (·.1) ↔ source ∈ rest.map (·.1) := by
      rw [List.map_cons, List.mem_cons, or_iff_right (Ne.symm hs)]
    rw [List.map_cons, ih, List.map_cons, List.cons_append]
    simp only [List.map_cons] at hmem
    simp only [hmem]

/-- An entry of the table after one more widget. -/
theorem mem_subscribe {source widget : String} {table : List (String × List String)}
    (hnodup : (table.map (·.1)).Nodup) {entry : String × List String} (h : entry ∈ subscribe source widget table) :
    (entry.1 ≠ source ∧ entry ∈ table) ∨
      entry.1 = source ∧ ∃ ws, entry.2 = ws ++ [widget] ∧
        ((source, ws) ∈ table ∨ ws = [] ∧ source ∉ table.map (·.1)) := by
  fun_induction subscribe source widget table with
  | case1 =>
    rw [List.mem_singleton.1 h]
    exact .inr ⟨rfl, [], rfl, .inr ⟨rfl, List.not_mem_nil⟩⟩
  | case2 ws rest =>
    rw [List.map_cons, List.nodup_cons] at hnodup
    rcases List.mem_cons.1 h with rfl | hrest
    · exact .inr ⟨rfl, ws, rfl, .inl List.mem_cons_self⟩
    · refine .inl ⟨?_, List.mem_cons_of_mem _ hrest⟩
      rintro rfl
      exact hnodup.1 (List.mem_map.2 ⟨entry, hrest, rfl⟩)
  | case3 s ws rest hs ih =>
    rw [List.map_cons, List.nodup_cons] at hnodup
    rcases List.mem_cons.1 h with rfl | h
    · exact .inl ⟨hs, List.mem_cons_self⟩
    · rcases ih hnodup.2 h with ⟨hne, hmem⟩ | ⟨heq, ws', hws, hmem | ⟨hnil, hno⟩⟩
      · exact .inl ⟨hne, List.mem_cons_of_mem _ hmem⟩
      · exact .inr ⟨heq, ws', hws, .inl (List.mem_cons_of_mem _ hmem)⟩
      · refine .inr ⟨heq, ws', hws, .inr ⟨hnil, ?_⟩⟩
        rw [List.map_cons, List.mem_cons, not_or]
        exact ⟨Ne.symm hs, hno⟩

/-- One more widget that a source feeds. -/
theorem Feeds.subscribe {table : List (String × List String)} {bs : List Behavior} (h : Feeds table bs)
    {b : Behavior} {source : String} (hsource : b.widget.dataSource = some source) :
    Feeds (Textual.subscribe source b.identifier table) (bs ++ [b]) := by
  refine ⟨?_, fun id => ?_, fun entry hentry => ?_⟩
  · rw [sources_subscribe]
    split
    · rw [List.append_nil]
      exact h.nodup
    · rename_i hnew
      exact List.nodup_append.2 ⟨h.nodup, List.pairwise_singleton _ _, fun a ha c hc hac =>
        hnew (List.mem_singleton.1 hc ▸ hac ▸ ha)⟩
  · have hlast : (∃ c ∈ bs ++ [b], c.widget.dataSource = some id) ↔
        (∃ c ∈ bs, c.widget.dataSource = some id) ∨ source = id := by
      simp [or_and_right, exists_or, hsource]
    rw [sources_subscribe, List.mem_append, hlast, ← h.named]
    split
    · rename_i hold
      rw [List.mem_nil_iff, or_false]
      exact (or_iff_left_of_imp fun heq => heq ▸ hold).symm
    · rw [List.mem_singleton, eq_comm]
  · have hfilter (id : String) : ((bs ++ [b]).filter (·.widget.dataSource = some id)) =
        bs.filter (·.widget.dataSource = some id) ++ if source = id then [b] else [] := by
      simp [List.filter_append, List.filter_cons, hsource]
    rw [hfilter, List.map_append]
    rcases mem_subscribe h.nodup hentry with ⟨hne, hmem⟩ | ⟨heq, ws, hws, hmem | ⟨rfl, hnew⟩⟩
    · rw [h.fed entry hmem, if_neg (Ne.symm hne)]
      simp
    · have hold : ws = (bs.filter (·.widget.dataSource = some source)).map (·.identifier) := h.fed _ hmem
      rw [hws, heq, if_pos rfl, hold]
      rfl
    · rw [hws, heq, if_pos rfl]
      have hnone : bs.filter (·.widget.dataSource = some source) = [] := by
        rw [List.filter_eq_nil_iff]
        intro c hc hnamed
        exact hnew ((h.named source).2 ⟨c, hc, by simpa using hnamed⟩)
      rw [hnone]
      rfl

/-- One more widget that no source feeds. -/
theorem Feeds.skip {table : List (String × List String)} {bs : List Behavior} (h : Feeds table bs)
    {b : Behavior} (hsource : b.widget.dataSource = none) : Feeds table (bs ++ [b]) := by
  refine ⟨h.nodup, fun id => ?_, fun entry hentry => ?_⟩
  · rw [h.named]
    simp [or_and_right, exists_or, hsource]
  · rw [h.fed entry hentry]
    simp [hsource]

/-- The widgets still to come are added one by one to what the table says. -/
theorem Feeds.foldl {table : List (String × List String)} {done : List Behavior} (h : Feeds table done)
    (bs : List Behavior) :
    Feeds (bs.foldl (fun table b =>
      match b.widget.dataSource with
      | some source => Textual.subscribe source b.identifier table
      | none => table) table) (done ++ bs) := by
  induction bs generalizing table done with
  | nil => rwa [List.append_nil]
  | cons b bs ih =>
    rw [List.foldl_cons, List.append_cons]
    split
    · rename_i source hsource
      exact ih (h.subscribe hsource)
    · rename_i hsource
      exact ih (h.skip hsource)

/-- The table of a scene says of each source which widgets it feeds. -/
theorem feeds_subscribers (s : Scene) : Feeds (subscribers s) s.behaviors := by
  have hempty : Feeds [] [] := ⟨List.nodup_nil, by simp, nofun⟩
  exact hempty.foldl s.behaviors

theorem showsSubscribers {s : Scene} (h : s.hasDataSources = true) : ShowsSubscribers (subscribers s) (app s) := by
  have hopening : Plain "        self.subscribers = " := plain_ofList (by decide)
  have hline : Piece ("        self.subscribers = " ++
      literal (.object ((subscribers s).map fun (source, ids) => (source, texts ids)))) :=
    hopening.appendPiece (Json.piece_sourceLine _)
  have hwiring : ["        self.subscribers = " ++
      literal (.object ((subscribers s).map fun (source, ids) => (source, texts ids)))] <:+: wiringLines s :=
    ⟨[_, _, _, _, _], [], rfl⟩
  have hlines : wiringLines s <:+: appLines s := by
    rw [appLines, if_pos h]
    exact ((List.suffix_append _ _).isInfix.trans (List.prefix_append _ _).isInfix).trans
      (List.prefix_append _ _).isInfix
  exact (infix_lines_joinLines (hwiring.trans hlines) (List.forall_mem_singleton.2 hline.unbroken.oneLine)
    (List.cons_ne_nil _ _)).subset List.mem_cons_self

end Textual

end DashboardCompiler
