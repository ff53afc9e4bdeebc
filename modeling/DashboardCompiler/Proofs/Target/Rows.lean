import DashboardCompiler.Proofs.Except
import DashboardCompiler.Proofs.Json.Writer
import DashboardCompiler.Proofs.Text.Naming
import DashboardCompiler.Target.All

/-!
# Rows and slots

The source table has one row for each source, and the application of three of the targets has one slot for
each widget. Both are put together from fixed text, numbers, names and quoted texts, so neither an id nor an
address, a command, a header or a static value can break their lines.
-/

namespace DashboardCompiler

open Code Text

/-! ## Values -/

namespace Literal

theorem plain_ofDouble (x : Double) : Plain (ofDouble x) := by
  have hzero : Plain "0.0" := plain_ofList (by decide)
  unfold ofDouble
  split
  · exact x.plain_text
  · exact hzero

theorem plain_ofNumber {n : Number} {text : String} (h : ofNumber n = .ok text) : Plain text := by
  obtain ⟨x, -, h⟩ := bind_ok_iff.1 h
  cases h
  exact plain_ofDouble x

theorem plain_float (n : Number) : Plain (float n) := by
  cases n with
  | int n => exact plain_ofDouble _
  | double x => exact plain_ofDouble x

theorem plain_flag (b : Bool) : Plain (flag b) := by
  cases b with
  | false => exact Json.plain_false
  | true => exact Json.plain_true

end Literal

theorem plain_toString (n : Nat) : Plain (toString n) := Notation.plain_digitText n

/-- A fixed start, a piece, and a fixed end. -/
theorem piece_between {before middle after : String} (hbefore : Plain before) (hmiddle : Piece middle)
    (hafter : Plain after) : Piece (before ++ middle ++ after) :=
  (hbefore.appendPiece hmiddle).appendPlain hafter

theorem piece_document (s : String) : Piece (documentQuoted s) := (quotation_documentQuoted s).piece

theorem piece_source (s : String) : Piece (sourceQuoted s) := (quotation_sourceQuoted s).piece

theorem piece_rust (s : String) : Piece (rustQuoted s) := (quotation_rustQuoted s).piece

theorem plain_comma : Plain ", " := plain_ofList (by decide)

theorem plain_colon : Plain ": " := plain_ofList (by decide)

/-- A quoted key, a colon, and a value. -/
theorem piece_entry {key value : String} (hkey : Piece key) (hvalue : Piece value) :
    Piece (key ++ ": " ++ value) :=
  hkey.separated plain_colon (by simp) hvalue

/-- Pieces with commas between them. -/
theorem piece_list {items : List String} (h : ∀ s ∈ items, Piece s) : Piece (joinWith ", " items) :=
  piece_joinWith plain_comma (by simp) h

/-! ## Rows -/

theorem Textual.piece_sourceRow (s : DataSource) : Piece (Textual.sourceRow s) := by
  have hindent : Plain "    " := plain_ofList (by decide)
  have hend : Plain "," := plain_ofList (by decide)
  exact (piece_entry (hindent.appendPiece (piece_source s.id)) (Json.piece_sourceLine _)).appendPlain hend

theorem Blessed.piece_sourceRow (s : DataSource) : Piece (Blessed.sourceRow s) := by
  have hindent : Plain "  " := plain_ofList (by decide)
  have hend : Plain "," := plain_ofList (by decide)
  exact (piece_entry (hindent.appendPiece (piece_document s.id)) (Json.piece_documentLine _)).appendPlain hend

namespace BubbleTea

mutual

theorem piece_value : ∀ {v : Json} {text : String}, value v = .ok text → Piece text
  | .null, text, h => by
    have hnil : Plain "nil" := plain_ofList (by decide)
    rw [value] at h
    cases h
    exact hnil.piece
  | .bool b, text, h => by
    rw [value] at h
    cases h
    exact (Literal.plain_flag b).piece
  | .number n, text, h => by
    rw [value] at h
    exact (Literal.plain_ofNumber h).piece
  | .text s, text, h => by
    rw [value] at h
    cases h
    exact piece_document s
  | .list items, text, h => by
    have hopening : Plain "[]interface\x7b\x7d\x7b" := plain_ofList (by decide)
    have hclosing : Plain "\x7d" := plain_ofList (by decide)
    rw [value] at h
    obtain ⟨texts, htexts, h⟩ := bind_ok_iff.1 h
    cases h
    exact piece_between hopening (piece_list (pieces_valueItems htexts)) hclosing
  | .object fields, text, h => by
    have hopening : Plain "map[string]interface\x7b\x7d\x7b" := plain_ofList (by decide)
    have hclosing : Plain "\x7d" := plain_ofList (by decide)
    rw [value] at h
    obtain ⟨texts, htexts, h⟩ := bind_ok_iff.1 h
    cases h
    exact piece_between hopening (piece_list (pieces_valueFields htexts)) hclosing

theorem pieces_valueItems :
    ∀ {items : List Json} {texts : List String}, valueItems items = .ok texts → ∀ s ∈ texts, Piece s
  | [], texts, h => by
    rw [valueItems] at h
    cases h
    exact nofun
  | item :: rest, texts, h => by
    rw [valueItems] at h
    obtain ⟨first, hfirst, h⟩ := bind_ok_iff.1 h
    obtain ⟨others, hothers, h⟩ := bind_ok_iff.1 h
    cases h
    exact List.forall_mem_cons.2 ⟨piece_value hfirst, pieces_valueItems hothers⟩

theorem pieces_valueFields :
    ∀ {fields : List (String × Json)} {texts : List String}, valueFields fields = .ok texts →
      ∀ s ∈ texts, Piece s
  | [], texts, h => by
    rw [valueFields] at h
    cases h
    exact nofun
  | (key, item) :: rest, texts, h => by
    rw [valueFields] at h
    obtain ⟨first, hfirst, h⟩ := bind_ok_iff.1 h
    obtain ⟨others, hothers, h⟩ := bind_ok_iff.1 h
    cases h
    exact List.forall_mem_cons.2
      ⟨piece_entry (piece_document key) (piece_value hfirst), pieces_valueFields hothers⟩

end

theorem pieces_headerFields (headers : Option (List (String × String))) :
    ∀ s ∈ headerFields headers, Piece s := by
  have hopening : Plain "Headers: map[string]string\x7b" := plain_ofList (by decide)
  have hclosing : Plain "\x7d" := plain_ofList (by decide)
  unfold headerFields
  split
  · exact nofun
  · exact nofun
  · rename_i headers
    refine List.forall_mem_singleton.2 (piece_between hopening (piece_list fun s hs => ?_) hclosing)
    obtain ⟨header, -, rfl⟩ := List.mem_map.1 hs
    exact piece_entry (piece_document _) (piece_document _)

theorem pieces_kindFields {c : SourceConfig} {texts : List String} (h : kindFields c = .ok texts) :
    ∀ s ∈ texts, Piece s := by
  have hvalue : Plain "Value: " := plain_ofList (by decide)
  have hmetric : Plain "Metric: " := plain_ofList (by decide)
  have hurl : Plain "URL: " := plain_ofList (by decide)
  have hmethod : Plain "Method: " := plain_ofList (by decide)
  have hpath : Plain "Path: " := plain_ofList (by decide)
  have hwatch : Plain "Watch: " := plain_ofList (by decide)
  have hcommand : Plain "Command: " := plain_ofList (by decide)
  cases c with
  | static v =>
    obtain ⟨text, htext, h⟩ := bind_ok_iff.1 h
    cases h
    exact List.forall_mem_singleton.2 (hvalue.appendPiece (piece_value htext))
  | systemMetric metric interval =>
    cases h
    exact List.forall_mem_singleton.2 (hmetric.appendPiece (piece_document _))
  | api config =>
    cases h
    exact List.forall_mem_cons.2 ⟨hurl.appendPiece (piece_document _),
      List.forall_mem_cons.2 ⟨hmethod.appendPiece (piece_document _), pieces_headerFields _⟩⟩
  | file path watch =>
    cases h
    exact List.forall_mem_cons.2 ⟨hpath.appendPiece (piece_document _),
      List.forall_mem_singleton.2 (hwatch.append (Literal.plain_flag _)).piece⟩
  | command line interval =>
    cases h
    exact List.forall_mem_singleton.2 (hcommand.appendPiece (piece_document _))

theorem pieces_intervalFields (c : SourceConfig) : ∀ s ∈ intervalFields c, Piece s := by
  have hinterval : Plain "Interval: " := plain_ofList (by decide)
  have hunit : Plain " * time.Millisecond" := plain_ofList (by decide)
  unfold intervalFields
  split
  · split
    · exact nofun
    · exact List.forall_mem_singleton.2 ((hinterval.append (Number.plain_intText _)).append hunit).piece
  · exact nofun

/-- A row: the id of the source, and fields that are pieces. -/
theorem sourceRow_ok {s : DataSource} {row : String} (h : sourceRow s = .ok row) :
    ∃ fields, (∀ field ∈ fields, Piece field) ∧
      row = "        \x7bID: " ++ text s.id ++ ", Config: SourceConfig\x7b" ++ commaList fields ++ "\x7d\x7d," := by
  have htype : Plain "Type: " := plain_ofList (by decide)
  obtain ⟨texts, htexts, h⟩ := bind_ok_iff.1 h
  cases h
  refine ⟨_, fun field hfield => ?_, rfl⟩
  rcases List.mem_append.1 hfield with hfield | hfield
  · rcases List.mem_append.1 hfield with hfield | hfield
    · rw [List.mem_singleton.1 hfield]
      exact htype.appendPiece (piece_document _)
    · exact pieces_kindFields htexts field hfield
  · exact pieces_intervalFields _ field hfield

theorem piece_sourceRow {s : DataSource} {row : String} (h : sourceRow s = .ok row) : Piece row := by
  have hindent : Plain "        \x7bID: " := plain_ofList (by decide)
  have hconfig : Plain ", Config: SourceConfig\x7b" := plain_ofList (by decide)
  have hend : Plain "\x7d\x7d," := plain_ofList (by decide)
  obtain ⟨fields, hfields, rfl⟩ := sourceRow_ok h
  exact ((hindent.appendPiece (piece_document s.id)).separated hconfig (by simp)
    (piece_list hfields)).appendPlain hend

end BubbleTea

namespace Ratatui

theorem plain_millis (n : Int) : Plain (millis n) := by
  have hopening : Plain "Duration::from_millis(" := plain_ofList (by decide)
  have hclosing : Plain ")" := plain_ofList (by decide)
  exact (hopening.append (Number.plain_intText n)).append hclosing

theorem piece_pair (p : String × String) : Piece (pair p) := by
  have hopening : Plain "(" := plain_ofList (by decide)
  have hclosing : Plain ")" := plain_ofList (by decide)
  exact ((hopening.appendPiece (piece_rust p.1)).separated plain_comma (by simp) (piece_rust p.2)).appendPlain
    hclosing

theorem piece_variant (c : SourceConfig) : Piece (variant c) := by
  have hinterval : Plain ", interval: " := plain_ofList (by decide)
  have hend : Plain " \x7d" := plain_ofList (by decide)
  cases c with
  | static v =>
    have hopening : Plain "SourceConfig::Static \x7b value: " := plain_ofList (by decide)
    have hjson : Plain "json!(" := plain_ofList (by decide)
    have hclosing : Plain ")" := plain_ofList (by decide)
    exact piece_between hopening (piece_between hjson (Json.piece_documentLine v) hclosing) hend
  | systemMetric metric interval =>
    have hopening : Plain "SourceConfig::SystemMetric \x7b metric: " := plain_ofList (by decide)
    exact ((piece_between hopening (piece_rust _) hinterval).appendPlain (plain_millis _)).appendPlain hend
  | api config =>
    have hopening : Plain "SourceConfig::Api \x7b url: " := plain_ofList (by decide)
    have hmethod : Plain ", method: " := plain_ofList (by decide)
    have hheaders : Plain ", headers: vec![" := plain_ofList (by decide)
    have hlater : Plain "], interval: " := plain_ofList (by decide)
    have hpairs : Piece (commaList ((config.headers.getD []).map pair)) := by
      refine piece_list fun s hs => ?_
      obtain ⟨p, -, rfl⟩ := List.mem_map.1 hs
      exact piece_pair p
    have hrequest := (hopening.appendPiece (piece_rust config.url)).separated hmethod (by simp)
      (piece_rust (Named.name config.method))
    exact (((hrequest.separated hheaders (by simp) hpairs).appendPlain hlater).appendPlain
      (plain_millis _)).appendPlain hend
  | file path watch =>
    have hopening : Plain "SourceConfig::File \x7b path: " := plain_ofList (by decide)
    have hwatch : Plain ", watch: " := plain_ofList (by decide)
    exact ((piece_between hopening (piece_rust path) hwatch).appendPlain (Literal.plain_flag _)).appendPlain hend
  | command line interval =>
    have hopening : Plain "SourceConfig::Command \x7b command: " := plain_ofList (by decide)
    exact ((piece_between hopening (piece_rust line) hinterval).appendPlain (plain_millis _)).appendPlain hend

theorem piece_sourceRow (s : DataSource) : Piece (sourceRow s) := by
  have hindent : Plain "        (" := plain_ofList (by decide)
  have hend : Plain ")," := plain_ofList (by decide)
  exact ((hindent.appendPiece (piece_rust s.id)).separated plain_comma (by simp)
    (piece_variant s.config)).appendPlain hend

end Ratatui

/-! ## Slots -/

namespace BubbleTea

theorem piece_border (style : BorderStyle) : Piece (border style) := by
  cases style with
  | single => exact piece_ofList (by decide)
  | double => exact piece_ofList (by decide)
  | rounded => exact piece_ofList (by decide)
  | heavy => exact piece_ofList (by decide)
  | ascii =>
    have hfirst : Piece "lipgloss.Border\x7bTop: \"-\", Bottom: \"-\", Left: \"|\", Right: \"|\", " :=
      piece_ofList (by decide)
    have hsecond :
        Piece "TopLeft: \"+\", TopRight: \"+\", BottomLeft: \"+\", BottomRight: \"+\"\x7d" :=
      piece_ofList (by decide)
    have hstart : Unquoted
        ("TopLeft: \"+\", TopRight: \"+\", BottomLeft: \"+\", BottomRight: \"+\"\x7d" : String).toList :=
      unquoted_cons.2 (by decide)
    exact hfirst.append hsecond hstart
  | none => exact piece_ofList (by decide)

theorem piece_borderOf (w : Widget) : Piece (borderOf w) := by
  unfold borderOf
  split
  · exact piece_border _
  · exact piece_border _

theorem piece_style (theme : Theme) (b : Behavior) :
    Piece ("style: boxStyle(" ++ borderOf b.widget ++ ", " ++ text (Display.ansiColor (b.colors theme).border) ++
      ", " ++ text (Display.ansiColor (b.colors theme).text) ++ ", " ++ int b.widget.size.width ++ ", " ++
      int b.widget.size.height ++ ")") := by
  have hopening : Plain "style: boxStyle(" := plain_ofList (by decide)
  have hclosing : Plain ")" := plain_ofList (by decide)
  have hcolors := ((hopening.appendPiece (piece_borderOf b.widget)).separated plain_comma (by simp)
    (piece_document (Display.ansiColor (b.colors theme).border))).separated plain_comma (by simp)
    (piece_document (Display.ansiColor (b.colors theme).text))
  exact (((((hcolors.appendPlain plain_comma).appendPlain (Number.plain_intText _)).appendPlain
    plain_comma).appendPlain (Number.plain_intText _)).appendPlain hclosing)

/-- A slot: the source of its widget if it has one, where the widget stands, and the widget. -/
theorem slot_eq (theme : Theme) {b : Behavior} (h : b.widget.dataSource ≠ some "") :
    ∃ placement, Piece placement ∧
      slot theme b = "\x7b" ++ (b.widget.dataSource.map fun id => "source: " ++ text id ++ ", ").getD "" ++ "x: " ++
        placement ++ ", " ++ "widget: New" ++ b.typeName ++ "()" ++ "\x7d" := by
  have hy : Plain "y: " := plain_ofList (by decide)
  have hwidth : Plain "width: " := plain_ofList (by decide)
  refine ⟨commaList
    [int b.widget.position.x, "y: " ++ int b.widget.position.y, "width: " ++ int b.widget.size.width,
      "style: boxStyle(" ++ borderOf b.widget ++ ", " ++ text (Display.ansiColor (b.colors theme).border) ++
        ", " ++ text (Display.ansiColor (b.colors theme).text) ++ ", " ++ int b.widget.size.width ++ ", " ++
        int b.widget.size.height ++ ")"], ?_, ?_⟩
  · refine piece_list (List.forall_mem_cons.2 ⟨(Number.plain_intText _).piece, List.forall_mem_cons.2
      ⟨(hy.append (Number.plain_intText _)).piece, List.forall_mem_cons.2
        ⟨(hwidth.append (Number.plain_intText _)).piece, List.forall_mem_singleton.2 (piece_style theme b)⟩⟩⟩)
  · unfold slot
    cases hsource : b.widget.dataSource with
    | none => simp [hsource, commaList, joinWith, String.append_assoc, -String.reduceAppend]
    | some id =>
      have hfilled : id.isEmpty = false := by
        rw [hsource] at h
        simpa using h
      simp [hsource, commaList, joinWith, String.append_assoc, hfilled, -String.reduceAppend]

theorem piece_slot (theme : Theme) (b : Behavior) : Piece (slot theme b) := by
  have hopening : Plain "\x7b" := plain_ofList (by decide)
  have hclosing : Plain "\x7d" := plain_ofList (by decide)
  have hsource : Plain "source: " := plain_ofList (by decide)
  have hx : Plain "x: " := plain_ofList (by decide)
  have hy : Plain "y: " := plain_ofList (by decide)
  have hwidth : Plain "width: " := plain_ofList (by decide)
  have hnew : Plain "widget: New" := plain_ofList (by decide)
  have hcall : Plain "()" := plain_ofList (by decide)
  refine piece_between hopening (piece_list (List.forall_mem_append.2 ⟨?_, ?_⟩)) hclosing
  · cases b.widget.dataSource with
    | none => exact nofun
    | some id =>
      dsimp only
      split
      · exact nofun
      · exact List.forall_mem_singleton.2 (hsource.appendPiece (piece_document id))
  · exact List.forall_mem_cons.2 ⟨(hx.append (Number.plain_intText _)).piece, List.forall_mem_cons.2
      ⟨(hy.append (Number.plain_intText _)).piece, List.forall_mem_cons.2
        ⟨(hwidth.append (Number.plain_intText _)).piece, List.forall_mem_cons.2
          ⟨piece_style theme b, List.forall_mem_singleton.2
            ((hnew.append (Name.plain_typeName _)).append hcall).piece⟩⟩⟩⟩

end BubbleTea

namespace Ratatui

theorem plain_border (style : BorderStyle) : Plain (border style).1 ∧ Plain (border style).2 := by
  have hall : Plain "Borders::ALL" := plain_ofList (by decide)
  have hnone : Plain "Borders::NONE" := plain_ofList (by decide)
  have hsingle : Plain "BorderType::Plain" := plain_ofList (by decide)
  have hdouble : Plain "BorderType::Double" := plain_ofList (by decide)
  have hrounded : Plain "BorderType::Rounded" := plain_ofList (by decide)
  have hthick : Plain "BorderType::Thick" := plain_ofList (by decide)
  cases style with
  | single => exact ⟨hall, hsingle⟩
  | double => exact ⟨hall, hdouble⟩
  | rounded => exact ⟨hall, hrounded⟩
  | heavy => exact ⟨hall, hthick⟩
  | ascii => exact ⟨hall, hsingle⟩
  | none => exact ⟨hnone, hsingle⟩

theorem plain_borderOf (w : Widget) : Plain (borderOf w).1 ∧ Plain (borderOf w).2 := by
  unfold borderOf
  split
  · exact plain_border _
  · exact plain_border _

theorem plain_namedColor {name color : String} (h : namedColors.lookup name = some color) : Plain color := by
  obtain ⟨before, after, hcolors, -⟩ := List.lookup_eq_some_iff.1 h
  have hmem : (name, color) ∈ namedColors := by simp [hcolors]
  simp only [namedColors, List.mem_cons, Prod.mk.injEq, List.not_mem_nil, or_false] at hmem
  rcases hmem with ⟨-, rfl⟩ | ⟨-, rfl⟩ | ⟨-, rfl⟩ | ⟨-, rfl⟩ | ⟨-, rfl⟩ | ⟨-, rfl⟩ | ⟨-, rfl⟩ | ⟨-, rfl⟩ |
    ⟨-, rfl⟩ | ⟨-, rfl⟩
  all_goals exact plain_ofList (by decide)

theorem plain_color (name : String) : Plain (color name) := by
  have hopening : Plain "Color::Rgb(" := plain_ofList (by decide)
  have hclosing : Plain ")" := plain_ofList (by decide)
  have hwhite : Plain "Color::White" := plain_ofList (by decide)
  unfold color
  dsimp only
  split
  · exact (((((hopening.append (Number.plain_intText _)).append plain_comma).append
      (Number.plain_intText _)).append plain_comma).append (Number.plain_intText _)).append hclosing
  · cases hlookup : namedColors.lookup (Unicode.lower name) with
    | none => exact hwhite
    | some color => exact plain_namedColor hlookup

/-- A slot: the source of its widget, where the widget stands, and the widget. -/
theorem slot_parts (theme : Theme) (b : Behavior) :
    ∃ placement, (∀ line ∈ placement, Plain line) ∧
      slot theme b = ["Slot \x7b", "    source: " ++ sourceOf b.widget ++ ","] ++ placement ++
        ["    widget: Box::new(" ++ b.typeName ++ "::new()),", "\x7d,"] := by
  have hend : Plain "," := plain_ofList (by decide)
  have hrect : Plain "    rect: Rect::new(" := plain_ofList (by decide)
  have hclosing : Plain ")," := plain_ofList (by decide)
  have hborders : Plain "    borders: " := plain_ofList (by decide)
  have htype : Plain "    border_type: " := plain_ofList (by decide)
  have hborderColor : Plain "    border_color: " := plain_ofList (by decide)
  have htextColor : Plain "    text_color: " := plain_ofList (by decide)
  let w := b.widget
  let colors := b.colors theme
  refine ⟨["    rect: Rect::new(" ++ int w.position.x ++ ", " ++ int w.position.y ++ ", " ++
      int w.size.width ++ ", " ++ int w.size.height ++ "),",
    "    borders: " ++ (borderOf w).1 ++ ",", "    border_type: " ++ (borderOf w).2 ++ ",",
    "    border_color: " ++ color colors.border ++ ",", "    text_color: " ++ color colors.text ++ ","], ?_, rfl⟩
  obtain ⟨hedges, hline⟩ := plain_borderOf b.widget
  refine List.forall_mem_cons.2 ⟨?_, List.forall_mem_cons.2 ⟨(hborders.append hedges).append hend,
    List.forall_mem_cons.2 ⟨(htype.append hline).append hend, List.forall_mem_cons.2
      ⟨(hborderColor.append (plain_color _)).append hend, List.forall_mem_singleton.2
        ((htextColor.append (plain_color _)).append hend)⟩⟩⟩⟩
  exact (((((((hrect.append (Number.plain_intText _)).append plain_comma).append
    (Number.plain_intText _)).append plain_comma).append (Number.plain_intText _)).append plain_comma).append
      (Number.plain_intText _)).append hclosing

theorem sourceOf_eq {w : Widget} (h : w.dataSource ≠ some "") :
    sourceOf w = (w.dataSource.map fun id => "Some(" ++ text id ++ ")").getD "None" := by
  unfold sourceOf
  cases hnamed : w.dataSource with
  | none => rfl
  | some id =>
    have hfilled : id.isEmpty = false := by
      rw [hnamed] at h
      simpa using h
    simp [hfilled]

theorem piece_sourceOf (w : Widget) : Piece (sourceOf w) := by
  have hsome : Plain "Some(" := plain_ofList (by decide)
  have hnone : Plain "None" := plain_ofList (by decide)
  have hbracket : Plain ")" := plain_ofList (by decide)
  unfold sourceOf
  split
  · split
    · exact hnone.piece
    · exact piece_between hsome (piece_rust _) hbracket
  · exact hnone.piece

theorem unbroken_slot (theme : Theme) (b : Behavior) : ∀ line ∈ slot theme b, Unbroken line := by
  have hopening : Plain "Slot \x7b" := plain_ofList (by decide)
  have hfield : Plain "    source: " := plain_ofList (by decide)
  have hend : Plain "," := plain_ofList (by decide)
  have hbox : Plain "    widget: Box::new(" := plain_ofList (by decide)
  have hnew : Plain "::new())," := plain_ofList (by decide)
  have hclosing : Plain "\x7d," := plain_ofList (by decide)
  obtain ⟨placement, hplacement, hslot⟩ := slot_parts theme b
  rw [hslot]
  refine List.forall_mem_append.2 ⟨List.forall_mem_append.2 ⟨?_, fun line hline => ?_⟩, ?_⟩
  · exact List.forall_mem_cons.2 ⟨hopening.piece.unbroken,
      List.forall_mem_singleton.2 (piece_between hfield (piece_sourceOf _) hend).unbroken⟩
  · exact (hplacement line hline).piece.unbroken
  · exact List.forall_mem_cons.2 ⟨((hbox.append (Name.plain_typeName _)).append hnew).piece.unbroken,
      List.forall_mem_singleton.2 hclosing.piece.unbroken⟩

/-- The slot of a widget that names its source, if it names one. -/
theorem slot_eq (theme : Theme) {b : Behavior} (h : b.widget.dataSource ≠ some "") :
    ∃ placement, (∀ line ∈ placement, Plain line) ∧
      slot theme b =
        ["Slot \x7b",
         "    source: " ++ (b.widget.dataSource.map fun id => "Some(" ++ text id ++ ")").getD "None" ++ ","] ++
        placement ++ ["    widget: Box::new(" ++ b.typeName ++ "::new()),", "\x7d,"] := by
  rw [← sourceOf_eq h]
  exact slot_parts theme b

end Ratatui

namespace Blessed

theorem boxFields_ok {settings : Settings} {w : Widget} {box : List (String × Json)}
    (h : boxFields settings w = .ok box) :
    ∃ left rest, box = ("left", left) :: rest ∧ ∀ field ∈ rest, Plain field.1 := by
  have htop : Plain "top" := plain_ofList (by decide)
  have hwidth : Plain "width" := plain_ofList (by decide)
  have hheight : Plain "height" := plain_ofList (by decide)
  have hplain (top width height : Json) :
      ∀ field ∈ [("top", top), ("width", width), ("height", height)], Plain field.1 :=
    List.forall_mem_cons.2 ⟨htop, List.forall_mem_cons.2 ⟨hwidth, List.forall_mem_singleton.2 hheight⟩⟩
  unfold boxFields at h
  dsimp only at h
  split at h
  · obtain ⟨left, -, h⟩ := bind_ok_iff.1 h
    obtain ⟨top, -, h⟩ := bind_ok_iff.1 h
    obtain ⟨width, -, h⟩ := bind_ok_iff.1 h
    obtain ⟨height, -, h⟩ := bind_ok_iff.1 h
    cases h
    exact ⟨_, _, rfl, hplain _ _ _⟩
  · cases h
    exact ⟨_, _, rfl, hplain _ _ _⟩

/-- How the box of a widget is drawn. -/
theorem plain_frame (edges borderColor textColor : Json) :
    ∀ field ∈ [("border", edges), ("borderColor", borderColor), ("textColor", textColor)], Plain field.1 := by
  have hborder : Plain "border" := plain_ofList (by decide)
  have hborderColor : Plain "borderColor" := plain_ofList (by decide)
  have htextColor : Plain "textColor" := plain_ofList (by decide)
  exact List.forall_mem_cons.2 ⟨hborder, List.forall_mem_cons.2 ⟨hborderColor, List.forall_mem_singleton.2 htextColor⟩⟩

theorem piece_fields {fields : List (String × Json)} (h : ∀ field ∈ fields, Plain field.1) :
    ∀ s ∈ fields.map fun (key, value) => key ++ ": " ++ value.asciiLine, Piece s := by
  intro s hs
  obtain ⟨⟨key, value⟩, hmem, rfl⟩ := List.mem_map.1 hs
  exact piece_entry (h _ hmem).piece (Json.piece_asciiLine value)

/-- A slot: the source of its widget if it has one, where the widget stands, and the widget. -/
theorem slot_ok {settings : Settings} {b : Behavior} (h : b.widget.dataSource ≠ some "") {line : String}
    (hslot : slot settings b = .ok line) :
    ∃ placement, Piece placement ∧
      line = "makeSlot(screen, new " ++ b.typeName ++ "(), \x7b " ++
        (b.widget.dataSource.map fun id => "source: " ++ asciiQuoted id ++ ", ").getD "" ++ "left: " ++
        placement ++ " \x7d)," := by
  obtain ⟨box, hbox, hslot⟩ := bind_ok_iff.1 hslot
  cases hslot
  obtain ⟨left, rest, rfl, hrest⟩ := boxFields_ok hbox
  refine ⟨joinWith ", " (left.asciiLine :: (rest ++ [("border", borderOf b.widget),
    ("borderColor", .text (b.colors settings.theme).border),
    ("textColor", .text (b.colors settings.theme).text)]).map fun (key, value) => key ++ ": " ++ value.asciiLine),
    piece_list (List.forall_mem_cons.2 ⟨Json.piece_asciiLine left,
      piece_fields (List.forall_mem_append.2 ⟨hrest, plain_frame _ _ _⟩)⟩), ?_⟩
  have hquoted (id : String) : (Json.text id).asciiLine = asciiQuoted id := by
    rw [Json.asciiLine, Json.write]
    rfl
  have hsourceKey : "source: " = "source" ++ ": " := by simp
  have hleftKey : "left: " = "left" ++ ": " := by simp
  unfold sourceField
  cases hsource : b.widget.dataSource with
  | none => simp [hleftKey, joinWith_cons, String.append_assoc, -String.reduceAppend]
  | some id =>
    have hfilled : id.isEmpty = false := by
      rw [hsource] at h
      simpa using h
    simp [hsourceKey, hleftKey, joinWith_cons, String.append_assoc, hfilled, hquoted, -String.reduceAppend]

theorem piece_slot {settings : Settings} {b : Behavior} {line : String} (hslot : slot settings b = .ok line) :
    Piece line := by
  have hopening : Plain "makeSlot(screen, new " := plain_ofList (by decide)
  have hcall : Plain "(), \x7b " := plain_ofList (by decide)
  have hclosing : Plain " \x7d)," := plain_ofList (by decide)
  have hsource : Plain "source" := plain_ofList (by decide)
  have hleft : Plain "left" := plain_ofList (by decide)
  have hsourceField : ∀ field ∈ sourceField b.widget, Plain field.1 := by
    unfold sourceField
    split
    · split
      · exact nofun
      · exact List.forall_mem_singleton.2 hsource
    · exact nofun
  obtain ⟨box, hbox, hslot⟩ := bind_ok_iff.1 hslot
  cases hslot
  obtain ⟨left, rest, rfl, hrest⟩ := boxFields_ok hbox
  exact piece_between ((hopening.append (Name.plain_typeName _)).append hcall)
    (piece_list (piece_fields (List.forall_mem_append.2
      ⟨List.forall_mem_append.2 ⟨hsourceField, List.forall_mem_cons.2 ⟨hleft, hrest⟩⟩, plain_frame _ _ _⟩)))
    hclosing

end Blessed

end DashboardCompiler
