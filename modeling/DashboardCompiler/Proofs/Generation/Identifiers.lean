import DashboardCompiler.Proofs.Generation.Agreement
import DashboardCompiler.Proofs.Text.Identifiers

/-!
# Identifiers of the widgets of one program

A Textual program knows its widgets by their identifiers: the ids of its DOM, the selectors of its style sheet
and the lists of its subscribers. What a target compares before it generates a design are the type names. They
settle the identifiers too, but for two letters that only the identifiers see as letters of a name. Ids of ASCII
characters have none of the two: their type names can be read off their identifiers, and every two that share an
identifier are reported.
-/

namespace DashboardCompiler

/-- **Widgets that Textual accepts have distinct identifiers**, as long as no id holds the capital I with a dot
or the Kelvin sign: two that share their identifier hold one of these. -/
theorem Design.identifiers_apart {d : Design} (hsuits : Target.textual.designFaults d = []) :
    d.widgets.Pairwise fun v w => Name.identifier v.id = Name.identifier w.id →
      ∃ c ∈ v.id.toList ++ w.id.toList, c = '\u0130' ∨ c = '\u212a' := by
  have hnames : d.widgets.Pairwise fun v w => Name.typeName v.id ≠ Name.typeName w.id :=
    List.pairwise_map.1 (Target.nodup_typeNames hsuits)
  refine hnames.imp fun {v w} hne hsame => ?_
  by_contra hnone
  have hkeeps : ∀ c ∈ v.id.toList ++ w.id.toList, Name.lowersIntoName c = false := by
    intro c hc
    by_contra hlowers
    rw [Bool.not_eq_false, Name.lowersIntoName_iff] at hlowers
    exact hnone ⟨c, hc, hlowers⟩
  obtain ⟨hv, hw⟩ := List.forall_mem_append.1 hkeeps
  exact hne (Name.typeName_eq_of_identifier_eq hv hw hsame)

/-- The Kelvin sign does collide with the letter that it lowers into. -/
theorem Design.identifiers_apart_kelvin :
    Target.textual.designFaults kelvin = [] ∧
      (kelvin.widgets.Pairwise fun v w => Name.identifier v.id = Name.identifier w.id →
        ∃ c ∈ v.id.toList ++ w.id.toList, c = '\u0130' ∨ c = '\u212a') ∧
      ¬ (kelvin.widgets.map fun w => Name.identifier w.id).Nodup := by
  have hsuits : Target.textual.designFaults kelvin = [] := by rfl
  have hshared : kelvin.widgets.map (fun w => Name.identifier w.id) = ["k", "k"] := by decide +kernel
  refine ⟨hsuits, identifiers_apart hsuits, ?_⟩
  rw [hshared]
  decide

/-! ## Ids of ASCII characters -/

/-- A later widget that shares a type name is reported with the first widget that has the name. -/
theorem Design.exists_sharedTypeName {d : Design} {v w : Widget} {i j : Nat} (hij : i < j)
    (hv : d.widgets[i]? = some v) (hw : d.widgets[j]? = some w) (hname : Name.typeName v.id = Name.typeName w.id) :
    ∃ first, (d.widgets.find? fun u => Name.typeName u.id = Name.typeName w.id) = some first ∧
      ∀ t : Target, .sharedTypeName first.id w.id (Name.typeName w.id) ∈ t.designFaults d := by
  obtain ⟨hj, hwj⟩ := List.getElem?_eq_some_iff.1 hw
  have hsplit : d.widgets.take j ++ w :: d.widgets.drop (j + 1) = d.widgets := by
    rw [← hwj, ← List.drop_eq_getElem_cons hj, List.take_append_drop]
  have hearlier : v ∈ d.widgets.take j := by
    rw [← List.getElem?_take_of_lt hij] at hv
    exact List.mem_of_getElem? hv
  obtain ⟨first, hfirst⟩ : ∃ first,
      ((d.widgets.take j).find? fun u => Name.typeName u.id = Name.typeName w.id) = some first :=
    Option.isSome_iff_exists.1 (List.find?_isSome.2 ⟨v, hearlier, by simpa using hname⟩)
  refine ⟨first, ?_, fun t => List.mem_append_right _ ?_⟩
  · rw [← hsplit, List.find?_append, hfirst, Option.some_or]
  · rw [← hsplit]
    exact @Target.mem_sharedNames [] (d.widgets.take j) [] (fun _ => rfl) first w hfirst _

/-- **The type name of an ASCII id is made from its identifier.** So ASCII ids with one identifier have one type
name, and wherever two widgets of a design have such ids, every target reports the later one. -/
theorem Design.typeNames_cover_identifiers :
    (∀ id, Name.IsAscii id → Name.typeName id = Name.pascalCase (Name.identifier id) ++ "Widget") ∧
      (∀ a b, Name.IsAscii a → Name.IsAscii b → Name.identifier a = Name.identifier b →
        Name.typeName a = Name.typeName b) ∧
      ∀ (d : Design) (v w : Widget) (i j : Nat), i < j → d.widgets[i]? = some v → d.widgets[j]? = some w →
        Name.IsAscii v.id → Name.IsAscii w.id → Name.identifier v.id = Name.identifier w.id →
        ∃ first, (d.widgets.find? fun u => Name.typeName u.id = Name.typeName w.id) = some first ∧
          (∀ t : Target, .sharedTypeName first.id w.id (Name.typeName w.id) ∈ t.designFaults d) ∧
          ∀ o, ∃ faults, Generator.default.generate d o = .error (.unsuitable faults) ∧
            .sharedTypeName first.id w.id (Name.typeName w.id) ∈ faults := by
  have hsame {a b : String} (ha : Name.IsAscii a) (hb : Name.IsAscii b)
      (h : Name.identifier a = Name.identifier b) : Name.typeName a = Name.typeName b :=
    Name.typeName_eq_of_identifier_eq ha.lowersIntoName hb.lowersIntoName h
  refine ⟨fun _ => Name.IsAscii.typeName_eq, fun _ _ => hsame, fun d v w i j hij hv hw hva hwa hid => ?_⟩
  obtain ⟨first, hfirst, hreported⟩ := exists_sharedTypeName hij hv hw (hsame hva hwa hid)
  refine ⟨first, hfirst, hreported, fun o => ⟨_, Generator.generate_of_faults ?_, hreported _⟩⟩
  exact List.ne_nil_of_mem (hreported _)

/-- Two spellings of one identifier, the later of which no target takes. -/
theorem Design.typeNames_cover_identifiers_card :
    Name.typeName "9 Lives" = Name.pascalCase (Name.identifier "9 Lives") ++ "Widget" ∧
      Name.identifier "CpuCard" = Name.identifier "cpu card" ∧
      ∀ t : Target, .sharedTypeName "CpuCard" "cpu card" "CpuCardWidget" ∈
        t.designFaults (Design.texts ["CpuCard", "clock", "cpu card"]) := by
  have hcapitals : Name.IsAscii "CpuCard" := by decide
  have hspaced : Name.IsAscii "cpu card" := by decide
  have hshared : Name.identifier "CpuCard" = Name.identifier "cpu card" := by decide +kernel
  obtain ⟨hmade, -, hcovered⟩ := typeNames_cover_identifiers
  obtain ⟨first, hfirst, hreported, -⟩ := hcovered (Design.texts ["CpuCard", "clock", "cpu card"]) _ _ 0 2
    (by decide) rfl rfl hcapitals hspaced hshared
  refine ⟨hmade _ (by decide), hshared, fun t => ?_⟩
  obtain rfl : first = ⟨"CpuCard", "text", ⟨0, 0⟩, ⟨10, 3⟩, none, none, none, []⟩ := by
    cases hfirst
    rfl
  exact hreported t

example : Name.identifier "\u0130" = Name.identifier "i" ∧ Name.typeName "\u0130" ≠ Name.typeName "i" := by
  decide +kernel

end DashboardCompiler
