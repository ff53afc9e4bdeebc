import DashboardCompiler.Proofs.Generation.Wiring

/-!
# What all targets ask of a design

A target objects to widget types that it cannot show and to type names that widgets share. Every target shows the
types that validation accepts, so of an accepted design they all say the same. They find shared names with a growing
table of first owners; here the names before each widget are looked at directly.

Nothing else is asked before a design is generated. A computation that fails later is no objection of a target, and
the targets differ in what they compute.
-/

namespace DashboardCompiler

namespace Design

end Design

namespace Target

/-! ## Widget types -/

/-- A table of the first widgets that have each type name. -/
def FirstOwners (seen : List (String × String)) (before : List Widget) : Prop :=
  ∀ name, seen.lookup name = (before.find? fun v => Name.typeName v.id = name).map (·.id)

section Owners

variable {seen : List (String × String)} {before : List Widget} {w : Widget}

theorem find?_owner_snoc (before : List Widget) (w : Widget) (name : String) :
    (before ++ [w]).find? (fun v => Name.typeName v.id = name) =
      (before.find? fun v => Name.typeName v.id = name).or (if Name.typeName w.id = name then some w else none) := by
  rw [List.find?_append, List.find?_singleton]
  simp only [decide_eq_true_eq]

/-- A widget whose type name has an owner changes nothing. -/
theorem FirstOwners.owned (h : FirstOwners seen before) {first : Widget}
    (howner : (before.find? fun v => Name.typeName v.id = Name.typeName w.id) = some first) :
    FirstOwners seen (before ++ [w]) := by
  intro name
  rw [h, find?_owner_snoc]
  by_cases hname : Name.typeName w.id = name
  · subst hname
    rw [howner, Option.some_or]
  · rw [if_neg hname, Option.or_none]

theorem FirstOwners.fresh (h : FirstOwners seen before)
    (hfree : (before.find? fun v => Name.typeName v.id = Name.typeName w.id) = none) :
    FirstOwners ((Name.typeName w.id, w.id) :: seen) (before ++ [w]) := by
  intro name
  rw [find?_owner_snoc, List.lookup_cons]
  by_cases hname : Name.typeName w.id = name
  · subst hname
    simp only [beq_self_eq_true, hfree, Option.none_or, ↓reduceIte, Option.map_some]
  · have hother : (name == Name.typeName w.id) = false := beq_false_of_ne (Ne.symm hname)
    rw [hother, if_neg hname, Option.or_none, h]

end Owners

/-- A widget whose type name an earlier one has is reported with the first that has it. -/
theorem mem_sharedNames {before mid : List Widget} {seen : List (String × String)} (h : FirstOwners seen before)
    {first w : Widget}
    (howner : ((before ++ mid).find? fun v => Name.typeName v.id = Name.typeName w.id) = some first)
    (after : List Widget) :
    .sharedTypeName first.id w.id (Name.typeName w.id) ∈ sharedNames seen (mid ++ w :: after) := by
  induction mid generalizing before seen with
  | nil =>
    rw [List.append_nil] at howner
    have hlookup : seen.lookup (Name.typeName w.id) = some first.id := by rw [h, howner, Option.map_some]
    simp only [List.nil_append, sharedNames, hlookup, List.mem_cons_self]
  | cons u mid ih =>
    rw [List.append_cons] at howner
    rw [List.cons_append, sharedNames]
    cases hbefore : before.find? fun v => Name.typeName v.id = Name.typeName u.id with
    | some owner =>
      have hlookup : seen.lookup (Name.typeName u.id) = some owner.id := by rw [h, hbefore, Option.map_some]
      simp only [hlookup]
      exact List.mem_cons_of_mem _ (ih (h.owned hbefore) howner)
    | none =>
      have hlookup : seen.lookup (Name.typeName u.id) = none := by rw [h, hbefore, Option.map_none]
      simp only [hlookup]
      exact ih (h.fresh hbefore) howner

end Target

/-! ## Agreement -/

namespace Generator

theorem generate_of_faults {d : Design} {o : Options} (h : (Target.ofFramework o.framework).designFaults d ≠ []) :
    default.generate d o = .error (.unsuitable ((Target.ofFramework o.framework).designFaults d)) := by
  rw [generate, find_default]
  exact if_neg fun hempty => h (List.isEmpty_iff.1 hempty)

end Generator

/-- The design of `textsDocument`. -/
def Design.texts (ids : List String) : Design where
  version := "1.0.0"
  metadata := ⟨"texts", none, none, "1.0.0", none, none, .textual, []⟩
  settings := .default
  widgets := ids.map fun id => ⟨id, "text", ⟨0, 0⟩, ⟨10, 3⟩, none, none, none, []⟩
  dataSources := []

end DashboardCompiler
