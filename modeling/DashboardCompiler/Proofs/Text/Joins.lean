import DashboardCompiler.Proofs.Text.Lines
import DashboardCompiler.Unicode.Case
import Mathlib.Algebra.BigOperators.Group.List.Basic

/-!
# Texts that can be told from their join

A join does not show where its texts end, so two lists may have one join. They cannot if their texts are compared one
by one and no text begins the one that it is compared with; texts of the same length are such, and so are texts with the
same lower case.
-/

namespace DashboardCompiler

namespace Text

/-- Related texts of which one begins the other are the same. -/
def Unnested (R : String → String → Prop) : Prop :=
  ∀ a b, R a b → a.toList <+: b.toList ∨ b.toList <+: a.toList → a = b

theorem unnested_length : Unnested fun a b => a.toList.length = b.toList.length := by
  rintro a b hlength (h | h)
  · exact String.toList_inj.1 (h.eq_of_length hlength)
  · exact (String.toList_inj.1 (h.eq_of_length hlength.symm)).symm

theorem length_joinWith (separator : String) (as : List String) :
    (joinWith separator as).toList.length =
      (as.flatMap String.toList).length + (as.length - 1) * separator.toList.length := by
  fun_induction joinWith separator as with
  | case1 => simp
  | case2 s => simp
  | case3 s rest hrest ih =>
    obtain ⟨t, rest, rfl⟩ := List.exists_cons_of_ne_nil hrest
    simp only [List.length_cons, Nat.add_sub_cancel] at ih ⊢
    rw [String.toList_append, String.toList_append, List.length_append, List.length_append, ih,
      List.flatMap_cons (x := s), List.length_append, Nat.succ_mul]
    omega

/-- The length of a join depends on the lengths of its texts only, and not on their order. -/
theorem length_joinWith_perm (separator : String) {as bs : List String}
    (h : (as.map fun s => s.toList.length).Perm (bs.map fun s => s.toList.length)) :
    (joinWith separator as).toList.length = (joinWith separator bs).toList.length := by
  have hlength := h.length_eq
  rw [List.length_map, List.length_map] at hlength
  rw [length_joinWith, length_joinWith, List.length_flatMap, List.length_flatMap, h.sum_eq, hlength]

/-- Texts that are related one by one can be told from their join. -/
theorem joinWith_inj {R : String → String → Prop} (hR : Unnested R) {separator : String} {as bs : List String}
    (hrel : List.Forall₂ R as bs) (h : joinWith separator as = joinWith separator bs) : as = bs := by
  induction hrel with
  | nil => rfl
  | @cons a b as bs hab hrel ih =>
    rw [joinWith_cons, joinWith_cons, ← String.toList_inj, String.toList_append, String.toList_append] at h
    have hnested := List.prefix_or_prefix_of_prefix (List.prefix_append a.toList _) (h ▸ List.prefix_append b.toList _)
    obtain rfl := hR a b hab hnested
    have hrest := List.append_cancel_left h
    cases hrel with
    | nil => rfl
    | @cons c d as bs hcd hrel =>
      rw [String.toList_inj, List.map_cons, List.map_cons, String.join_cons, String.join_cons, String.append_assoc,
        String.append_assoc, ← joinWith_cons, ← joinWith_cons, ← String.toList_inj, String.toList_append,
        String.toList_append] at hrest
      rw [ih (String.toList_inj.1 (List.append_cancel_left hrest))]

end Text

namespace Unicode

/-- Lowering gives at least one character for each, whatever stands around it. -/
theorem length_lowerBetween (before : List Char) (c : Char) (after : List Char) :
    (lowerBetween before c after).length = if c.toNat = 0x130 then 2 else 1 := by
  unfold lowerBetween lowerChars
  split
  · rename_i hsigma
    rw [hsigma]
    rfl
  · split <;> rfl

theorem length_lowerFrom (before cs : List Char) :
    (lowerFrom before cs).length = cs.length + cs.countP fun c => c.toNat = 0x130 := by
  induction cs generalizing before with
  | nil => rfl
  | cons c cs ih =>
    rw [lowerFrom, List.length_append, length_lowerBetween, ih, List.length_cons, List.countP_cons]
    simp only [decide_eq_true_eq]
    split <;> omega

/-- A text is never lowered to the same as what it begins. -/
theorem eq_of_lower_eq_of_prefix {a b : String} (h : lower a = lower b) (hbegins : a.toList <+: b.toList) : a = b := by
  obtain ⟨rest, hrest⟩ := hbegins
  have hlength := congrArg (fun s => s.toList.length) h
  simp only [lower, String.toList_ofList, length_lowerFrom, ← hrest, List.length_append, List.countP_append] at hlength
  have hnone : rest = [] := List.length_eq_zero_iff.1 (by omega)
  rw [hnone, List.append_nil] at hrest
  exact String.toList_inj.1 hrest

end Unicode
end DashboardCompiler
