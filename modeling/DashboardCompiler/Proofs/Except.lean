import Mathlib.Data.List.Forall2

/-!
# Computations that may fail

What a successful sequence of computations was made of.
-/

namespace DashboardCompiler

variable {ε α β : Type}

theorem bind_ok_iff {x : Except ε α} {f : α → Except ε β} {b : β} :
    (x >>= f) = .ok b ↔ ∃ a, x = .ok a ∧ f a = .ok b := by
  cases x with
  | ok a =>
    constructor
    · intro h
      exact ⟨a, rfl, h⟩
    · rintro ⟨a', ha, h⟩
      cases ha
      exact h
  | error fault =>
    constructor
    · intro h
      cases h
    · rintro ⟨a, ha, -⟩
      cases ha

theorem mapError_ok_iff {ε' : Type} {f : ε → ε'} {x : Except ε α} {a : α} : x.mapError f = .ok a ↔ x = .ok a := by
  cases x with
  | ok b => exact ⟨fun h => congrArg Except.ok (Except.ok.inj h), fun h => congrArg Except.ok (Except.ok.inj h)⟩
  | error fault => exact ⟨(nomatch ·), (nomatch ·)⟩

theorem exists_ok_of_isOk {x : Except ε α} (h : x.isOk = true) : ∃ a, x = .ok a := by
  cases x with
  | ok a => exact ⟨a, rfl⟩
  | error fault => cases h

/-- Every item gave a value, in the order of the items. -/
theorem forall₂_of_mapM_ok {f : α → Except ε β} {as : List α} {bs : List β} (h : as.mapM f = .ok bs) :
    List.Forall₂ (fun a b => a ∈ as ∧ f a = .ok b) as bs := by
  induction as generalizing bs with
  | nil =>
    cases h
    exact .nil
  | cons a as ih =>
    rw [List.mapM_cons] at h
    obtain ⟨b, hb, h⟩ := bind_ok_iff.1 h
    obtain ⟨rest, hrest, h⟩ := bind_ok_iff.1 h
    cases h
    exact .cons ⟨List.mem_cons_self, hb⟩
      ((ih hrest).imp fun _ _ hpair => ⟨List.mem_cons_of_mem _ hpair.1, hpair.2⟩)

theorem mapM_ok {f : α → Except ε β} {g : α → β} {as : List α} (hf : ∀ a ∈ as, f a = .ok (g a)) :
    as.mapM f = .ok (as.map g) := by
  induction as with
  | nil => rfl
  | cons a as ih =>
    obtain ⟨hhead, htail⟩ := List.forall_mem_cons.1 hf
    rw [List.mapM_cons, hhead, ih htail]
    rfl

/-- What each pair says of its second part. -/
theorem forall_right_of_forall₂ {α β : Type} {R : α → β → Prop} {P : β → Prop} {as : List α} {bs : List β}
    (h : List.Forall₂ R as bs) (hright : ∀ a b, R a b → P b) : ∀ b ∈ bs, P b := by
  induction h with
  | nil => exact nofun
  | cons hpair _ ih => exact List.forall_mem_cons.2 ⟨hright _ _ hpair, ih⟩

/-- Two computations fail with the same fault, or give values that are related. -/
inductive Concur (R : α → β → Prop) : Except ε α → Except ε β → Prop
  | error (fault : ε) : Concur R (.error fault) (.error fault)
  | ok {a : α} {b : β} (h : R a b) : Concur R (.ok a) (.ok b)

theorem Concur.bind {α' β' : Type} {R : α → β → Prop} {S : α' → β' → Prop} {x : Except ε α} {y : Except ε β}
    (h : Concur R x y) {f : α → Except ε α'} {g : β → Except ε β'}
    (hfg : ∀ a b, x = .ok a → y = .ok b → R a b → Concur S (f a) (g b)) : Concur S (x >>= f) (y >>= g) := by
  cases h with
  | error fault => exact .error fault
  | ok h => exact hfg _ _ rfl rfl h

/-- A computation fails under exactly one condition and with exactly one fault. -/
def FailsIff (condition : Prop) (fault : ε) (x : Except ε α) : Prop :=
  (condition → x = .error fault) ∧ (¬ condition → ∃ a, x = .ok a)

section FailsIff

variable {p q : Prop} {fault : ε}

theorem failsIff_ok (hp : ¬ p) (a : α) : FailsIff p fault (.ok a) :=
  ⟨fun h => absurd h hp, fun _ => ⟨a, rfl⟩⟩

theorem failsIff_error (hp : p) : FailsIff p fault (.error fault : Except ε α) :=
  ⟨fun _ => rfl, fun h => absurd hp h⟩

theorem FailsIff.congr {x : Except ε α} (h : FailsIff p fault x) (hpq : p ↔ q) : FailsIff q fault x :=
  ⟨fun hq => h.1 (hpq.2 hq), fun hq => h.2 fun hp => hq (hpq.1 hp)⟩

/-- A sequence fails if one of its parts does; the later part is only asked about values of the first. -/
theorem FailsIff.bind {x : Except ε α} {f : α → Except ε β} (hx : FailsIff p fault x)
    (hf : ∀ a, FailsIff q fault (f a)) : FailsIff (p ∨ q) fault (x >>= f) := by
  by_cases hp : p
  · rw [hx.1 hp]
    exact failsIff_error (.inl hp)
  · obtain ⟨a, ha⟩ := hx.2 hp
    rw [ha]
    exact (hf a).congr (or_iff_right hp).symm

theorem FailsIff.andPure {x : Except ε α} (hx : FailsIff p fault x) (f : α → β) :
    FailsIff p fault (do return f (← x)) :=
  (hx.bind fun a => failsIff_ok not_false (f a)).congr (or_iff_left not_false)

theorem FailsIff.mapM {f : α → Except ε β} {bad : α → Prop} (as : List α)
    (hf : ∀ a ∈ as, FailsIff (bad a) fault (f a)) : FailsIff (∃ a ∈ as, bad a) fault (as.mapM f) := by
  induction as with
  | nil => exact failsIff_ok (by simp) []
  | cons a as ih =>
    obtain ⟨hhead, htail⟩ := List.forall_mem_cons.1 hf
    rw [List.mapM_cons]
    refine (hhead.bind fun b => (ih htail).andPure (b :: ·)).congr ?_
    rw [List.exists_mem_cons_iff]

end FailsIff

end DashboardCompiler
