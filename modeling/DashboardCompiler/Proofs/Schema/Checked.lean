import DashboardCompiler.Schema.Fields

/-!
# Accepted and rejected readings

What an accepted reading was put together from, and that a rejected one names a problem. A rejection
without any problem is a value of the type, but no reader gives one: `Explained` says so reader by reader,
and for explained readings "no problems" and "accepted" are the same.
-/

namespace DashboardCompiler.Checked

variable {α β : Type}

@[simp] theorem functorMap_eq (f : α → β) (x : Checked α) : f <$> x = x.map f := rfl

@[simp] theorem seq_eq (f : Checked (α → β)) (x : Checked α) : f <*> x = f.apply x := rfl

theorem map_map {γ : Type} (f : α → β) (g : β → γ) (x : Checked α) : (x.map f).map g = x.map (g ∘ f) := by
  cases x <;> rfl

theorem map_apply {γ : Type} (f : Checked (α → β)) (g : β → γ) (x : Checked α) :
    (f.apply x).map g = (f.map (g ∘ ·)).apply x := by
  cases f <;> cases x <;> rfl

theorem apply_map {γ : Type} (f : Checked (β → γ)) (g : α → β) (x : Checked α) :
    f.apply (x.map g) = (f.map (· ∘ g)).apply x := by
  cases f <;> cases x <;> rfl

@[simp] theorem map_accepted_iff {f : α → β} {x : Checked α} {b : β} :
    x.map f = .accepted b ↔ ∃ a, x = .accepted a ∧ f a = b := by
  cases x with
  | accepted a => simp [map]
  | rejected ps => simp [map]

@[simp] theorem apply_accepted_iff {f : Checked (α → β)} {x : Checked α} {b : β} :
    f.apply x = .accepted b ↔ ∃ g, f = .accepted g ∧ ∃ a, x = .accepted a ∧ g a = b := by
  cases f with
  | accepted g => cases x <;> simp [apply]
  | rejected ps => cases x <;> simp [apply]

theorem seq_accepted_iff {f : Checked (α → β)} {x : Checked α} {b : β} :
    f <*> x = .accepted b ↔ ∃ g, f = .accepted g ∧ ∃ a, x = .accepted a ∧ g a = b :=
  apply_accepted_iff

/-- Inside a longer sequence the part that was read before is taken apart in turn, so that rewriting with
these lemmas gives the accepted values side by side, in the order of the fields. -/
theorem exists_seq_accepted {f : Checked (α → β)} {x : Checked α} {P : β → Prop} :
    (∃ b, f <*> x = .accepted b ∧ P b) ↔ ∃ g, f = .accepted g ∧ ∃ a, x = .accepted a ∧ P (g a) := by
  constructor
  · rintro ⟨b, hb, hP⟩
    obtain ⟨g, hg, a, ha, rfl⟩ := seq_accepted_iff.1 hb
    exact ⟨g, hg, a, ha, hP⟩
  · rintro ⟨g, hg, a, ha, hP⟩
    exact ⟨g a, seq_accepted_iff.2 ⟨g, hg, a, ha, rfl⟩, hP⟩

theorem exists_map_accepted {f : α → β} {x : Checked α} {P : β → Prop} :
    (∃ b, f <$> x = .accepted b ∧ P b) ↔ ∃ a, x = .accepted a ∧ P (f a) := by
  constructor
  · rintro ⟨b, hb, hP⟩
    obtain ⟨a, ha, rfl⟩ := map_accepted_iff.1 hb
    exact ⟨a, ha, hP⟩
  · rintro ⟨a, ha, hP⟩
    exact ⟨f a, map_accepted_iff.2 ⟨a, ha, rfl⟩, hP⟩

@[simp] theorem andThen_accepted_iff {x : Checked α} {f : α → Checked β} {b : β} :
    x.andThen f = .accepted b ↔ ∃ a, x = .accepted a ∧ f a = .accepted b := by
  cases x <;> simp [andThen]

@[simp] theorem under_accepted_iff {x : Checked α} {segments : List String} {a : α} :
    x.under segments = .accepted a ↔ x = .accepted a := by
  cases x <;> simp [under]

@[simp] theorem fail_ne_accepted (cause : Cause) (a : α) : (fail cause : Checked α) ≠ .accepted a :=
  nofun

/-- A rejection names at least one problem. -/
def Explained (x : Checked α) : Prop := x ≠ .rejected []

theorem problems_eq_nil_iff {x : Checked α} (h : x.Explained) :
    x.problems = [] ↔ ∃ a, x = .accepted a := by
  cases x with
  | accepted a => simp [problems]
  | rejected ps =>
    constructor
    · intro hp
      exact absurd (congrArg Checked.rejected hp) h
    · rintro ⟨a, ha⟩
      cases ha

theorem explained_accepted (a : α) : (accepted a).Explained := nofun

theorem explained_fail (cause : Cause) : (fail cause : Checked α).Explained := nofun

theorem explained_ofExcept {ε : Type} (cause : Cause) (x : Except ε α) :
    (ofExcept cause x).Explained := by
  cases x <;> nofun

theorem explained_map {f : α → β} {x : Checked α} (h : x.Explained) : (x.map f).Explained := by
  cases x with
  | accepted a => exact explained_accepted _
  | rejected ps =>
    intro hx
    cases hx
    exact h rfl

/-- The problems of both sides are kept, so one side that names a problem is enough. -/
theorem explained_apply {f : Checked (α → β)} {x : Checked α} (hf : f.Explained) (hx : x.Explained) :
    (f.apply x).Explained := by
  cases f with
  | accepted g =>
    cases x with
    | accepted a => exact explained_accepted (g a)
    | rejected qs =>
      have hqs : qs ≠ [] := fun h => hx (congrArg rejected h)
      simpa [Explained, apply] using hqs
  | rejected ps =>
    have hps : ps ≠ [] := fun h => hf (congrArg rejected h)
    cases x with
    | accepted a => simpa [Explained, apply] using hps
    | rejected qs => simp [Explained, apply, hps]

theorem explained_andThen {x : Checked α} {f : α → Checked β} (hx : x.Explained)
    (hf : ∀ a, (f a).Explained) : (x.andThen f).Explained := by
  cases x with
  | accepted a => exact hf a
  | rejected ps =>
    intro h
    cases h
    exact hx rfl

theorem explained_under {x : Checked α} (segments : List String) (h : x.Explained) :
    (x.under segments).Explained := by
  cases x with
  | accepted a => exact explained_accepted a
  | rejected ps =>
    have hps : ps ≠ [] := fun hp => h (congrArg rejected hp)
    simpa [Explained, under] using hps

end DashboardCompiler.Checked
