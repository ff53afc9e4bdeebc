import DashboardCompiler.Proofs.Except
import DashboardCompiler.Proofs.Schema.Readers

/-!
# Spellings of fields

A document may spell a field in several ways, and a record may hold keys that spell no field. A shape says for a part
of a document where records stand in it and what their fields are. Two values of one shape are respellings of each
other if they differ in the spellings of fields and in keys that spell none. A reader keeps to a shape if
respellings are accepted alike, with related results; every way in which readers are put together preserves that.
-/

namespace DashboardCompiler

/-- Whatever the one reading accepts, the other accepts with a related value. -/
def Checked.Follows {α : Type} (R : α → α → Prop) (x y : Checked α) : Prop :=
  ∀ a, x = .accepted a → ∃ b, y = .accepted b ∧ R a b

namespace Checked.Follows

variable {α β : Type} {R : α → α → Prop} {S : β → β → Prop} {x y : Checked α}

theorem map {f g : α → β} (hfg : ∀ a b, R a b → S (f a) (g b)) (h : x.Follows R y) :
    (x.map f).Follows S (y.map g) := by
  intro _ hx
  obtain ⟨a, ha, rfl⟩ := map_accepted_iff.1 hx
  obtain ⟨b, hb, hab⟩ := h a ha
  exact ⟨g b, map_accepted_iff.2 ⟨b, hb, rfl⟩, hfg a b hab⟩

/-- Related functions are those that take related values to related values. -/
theorem apply {f g : Checked (α → β)} (hfg : f.Follows (fun f g => ∀ a b, R a b → S (f a) (g b)) g)
    (h : x.Follows R y) : (f.apply x).Follows S (g.apply y) := by
  intro _ hx
  obtain ⟨f', hf, a, ha, rfl⟩ := apply_accepted_iff.1 hx
  obtain ⟨g', hg, hrelated⟩ := hfg f' hf
  obtain ⟨b, hb, hab⟩ := h a ha
  exact ⟨g' b, apply_accepted_iff.2 ⟨g', hg, b, hb, rfl⟩, hrelated a b hab⟩

theorem andThen {f g : α → Checked β} (hfg : ∀ a b, R a b → (f a).Follows S (g b)) (h : x.Follows R y) :
    (x.andThen f).Follows S (y.andThen g) := by
  intro c hx
  obtain ⟨a, ha, hc⟩ := andThen_accepted_iff.1 hx
  obtain ⟨b, hb, hab⟩ := h a ha
  obtain ⟨d, hd, hcd⟩ := hfg a b hab c hc
  exact ⟨d, andThen_accepted_iff.2 ⟨b, hb, hd⟩, hcd⟩

theorem under (h : x.Follows R y) (here there : List String) : (x.under here).Follows R (y.under there) := by
  intro a ha
  obtain ⟨b, hb, hab⟩ := h a (under_accepted_iff.1 ha)
  exact ⟨b, under_accepted_iff.2 hb, hab⟩

theorem refl (x : Checked α) : x.Follows Eq x := fun a ha => ⟨a, ha, rfl⟩

theorem accepted (h : x.Follows Eq y) {a : α} (ha : x = .accepted a) : y = .accepted a := by
  obtain ⟨b, hb, rfl⟩ := h a ha
  exact hb

theorem map_eq (f : α → β) (h : x.Follows Eq y) : (x.map f).Follows Eq (y.map f) :=
  h.map fun _ _ => congrArg f

theorem apply_eq {f g : Checked (α → β)} (hfg : f.Follows Eq g) (h : x.Follows Eq y) :
    (f.apply x).Follows Eq (g.apply y) := by
  refine apply (fun f' hf => ⟨f', hfg.accepted hf, ?_⟩) h
  exact fun _ _ => congrArg f'

theorem andThen_eq (f : α → Checked β) (h : x.Follows Eq y) : (x.andThen f).Follows Eq (y.andThen f) := by
  refine h.andThen ?_
  rintro a _ rfl
  exact refl (f a)

end Checked.Follows

namespace Schema

open Checked

/-! ## The entries of a field -/

namespace FieldName

def spells (f : FieldName) (key : String) : Bool := f.spellings.contains key

/-- What a record holds under the spellings of the field. -/
def entries (f : FieldName) (fields : Fields) : Fields := fields.filter fun entry => f.spells entry.1

theorem entries_append (f : FieldName) (fields others : Fields) :
    f.entries (fields ++ others) = f.entries fields ++ f.entries others :=
  List.filter_append fields others

theorem entries_cons (f : FieldName) (key : String) (v : Json) (rest : Fields) :
    f.entries ((key, v) :: rest) = if f.spells key then (key, v) :: f.entries rest else f.entries rest :=
  List.filter_cons

end FieldName

theorem mem_of_present? {fields : Fields} {spellings : List String} {entry : String × Json}
    (h : present? fields spellings = some entry) : entry ∈ fields ∧ entry.1 ∈ spellings := by
  induction spellings with
  | nil => cases h
  | cons spelling rest ih =>
    rw [present?] at h
    cases hv : Json.lookup spelling fields with
    | none =>
      rw [hv] at h
      exact ⟨(ih h).1, List.mem_cons_of_mem spelling (ih h).2⟩
    | some v =>
      rw [hv] at h
      obtain rfl : (spelling, v) = entry := Option.some.inj h
      obtain ⟨before, after, rfl, -⟩ := List.lookup_eq_some_iff.1 hv
      exact ⟨List.mem_append_right before List.mem_cons_self, List.mem_cons_self⟩

theorem not_mem_of_present?_eq_none {fields : Fields} {spellings : List String}
    (h : present? fields spellings = none) : ∀ entry ∈ fields, entry.1 ∉ spellings := by
  induction spellings with
  | nil => exact fun _ _ => List.not_mem_nil
  | cons spelling rest ih =>
    rw [present?] at h
    cases hv : Json.lookup spelling fields with
    | none =>
      rw [hv] at h
      intro entry hentry hmem
      rcases List.mem_cons.1 hmem with hkey | hmem
      · have hother := List.lookup_eq_none_iff.1 hv entry hentry
        simp [hkey] at hother
      · exact ih h entry hentry hmem
    | some v =>
      rw [hv] at h
      cases h

/-- A record that holds a field once gives that entry for it. -/
theorem present?_eq_head? {f : FieldName} {fields : Fields} (honce : (f.entries fields).length ≤ 1) :
    present? fields f.spellings = (f.entries fields).head? := by
  cases h : present? fields f.spellings with
  | none =>
    have hempty : f.entries fields = [] := by
      refine List.filter_eq_nil_iff.2 fun entry hentry => ?_
      have hnot := not_mem_of_present?_eq_none h entry hentry
      simpa [FieldName.spells] using hnot
    rw [hempty, List.head?_nil]
  | some entry =>
    obtain ⟨hmem, hkey⟩ := mem_of_present? h
    have hentry : entry ∈ f.entries fields := List.mem_filter.2 ⟨hmem, by simpa [FieldName.spells] using hkey⟩
    obtain ⟨only, honly⟩ := List.length_eq_one_iff.1 (Nat.le_antisymm honce (List.length_pos_of_mem hentry))
    rw [honly, List.mem_singleton] at hentry
    rw [honly, hentry, List.head?_cons]

/-! ## Shapes -/

/-- The shape of a part of a document: the values in which no record holds two spellings of one field, and the values
that differ in spellings and in unknown keys only. -/
structure Shape where
  single : Json → Bool
  Respelled : Json → Json → Prop
  equivalence : Equivalence Respelled
  single_congr : ∀ {v w}, Respelled v w → single v = single w
  null : ∀ {w}, Respelled .null w → w = .null

theorem forall₂_equivalence {σ : Type} {E : σ → σ → Prop} (h : Equivalence E) : Equivalence (List.Forall₂ E) := by
  refine ⟨fun _ => List.forall₂_same.2 fun x _ => h.refl x, fun hxy => (hxy.imp fun _ _ => h.symm).flip, ?_⟩
  intro xs ys zs hxy
  induction hxy generalizing zs with
  | nil => exact id
  | cons hhead _ ih =>
    intro hyz
    cases hyz with
    | cons hnext hrest => exact .cons (h.trans hhead hnext) (ih hrest)

theorem all_congr_of_forall₂ {σ : Type} {E : σ → σ → Prop} {p : σ → Bool} (hp : ∀ a b, E a b → p a = p b)
    {as bs : List σ} (h : List.Forall₂ E as bs) : as.all p = bs.all p := by
  induction h with
  | nil => rfl
  | cons hhead _ ih => rw [List.all_cons, List.all_cons, hp _ _ hhead, ih]

namespace Shape

/-- A value in which no key is the name of a field. -/
def plain : Shape where
  single _ := true
  Respelled := Eq
  equivalence := eq_equivalence
  single_congr _ := rfl
  null h := h.symm

section Within

variable {σ : Type} (content? : Json → Option σ) (hnull : content? .null = none) (p : σ → Bool) {E : σ → σ → Prop}
  (hE : Equivalence E) (hp : ∀ {a b}, E a b → p a = p b)

/-- A value whose content has a shape; other values are as they are. -/
def within : Shape where
  single v := (content? v).all p
  Respelled v w := v = w ∨ ∃ a b, content? v = some a ∧ content? w = some b ∧ E a b
  equivalence := by
    refine ⟨fun _ => .inl rfl, ?_, ?_⟩
    · rintro _ _ (rfl | ⟨a, b, hv, hw, hab⟩)
      · exact .inl rfl
      · exact .inr ⟨b, a, hw, hv, hE.symm hab⟩
    · rintro _ _ _ (rfl | ⟨a, b, hu, hv, hab⟩) (rfl | ⟨c, d, hv', hw, hcd⟩)
      · exact .inl rfl
      · exact .inr ⟨c, d, hv', hw, hcd⟩
      · exact .inr ⟨a, b, hu, hv, hab⟩
      · obtain rfl : b = c := Option.some.inj (hv.symm.trans hv')
        exact .inr ⟨a, d, hu, hw, hE.trans hab hcd⟩
  single_congr := by
    rintro _ _ (rfl | ⟨a, b, hv, hw, hab⟩)
    · rfl
    · rw [hv, hw, Option.all_some, Option.all_some, hp hab]
  null := by
    rintro _ (rfl | ⟨a, _, ha, -⟩)
    · rfl
    · rw [hnull] at ha
      cases ha

end Within

def items? : Json → Option (List Json)
  | .list items => some items
  | _ => none

theorem items?_eq_some_iff {v : Json} {items : List Json} : items? v = some items ↔ v = .list items := by
  cases v <;> simp [items?]

/-- A list of values of one shape. -/
def list (item : Shape) : Shape :=
  within items? rfl (·.all item.single) (forall₂_equivalence item.equivalence)
    (all_congr_of_forall₂ (p := item.single) fun _ _ h => item.single_congr h)

theorem list_respelled {item : Shape} {vs ws : List Json} (h : List.Forall₂ item.Respelled vs ws) :
    (list item).Respelled (.list vs) (.list ws) := .inr ⟨vs, ws, rfl, rfl, h⟩

end Shape

/-! ## Records -/

/-- A record holds each of its fields at most once, and what it holds is single in turn. -/
def singleFields (schema : List (FieldName × Shape)) (fields : Fields) : Bool :=
  schema.all fun p => (p.1.entries fields).length ≤ 1 && (p.1.entries fields).all (p.2.single ·.2)

/-- Two records hold the same fields with respelled values; the keys that spell no field are not compared. -/
def RespelledFields (schema : List (FieldName × Shape)) (fields others : Fields) : Prop :=
  ∀ p ∈ schema, List.Forall₂ (fun a b => p.2.Respelled a.2 b.2) (p.1.entries fields) (p.1.entries others)

def fields? : Json → Option Fields
  | .object fields => some fields
  | _ => none

theorem fields?_eq_some_iff {v : Json} {fields : Fields} : fields? v = some fields ↔ v = .object fields := by
  cases v <;> simp [fields?]

section Fields

variable {schema : List (FieldName × Shape)} {fields others : Fields}

theorem singleFields_mem (h : singleFields schema fields) {f : FieldName} {s : Shape} (hmem : (f, s) ∈ schema) :
    (f.entries fields).length ≤ 1 ∧ ∀ entry ∈ f.entries fields, s.single entry.2 := by
  have hfield := List.all_eq_true.1 h (f, s) hmem
  rw [Bool.and_eq_true, decide_eq_true_iff, List.all_eq_true] at hfield
  exact hfield

theorem respelledFields_equivalence (schema : List (FieldName × Shape)) : Equivalence (RespelledFields schema) := by
  have hvalues (s : Shape) : Equivalence fun a b : String × Json => s.Respelled a.2 b.2 :=
    ⟨fun _ => s.equivalence.refl _, s.equivalence.symm, s.equivalence.trans⟩
  refine ⟨fun _ p _ => ?_, fun h p hp => ?_, fun h h' p hp => ?_⟩
  · exact (forall₂_equivalence (hvalues p.2)).refl _
  · exact (forall₂_equivalence (hvalues p.2)).symm (h p hp)
  · exact (forall₂_equivalence (hvalues p.2)).trans (h p hp) (h' p hp)

theorem RespelledFields.singleFields_congr (h : RespelledFields schema fields others) :
    singleFields schema fields = singleFields schema others := by
  have hfield (p : FieldName × Shape) (hp : p ∈ schema) :
      ((p.1.entries fields).length ≤ 1 && (p.1.entries fields).all (p.2.single ·.2)) =
        ((p.1.entries others).length ≤ 1 && (p.1.entries others).all (p.2.single ·.2)) := by
    have hall : (p.1.entries fields).all (p.2.single ·.2) = (p.1.entries others).all (p.2.single ·.2) :=
      all_congr_of_forall₂ (fun _ _ hab => p.2.single_congr hab) (h p hp)
    rw [(h p hp).length_eq, hall]
  rw [singleFields, singleFields, Bool.eq_iff_iff, List.all_eq_true, List.all_eq_true]
  exact forall₂_congr fun p hp => by rw [hfield p hp]

/-- A record with these fields. -/
def Shape.record (schema : List (FieldName × Shape)) : Shape :=
  within fields? rfl (singleFields schema) (respelledFields_equivalence schema) RespelledFields.singleFields_congr

/-- Two records that are read alike. -/
structure Twins (schema : List (FieldName × Shape)) (fields others : Fields) : Prop where
  single : singleFields schema fields
  respelled : RespelledFields schema fields others

theorem Shape.twins_of_record {v w : Json} (hsingle : (Shape.record schema).single v)
    (h : (Shape.record schema).Respelled v w) :
    v = w ∨ ∃ fields others, v = .object fields ∧ w = .object others ∧ Twins schema fields others := by
  rcases h with rfl | ⟨fields, others, hv, hw, hrespelled⟩
  · exact .inl rfl
  · obtain rfl := fields?_eq_some_iff.1 hv
    exact .inr ⟨fields, others, rfl, fields?_eq_some_iff.1 hw, hsingle, hrespelled⟩

theorem Shape.record_respelled (h : RespelledFields schema fields others) :
    (Shape.record schema).Respelled (.object fields) (.object others) := .inr ⟨fields, others, rfl, rfl, h⟩

/-- An entry may be spelled in another way, and its value may be respelled. -/
theorem respelledFields_entry {key other : String} {v w : Json} (before after : Fields)
    (hkeys : ∀ p ∈ schema, p.1.spells key = p.1.spells other)
    (hvalues : ∀ p ∈ schema, p.1.spells key → p.2.Respelled v w) :
    RespelledFields schema (before ++ (key, v) :: after) (before ++ (other, w) :: after) := by
  intro p hp
  have hrest (kept : Fields) := (respelledFields_equivalence schema).refl kept p hp
  simp only [FieldName.entries_append, FieldName.entries_cons, ← hkeys p hp]
  refine List.rel_append (hrest before) ?_
  cases hspells : p.1.spells key with
  | false => exact hrest after
  | true => exact .cons (hvalues p hp hspells) (hrest after)

/-- A key that spells no field may be added anywhere. -/
theorem respelledFields_unknown {key : String} (before after : Fields) (v : Json)
    (hkey : ∀ p ∈ schema, ¬ p.1.spells key) :
    RespelledFields schema (before ++ after) (before ++ (key, v) :: after) := by
  intro p hp
  have hsame : p.1.entries (before ++ (key, v) :: after) = p.1.entries (before ++ after) := by
    rw [FieldName.entries_append, FieldName.entries_append, FieldName.entries_cons, if_neg (hkey p hp)]
  rw [hsame]
  exact (respelledFields_equivalence schema).refl (before ++ after) p hp

end Fields

/-! ## The kind of a record -/

/-- The text under `type`, which tells records of several kinds apart. -/
def tag? : Json → Option String
  | .object fields =>
    match Json.lookup "type" fields with
    | some (.text tag) => some tag
    | _ => none
  | _ => none

theorem tag?_eq_some_iff {v : Json} {tag : String} :
    tag? v = some tag ↔ ∃ fields, v = .object fields ∧ Json.lookup "type" fields = some (.text tag) := by
  constructor
  · intro h
    unfold tag? at h
    split at h
    · split at h
      · cases h
        exact ⟨_, rfl, ‹_›⟩
      · cases h
    · cases h
  · rintro ⟨fields, rfl, h⟩
    rw [tag?, h]

theorem tag?_of_required {fields : Fields} {tag : String}
    (h : required fields ⟨"type", []⟩ readText = .accepted tag) : tag? (.object fields) = some tag := by
  refine tag?_eq_some_iff.2 ⟨fields, rfl, ?_⟩
  rw [required, FieldName.spellings, present?] at h
  cases htype : Json.lookup "type" fields with
  | none =>
    rw [htype] at h
    cases h
  | some v =>
    rw [htype] at h
    cases v with
    | text s =>
      cases h
      rfl
    | _ => cases h

/-- A record whose shape depends on its tag, which every respelling keeps. -/
def Shape.tagged (shape : Option String → Shape) : Shape where
  single v := (shape (tag? v)).single v
  Respelled v w := tag? v = tag? w ∧ (shape (tag? v)).Respelled v w
  equivalence := by
    refine ⟨fun v => ⟨rfl, (shape _).equivalence.refl v⟩, ?_, ?_⟩
    · rintro v w ⟨htag, h⟩
      exact ⟨htag.symm, htag ▸ (shape _).equivalence.symm h⟩
    · rintro u v w ⟨huv, h⟩ ⟨hvw, h'⟩
      exact ⟨huv.trans hvw, (shape _).equivalence.trans h (huv ▸ h')⟩
  single_congr := by
    rintro v w ⟨htag, h⟩
    rw [← htag, (shape _).single_congr h]
  null := fun h => (shape _).null h.2

/-! ## Readers that keep to a shape -/

namespace Shape

variable {α : Type}

/-- Respellings of an accepted value are accepted with related results. -/
def Keeps (s : Shape) (R : α → α → Prop) (read : Json → Checked α) : Prop :=
  ∀ v w, s.single v → s.Respelled v w → (read v).Follows R (read w)

theorem Keeps.plain (read : Json → Checked α) : plain.Keeps Eq read := by
  rintro v _ - rfl
  exact .refl (read v)

theorem Keeps.optional {s : Shape} {read : Json → Checked α} (h : s.Keeps Eq read) :
    s.Keeps Eq (readOptional read) := by
  intro v w hsingle hrespelled
  cases v with
  | null =>
    rw [s.null hrespelled]
    exact .refl _
  | _ =>
    have hw : w ≠ .null := by
      rintro rfl
      cases s.null (s.equivalence.symm hrespelled)
    rw [readOptional_of_ne_null hw]
    exact (h _ _ hsingle hrespelled).map_eq some

theorem Keeps.items {s : Shape} {R : α → α → Prop} {read : Json → Checked α} (h : s.Keeps R read) :
    (list s).Keeps (List.Forall₂ R) (readList read) := by
  have hall {vs ws : List Json} (hrespelled : List.Forall₂ s.Respelled vs ws) (position : Nat)
      (hsingle : ∀ v ∈ vs, s.single v) :
      (all read position vs).Follows (List.Forall₂ R) (all read position ws) := by
    induction hrespelled generalizing position with
    | nil => exact fun _ hnil => ⟨[], rfl, by cases hnil; exact .nil⟩
    | cons hhead _ ih =>
      obtain ⟨hv, hvs⟩ := List.forall_mem_cons.1 hsingle
      refine .apply (.map ?_ ((h _ _ hv hhead).under _ _)) (ih (position + 1) hvs)
      exact fun _ _ hab _ _ hrest => .cons hab hrest
  intro v w hsingle hrespelled
  cases v with
  | list vs =>
    have hitems : vs.all s.single = true := hsingle
    rw [List.all_eq_true] at hitems
    rcases hrespelled with rfl | ⟨_, ws, ⟨⟩, hws, hrespelled⟩
    · exact hall (List.forall₂_same.2 fun x _ => s.equivalence.refl x) 0 hitems
    · obtain rfl := items?_eq_some_iff.1 hws
      exact hall hrespelled 0 hitems
  | _ => exact nofun

theorem Keeps.items_eq {s : Shape} {read : Json → Checked α} (h : s.Keeps Eq read) :
    (list s).Keeps Eq (readList read) := by
  have hitems := h.items
  rwa [List.forall₂_eq_eq_eq] at hitems

theorem Keeps.record {schema : List (FieldName × Shape)} {R : α → α → Prop} {name : String}
    {read : Fields → Checked α}
    (h : ∀ {fields others}, Twins schema fields others → (read fields).Follows R (read others)) :
    (Shape.record schema).Keeps R (readRecord name read) := by
  intro v w hsingle hrespelled
  rcases twins_of_record hsingle hrespelled with rfl | ⟨fields, others, rfl, rfl, htwins⟩
  · cases v with
    | object fields => exact h ⟨hsingle, (respelledFields_equivalence schema).refl fields⟩
    | _ => exact nofun
  · exact h htwins

end Shape

section Fields

variable {α : Type} {schema : List (FieldName × Shape)} {fields others : Fields} {f : FieldName} {s : Shape}
  {R : α → α → Prop} {read : Json → Checked α}

/-- A field is absent from both records, or both hold it once, with respelled values. -/
theorem Twins.present (h : Twins schema fields others) (hmem : (f, s) ∈ schema) :
    present? fields f.spellings = none ∧ present? others f.spellings = none ∨
    ∃ entry other, present? fields f.spellings = some entry ∧ present? others f.spellings = some other ∧
      s.single entry.2 ∧ s.Respelled entry.2 other.2 := by
  obtain ⟨honce, hentries⟩ := singleFields_mem h.single hmem
  have hother : singleFields schema others := h.respelled.singleFields_congr ▸ h.single
  rw [present?_eq_head? honce, present?_eq_head? (singleFields_mem hother hmem).1]
  have hsame := h.respelled _ hmem
  dsimp only at hsame hentries
  cases hentry : f.entries fields with
  | nil =>
    rw [hentry, List.forall₂_nil_left_iff] at hsame
    rw [hsame]
    exact .inl ⟨rfl, rfl⟩
  | cons entry rest =>
    rw [hentry, List.forall₂_cons_left_iff] at hsame
    obtain ⟨other, _, hvalue, -, hother⟩ := hsame
    rw [hother]
    exact .inr ⟨entry, other, rfl, rfl, hentries entry (hentry ▸ List.mem_cons_self), hvalue⟩

theorem Twins.required (h : Twins schema fields others) {i : Nat} (hfield : schema[i]? = some (f, s))
    (hread : s.Keeps R read) : (required fields f read).Follows R (required others f read) := by
  unfold Schema.required
  rcases h.present (List.mem_of_getElem? hfield) with
    ⟨hnone, hnone'⟩ | ⟨entry, other, hentry, hother, hvalue, hrespelled⟩
  · rw [hnone, hnone']
    exact nofun
  · rw [hentry, hother]
    exact (hread _ _ hvalue hrespelled).under _ _

theorem Twins.defaulted (h : Twins schema fields others) {i : Nat} (hfield : schema[i]? = some (f, s))
    (hread : s.Keeps R read) {default : α} (hdefault : R default default) :
    (defaulted fields f default read).Follows R (defaulted others f default read) := by
  unfold Schema.defaulted
  rcases h.present (List.mem_of_getElem? hfield) with
    ⟨hnone, hnone'⟩ | ⟨entry, other, hentry, hother, hvalue, hrespelled⟩
  · rw [hnone, hnone']
    exact fun _ haccepted => ⟨default, rfl, by cases haccepted; exact hdefault⟩
  · rw [hentry, hother]
    exact (hread _ _ hvalue hrespelled).under _ _

end Fields

end Schema

end DashboardCompiler
