import DashboardCompiler.Design.Dump
import DashboardCompiler.Design.Kinds
import DashboardCompiler.Proofs.Schema.Checked
import Mathlib.Data.List.Nodup

/-!
# Laws of the field readers

Two properties of readers, each kept by every way in which readers are put together. A reader is explained
when each of its rejections names a problem. It reads back a written form when whatever it accepts is
accepted again, unchanged, from that form; the value that came out of text, a flag or a whole double is then
one that stands inside the bounds of its own field.
-/

/-!
## Names determine members

Every enumeration of a design lists all its members, and no two of them share a name. Reading a name is
therefore exactly the inverse of writing it.
-/

namespace DashboardCompiler

class LawfulNamed (α : Type) [Named α] : Prop where
  mem_members : ∀ a : α, a ∈ (Named.members : List α)
  names_nodup : (Named.names α).Nodup

namespace Named

variable {α : Type} [Named α]

theorem name_of_ofName? {s : String} {a : α} (h : ofName? s = some a) : name a = s := by
  have hs := List.find?_some h
  exact of_decide_eq_true hs

variable [LawfulNamed α]

theorem name_injective : Function.Injective (name : α → String) := by
  intro a b h
  exact List.inj_on_of_nodup_map LawfulNamed.names_nodup (LawfulNamed.mem_members a)
    (LawfulNamed.mem_members b) h

theorem ofName?_eq_some_iff {s : String} {a : α} : ofName? s = some a ↔ name a = s := by
  constructor
  · exact name_of_ofName?
  · rintro rfl
    cases h : (ofName? (name a) : Option α) with
    | none =>
      have hnone := List.find?_eq_none.1 h a (LawfulNamed.mem_members a)
      exact absurd (decide_eq_true rfl) hnone
    | some b => rw [name_injective (name_of_ofName? h)]

@[simp] theorem ofName?_name (a : α) : ofName? (name a) = some a := ofName?_eq_some_iff.2 rfl

theorem ofName?_eq_none_iff {s : String} :
    (ofName? s : Option α) = none ↔ ∀ a : α, name a ≠ s := by
  constructor
  · intro h a ha
    rw [ofName?_eq_some_iff.2 ha] at h
    cases h
  · intro h
    cases hs : (ofName? s : Option α) with
    | none => rfl
    | some a => exact absurd (name_of_ofName? hs) (h a)

end Named

instance : LawfulNamed Framework where
  mem_members a := by cases a <;> decide
  names_nodup := by decide

instance : LawfulNamed OutputFormat where
  mem_members a := by cases a <;> decide
  names_nodup := by decide

instance : LawfulNamed Theme where
  mem_members a := by cases a <;> decide
  names_nodup := by decide

instance : LawfulNamed WidgetKind where
  mem_members a := by cases a <;> decide
  names_nodup := by decide

instance : LawfulNamed BorderStyle where
  mem_members a := by cases a <;> decide
  names_nodup := by decide

instance : LawfulNamed TextAlign where
  mem_members a := by cases a <;> decide
  names_nodup := by decide

instance : LawfulNamed BarOrientation where
  mem_members a := by cases a <;> decide
  names_nodup := by decide

instance : LawfulNamed ProgressColor where
  mem_members a := by cases a <;> decide
  names_nodup := by decide

instance : LawfulNamed SparklineStyle where
  mem_members a := by cases a <;> decide
  names_nodup := by decide

instance : LawfulNamed MetricFormat where
  mem_members a := by cases a <;> decide
  names_nodup := by decide

instance : LawfulNamed SystemMetric where
  mem_members a := by cases a <;> decide
  names_nodup := by decide

instance : LawfulNamed HttpMethod where
  mem_members a := by cases a <;> decide
  names_nodup := by decide

end DashboardCompiler

namespace DashboardCompiler.Schema

open Checked

variable {α : Type}

/-! ## Rejections name problems -/

theorem readText_explained (v : Json) : (readText v).Explained := by
  cases v <;> nofun

theorem flagOfInt_explained (n : Int) : (flagOfInt n).Explained := by
  unfold flagOfInt
  split
  · exact explained_accepted false
  · split
    · exact explained_accepted true
    · exact explained_fail _

theorem integerOfDouble_explained (x : Double) : (integerOfDouble x).Explained := by
  unfold integerOfDouble
  split
  · exact explained_fail _
  · split
    · exact explained_fail _
    · split
      · exact explained_fail _
      · split
        · exact explained_accepted _
        · exact explained_fail _

theorem readAnyInteger_explained (v : Json) : (readAnyInteger v).Explained := by
  unfold readAnyInteger
  split
  · exact explained_accepted _
  · exact explained_accepted _
  · exact integerOfDouble_explained _
  · split
    · exact explained_accepted _
    · exact explained_fail _
  · exact explained_fail _

theorem readInteger_explained (least greatest : Option Int) (v : Json) :
    (readInteger least greatest v).Explained := by
  refine explained_andThen (readAnyInteger_explained v) fun n => ?_
  cases least with
  | none =>
    cases greatest with
    | none => exact explained_accepted n
    | some g =>
      dsimp only
      split
      · exact explained_fail _
      · exact explained_accepted n
  | some l =>
    dsimp only
    split
    · exact explained_fail _
    · cases greatest with
      | none => exact explained_accepted n
      | some g =>
        dsimp only
        split
        · exact explained_fail _
        · exact explained_accepted n

theorem readFlag_explained (v : Json) : (readFlag v).Explained := by
  unfold readFlag
  split
  · exact explained_accepted _
  · split
    · exact explained_accepted _
    · exact explained_fail _
  · split
    · exact flagOfInt_explained _
    · exact explained_fail _
  · split
    · exact flagOfInt_explained _
    · exact explained_fail _
  · exact explained_fail _

theorem readDouble_explained (v : Json) : (readDouble v).Explained := by
  cases v with
  | bool b => exact explained_accepted _
  | number n =>
    cases n with
    | int n => exact explained_ofExcept _ _
    | double x => exact explained_accepted x
  | text s =>
    rw [readDouble]
    split
    · exact explained_accepted _
    · exact explained_fail _
  | null => exact explained_fail _
  | list items => exact explained_fail _
  | object fields => exact explained_fail _

theorem readChoice_explained [Named α] (v : Json) : (readChoice v : Checked α).Explained := by
  unfold readChoice
  split
  · split
    · exact explained_accepted _
    · exact explained_fail _
  · exact explained_fail _

theorem defaulted_explained {read : Json → Checked α} (h : ∀ v, (read v).Explained) (fields : Fields)
    (f : FieldName) (default : α) : (defaulted fields f default read).Explained := by
  unfold defaulted
  split
  · exact explained_under _ (h _)
  · exact explained_accepted default

/-! ## Reading back what is written -/

/-- Whatever the reader accepts, it accepts again from its written form, with the same result. -/
def ReadsBack (read : Json → Checked α) (write : α → Json) : Prop :=
  ∀ v a, read v = .accepted a → read (write a) = .accepted a

theorem readsBack_of_inverse {read : Json → Checked α} {write : α → Json}
    (h : ∀ a, read (write a) = .accepted a) : ReadsBack read write := fun _ a _ => h a

/-- A check behind a reader lets a value through as it is, or refuses it. -/
theorem andThen_readsBack {read : Json → Checked α} {write : α → Json} {check : α → Checked α}
    (hread : ∀ a, read (write a) = .accepted a)
    (hcheck : ∀ a b, check a = .accepted b → b = a) :
    ReadsBack (fun v => (read v).andThen check) write := by
  intro v b h
  obtain ⟨a, ha, hb⟩ := andThen_accepted_iff.1 h
  obtain rfl := hcheck a b hb
  exact andThen_accepted_iff.2 ⟨b, hread b, hb⟩

theorem readText_readsBack : ReadsBack readText .text := readsBack_of_inverse fun _ => rfl

theorem readFilledText_readsBack : ReadsBack readFilledText .text := by
  refine andThen_readsBack (fun _ => rfl) fun s t h => ?_
  split at h
  · cases h
  · cases h
    rfl

/-- Each bound that is there refuses or lets pass. -/
theorem readInteger_accepted_iff {least greatest : Option Int} {v : Json} {n : Int} :
    readInteger least greatest v = .accepted n ↔ readAnyInteger v = .accepted n ∧
      (∀ l, least = some l → l ≤ n) ∧ (∀ g, greatest = some g → n ≤ g) := by
  rw [readInteger, andThen_accepted_iff]
  cases least <;> cases greatest <;> grind [fail_ne_accepted]

theorem readInteger_readsBack (least greatest : Option Int) :
    ReadsBack (readInteger least greatest) .ofInt := by
  intro v n h
  obtain ⟨-, hbounds⟩ := readInteger_accepted_iff.1 h
  exact readInteger_accepted_iff.2 ⟨rfl, hbounds⟩

theorem readFlag_readsBack : ReadsBack readFlag .bool := readsBack_of_inverse fun _ => rfl

theorem readChoice_readsBack [Named α] [LawfulNamed α] :
    ReadsBack (readChoice : Json → Checked α) .ofNamed := by
  refine readsBack_of_inverse fun a => ?_
  simp [Json.ofNamed, readChoice]

theorem readMapping_readsBack : ReadsBack readMapping .object := readsBack_of_inverse fun _ => rfl

theorem all_readsBack {read : Json → Checked α} {write : α → Json} (h : ReadsBack read write)
    (position : Nat) (vs : List Json) (items : List α) (hall : all read position vs = .accepted items) :
    all read position (items.map write) = .accepted items := by
  induction vs generalizing position items with
  | nil =>
    cases hall
    rfl
  | cons v vs ih =>
    simp only [all, apply_accepted_iff, map_accepted_iff, under_accepted_iff] at hall
    obtain ⟨_, ⟨a, ha, rfl⟩, rest, hrest, rfl⟩ := hall
    simp only [List.map_cons, all, apply_accepted_iff, map_accepted_iff, under_accepted_iff]
    exact ⟨List.cons a, ⟨a, h v a ha, rfl⟩, rest, ih (position + 1) rest hrest, rfl⟩

theorem readList_readsBack {read : Json → Checked α} {write : α → Json} (h : ReadsBack read write) :
    ReadsBack (readList read) (fun items => .list (items.map write)) := by
  intro v items hv
  cases v with
  | list vs => exact all_readsBack h 0 vs items hv
  | _ => cases hv

theorem readOptional_of_ne_null {read : Json → Checked α} {v : Json} (hv : v ≠ .null) :
    readOptional read v = (read v).map some := by
  cases v with
  | null => exact absurd rfl hv
  | _ => rfl

/-- Null is no written form of a value, so it still stands for none. -/
theorem readOptional_readsBack {read : Json → Checked α} {write : α → Json} (h : ReadsBack read write)
    (hnull : ∀ a, write a ≠ .null) : ReadsBack (readOptional read) (.ofOptional write) := by
  intro v o ho
  cases o with
  | none => rfl
  | some a =>
    have hv : v ≠ .null := by
      rintro rfl
      cases ho
    rw [readOptional_of_ne_null hv] at ho
    obtain ⟨a', ha, hsome⟩ := map_accepted_iff.1 ho
    cases hsome
    rw [Json.ofOptional, readOptional_of_ne_null (hnull a)]
    exact map_accepted_iff.2 ⟨a, h v a ha, rfl⟩

theorem readValues_readsBack {read : Json → Checked α} {write : α → Json} (h : ReadsBack read write)
    (fields : Fields) (items : List (String × α)) (hread : readValues read fields = .accepted items) :
    readValues read (items.map fun (key, a) => (key, write a)) = .accepted items := by
  induction fields generalizing items with
  | nil =>
    cases hread
    rfl
  | cons field fields ih =>
    obtain ⟨key, v⟩ := field
    simp only [readValues, apply_accepted_iff, map_accepted_iff, under_accepted_iff] at hread
    obtain ⟨_, ⟨a, ha, rfl⟩, rest, hrest, rfl⟩ := hread
    simp only [List.map_cons, readValues, apply_accepted_iff, map_accepted_iff, under_accepted_iff]
    exact ⟨_, ⟨a, h v a ha, rfl⟩, rest, ih rest hrest, rfl⟩

theorem readRecord_accepted {record : String} {read : Fields → Checked α} {v : Json} {a : α}
    (h : readRecord record read v = .accepted a) : ∃ fields, read fields = .accepted a := by
  cases v with
  | object fields => exact ⟨fields, h⟩
  | _ => cases h

/-- A field has the value that was read for it, or its default. -/
theorem defaulted_accepted {read : Json → Checked α} {fields : Fields} {f : FieldName} {default a : α}
    (h : defaulted fields f default read = .accepted a) : a = default ∨ ∃ v, read v = .accepted a := by
  unfold defaulted at h
  split at h
  · exact .inr ⟨_, under_accepted_iff.1 h⟩
  · cases h
    exact .inl rfl

theorem readRecord_readsBack {record : String} {read : Fields → Checked α} {write : α → Fields}
    (h : ∀ fields a, read fields = .accepted a → read (write a) = .accepted a) :
    ReadsBack (readRecord record read) (fun a => .object (write a)) := by
  intro v a hv
  cases v with
  | object fields => exact h fields a hv
  | _ => cases hv

/-- What is read for a field depends on its own spellings alone. -/
theorem present?_congr {fields others : Fields} {spellings : List String}
    (h : ∀ spelling ∈ spellings, Json.lookup spelling fields = Json.lookup spelling others) :
    present? fields spellings = present? others spellings := by
  induction spellings with
  | nil => rfl
  | cons spelling rest ih =>
    obtain ⟨hspelling, hrest⟩ := List.forall_mem_cons.1 h
    rw [present?, present?, hspelling, ih hrest]

theorem defaulted_congr {fields others : Fields} {f : FieldName}
    (h : ∀ spelling ∈ f.spellings, Json.lookup spelling fields = Json.lookup spelling others) (default : α)
    (read : Json → Checked α) : defaulted fields f default read = defaulted others f default read := by
  rw [defaulted, defaulted, present?_congr h]

theorem present?_eq_none {fields : Fields} {spellings : List String}
    (h : ∀ spelling ∈ spellings, Json.lookup spelling fields = none) : present? fields spellings = none := by
  induction spellings with
  | nil => rfl
  | cons spelling rest ih =>
    obtain ⟨hspelling, hrest⟩ := List.forall_mem_cons.1 h
    rw [present?, hspelling]
    exact ih hrest

theorem present?_main {f : FieldName} {written : Fields} {v : Json}
    (hfound : Json.lookup f.main written = some v) :
    present? written f.spellings = some (f.main, v) := by
  simp [present?, FieldName.spellings, hfound]

theorem defaulted_of_lookup {read : Json → Checked α} {fields : Fields} {f : FieldName} {v : Json} {default a : α}
    (hfound : Json.lookup f.main fields = some v) (hread : read v = .accepted a) :
    defaulted fields f default read = .accepted a := by
  rw [defaulted, present?_main hfound]
  exact under_accepted_iff.2 hread

/-- What a field was given, or was left to be, is read again once it is written under the main spelling. -/
theorem defaulted_again {read : Json → Checked α} {write : α → Json} (h : ReadsBack read write)
    {default a : α} (hdefault : read (write default) = .accepted default) {fields written : Fields}
    {f : FieldName} (hread : defaulted fields f default read = .accepted a)
    (hfound : Json.lookup f.main written = some (write a)) :
    defaulted written f default read = .accepted a := by
  have hback : read (write a) = .accepted a := by
    rcases defaulted_accepted hread with rfl | ⟨v, hv⟩
    · exact hdefault
    · exact h v a hv
  exact defaulted_of_lookup hfound hback

theorem required_again {read : Json → Checked α} {write : α → Json} (h : ReadsBack read write)
    {a : α} {fields written : Fields} {f : FieldName} (hread : required fields f read = .accepted a)
    (hfound : Json.lookup f.main written = some (write a)) :
    required written f read = .accepted a := by
  unfold required at hread
  split at hread
  · rw [required, present?_main hfound]
    exact under_accepted_iff.2 (h _ a (under_accepted_iff.1 hread))
  · cases hread

end DashboardCompiler.Schema
