import DashboardCompiler.Proofs.Text.Lines
import DashboardCompiler.Proofs.Text.ReadLiterals
import DashboardCompiler.Target.Ratatui.Literal

/-!
# Static values in Rust programs

A static value stands in a Rust program as JSON, and the macro around it reads Rust literals. JSON and Rust write a
text alike unless it holds a control character other than the two line breaks and the tab: for those JSON has escapes
that no Rust literal may hold. One such character anywhere in a value makes its form differ from the one in Rust
literals, and the literal that it stands in unreadable.
-/

namespace DashboardCompiler

namespace Text

/-! ## Writings that agree or go apart -/

/-- Neither text is the beginning of the other. -/
def Parted (as bs : List Char) : Prop :=
  ∃ common a b restA restB, a ≠ b ∧ as = common ++ a :: restA ∧ bs = common ++ b :: restB

/-- Two writings of one thing: the same under a condition, and apart without it. -/
structure AlikeIf (p : Prop) (as bs : List Char) : Prop where
  same : p → as = bs
  parted : ¬ p → Parted as bs

section AlikeIf

variable {p q : Prop} {as bs cs ds : List Char}

theorem Parted.ne (h : Parted as bs) : as ≠ bs := by
  obtain ⟨common, a, b, restA, restB, hne, rfl, rfl⟩ := h
  intro heq
  exact hne (List.cons.inj (List.append_cancel_left heq)).1

theorem Parted.append (h : Parted as bs) (cs ds : List Char) : Parted (as ++ cs) (bs ++ ds) := by
  obtain ⟨common, a, b, restA, restB, hne, rfl, rfl⟩ := h
  exact ⟨common, a, b, restA ++ cs, restB ++ ds, hne, List.append_assoc _ _ _, List.append_assoc _ _ _⟩

theorem Parted.prepend (h : Parted as bs) (cs : List Char) : Parted (cs ++ as) (cs ++ bs) := by
  obtain ⟨common, a, b, restA, restB, hne, rfl, rfl⟩ := h
  exact ⟨cs ++ common, a, b, restA, restB, hne, (List.append_assoc _ _ _).symm, (List.append_assoc _ _ _).symm⟩

namespace AlikeIf

theorem eq_iff (h : AlikeIf p as bs) : as = bs ↔ p :=
  ⟨fun heq => by_contra fun hp => (h.parted hp).ne heq, h.same⟩

theorem refl (hp : p) (as : List Char) : AlikeIf p as as := ⟨fun _ => rfl, fun hno => absurd hp hno⟩

theorem congr (h : AlikeIf p as bs) (hpq : q ↔ p) : AlikeIf q as bs :=
  ⟨fun hq => h.same (hpq.1 hq), fun hno => h.parted fun hp => hno (hpq.2 hp)⟩

theorem append (h : AlikeIf p as bs) (h' : AlikeIf q cs ds) : AlikeIf (p ∧ q) (as ++ cs) (bs ++ ds) := by
  refine ⟨fun ⟨hp, hq⟩ => by rw [h.same hp, h'.same hq], fun hno => ?_⟩
  by_cases hp : p
  · rw [h.same hp]
    exact (h'.parted fun hq => hno ⟨hp, hq⟩).prepend bs
  · exact (h.parted hp).append cs ds

/-- Both writings between the same texts. -/
theorem framed (h : AlikeIf p as bs) (before after : List Char) :
    AlikeIf p (before ++ as ++ after) (before ++ bs ++ after) := by
  have hwhole := ((refl trivial before).append h).append (refl trivial after)
  exact hwhole.congr (by simp)

theorem enclosed {a b : String} (h : AlikeIf p a.toList b.toList) (before after : String) :
    AlikeIf p (before ++ a ++ after).toList (before ++ b ++ after).toList := by
  rw [String.toList_append, String.toList_append, String.toList_append, String.toList_append]
  exact h.framed before.toList after.toList

/-- Two such pairs with the same text between them. -/
theorem separated {a b c d : String} (h : AlikeIf p a.toList b.toList) (h' : AlikeIf q c.toList d.toList)
    (separator : String) : AlikeIf (p ∧ q) (a ++ separator ++ c).toList (b ++ separator ++ d).toList := by
  rw [String.toList_append, String.toList_append, String.toList_append, String.toList_append]
  have hwhole := (h.append (refl trivial separator.toList)).append h'
  exact hwhole.congr (by simp)

theorem flatMap {f g : Char → List Char} {P : Char → Prop} (h : ∀ c, AlikeIf (P c) (f c) (g c)) (cs : List Char) :
    AlikeIf (∀ c ∈ cs, P c) (cs.flatMap f) (cs.flatMap g) := by
  induction cs with
  | nil => exact refl nofun []
  | cons c cs ih =>
    rw [List.flatMap_cons, List.flatMap_cons]
    exact ((h c).append ih).congr List.forall_mem_cons

end AlikeIf

end AlikeIf

/-! ## The JSON form as a Rust literal -/

/-- JSON and Rust literals write the character alike: it is no control character, or one for which both have the same
short escape. -/
def EscapesAlike (c : Char) : Prop := c.toNat < 0x20 → c = '\n' ∨ c = '\r' ∨ c = '\t'

instance : DecidablePred EscapesAlike := fun c => by unfold EscapesAlike; infer_instance

/-- The text holds such characters only; its JSON form is then its Rust literal. -/
def FitsRust (s : String) : Prop := ∀ c ∈ s.toList, EscapesAlike c

instance : DecidablePred FitsRust := fun s =>
  decidable_of_iff (s.toList.all fun c => decide (EscapesAlike c)) (by simp [FitsRust])

section Escapes

variable {c : Char}

theorem documentEscape_of_alike (h : EscapesAlike c) : documentEscape c = rustEscape c := by
  by_cases hcontrol : c.toNat < 0x20
  · rcases h hcontrol with rfl | rfl | rfl <;> rfl
  · have hbackspace : c.toNat ≠ 8 := by omega
    have hfeed : c.toNat ≠ 12 := by omega
    unfold documentEscape rustEscape
    rw [if_neg hbackspace, if_neg hfeed, if_neg hcontrol, if_neg hcontrol]
    split_ifs with hquote hback
    · rw [hquote] at hback
      cases hback
    all_goals rfl

theorem not_escapesAlike_iff :
    ¬ EscapesAlike c ↔ c.toNat < 0x20 ∧ c ≠ '"' ∧ c ≠ '\\' ∧ c ≠ '\n' ∧ c ≠ '\r' ∧ c ≠ '\t' := by
  rw [EscapesAlike, Classical.not_imp, not_or, not_or]
  refine and_congr_right fun hcontrol => ?_
  have hquote : c ≠ '"' := by
    rintro rfl
    exact absurd hcontrol (by decide)
  have hback : c ≠ '\\' := by
    rintro rfl
    exact absurd hcontrol (by decide)
  simp [hquote, hback]

/-- Rust has a code between braces for the other control characters. -/
theorem rustEscape_of_not_alike (h : ¬ EscapesAlike c) : ∃ code, rustEscape c = '\\' :: 'u' :: '\x7b' :: code := by
  obtain ⟨hcontrol, hquote, hback, hfeed, hreturn, htab⟩ := not_escapesAlike_iff.1 h
  rw [rustEscape, if_neg hback, if_neg hquote, if_neg hfeed, if_neg hreturn, if_neg htab, if_pos hcontrol]
  exact ⟨_, rfl⟩

theorem hexDigits_four {n : Nat} (h : n < 0x100) : ∃ digits, hexDigits 4 n = '0' :: digits := by
  rcases toDigits_sixteen_cases h with ⟨hdigits, -⟩ | hdigits
  · rw [hexDigits, hdigits]
    exact ⟨_, rfl⟩
  · rw [hexDigits, hdigits]
    exact ⟨_, rfl⟩

/-- And JSON has a short escape that Rust lacks, or a code of four digits without braces. -/
theorem documentEscape_of_not_alike (h : ¬ EscapesAlike c) :
    documentEscape c = ['\\', 'b'] ∨ documentEscape c = ['\\', 'f'] ∨
      ∃ digits, documentEscape c = '\\' :: 'u' :: '0' :: digits := by
  obtain ⟨hcontrol, hquote, hback, hfeed, hreturn, htab⟩ := not_escapesAlike_iff.1 h
  rw [documentEscape, if_neg hquote, if_neg hback, if_neg hfeed, if_neg hreturn, if_neg htab]
  split_ifs
  · exact .inl rfl
  · exact .inr (.inl rfl)
  · obtain ⟨digits, hdigits⟩ := hexDigits_four (n := c.toNat) (by omega)
    exact .inr (.inr ⟨digits, by rw [hdigits]⟩)

theorem parted_of_not_alike (h : ¬ EscapesAlike c) : Parted (documentEscape c) (rustEscape c) := by
  obtain ⟨code, hrust⟩ := rustEscape_of_not_alike h
  rw [hrust]
  rcases documentEscape_of_not_alike h with hdocument | hdocument | ⟨digits, hdocument⟩
  · exact ⟨['\\'], 'b', 'u', [], '\x7b' :: code, by decide, hdocument, rfl⟩
  · exact ⟨['\\'], 'f', 'u', [], '\x7b' :: code, by decide, hdocument, rfl⟩
  · exact ⟨['\\', 'u'], '0', '\x7b', digits, code, by decide, hdocument, rfl⟩

theorem alikeIf_escape (c : Char) : AlikeIf (EscapesAlike c) (documentEscape c) (rustEscape c) :=
  ⟨documentEscape_of_alike, parted_of_not_alike⟩

/-- No reader of Rust literals gets past such an escape. -/
theorem readRustBody_of_not_alike (h : ¬ EscapesAlike c) (rest : List Char) :
    readRustBody .between (documentEscape c ++ rest) = none := by
  rcases documentEscape_of_not_alike h with hdocument | hdocument | ⟨digits, hdocument⟩
  · rw [hdocument]
    rfl
  · rw [hdocument]
    rfl
  · rw [hdocument]
    rfl

end Escapes

theorem alikeIf_quoted (s : String) : AlikeIf (FitsRust s) (documentQuoted s).toList (rustQuoted s).toList := by
  rw [documentQuoted, rustQuoted, String.toList_ofList, String.toList_ofList]
  exact (AlikeIf.flatMap alikeIf_escape s.toList).framed ['"'] ['"']

theorem readRustBody_documentEscapes {cs : List Char} (h : ¬ ∀ c ∈ cs, EscapesAlike c) (rest : List Char) :
    readRustBody .between (cs.flatMap documentEscape ++ rest) = none := by
  induction cs with
  | nil => exact absurd nofun h
  | cons c cs ih =>
    rw [List.flatMap_cons, List.append_assoc]
    by_cases hc : EscapesAlike c
    · have hcs : ¬ ∀ c ∈ cs, EscapesAlike c := fun hcs => h (List.forall_mem_cons.2 ⟨hc, hcs⟩)
      rw [documentEscape_of_alike hc, readRustBody_rustEscape, ih hcs]
      rfl
    · exact readRustBody_of_not_alike hc _

/-- The JSON form of a text is read as that text, or not read at all. -/
theorem readRust?_documentQuoted (s t : String) :
    readRust? (documentQuoted s ++ t) = if FitsRust s then some (s, t) else none := by
  split
  · rename_i hfits
    have hsame : documentQuoted s = rustQuoted s := String.toList_inj.1 ((alikeIf_quoted s).same hfits)
    rw [hsame, readRust?_quoted]
  · rename_i hno
    rw [documentQuoted, documentQuotedChars, ofList_quoted_append, readRust?_cons, readRustBody_documentEscapes hno]
    rfl

end Text

/-! ## Values -/

namespace Json

mutual

/-- The texts in a value: its strings and the keys of its objects, at any depth. -/
def texts : Json → List String
  | .text s => [s]
  | .list items => itemTexts items
  | .object fields => fieldTexts fields
  | .null | .bool _ | .number _ => []

def itemTexts : List Json → List String
  | [] => []
  | item :: rest => item.texts ++ itemTexts rest

def fieldTexts : List (String × Json) → List String
  | [] => []
  | (key, value) :: rest => key :: value.texts ++ fieldTexts rest

end

/-- JSON with the literals of Rust. -/
def rustSpelling : Spelling := { documentSpelling with quote := Text.rustQuoted }

open Text

theorem alikeIf_joinWith_cons {p q : Prop} {a b separator : String} {as bs : List String}
    (h : AlikeIf p a.toList b.toList) (hnil : as = [] ↔ bs = [])
    (hrest : AlikeIf q (joinWith separator as).toList (joinWith separator bs).toList) :
    AlikeIf (p ∧ q) (joinWith separator (a :: as)).toList (joinWith separator (b :: bs)).toList := by
  by_cases hempty : as = []
  · have hempty' := hnil.1 hempty
    subst hempty hempty'
    have hq : q := hrest.eq_iff.1 rfl
    exact h.congr (and_iff_left hq)
  · have hempty' : bs ≠ [] := fun hbs => hempty (hnil.2 hbs)
    rw [joinWith_cons_of_ne_nil _ _ hempty, joinWith_cons_of_ne_nil _ _ hempty']
    exact h.separated hrest separator

theorem writeItems_eq_nil_iff {how : Spelling} {items : List Json} : writeItems how items = [] ↔ items = [] := by
  cases items <;> simp [writeItems]

theorem writeFields_eq_nil_iff {how : Spelling} {fields : List (String × Json)} :
    writeFields how fields = [] ↔ fields = [] := by
  cases fields <;> simp [writeFields]

mutual

/-- The two spellings of a value agree if all its texts fit, and go apart at the first character that does not. -/
theorem alikeIf_write :
    ∀ v : Json, AlikeIf (∀ s ∈ v.texts, FitsRust s) (v.write documentSpelling).toList (v.write rustSpelling).toList
  | .null => by
    rw [write, write, texts]
    exact .refl (List.forall_mem_nil _) _
  | .bool b => by
    rw [write, write, texts]
    exact .refl (List.forall_mem_nil _) _
  | .number (.int n) => by
    rw [write, write, texts]
    exact .refl (List.forall_mem_nil _) _
  | .number (.double x) => by
    rw [write, write, texts]
    exact .refl (List.forall_mem_nil _) _
  | .text s => by
    rw [write, write, texts]
    exact (alikeIf_quoted s).congr List.forall_mem_singleton
  | .list items => by
    rw [write, write, texts]
    exact (alikeIf_items items).enclosed "[" "]"
  | .object fields => by
    rw [write, write, texts]
    exact (alikeIf_fields fields).enclosed "\x7b" "\x7d"

theorem alikeIf_items :
    ∀ items : List Json, AlikeIf (∀ s ∈ itemTexts items, FitsRust s)
      (joinWith ", " (writeItems documentSpelling items)).toList (joinWith ", " (writeItems rustSpelling items)).toList
  | [] => by
    rw [writeItems, writeItems, itemTexts]
    exact .refl (List.forall_mem_nil _) _
  | item :: rest => by
    have hnil : writeItems documentSpelling rest = [] ↔ writeItems rustSpelling rest = [] :=
      writeItems_eq_nil_iff.trans writeItems_eq_nil_iff.symm
    rw [writeItems, writeItems, itemTexts]
    exact (alikeIf_joinWith_cons (alikeIf_write item) hnil (alikeIf_items rest)).congr List.forall_mem_append

theorem alikeIf_fields :
    ∀ fields : List (String × Json), AlikeIf (∀ s ∈ fieldTexts fields, FitsRust s)
      (joinWith ", " (writeFields documentSpelling fields)).toList
      (joinWith ", " (writeFields rustSpelling fields)).toList
  | [] => by
    rw [writeFields, writeFields, fieldTexts]
    exact .refl (List.forall_mem_nil _) _
  | (key, value) :: rest => by
    have hnil : writeFields documentSpelling rest = [] ↔ writeFields rustSpelling rest = [] :=
      writeFields_eq_nil_iff.trans writeFields_eq_nil_iff.symm
    have hfield : AlikeIf (FitsRust key ∧ ∀ s ∈ value.texts, FitsRust s)
        (documentSpelling.quote key ++ ": " ++ value.write documentSpelling).toList
        (rustSpelling.quote key ++ ": " ++ value.write rustSpelling).toList :=
      (alikeIf_quoted key).separated (alikeIf_write value) ": "
    rw [writeFields, writeFields, fieldTexts]
    exact (alikeIf_joinWith_cons hfield hnil (alikeIf_fields rest)).congr
      (List.forall_mem_append.trans (and_congr_left fun _ => List.forall_mem_cons))

end

end Json

namespace Ratatui

open Text

theorem value_eq_iff (v : Json) :
    value v = "json!(" ++ v.write Json.rustSpelling ++ ")" ↔ ∀ s ∈ v.texts, FitsRust s := by
  rw [value, Json.documentLine, ← String.toList_inj]
  exact ((Json.alikeIf_write v).enclosed "json!(" ")").eq_iff

/-- **A static value is spelled in Rust exactly if its texts allow it.** Its form is the one with Rust literals if and
only if no string and no key in it, at any depth, holds a control character other than a line break or a tab. A text
that holds none is read back from its literal by the rules of Rust; one that does is not read at all. -/
theorem staticValue_exact (v : Json) (s after : String) :
    (value (.text s) = "json!(" ++ text s ++ ")" ↔ FitsRust s) ∧
      (value v = "json!(" ++ v.write Json.rustSpelling ++ ")" ↔ ∀ s ∈ v.texts, FitsRust s) ∧
      readRust? (Json.documentSpelling.quote s ++ after) = if FitsRust s then some (s, after) else none := by
  refine ⟨?_, value_eq_iff v, readRust?_documentQuoted s after⟩
  have htext := value_eq_iff (.text s)
  rw [Json.write, Json.texts, List.forall_mem_singleton] at htext
  exact htext

/-- A backspace in a key is enough, however plain the value is; line breaks and quotes are no matter. -/
theorem staticValue_exact_backspace :
    value (.object [("a\x08", .text "b")]) ≠
        "json!(" ++ (Json.object [("a\x08", .text "b")]).write Json.rustSpelling ++ ")" ∧
      value (.text "\x08") = "json!(\"\\b\")" ∧ text "\x08" = "\"\\u\x7b8\x7d\"" ∧
      readRust? (Json.documentSpelling.quote "\x08" ++ ")") = none ∧
      value (.text "a \"b\"\n") = "json!(" ++ text "a \"b\"\n" ++ ")" := by
  have hkey : ¬ FitsRust "a\x08" := by decide
  have hback : ¬ FitsRust "\x08" := by decide
  have hplain : FitsRust "a \"b\"\n" := by decide
  obtain ⟨-, hvalue, hread⟩ := staticValue_exact (.object [("a\x08", .text "b")]) "\x08" ")"
  obtain ⟨htext, -, -⟩ := staticValue_exact .null "a \"b\"\n" ")"
  rw [if_neg hback] at hread
  exact ⟨fun hsame => hkey (hvalue.1 hsame _ List.mem_cons_self), by decide, by decide, hread, htext.2 hplain⟩

end Ratatui

end DashboardCompiler
