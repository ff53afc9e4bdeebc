import DashboardCompiler.Proofs.Text.Naming
import DashboardCompiler.Text.Decoded
import Mathlib.Data.List.Infix

/-!
# Literals of several lines

A text between three double quotes is read up to the next three that no backslash takes part in, and what it
reads as is what it shows unless it holds a backslash or a line break that is not a feed. Text that is put
between the quotes as it stands is safe or not piece by piece: the characters that matter here stand in none of
the fixed text of a template, so nothing can come up across a seam.
-/

namespace DashboardCompiler.Code

open Name Text

def tripleQuote : List Char := ['"', '"', '"']

/-- The body of a literal whose opening quotes have been read, and what follows its closing quotes. A backslash
takes the character after it into the body. -/
def longBody? : List Char → Option (List Char × List Char)
  | [] => none
  | '\\' :: c :: rest => (longBody? rest).map fun (body, after) => ('\\' :: c :: body, after)
  | c :: rest =>
    if tripleQuote <+: c :: rest then some ([], rest.drop 2)
    else (longBody? rest).map fun (body, after) => (c :: body, after)

/-- The text that a body without escapes stands for: a program is read with every line break as a feed, and one
with a null character is not read at all. -/
def longText? (body : List Char) : Option (List Char) :=
  if '\\' ∈ body ∨ '\x00' ∈ body then none else some (unifyBreaks body)

/-- A text that neither ends the literal that it is put into nor starts an escape. -/
def Harmless (cs : List Char) : Prop := ¬ tripleQuote <:+: cs ∧ '\\' ∉ cs

instance (cs : List Char) : Decidable (Harmless cs) := by unfold Harmless; infer_instance

/-! ## Inert text -/

/-- A character that a literal holds as any other. -/
def isInert (c : Char) : Bool := c ≠ '"' && c ≠ '\\' && c ≠ '\r' && c ≠ '\x00'

def Inert (s : String) : Prop := ∀ c ∈ s.toList, isInert c = true

section Inert

variable {a b : String}

theorem inert_ofList {cs : List Char} (h : cs.all isInert = true) : Inert (String.ofList cs) := by
  intro c hc
  rw [String.toList_ofList] at hc
  exact List.all_eq_true.1 h c hc

theorem Inert.append (ha : Inert a) (hb : Inert b) : Inert (a ++ b) := by
  intro c hc
  rw [String.toList_append, List.mem_append] at hc
  exact hc.elim (ha c) (hb c)

theorem isInert_of_mem_tripleQuote {c : Char} (hc : c ∈ tripleQuote) : isInert c = false := by
  rw [List.eq_of_mem_replicate (n := 3) hc]
  decide

theorem isInert_of_isNameChar {c : Char} (h : isNameChar c = true) : isInert c = true :=
  of_isNameChar (by decide) h

theorem inert_identifier (id : String) : Inert (identifier id) := by
  intro c hc
  rw [identifier, String.toList_ofList] at hc
  exact isInert_of_isNameChar (isNameChar_of_mem_identifierChars hc)

end Inert

/-! ## Properties that hold piece by piece -/

/-- A property that two texts have together, with an inert character between them, if and only if each has it. -/
structure Piecewise (P : List Char → Prop) : Prop where
  nil : P []
  seam : ∀ {c : Char}, isInert c = true → ∀ xs ys, P (xs ++ c :: ys) ↔ P xs ∧ P ys

namespace Piecewise

variable {P Q : List Char → Prop}

theorem and (hP : Piecewise P) (hQ : Piecewise Q) : Piecewise fun cs => P cs ∧ Q cs where
  nil := ⟨hP.nil, hQ.nil⟩
  seam hc xs ys := by
    rw [hP.seam hc, hQ.seam hc]
    exact and_and_and_comm

theorem after_inert (hP : Piecewise P) {xs : List Char} (h : ∀ c ∈ xs, isInert c = true) (ys : List Char) :
    P (xs ++ ys) ↔ P ys := by
  induction xs with
  | nil => rfl
  | cons c xs ih =>
    obtain ⟨hc, hxs⟩ := List.forall_mem_cons.1 h
    have hseam := hP.seam hc [] (xs ++ ys)
    rw [List.cons_append]
    exact hseam.trans ((and_iff_right hP.nil).trans (ih hxs))

theorem before_inert (hP : Piecewise P) {ys : List Char} (h : ∀ c ∈ ys, isInert c = true) (xs : List Char) :
    P (xs ++ ys) ↔ P xs := by
  cases ys with
  | nil => rw [List.append_nil]
  | cons c ys =>
    obtain ⟨hc, hys⟩ := List.forall_mem_cons.1 h
    have hrest : P ys := (congrArg P (List.append_nil ys)).mp ((hP.after_inert hys []).2 hP.nil)
    rw [hP.seam hc]
    exact and_iff_left hrest

theorem of_inert (hP : Piecewise P) {s : String} (h : Inert s) : P s.toList := by
  have hwhole := (hP.after_inert h []).2 hP.nil
  rwa [List.append_nil] at hwhole

/-- A text in a fixed frame. -/
theorem framed (hP : Piecewise P) {before after : String} (hbefore : Inert before) (hafter : Inert after)
    (s : String) : P (before ++ s ++ after).toList ↔ P s.toList := by
  rw [String.toList_append, String.toList_append, hP.before_inert hafter, hP.after_inert hbefore]

theorem joinLines (hP : Piecewise P) (items : List String) :
    P (joinLines items).toList ↔ ∀ s ∈ items, P s.toList := by
  have hfeed : isInert '\n' = true := by decide
  induction items with
  | nil => exact iff_of_true hP.nil (List.forall_mem_nil _)
  | cons s items ih =>
    by_cases hempty : items = []
    · subst hempty
      rw [List.forall_mem_singleton]
      rfl
    · have hjoined : (Text.joinLines (s :: items)).toList = s.toList ++ '\n' :: (Text.joinLines items).toList := by
        rw [Text.joinLines, joinWith_cons_of_ne_nil _ _ hempty, String.toList_append, String.toList_append,
          List.append_assoc]
        rfl
      have hseam := hP.seam hfeed s.toList (Text.joinLines items).toList
      rw [hjoined, List.forall_mem_cons]
      exact hseam.trans (and_congr_right fun _ => ih)

end Piecewise

/-! ## Text that is not there -/

theorem prefix_append_cons_iff {text : List Char} {c : Char} (hc : c ∉ text) (xs ys : List Char) :
    text <+: xs ++ c :: ys ↔ text <+: xs := by
  refine ⟨fun h => ?_, fun h => h.trans (List.prefix_append _ _)⟩
  rcases le_or_gt text.length xs.length with hle | hlt
  · exact List.prefix_of_prefix_length_le h (List.prefix_append _ _) hle
  · have hthrough : xs ++ [c] <+: xs ++ c :: ys := ⟨ys, by rw [List.append_assoc]; rfl⟩
    have hwithin : xs ++ [c] <+: text :=
      List.prefix_of_prefix_length_le hthrough h (by rw [List.length_append]; exact hlt)
    exact absurd (hwithin.subset (List.mem_append_right _ (List.mem_singleton_self c))) hc

theorem infix_append_cons_iff {text : List Char} {c : Char} (hc : c ∉ text) (xs ys : List Char) :
    text <:+: xs ++ c :: ys ↔ text <:+: xs ∨ text <:+: ys := by
  induction xs with
  | nil =>
    have hstarts := prefix_append_cons_iff hc [] ys
    rw [List.nil_append] at hstarts ⊢
    rw [List.infix_cons_iff, hstarts, List.prefix_nil, List.infix_nil]
  | cons d xs ih =>
    have hstarts := prefix_append_cons_iff hc (d :: xs) ys
    rw [List.cons_append] at hstarts ⊢
    rw [List.infix_cons_iff, hstarts, ih, List.infix_cons_iff, or_assoc]

/-- A text of characters that no inert text holds. -/
theorem piecewise_absent {text : List Char} (hne : text ≠ []) (h : ∀ c ∈ text, isInert c = false) :
    Piecewise fun cs => ¬ text <:+: cs where
  nil := by rwa [List.infix_nil]
  seam {c} hc xs ys := by
    have hout : c ∉ text := fun hin => by
      rw [h c hin] at hc
      cases hc
    rw [infix_append_cons_iff hout xs ys, not_or]

theorem piecewise_not_mem {c : Char} (hc : isInert c = false) : Piecewise fun cs => c ∉ cs := by
  have hinfix := piecewise_absent (List.cons_ne_nil c []) (List.forall_mem_singleton.2 hc)
  simpa only [List.singleton_infix_iff] using hinfix

theorem piecewise_harmless : Piecewise Harmless :=
  (piecewise_absent (List.cons_ne_nil _ _) fun _ => isInert_of_mem_tripleQuote).and (piecewise_not_mem (by decide))

/-! ## The end of a literal -/

theorem longBody?_cons {c : Char} (hc : c ≠ '\\') (rest : List Char) :
    longBody? (c :: rest) =
      if tripleQuote <+: c :: rest then some ([], rest.drop 2)
      else (longBody? rest).map fun (body, after) => (c :: body, after) := by
  rw [longBody?]
  exact fun _ _ h _ => hc h

theorem longBody?_close (rest : List Char) : longBody? (tripleQuote ++ rest) = some ([], rest) := by
  have hstarts : tripleQuote <+: '"' :: '"' :: '"' :: rest := ⟨rest, rfl⟩
  have hclosed := longBody?_cons (c := '"') (by decide) ('"' :: '"' :: rest)
  rw [if_pos hstarts] at hclosed
  exact hclosed

theorem eq_of_longBody? {cs body after : List Char} (h : longBody? cs = some (body, after)) :
    cs = body ++ tripleQuote ++ after := by
  fun_induction longBody? cs generalizing body with
  | case1 => cases h
  | case2 c rest ih =>
    obtain ⟨⟨tail, _⟩, htail, hpair⟩ := Option.map_eq_some_iff.1 h
    cases hpair
    rw [ih htail]
    rfl
  | case3 c rest _ hclose =>
    obtain ⟨tail, htail⟩ := hclose
    cases htail
    cases h
    rfl
  | case4 c rest _ _ ih =>
    obtain ⟨⟨tail, _⟩, htail, hpair⟩ := Option.map_eq_some_iff.1 h
    cases hpair
    rw [ih htail]
    rfl

theorem Harmless.longBody?_eq_none {cs : List Char} (h : Harmless cs) : longBody? cs = none := by
  cases hread : longBody? cs with
  | none => rfl
  | some read =>
    obtain ⟨body, after⟩ := read
    exact absurd ⟨body, after, (eq_of_longBody? hread).symm⟩ h.1

/-- Reading passes an inert character as if the text began anew after it. -/
theorem longBody?_seam {c : Char} (hc : isInert c = true) (xs ys : List Char) :
    longBody? (xs ++ c :: ys) =
      ((longBody? xs).map fun (body, after) => (body, after ++ c :: ys)).or
        ((longBody? ys).map fun (body, after) => (xs ++ c :: body, after)) := by
  have hout : c ∉ tripleQuote := fun hin => by
    rw [isInert_of_mem_tripleQuote hin] at hc
    cases hc
  have hescape : c ≠ '\\' := by
    rintro rfl
    exact absurd hc (by decide)
  fun_induction longBody? xs with
  | case1 =>
    have hopen : ¬ tripleQuote <+: c :: ys := by
      have hstarts := prefix_append_cons_iff hout [] ys
      rw [List.nil_append] at hstarts
      rw [hstarts]
      decide
    rw [List.nil_append, longBody?_cons hescape, if_neg hopen]
    rfl
  | case2 d rest ih =>
    rw [List.cons_append, List.cons_append, longBody?, ih]
    cases longBody? rest <;> cases longBody? ys <;> rfl
  | case3 d rest _ hclose =>
    obtain ⟨tail, htail⟩ := hclose
    cases htail
    exact longBody?_close (tail ++ c :: ys)
  | case4 d rest hsingle hopen ih =>
    by_cases hd : d = '\\'
    · -- A backslash at the end of the text takes the inert character with it.
      subst hd
      cases rest with
      | nil =>
        have hpassed : longBody? ('\\' :: c :: ys) =
            (longBody? ys).map fun (body, after) => ('\\' :: c :: body, after) := rfl
        rw [List.singleton_append, hpassed]
        cases longBody? ys <;> rfl
      | cons e rest => exact absurd rfl (hsingle e rest rfl)
    · have hstill : ¬ tripleQuote <+: d :: (rest ++ c :: ys) := by
        have hstarts := prefix_append_cons_iff hout (d :: rest) ys
        rw [List.cons_append] at hstarts
        rwa [hstarts]
      rw [List.cons_append, longBody?_cons hd, if_neg hstill, ih]
      cases longBody? rest <;> cases longBody? ys <;> rfl

theorem piecewise_longBody? : Piecewise fun cs => longBody? cs = none where
  nil := rfl
  seam hc xs ys := by
    rw [longBody?_seam hc, Option.or_eq_none_iff, Option.map_eq_none_iff, Option.map_eq_none_iff]

/-- A literal ends at the quotes that are meant to end it if and only if nothing in its body ends it earlier. -/
theorem longBody?_eq_some_iff {c : Char} (hc : isInert c = true) (xs after : List Char) :
    longBody? (xs ++ [c] ++ tripleQuote ++ after) = some (xs ++ [c], after) ↔ longBody? xs = none := by
  have hshape : xs ++ [c] ++ tripleQuote ++ after = xs ++ c :: (tripleQuote ++ after) := by
    simp only [List.append_assoc, List.cons_append, List.nil_append]
  rw [hshape, longBody?_seam hc, longBody?_close]
  cases hread : longBody? xs with
  | none => exact iff_of_true rfl rfl
  | some read =>
    obtain ⟨body, rest⟩ := read
    refine iff_of_false (fun h => ?_) (Option.some_ne_none _)
    have hbody : body = xs ++ [c] := congrArg Prod.fst (Option.some.inj h)
    have hlength := congrArg List.length (eq_of_longBody? hread)
    rw [hbody] at hlength
    simp only [List.length_append, List.length_singleton] at hlength
    omega

/-! ## The text of a literal -/

theorem return_not_mem_unifyBreaks (cs : List Char) : '\r' ∉ unifyBreaks cs := by
  fun_induction unifyBreaks cs with
  | case1 => exact List.not_mem_nil
  | case2 rest ih => exact List.not_mem_cons_of_ne_of_not_mem (by decide) ih
  | case3 rest _ ih => exact List.not_mem_cons_of_ne_of_not_mem (by decide) ih
  | case4 c rest _ hc ih => exact List.not_mem_cons_of_ne_of_not_mem (fun h => hc h.symm) ih

theorem unifyBreaks_eq_self_iff (cs : List Char) : unifyBreaks cs = cs ↔ '\r' ∉ cs := by
  refine ⟨fun h => h ▸ return_not_mem_unifyBreaks cs, fun h => ?_⟩
  fun_induction unifyBreaks cs with
  | case1 => rfl
  | case2 rest => exact absurd List.mem_cons_self h
  | case3 rest => exact absurd List.mem_cons_self h
  | case4 c rest _ _ ih => rw [ih (List.not_mem_of_not_mem_cons h)]

/-- A body shows its text if it holds no escape, no null character and no line break but feeds. -/
theorem longText?_eq_self_iff (body : List Char) :
    longText? body = some body ↔ ('\\' ∉ body ∧ '\x00' ∉ body) ∧ '\r' ∉ body := by
  unfold longText?
  split
  · rename_i hunread
    exact iff_of_false (Option.some_ne_none _).symm fun h => not_or.2 h.1 hunread
  · rename_i hread
    rw [Option.some_inj, unifyBreaks_eq_self_iff]
    exact (and_iff_right (not_or.1 hread)).symm

theorem piecewise_longText? : Piecewise fun body => longText? body = some body := by
  simp only [longText?_eq_self_iff]
  exact ((piecewise_not_mem (by decide)).and (piecewise_not_mem (by decide))).and (piecewise_not_mem (by decide))

end DashboardCompiler.Code
