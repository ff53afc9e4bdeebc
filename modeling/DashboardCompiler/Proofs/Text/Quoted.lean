import DashboardCompiler.Proofs.Text.CodeScan
import DashboardCompiler.Text.Quoted

/-!
# Pieces of a line

Generated lines are made of fixed text, names, numbers and quoted texts. Each of them is a piece: it brings
no line break, and the scan that enters it outside of literals leaves it outside of literals. Pieces put
together are pieces, so a line can be judged by what it is made of.
-/

namespace DashboardCompiler.Code

open Text

/-- Neither a line break nor a quote. -/
def isPlain (c : Char) : Bool := !isBreak c && !isQuote c

def Plain (s : String) : Prop := ∀ c ∈ s.toList, isPlain c = true

/-- What a line may be put together from. -/
structure Piece (s : String) : Prop where
  unbroken : Unbroken s
  passes : Passes s.toList

section Pieces

variable {a b : String}

theorem isBreak_of_isPlain {c : Char} (h : isPlain c = true) : isBreak c = false := by
  simp only [isPlain, Bool.and_eq_true, Bool.not_eq_true'] at h
  exact h.1

theorem isQuote_of_isPlain {c : Char} (h : isPlain c = true) : isQuote c = false := by
  simp only [isPlain, Bool.and_eq_true, Bool.not_eq_true'] at h
  exact h.2

theorem plain_ofList {cs : List Char} (h : cs.all isPlain = true) : Plain (String.ofList cs) := by
  intro c hc
  rw [String.toList_ofList] at hc
  exact List.all_eq_true.1 h c hc

theorem Plain.append (ha : Plain a) (hb : Plain b) : Plain (a ++ b) := by
  intro c hc
  rw [String.toList_append, List.mem_append] at hc
  exact hc.elim (ha c) (hb c)

theorem Plain.unquoted (ha : Plain a) : Unquoted a.toList :=
  fun c hc => isQuote_of_isPlain (ha c (List.mem_of_mem_head? hc))

theorem Plain.piece (h : Plain a) : Piece a :=
  ⟨fun c hc => isBreak_of_isPlain (h c hc), passes_of_plain fun c hc => isQuote_of_isPlain (h c hc)⟩

/-- Whether a fixed text is a piece. -/
def isPiece (cs : List Char) : Bool := cs.all (!isBreak ·) && contained 0 cs

theorem piece_ofList {cs : List Char} (h : isPiece cs = true) : Piece (String.ofList cs) := by
  rw [isPiece, Bool.and_eq_true] at h
  refine ⟨unbroken_ofList h.1, ?_⟩
  rw [String.toList_ofList]
  exact passes_of_contained h.2

theorem Piece.append (ha : Piece a) (hb : Piece b) (h : Unquoted b.toList) : Piece (a ++ b) := by
  refine ⟨ha.unbroken.append hb.unbroken, ?_⟩
  rw [String.toList_append]
  exact ha.passes.append hb.passes h

theorem Plain.appendPiece (ha : Plain a) (hb : Piece b) : Piece (a ++ b) := by
  refine ⟨ha.piece.unbroken.append hb.unbroken, ?_⟩
  rw [String.toList_append]
  exact hb.passes.prepend_plain fun c hc => isQuote_of_isPlain (ha c hc)

theorem Piece.appendPlain (ha : Piece a) (hb : Plain b) : Piece (a ++ b) := ha.append hb.piece hb.unquoted

theorem plain_empty : Plain "" := nofun

/-- Two pieces with plain text between them, which keeps their quotes apart. -/
theorem Piece.separated (ha : Piece a) {separator : String} (hseparator : Plain separator)
    (hne : separator.toList ≠ []) (hb : Piece b) : Piece (a ++ separator ++ b) := by
  rw [String.append_assoc]
  refine ha.append (hseparator.appendPiece hb) ?_
  obtain ⟨c, rest, hchars⟩ := List.exists_cons_of_ne_nil hne
  have hunquoted := hseparator.unquoted
  rw [hchars, unquoted_cons] at hunquoted
  rw [String.toList_append, hchars, List.cons_append, unquoted_cons]
  exact hunquoted

theorem piece_joinWith {separator : String} (hseparator : Plain separator) (hne : separator.toList ≠ [])
    {items : List String} (h : ∀ s ∈ items, Piece s) : Piece (joinWith separator items) :=
  joinWith_induction plain_empty.piece (fun _ _ ha hb => ha.separated hseparator hne hb) h

theorem plain_joinWith {separator : String} (hseparator : Plain separator) {items : List String}
    (h : ∀ s ∈ items, Plain s) : Plain (joinWith separator items) :=
  joinWith_induction plain_empty (fun _ _ ha hb => (ha.append hseparator).append hb) h

end Pieces

/-! ## Digits -/

theorem isPlain_digitChar (n : Nat) : isPlain n.digitChar = true := by
  have hraw : n.digitChar.toNat ≠ 0x60 := by
    intro h
    refine Nat.digitChar_ne (n := n) (Char.ofNat 0x60) (by decide) ?_
    rw [← h, Char.ofNat_toNat]
  have hfeed : n.digitChar ≠ '\n' := Nat.digitChar_ne _ (by decide)
  have hreturn : n.digitChar ≠ '\r' := Nat.digitChar_ne _ (by decide)
  have hdouble : n.digitChar ≠ '"' := Nat.digitChar_ne _ (by decide)
  have hsingle : n.digitChar ≠ '\'' := Nat.digitChar_ne _ (by decide)
  simp [isPlain, isBreak, isQuote, hraw, hfeed, hreturn, hdouble, hsingle]

theorem exists_of_mem_toDigits {b n : Nat} (hb : 1 < b) {c : Char} (hc : c ∈ Nat.toDigits b n) :
    ∃ m, c = Nat.digitChar m := by
  induction n using Nat.strongRecOn with
  | ind n ih =>
    rw [Nat.toDigits_eq_if hb] at hc
    split at hc
    · exact ⟨n, List.mem_singleton.1 hc⟩
    · rename_i hn
      rcases List.mem_append.1 hc with hc | hc
      · exact ih (n / b) (Nat.div_lt_self (by omega) hb) hc
      · exact ⟨n % b, List.mem_singleton.1 hc⟩

/-! ## Quoted texts -/

/-- What may stand between two quotes: characters that stand for themselves and escapes. -/
inductive Body (quote : Char) : List Char → Prop
  | nil : Body quote []
  | plain {c : Char} {cs : List Char} (hquote : c ≠ quote) (hescape : c ≠ '\\')
      (hbreak : isBreak c = false) (hcs : Body quote cs) : Body quote (c :: cs)
  | escape {c : Char} {cs : List Char} (hbreak : isBreak c = false) (hcs : Body quote cs) :
      Body quote ('\\' :: c :: cs)

namespace Body

variable {quote : Char} {cs ds : List Char}

theorem append (hcs : Body quote cs) (hds : Body quote ds) : Body quote (cs ++ ds) := by
  induction hcs with
  | nil => exact hds
  | plain hquote hescape hbreak _ ih => exact .plain hquote hescape hbreak ih
  | escape hbreak _ ih => exact .escape hbreak ih

theorem flatMap {f : Char → List Char} (h : ∀ c, Body quote (f c)) (cs : List Char) :
    Body quote (cs.flatMap f) := by
  induction cs with
  | nil => exact .nil
  | cons c cs ih =>
    rw [List.flatMap_cons]
    exact (h c).append ih

theorem unbroken (h : Body quote cs) : ∀ c ∈ cs, isBreak c = false := by
  induction h with
  | nil => exact nofun
  | plain _ _ hbreak _ ih => exact List.forall_mem_cons.2 ⟨hbreak, ih⟩
  | escape hbreak _ ih =>
    exact List.forall_mem_cons.2 ⟨by decide, List.forall_mem_cons.2 ⟨hbreak, ih⟩⟩

/-- The first quote that no backslash escapes closes the literal. -/
theorem closeQuote (hquote : quote ≠ '\\') (h : Body quote cs) :
    Code.closeQuote quote (cs ++ [quote]) = some (cs.length + 1) := by
  have hfeed {c : Char} (hc : isBreak c = false) : c ≠ '\n' := by
    rintro rfl
    revert hc
    decide
  induction h with
  | nil => rw [List.nil_append, closeQuote_cons hquote, if_pos rfl]; rfl
  | plain hne hescape hbreak _ ih =>
    rw [List.cons_append, closeQuote_cons hescape, if_neg hne, if_neg (hfeed hbreak), ih]
    rfl
  | escape hbreak _ ih =>
    rw [List.cons_append, List.cons_append, Code.closeQuote, if_neg (hfeed hbreak), ih]
    rfl

/-- No body makes its quotes those of a long literal. -/
theorem shortTail? (hquote : quote = '"' ∨ quote = '\'') (h : Body quote cs) :
    Code.shortTail? quote (cs ++ [quote]) = some (cs ++ [quote]).length := by
  have hraw : quote.toNat ≠ 0x60 := by rcases hquote with rfl | rfl <;> decide
  have hescape : quote ≠ '\\' := by rcases hquote with rfl | rfl <;> decide
  have hshort : [quote, quote].isPrefixOf (cs ++ [quote]) = false := by
    cases h with
    | nil => simp [List.isPrefixOf]
    | plain hne => simp [List.isPrefixOf, hne.symm]
    | escape => simp [List.isPrefixOf, hescape]
  rw [Code.shortTail?, if_neg hraw, hshort, h.closeQuote hescape, List.length_append]
  rfl

end Body

/-- A text between quotes is a piece that shows as two quotes. -/
structure Quotation (cs : List Char) : Prop where
  unbroken : ∀ c ∈ cs, isBreak c = false
  passes : Passes cs
  code : emptyLiterals 0 cs = ['"', '"']

theorem Body.quotation {quote : Char} (hquote : quote = '"' ∨ quote = '\'') {cs : List Char}
    (h : Body quote cs) : Quotation (quote :: cs ++ [quote]) := by
  have hisQuote : isQuote quote = true := by rcases hquote with rfl | rfl <;> decide
  have hbreak : isBreak quote = false := by rcases hquote with rfl | rfl <;> decide
  have htail := h.shortTail? hquote
  refine ⟨?_, passes_literal hisQuote htail, code_literal hisQuote htail⟩
  intro c hc
  rw [List.cons_append, List.mem_cons, List.mem_append, List.mem_singleton] at hc
  rcases hc with rfl | hc | rfl
  · exact hbreak
  · exact h.unbroken c hc
  · exact hbreak

theorem Quotation.piece {s : String} (h : Quotation s.toList) : Piece s := ⟨h.unbroken, h.passes⟩

/-! ## The four encoders -/

theorem exists_of_mem_hexDigits {width n : Nat} {c : Char} (hc : c ∈ hexDigits width n) :
    ∃ m, c = Nat.digitChar m := by
  rcases List.mem_append.1 hc with hc | hc
  · exact ⟨0, List.eq_of_mem_replicate hc⟩
  · exact exists_of_mem_toDigits (by decide) hc

theorem body_of_digits {quote : Char} (hquote : isQuote quote = true) {cs : List Char}
    (h : ∀ c ∈ cs, ∃ m, c = Nat.digitChar m) : Body quote cs := by
  induction cs with
  | nil => exact .nil
  | cons c cs ih =>
    obtain ⟨⟨m, rfl⟩, hcs⟩ := List.forall_mem_cons.1 h
    refine .plain ?_ (Nat.digitChar_ne _ (by decide)) (isBreak_of_isPlain (isPlain_digitChar m)) (ih hcs)
    rintro rfl
    rw [isQuote_of_isPlain (isPlain_digitChar m)] at hquote
    cases hquote

/-- An escape that gives a character by its number. -/
theorem body_numbered {quote : Char} (hquote : isQuote quote = true) {mark : Char} (hmark : isBreak mark = false)
    (width n : Nat) : Body quote ('\\' :: mark :: hexDigits width n) :=
  .escape hmark (body_of_digits hquote fun _ => exists_of_mem_hexDigits)

theorem body_documentEscape (c : Char) : Body '"' (documentEscape c) := by
  have hdouble : isQuote '"' = true := by decide
  unfold documentEscape
  split_ifs with hquote hback hfeed hreturn
  · exact .escape (by decide) .nil
  · exact .escape (by decide) .nil
  · exact .escape (by decide) .nil
  · exact .escape (by decide) .nil
  · exact .escape (by decide) .nil
  · exact .escape (by decide) .nil
  · exact .escape (by decide) .nil
  · exact body_numbered hdouble (by decide) 4 _
  · exact .plain hquote hback (by simp [isBreak, hfeed, hreturn]) .nil

theorem body_asciiEscape (c : Char) : Body '"' (asciiEscape c) := by
  have hdouble : isQuote '"' = true := by decide
  unfold asciiEscape
  split_ifs
  · exact body_documentEscape c
  · exact body_numbered hdouble (by decide) 4 _
  · exact (body_numbered hdouble (by decide) 4 _).append (body_numbered hdouble (by decide) 4 _)

theorem body_sourceEscape {quote : Char} (hquote : quote = '"' ∨ quote = '\'') (c : Char) :
    Body quote (sourceEscape quote c) := by
  have hisQuote : isQuote quote = true := by rcases hquote with rfl | rfl <;> decide
  have hbreak : isBreak quote = false := by rcases hquote with rfl | rfl <;> decide
  unfold sourceEscape
  split_ifs with hescaped hfeed hreturn
  · rcases hescaped with rfl | rfl
    · exact .escape hbreak .nil
    · exact .escape (by decide) .nil
  · exact .escape (by decide) .nil
  · exact .escape (by decide) .nil
  · exact .escape (by decide) .nil
  · obtain ⟨hne, hback⟩ := not_or.1 hescaped
    exact .plain hne hback (by simp [isBreak, hfeed, hreturn]) .nil
  · exact body_numbered hisQuote (by decide) 2 _
  · exact body_numbered hisQuote (by decide) 4 _
  · exact body_numbered hisQuote (by decide) 8 _

theorem body_rustEscape (c : Char) : Body '"' (rustEscape c) := by
  have hdouble : isQuote '"' = true := by decide
  unfold rustEscape
  split_ifs with hback hquote hfeed hreturn
  · exact .escape (by decide) .nil
  · exact .escape (by decide) .nil
  · exact .escape (by decide) .nil
  · exact .escape (by decide) .nil
  · exact .escape (by decide) .nil
  · have hdigits : Body '"' (Nat.toDigits 16 c.toNat) :=
      body_of_digits hdouble fun _ => exists_of_mem_toDigits (by decide)
    have hopening : Body '"' ['\\', 'u', '\x7b'] :=
      .escape (by decide) (.plain (by decide) (by decide) (by decide) .nil)
    have hclosing : Body '"' ['\x7d'] := .plain (by decide) (by decide) (by decide) .nil
    exact (hopening.append hdigits).append hclosing
  · exact .plain hquote hback (by simp [isBreak, hfeed, hreturn]) .nil

theorem quotation_documentQuoted (s : String) : Quotation (documentQuoted s).toList := by
  rw [documentQuoted, String.toList_ofList]
  exact (Body.flatMap body_documentEscape s.toList).quotation (.inl rfl)

theorem quotation_asciiQuoted (s : String) : Quotation (asciiQuoted s).toList := by
  rw [asciiQuoted, String.toList_ofList]
  exact (Body.flatMap body_asciiEscape s.toList).quotation (.inl rfl)

theorem quotation_sourceQuoted (s : String) : Quotation (sourceQuoted s).toList := by
  have hquote : preferredQuote s.toList = '"' ∨ preferredQuote s.toList = '\'' := by
    unfold preferredQuote
    split
    · exact .inl rfl
    · exact .inr rfl
  rw [sourceQuoted, String.toList_ofList]
  exact (Body.flatMap (body_sourceEscape hquote) s.toList).quotation hquote

theorem quotation_rustQuoted (s : String) : Quotation (rustQuoted s).toList := by
  rw [rustQuoted, String.toList_ofList]
  exact (Body.flatMap body_rustEscape s.toList).quotation (.inl rfl)

/-! ## Lines with user text -/

/-- Two lines that differ in one quoted text and open no bracket. -/
theorem Alike.quoted {x y : String} (hx : Quotation x.toList) (hy : Quotation y.toList) {before after : String}
    (hbefore : Plain before) (hafter : Plain after) (hopen : '(' ∉ before.toList ++ after.toList) :
    Alike (before ++ x ++ after) (before ++ y ++ after) := by
  have hpiece {z : String} (hz : Quotation z.toList) : Piece (before ++ z ++ after) :=
    (hbefore.appendPiece hz.piece).appendPlain hafter
  have hcode {z : String} (hz : Quotation z.toList) :
      emptyLiterals 0 (before ++ z ++ after).toList = before.toList ++ (['"', '"'] ++ after.toList) := by
    rw [String.toList_append, String.toList_append, List.append_assoc,
      emptyLiterals_append_of_plain fun c hc => isQuote_of_isPlain (hbefore c hc),
      hz.passes _ hafter.unquoted, hz.code, emptyLiterals_of_plain fun c hc => isQuote_of_isPlain (hafter c hc)]
  refine .literal (hpiece hx).unbroken (hpiece hy).unbroken (hpiece hx).passes (hpiece hy).passes ?_ ?_
  · rw [hcode hx, hcode hy]
  · rw [hcode hx]
    simpa using hopen

end DashboardCompiler.Code
