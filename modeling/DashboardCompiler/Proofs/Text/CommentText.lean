import DashboardCompiler.Proofs.Text.Tidy
import Mathlib.Data.List.Chain

/-!
# Safe comment texts

A safe text can stand in a comment of every target language and in a string of documentation: no quote, no backslash
and no end of a comment is in it, and its words are divided by single spaces. The comment text of any text is safe, and
nothing is changed in a text that is safe already. So the three replacements and the collapsing of blanks do not bring
back what one of them took away, and doing all of it again changes nothing.
-/

namespace DashboardCompiler.Text

open Unicode

/-- What every comment and every string of documentation takes as it is. -/
structure IsCommentSafe (cs : List Char) : Prop where
  quote : '"' ∉ cs
  backslash : '\\' ∉ cs
  commentEnd : ¬ ['*', '/'] <:+: cs
  blank : ∀ c ∈ cs, isBlank c = true → c = ' '
  doubled : ¬ [' ', ' '] <:+: cs
  leading : cs.head? ≠ some ' '
  trailing : cs.getLast? ≠ some ' '

/-- The characters at which a text may be divided into lines, by the widest of the usual rules. -/
def lineBreaks : List Char :=
  ['\n', '\x0b', '\x0c', '\r', '\x1c', '\x1d', '\x1e', '\x85', '\u2028', '\u2029']

theorem isBlank_of_mem_lineBreaks {c : Char} (hc : c ∈ lineBreaks) : isBlank c = true ∧ c ≠ ' ' := by
  have hall : lineBreaks.all (fun c => isBlank c && c != ' ') = true := by decide
  simpa using List.all_eq_true.1 hall c hc

theorem isBlank_space : isBlank ' ' = true := by decide

variable {a b : Char} {cs w reading : List Char} {ws : List (List Char)}

theorem IsCommentSafe.not_mem_lineBreaks (h : IsCommentSafe cs) : ∀ c ∈ lineBreaks, c ∉ cs := by
  intro c hc hmem
  obtain ⟨hblank, hspace⟩ := isBlank_of_mem_lineBreaks hc
  exact hspace (h.blank c hmem hblank)

/-! ## Neighbours -/

/-- Nowhere in the text does the one character stand right before the other. -/
def Apart (a b : Char) (cs : List Char) : Prop := cs.IsChain fun c d => ¬ (c = a ∧ d = b)

theorem apart_iff : Apart a b cs ↔ ¬ [a, b] <:+: cs := by
  rw [Apart, List.isChain_iff_forall_rel_of_append_cons_cons]
  constructor
  · rintro h ⟨before, after, rfl⟩
    exact h (List.append_assoc before [a, b] after) ⟨rfl, rfl⟩
  · rintro h c d before after rfl ⟨rfl, rfl⟩
    exact h ⟨before, after, by simp⟩

/-! ## Words -/

/-- A word is not empty and holds no blank. -/
structure IsWord (w : List Char) : Prop where
  ne_nil : w ≠ []
  unblank : ∀ c ∈ w, isBlank c = false

theorem infix_of_mem_wordsFrom (h : w ∈ wordsFrom reading cs) : w <:+: reading ++ cs := by
  fun_induction wordsFrom reading cs with
  | case1 => cases h
  | case2 reading _ =>
    rw [List.mem_singleton.1 h]
    exact (List.prefix_append _ _).isInfix
  | case3 reading c rest _ hempty ih =>
    rw [List.isEmpty_iff.1 hempty]
    exact (ih h).trans (List.suffix_cons c rest).isInfix
  | case4 reading c rest _ _ ih =>
    rcases List.mem_cons.1 h with rfl | h
    · exact (List.prefix_append _ _).isInfix
    · exact (ih h).trans ((List.suffix_cons c rest).trans (List.suffix_append _ _)).isInfix
  | case5 reading c rest _ ih =>
    have hsame : reading ++ [c] ++ rest = reading ++ c :: rest := by simp
    exact hsame ▸ ih h

theorem ne_nil_of_mem_wordsFrom (h : w ∈ wordsFrom reading cs) : w ≠ [] := by
  fun_induction wordsFrom reading cs with
  | case1 => cases h
  | case2 reading hsome =>
    rw [List.mem_singleton.1 h]
    simpa using hsome
  | case3 _ _ _ _ _ ih => exact ih h
  | case4 reading _ _ _ hsome ih =>
    rcases List.mem_cons.1 h with rfl | h
    · simpa using hsome
    · exact ih h
  | case5 _ _ _ _ ih => exact ih h

theorem isWord_of_mem_words (h : w ∈ words cs) : IsWord w :=
  ⟨ne_nil_of_mem_wordsFrom h, Code.not_isBlank_of_mem_wordsFrom (List.forall_mem_nil _) h⟩

theorem joinWords_cons (w : List Char) (hws : ws ≠ []) : joinWords (w :: ws) = w ++ ' ' :: joinWords ws := by
  cases ws with
  | nil => exact absurd rfl hws
  | cons => rfl

theorem joinWords_ne_nil (hws : ws ≠ []) (h : ∀ w ∈ ws, w ≠ []) : joinWords ws ≠ [] := by
  obtain ⟨w, rest, rfl⟩ := List.exists_cons_of_ne_nil hws
  by_cases hrest : rest = []
  · subst hrest
    exact h w List.mem_cons_self
  · rw [joinWords_cons w hrest]
    simp

/-- A join begins with its first word. -/
theorem head?_joinWords (h : ∀ w ∈ ws, w ≠ []) : ∀ c ∈ (joinWords ws).head?, ∃ w ∈ ws, c ∈ w := by
  intro c hc
  cases ws with
  | nil => cases hc
  | cons w rest =>
    refine ⟨w, List.mem_cons_self, ?_⟩
    obtain ⟨d, w, rfl⟩ := List.exists_cons_of_ne_nil (h w List.mem_cons_self)
    by_cases hrest : rest = []
    · subst hrest
      exact List.mem_of_mem_head? hc
    · rw [joinWords_cons _ hrest] at hc
      exact List.mem_of_mem_head? hc

/-- And it ends with its last one. -/
theorem getLast?_joinWords (h : ∀ w ∈ ws, w ≠ []) : ∀ c ∈ (joinWords ws).getLast?, ∃ w ∈ ws, c ∈ w := by
  intro c hc
  induction ws with
  | nil => cases hc
  | cons w rest ih =>
    obtain ⟨-, hne⟩ := List.forall_mem_cons.1 h
    by_cases hrest : rest = []
    · subst hrest
      exact ⟨w, List.mem_cons_self, List.mem_of_mem_getLast? hc⟩
    · rw [joinWords_cons w hrest, List.getLast?_append_of_ne_nil _ (by simp),
        List.getLast?_cons_of_ne_nil (joinWords_ne_nil hrest hne)] at hc
      obtain ⟨v, hv, hmem⟩ := ih hne hc
      exact ⟨v, List.mem_cons_of_mem w hv, hmem⟩

theorem IsWord.space_not_mem (h : IsWord w) : ' ' ∉ w := by
  intro hmem
  have hblank := h.unblank ' ' hmem
  rw [isBlank_space] at hblank
  cases hblank

/-- Two characters that are apart in every word are apart in the join, unless just one of them is a space. -/
theorem apart_joinWords (h : ∀ w ∈ ws, IsWord w) (hapart : ∀ w ∈ ws, Apart a b w) (hspace : a = ' ' ↔ b = ' ') :
    Apart a b (joinWords ws) := by
  induction ws with
  | nil => exact .nil
  | cons w rest ih =>
    obtain ⟨hword, hwords⟩ := List.forall_mem_cons.1 h
    obtain ⟨hfirst, hothers⟩ := List.forall_mem_cons.1 hapart
    by_cases hrest : rest = []
    · subst hrest
      exact hfirst
    · rw [joinWords_cons w hrest, Apart, List.isChain_append, List.isChain_cons]
      refine ⟨hfirst, ⟨?_, ih hwords hothers⟩, ?_⟩
      · rintro d hd ⟨hleft, rfl⟩
        obtain ⟨v, hv, hmem⟩ := head?_joinWords (fun v hv => (hwords v hv).ne_nil) d hd
        rw [hspace.1 hleft.symm] at hmem
        exact (hwords v hv).space_not_mem hmem
      · rintro c hc d hd ⟨rfl, rfl⟩
        rw [List.head?_cons, Option.mem_some_iff] at hd
        have hmem := List.mem_of_mem_getLast? hc
        rw [hspace.2 hd.symm] at hmem
        exact hword.space_not_mem hmem

/-! ## The replacements -/

theorem mem_of_mem_splitCommentEnd {c : Char} (h : c ∈ splitCommentEnd cs) : c = ' ' ∨ c ∈ cs := by
  fun_induction splitCommentEnd cs with
  | case1 rest ih =>
    simp only [List.mem_cons] at h ⊢
    rcases h with rfl | rfl | rfl | h
    · exact .inr (.inl rfl)
    · exact .inl rfl
    · exact .inr (.inr (.inl rfl))
    · exact (ih h).imp_right fun hc => .inr (.inr hc)
  | case2 d rest _ ih =>
    rcases List.mem_cons.1 h with rfl | h
    · exact .inr List.mem_cons_self
    · exact (ih h).imp_right (List.mem_cons_of_mem d)
  | case3 => cases h

theorem head?_splitCommentEnd (cs : List Char) : (splitCommentEnd cs).head? = cs.head? := by
  fun_cases splitCommentEnd cs <;> rfl

theorem apart_splitCommentEnd (cs : List Char) : Apart '*' '/' (splitCommentEnd cs) := by
  fun_induction splitCommentEnd cs with
  | case1 rest ih =>
    refine .cons_cons (by decide) (.cons_cons (by decide) (.cons ih ?_))
    exact fun d _ h => absurd h.1 (by decide)
  | case2 c rest hopen ih =>
    refine .cons ih ?_
    rintro d hd ⟨rfl, rfl⟩
    rw [head?_splitCommentEnd, Option.mem_def, List.head?_eq_some_iff] at hd
    obtain ⟨after, rfl⟩ := hd
    exact hopen after rfl rfl
  | case3 => exact .nil

theorem splitCommentEnd_eq_self (h : Apart '*' '/' cs) : splitCommentEnd cs = cs := by
  fun_induction splitCommentEnd cs with
  | case1 rest _ => exact absurd ⟨rfl, rfl⟩ (List.isChain_cons_cons.1 h).1
  | case2 c rest _ ih => rw [ih h.tail]
  | case3 => rfl

theorem softenQuote_spec (c : Char) : softenQuote c ≠ '"' ∧ softenQuote c ≠ '\\' := by
  unfold softenQuote
  split_ifs with hback hquote
  · decide
  · decide
  · exact ⟨hquote, hback⟩

theorem map_softenQuote_eq_self (hquote : '"' ∉ cs) (hback : '\\' ∉ cs) : cs.map softenQuote = cs := by
  have hsame : ∀ c ∈ cs, softenQuote c = c := by
    intro c hc
    have hnoBack : c ≠ '\\' := fun h => hback (h ▸ hc)
    have hnoQuote : c ≠ '"' := fun h => hquote (h ▸ hc)
    rw [softenQuote, if_neg hnoBack, if_neg hnoQuote]
  exact (List.map_congr_left hsame).trans (List.map_id' cs)

/-! ## Collapsing -/

/-- Words with single spaces between them stay as they are; `reading` is a word that has begun. -/
theorem joinWords_wordsFrom (hblank : ∀ c ∈ cs, isBlank c = true → c = ' ') (hdoubled : Apart ' ' ' ' cs)
    (htrailing : cs.getLast? ≠ some ' ') (hleading : reading = [] → cs.head? ≠ some ' ') :
    joinWords (wordsFrom reading cs) = reading ++ cs := by
  fun_induction wordsFrom reading cs with
  | case1 reading hempty =>
    rw [List.isEmpty_iff.1 hempty]
    rfl
  | case2 reading _ => exact (List.append_nil reading).symm
  | case3 reading c rest hc hempty _ =>
    rw [hblank c List.mem_cons_self hc] at hleading
    exact absurd rfl (hleading (List.isEmpty_iff.1 hempty))
  | case4 reading c rest hc _ ih =>
    obtain ⟨-, hrestBlank⟩ := List.forall_mem_cons.1 hblank
    obtain rfl := hblank c List.mem_cons_self hc
    have hne : rest ≠ [] := by
      rintro rfl
      exact htrailing rfl
    have hnext : rest.head? ≠ some ' ' := fun h => hdoubled.rel_head? h ⟨rfl, rfl⟩
    rw [List.getLast?_cons_of_ne_nil hne] at htrailing
    have hrest : joinWords (wordsFrom [] rest) = rest := ih hrestBlank hdoubled.tail htrailing fun _ => hnext
    have hsome : wordsFrom [] rest ≠ [] := by
      intro h
      rw [h] at hrest
      exact hne hrest.symm
    rw [joinWords_cons reading hsome, hrest]
  | case5 reading c rest _ ih =>
    obtain ⟨-, hrestBlank⟩ := List.forall_mem_cons.1 hblank
    have hlast : rest.getLast? ≠ some ' ' := by
      intro h
      have hne : rest ≠ [] := by
        rintro rfl
        cases h
      rw [List.getLast?_cons_of_ne_nil hne] at htrailing
      exact htrailing h
    rw [ih hrestBlank hdoubled.tail hlast (by simp), List.append_assoc, List.singleton_append]

/-! ## Comment texts -/

theorem mem_commentChars {c : Char} (h : c ∈ commentChars cs) :
    c = ' ' ∨ isBlank c = false ∧ c ∈ cs.map softenQuote := by
  refine or_iff_not_imp_left.2 fun hspace => ?_
  obtain ⟨w, hw, hc⟩ := (Code.mem_joinWords h).resolve_left hspace
  have hmem : c ∈ splitCommentEnd (cs.map softenQuote) := (infix_of_mem_wordsFrom hw).subset hc
  exact ⟨(isWord_of_mem_words hw).unblank c hc, (mem_of_mem_splitCommentEnd hmem).resolve_left hspace⟩

theorem isCommentSafe_commentChars (cs : List Char) : IsCommentSafe (commentChars cs) := by
  have hwords : ∀ w ∈ words (splitCommentEnd (cs.map softenQuote)), IsWord w := fun w => isWord_of_mem_words
  have hne : ∀ w ∈ words (splitCommentEnd (cs.map softenQuote)), w ≠ [] := fun w hw => (hwords w hw).ne_nil
  have hsoft {c : Char} (hc : c ∈ commentChars cs) : c = ' ' ∨ c ≠ '"' ∧ c ≠ '\\' := by
    refine (mem_commentChars hc).imp_right ?_
    rintro ⟨-, hmem⟩
    obtain ⟨d, -, rfl⟩ := List.mem_map.1 hmem
    exact softenQuote_spec d
  refine ⟨?_, ?_, ?_, ?_, ?_, ?_, ?_⟩
  · intro h
    exact (hsoft h).elim (by decide) fun hother => hother.1 rfl
  · intro h
    exact (hsoft h).elim (by decide) fun hother => hother.2 rfl
  · refine apart_iff.1 (apart_joinWords hwords (fun w hw => ?_) (by decide))
    refine apart_iff.2 fun hend => ?_
    exact apart_iff.1 (apart_splitCommentEnd _) (hend.trans (infix_of_mem_wordsFrom hw))
  · intro c hc hblank
    refine (mem_commentChars hc).resolve_right fun hother => ?_
    rw [hother.1] at hblank
    cases hblank
  · refine apart_iff.1 (apart_joinWords hwords (fun w hw => apart_iff.2 fun h => ?_) Iff.rfl)
    exact (hwords w hw).space_not_mem (h.subset List.mem_cons_self)
  · intro h
    obtain ⟨w, hw, hmem⟩ := head?_joinWords hne ' ' h
    exact (hwords w hw).space_not_mem hmem
  · intro h
    obtain ⟨w, hw, hmem⟩ := getLast?_joinWords hne ' ' h
    exact (hwords w hw).space_not_mem hmem

theorem IsCommentSafe.commentChars_eq (h : IsCommentSafe cs) : commentChars cs = cs := by
  rw [commentChars, map_softenQuote_eq_self h.quote h.backslash, splitCommentEnd_eq_self (apart_iff.2 h.commentEnd)]
  exact joinWords_wordsFrom h.blank (apart_iff.2 h.doubled) h.trailing fun _ => h.leading

/-- **A comment text is safe, and safe texts are what comment texts are.** -/
theorem commentText_safe (s : String) :
    IsCommentSafe (commentText s).toList ∧ (∀ c ∈ lineBreaks, c ∉ (commentText s).toList) ∧
      commentText (commentText s) = commentText s ∧ (commentText s = s ↔ IsCommentSafe s.toList) := by
  have hsafe (t : String) : IsCommentSafe (commentText t).toList := by
    rw [commentText, String.toList_ofList]
    exact isCommentSafe_commentChars t.toList
  have hself {t : String} (h : IsCommentSafe t.toList) : commentText t = t := by
    rw [commentText, h.commentChars_eq, String.ofList_toList]
  exact ⟨hsafe s, (hsafe s).not_mem_lineBreaks, hself (hsafe s), fun h => h ▸ hsafe s, hself⟩

end DashboardCompiler.Text
