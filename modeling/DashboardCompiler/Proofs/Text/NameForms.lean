import DashboardCompiler.Proofs.Text.Spelling

/-!
# The form of the names

An identifier is a word of ASCII lower-case letters, digits and underscores that starts with a letter and does not
end in an underscore; a type name is a word of ASCII letters and digits that starts with a capital. Both hold for
any id at all: lowering leaves no capital among the characters that cleaning keeps, and what is left of the two ends
is trimmed or gets a letter in front.

Names of these forms are kept as they are, so making a name of a name changes nothing.
-/

namespace DashboardCompiler.Name

open Unicode

/-- The characters of identifiers. -/
def isSnakeChar (c : Char) : Bool := c.isLower || c.isDigit || c = '_'

/-- A lower-case letter, then lower-case letters, digits and underscores, the last of them no underscore. -/
structure IsSnakeWord (cs : List Char) : Prop where
  opens : ∃ c rest, cs = c :: rest ∧ c.isLower = true
  chars : ∀ c ∈ cs, isSnakeChar c = true
  closes : cs.getLast? ≠ some '_'

/-- A capital, then letters and digits. -/
structure IsTypeWord (cs : List Char) : Prop where
  opens : ∃ c rest, cs = c :: rest ∧ c.isUpper = true
  chars : ∀ c ∈ cs, c.isAlphanum = true

/-! ## Lowering leaves no capital -/

theorem isNameChar_of_isSnakeChar {c : Char} (h : isSnakeChar c = true) : isNameChar c = true := by
  unfold isSnakeChar Char.isLower Char.isDigit at h
  simp only [Bool.or_eq_true, Bool.and_eq_true, decide_eq_true_eq] at h
  simp only [isNameChar, Bool.or_eq_true, Bool.and_eq_true, decide_eq_true_eq]
  rcases h with (h | h) | h
  · exact .inl (.inr h)
  · exact .inl (.inl (.inl h))
  · exact .inr h

theorem isSnakeChar_of_mem_lowerChars {c d : Char} (hd : d ∈ lowerChars c) (hname : isNameChar d = true) :
    isSnakeChar d = true := by
  -- Characters of names are checked one by one; beyond them only the two that lower into names can give one.
  have hlowered : ((lowerChars c).all fun e => !isNameChar e || isSnakeChar e) = true := by
    by_cases hc : isNameChar c = true
    · exact of_isNameChar (P := fun c => (lowerChars c).all fun e => !isNameChar e || isSnakeChar e)
        (by decide +kernel) hc
    · have hlowers : lowersIntoName c = true := by
        rw [Bool.not_eq_true] at hc
        rw [lowersIntoName, hc, Bool.not_false, Bool.true_and]
        exact List.any_eq_true.2 ⟨d, hd, hname⟩
      rcases (lowersIntoName_iff c).1 hlowers with rfl | rfl <;> decide
  have hd := List.all_eq_true.1 hlowered d hd
  rwa [hname, Bool.not_true, Bool.false_or] at hd

theorem isSnakeChar_of_mem_splitCapitals {previous : Option Char} {cs : List Char} {d : Char}
    (hd : d ∈ splitCapitals previous cs) (hname : isNameChar d = true) : isSnakeChar d = true := by
  induction cs generalizing previous with
  | nil => cases hd
  | cons c cs ih =>
    rw [splitCapitals_cons, capitalMark, List.mem_append, List.mem_append] at hd
    rcases hd with (hd | hd) | hd
    · split at hd
      · rw [List.mem_singleton.1 hd]
        decide
      · cases hd
    · exact isSnakeChar_of_mem_lowerChars hd hname
    · exact ih hd

theorem mem_of_mem_cleanFrom {inRun : Bool} {cs : List Char} {d : Char} (hd : d ∈ cleanFrom inRun cs) :
    d = '_' ∨ d ∈ cs := by
  fun_induction cleanFrom inRun cs with
  | case1 => cases hd
  | case2 _ c rest _ ih =>
    rcases List.mem_cons.1 hd with rfl | hd
    · exact .inr List.mem_cons_self
    · exact (ih hd).imp_right (List.mem_cons_of_mem _)
  | case3 c rest _ ih => exact (ih hd).imp_right (List.mem_cons_of_mem _)
  | case4 _ c rest _ _ ih =>
    rcases List.mem_cons.1 hd with rfl | hd
    · exact .inl rfl
    · exact (ih hd).imp_right (List.mem_cons_of_mem _)

theorem getLast?_trimUnderscores (cs : List Char) : (trimUnderscores cs).getLast? ≠ some '_' := by
  intro h
  rw [trimUnderscores, List.getLast?_reverse] at h
  have hhead := List.head?_dropWhile_not (· = '_') (cs.dropWhile (· = '_')).reverse
  rw [h] at hhead
  simp at hhead

theorem isSnakeChar_of_mem_snakeChars {cs : List Char} {d : Char} (hd : d ∈ snakeChars cs) :
    isSnakeChar d = true := by
  have hname := isNameChar_of_mem_snakeChars hd
  rw [snakeChars, trimUnderscores, List.mem_reverse] at hd
  have hd := (List.dropWhile_sublist _).subset (List.mem_reverse.1 ((List.dropWhile_sublist _).subset hd))
  rcases mem_of_mem_cleanFrom hd with rfl | hd
  · decide
  · exact isSnakeChar_of_mem_splitCapitals hd hname

/-! ## Identifiers -/

theorem isLower_of_inWord {c : Char} (hsnake : isSnakeChar c = true) (hin : inWord c = true)
    (hdigit : c.isDigit = false) : c.isLower = true := by
  have hne : c ≠ '_' := by
    rintro rfl
    cases hin
  simpa [isSnakeChar, hdigit, hne] using hsnake

theorem isSnakeWord_identifierChars (cs : List Char) : IsSnakeWord (identifierChars cs) := by
  unfold identifierChars
  cases hsnake : snakeChars cs with
  | nil => exact ⟨⟨'i', _, rfl, rfl⟩, List.all_eq_true.1 (by rfl), by decide⟩
  | cons c rest =>
    have hchars : ∀ d ∈ c :: rest, isSnakeChar d = true := fun d hd => isSnakeChar_of_mem_snakeChars (hsnake ▸ hd)
    have hcloses : (c :: rest).getLast? ≠ some '_' := by
      rw [← hsnake]
      exact getLast?_trimUnderscores _
    simp only [List.isEmpty_cons, Bool.false_eq_true, if_false, startsWithDigit]
    cases hdigit : c.isDigit with
    | true =>
      refine ⟨⟨'w', _, rfl, rfl⟩, ?_, ?_⟩
      · exact List.forall_mem_cons.2 ⟨by decide, List.forall_mem_cons.2 ⟨by decide, hchars⟩⟩
      · rwa [if_pos rfl, List.getLast?_cons_cons, List.getLast?_cons_cons]
    | false =>
      exact ⟨⟨c, rest, rfl, isLower_of_inWord (hchars c List.mem_cons_self) (head?_snakeChars hsnake) hdigit⟩,
        hchars, hcloses⟩

theorem splitCapitals_of_snake {cs : List Char} (h : ∀ c ∈ cs, isSnakeChar c = true) (previous : Option Char) :
    splitCapitals previous cs = cs := by
  induction cs generalizing previous with
  | nil => rfl
  | cons c cs ih =>
    obtain ⟨hc, hrest⟩ := List.forall_mem_cons.1 h
    have hlower : isUpper c = false := by
      have hascii := of_isNameChar (P := fun c => !isSnakeChar c || !isUpper c) (by decide +kernel)
        (isNameChar_of_isSnakeChar hc)
      simpa [hc] using hascii
    rw [splitCapitals_cons, capitalMark, hlower, ih hrest,
      lowerChars_of_not_isUpper (isNameChar_of_isSnakeChar hc) hlower]
    rfl

theorem cleanFrom_of_isNameChar {cs : List Char} (h : ∀ c ∈ cs, isNameChar c = true) (inRun : Bool) :
    cleanFrom inRun cs = cs := by
  induction cs generalizing inRun with
  | nil => rfl
  | cons c cs ih =>
    obtain ⟨hc, hrest⟩ := List.forall_mem_cons.1 h
    rw [cleanFrom, if_pos hc, ih hrest]

theorem trimUnderscores_of_ends {cs : List Char} (hopens : cs.head? ≠ some '_') (hcloses : cs.getLast? ≠ some '_') :
    trimUnderscores cs = cs := by
  have hdrop {ds : List Char} (h : ds.head? ≠ some '_') : ds.dropWhile (· = '_') = ds := by
    cases ds with
    | nil => rfl
    | cons d ds => exact List.dropWhile_cons_of_neg (by simpa using h)
  rw [← List.head?_reverse] at hcloses
  rw [trimUnderscores, hdrop hopens, hdrop hcloses, List.reverse_reverse]

/-- A name of the form of identifiers is its own identifier. -/
theorem IsSnakeWord.identifierChars_eq {cs : List Char} (h : IsSnakeWord cs) : identifierChars cs = cs := by
  obtain ⟨c, rest, rfl, hletter⟩ := h.opens
  have hopens : (c :: rest).head? ≠ some '_' := by
    rintro ⟨⟩
    cases hletter
  have hsnake : snakeChars (c :: rest) = c :: rest := by
    rw [snakeChars, splitCapitals_of_snake h.chars, clean,
      cleanFrom_of_isNameChar fun d hd => isNameChar_of_isSnakeChar (h.chars d hd),
      trimUnderscores_of_ends hopens h.closes]
  have hdigit : c.isDigit = false := by
    have hascii := of_isNameChar (P := fun c => !c.isLower || !c.isDigit) (by decide)
      (isNameChar_of_isSnakeChar (h.chars c List.mem_cons_self))
    simpa [hletter] using hascii
  rw [identifierChars, hsnake]
  simp [startsWithDigit, hdigit]

/-! ## Type names -/

theorem isAlphanum_of_inWord {c : Char} (h : inWord c = true) : c.isAlphanum = true := by
  have hascii := of_isNameChar (P := fun c => !inWord c || c.isAlphanum) (by decide) (isNameChar_of_inWord h)
  simpa [h] using hascii

theorem toUpper_of_inWord {c : Char} (h : inWord c = true) :
    inWord c.toUpper = true ∧ c.toUpper.toUpper = c.toUpper ∧
      (c.toUpper.isDigit = true ∨ c.toUpper.isUpper = true) := by
  have hascii := of_isNameChar (P := fun c => !inWord c || decide (inWord c.toUpper = true ∧
    c.toUpper.toUpper = c.toUpper ∧ (c.toUpper.isDigit = true ∨ c.toUpper.isUpper = true)))
    (by decide) (isNameChar_of_inWord h)
  simpa [h] using hascii

theorem forall_mem_pascalFrom (opens : Bool) (cs : List Char) :
    ∀ c ∈ pascalFrom opens cs, inWord c = true := by
  fun_induction pascalFrom opens cs with
  | case1 => exact List.forall_mem_nil _
  | case2 opens c rest hc ih =>
    refine List.forall_mem_cons.2 ⟨?_, ih⟩
    split
    · exact (toUpper_of_inWord hc).1
    · exact hc
  | case3 _ _ _ _ ih => exact ih

/-- The first letter of all words is a capital already. -/
theorem toUpper_of_pascalFrom {cs rest : List Char} {c : Char} (h : pascalFrom true cs = c :: rest) :
    c.toUpper = c ∧ (c.isDigit = true ∨ c.isUpper = true) := by
  -- What is no part of a word is skipped while the next word is still to open.
  induction cs with
  | nil => cases h
  | cons d cs ih =>
    cases hd : inWord d with
    | true =>
      rw [pascalFrom_cons_of_inWord hd, if_pos rfl] at h
      obtain ⟨rfl, -⟩ := List.cons.inj h
      exact (toUpper_of_inWord hd).2
    | false =>
      rw [pascalFrom_cons_of_not_inWord hd] at h
      exact ih h

theorem pascalFrom_false_of_inWord {cs : List Char} (h : ∀ c ∈ cs, inWord c = true) : pascalFrom false cs = cs := by
  induction cs with
  | nil => rfl
  | cons c cs ih =>
    obtain ⟨hc, hrest⟩ := List.forall_mem_cons.1 h
    rw [pascalFrom_cons_of_inWord hc, ih hrest]
    rfl

theorem pascalChars_pascalChars (cs : List Char) : pascalChars (pascalChars cs) = pascalChars cs := by
  rw [pascalChars_eq, pascalChars_eq cs]
  cases hwords : pascalFrom true cs with
  | nil => rfl
  | cons c rest =>
    have hin : ∀ d ∈ c :: rest, inWord d = true := hwords ▸ forall_mem_pascalFrom true cs
    obtain ⟨hc, hrest⟩ := List.forall_mem_cons.1 hin
    rw [pascalFrom_cons_of_inWord hc, if_pos rfl, (toUpper_of_pascalFrom hwords).1, pascalFrom_false_of_inWord hrest]

theorem isTypeWord_typeChars (cs : List Char) : IsTypeWord (typeChars cs) := by
  have hwidget : ∀ c ∈ "Widget".toList, c.isAlphanum = true := List.all_eq_true.1 (by rfl)
  unfold typeChars
  rw [pascalChars_eq]
  cases hwords : pascalFrom true cs with
  | nil => exact ⟨⟨'I', _, rfl, rfl⟩, List.all_eq_true.1 (by rfl)⟩
  | cons c rest =>
    have hchars : ∀ d ∈ c :: rest, d.isAlphanum = true := fun d hd =>
      isAlphanum_of_inWord (forall_mem_pascalFrom true cs d (hwords ▸ hd))
    simp only [List.isEmpty_cons, Bool.false_eq_true, if_false, startsWithDigit]
    cases hdigit : c.isDigit with
    | true =>
      exact ⟨⟨'W', _, rfl, rfl⟩, List.forall_mem_cons.2 ⟨by decide, List.forall_mem_append.2 ⟨hchars, hwidget⟩⟩⟩
    | false =>
      have hcapital := (toUpper_of_pascalFrom hwords).2.resolve_left (by simp [hdigit])
      exact ⟨⟨c, _, rfl, hcapital⟩, List.forall_mem_append.2 ⟨hchars, hwidget⟩⟩

/-! ## Every id -/

/-- **The names of every id have their form, and a name of a name is that name.** -/
theorem names_legal (id : String) :
    IsSnakeWord (identifier id).toList ∧ IsTypeWord (typeName id).toList ∧
      "Widget".toList <:+ (typeName id).toList ∧ identifier (identifier id) = identifier id ∧
      pascalCase (pascalCase id) = pascalCase id ∧ camelCase (pascalCase id) = camelCase id := by
  have hsnake : IsSnakeWord (identifier id).toList := by
    rw [identifier, String.toList_ofList]
    exact isSnakeWord_identifierChars id.toList
  have htype : IsTypeWord (typeName id).toList := by
    rw [typeName, String.toList_ofList]
    exact isTypeWord_typeChars id.toList
  have hpascal : pascalChars (pascalCase id).toList = pascalChars id.toList := by
    rw [pascalCase, String.toList_ofList, pascalChars_pascalChars]
  refine ⟨hsnake, htype, suffix_typeName id, ?_, ?_, ?_⟩
  · rw [identifier, hsnake.identifierChars_eq, String.ofList_toList]
  · rw [pascalCase, hpascal, ← pascalCase]
  · rw [camelCase, camelChars, hpascal, ← camelChars, ← camelCase]

example : identifier "-9Lives\u212a" = "w_9_lives_k" ∧ typeName "-9Lives\u212a" = "W9LivesWidget" := by decide +kernel

end DashboardCompiler.Name
