import DashboardCompiler.Proofs.Text.Naming

/-!
# Type names from identifiers

An id is lowered before it is cleaned where it becomes an identifier, and cleaned as it stands where it
becomes a type name. Unless a character that is no name character lowers into one, the two agree about the
words of the id, and the type name can be made from the identifier. The capital I with a dot and the Kelvin
sign are the only characters that lower into names.
-/

namespace DashboardCompiler.Name

open Unicode

/-! ## Capitalized words in one pass -/

/-- A character that stands in a word. -/
def inWord (c : Char) : Bool := isNameChar c && c ≠ '_'

/-- The words of a text, each with its first letter in upper case; `opens` says that the next character opens
a word. -/
def pascalFrom (opens : Bool) : List Char → List Char
  | [] => []
  | c :: rest =>
    if inWord c then (if opens then c.toUpper else c) :: pascalFrom false rest else pascalFrom true rest

theorem inWord_of_ne {c : Char} (hname : isNameChar c = true) (hc : c ≠ '_') : inWord c = true := by
  simp [inWord, hname, hc]

theorem inWord_underscore : inWord '_' = false := by decide

theorem inWord_of_not_isNameChar {c : Char} (h : isNameChar c = false) : inWord c = false := by
  simp [inWord, h]

theorem pascalFrom_cons_of_inWord {c : Char} (h : inWord c = true) (opens : Bool) (rest : List Char) :
    pascalFrom opens (c :: rest) = (if opens then c.toUpper else c) :: pascalFrom false rest := by
  rw [pascalFrom, if_pos h]

theorem pascalFrom_cons_of_not_inWord {c : Char} (h : inWord c = false) (opens : Bool) (rest : List Char) :
    pascalFrom opens (c :: rest) = pascalFrom true rest := by
  rw [pascalFrom, if_neg (by simp [h])]

/-- A run of characters between words opens the next word, whatever they are. -/
theorem pascalFrom_append_of_not_inWord {gap : List Char} (h : ∀ c ∈ gap, inWord c = false) (hne : gap ≠ [])
    (opens : Bool) (rest : List Char) : pascalFrom opens (gap ++ rest) = pascalFrom true rest := by
  induction gap generalizing opens with
  | nil => exact absurd rfl hne
  | cons c gap ih =>
    obtain ⟨hc, hgap⟩ := List.forall_mem_cons.1 h
    rw [List.cons_append, pascalFrom_cons_of_not_inWord hc]
    by_cases hempty : gap = []
    · rw [hempty, List.nil_append]
    · exact ih hgap hempty true

/-- Nothing is read from a run of underscores at the end. -/
theorem pascalFrom_append_underscores {cs tail : List Char} (h : ∀ c ∈ tail, c = '_') (opens : Bool) :
    pascalFrom opens (cs ++ tail) = pascalFrom opens cs := by
  induction cs generalizing opens with
  | nil =>
    by_cases hempty : tail = []
    · rw [hempty, List.append_nil]
    · have hgap : ∀ c ∈ tail, inWord c = false := fun c hc => h c hc ▸ inWord_underscore
      have hread := pascalFrom_append_of_not_inWord hgap hempty opens []
      rwa [List.append_nil] at hread
  | cons c cs ih =>
    rw [List.cons_append, pascalFrom, pascalFrom, ih, ih]

theorem pascalFrom_dropWhile_underscores (cs : List Char) :
    pascalFrom true (cs.dropWhile (· = '_')) = pascalFrom true cs := by
  induction cs with
  | nil => rfl
  | cons c cs ih =>
    by_cases hc : c = '_'
    · subst hc
      rw [List.dropWhile_cons_of_pos (by simp), ih, pascalFrom_cons_of_not_inWord inWord_underscore]
    · rw [List.dropWhile_cons_of_neg (by simpa using hc)]

theorem pascalFrom_trimUnderscores (cs : List Char) :
    pascalFrom true (trimUnderscores cs) = pascalFrom true cs := by
  rw [← pascalFrom_dropWhile_underscores cs, trimUnderscores]
  generalize cs.dropWhile (· = '_') = inner
  have hsplit :
      (inner.reverse.dropWhile (· = '_')).reverse ++ (inner.reverse.takeWhile (· = '_')).reverse = inner := by
    rw [← List.reverse_append, List.takeWhile_append_dropWhile, List.reverse_reverse]
  have htail : ∀ c ∈ (inner.reverse.takeWhile (· = '_')).reverse, c = '_' := fun c hc => by
    simpa using List.mem_takeWhile_imp (List.mem_reverse.1 hc)
  rw [← pascalFrom_append_underscores htail, hsplit]

/-- Cleaning keeps the words; a run that is being skipped has opened the next one. -/
theorem pascalFrom_cleanFrom {inRun opens : Bool} (h : inRun = true → opens = true) (cs : List Char) :
    pascalFrom opens (cleanFrom inRun cs) = pascalFrom opens cs := by
  fun_induction cleanFrom inRun cs generalizing opens with
  | case1 => rfl
  | case2 _ c cs hname ih =>
    have hclosed {p : Prop} (h : false = true) : p := absurd h Bool.false_ne_true
    rw [pascalFrom, pascalFrom, ih hclosed, ih hclosed]
  | case3 c cs hname ih =>
    have hname : isNameChar c = false := by simpa using hname
    rw [pascalFrom_cons_of_not_inWord (inWord_of_not_isNameChar hname), ih fun _ => h rfl, h rfl]
  | case4 _ c cs hname _ ih =>
    have hname : isNameChar c = false := by simpa using hname
    rw [pascalFrom_cons_of_not_inWord inWord_underscore,
      pascalFrom_cons_of_not_inWord (inWord_of_not_isNameChar hname), ih fun _ => rfl]

theorem flatten_capitalize_wordsFrom (reading cs : List Char) (hcs : ∀ c ∈ cs, isNameChar c = true) :
    ((wordsFrom reading cs).map capitalize).flatten = capitalize reading ++ pascalFrom reading.isEmpty cs := by
  induction cs generalizing reading with
  | nil => cases reading <;> simp [wordsFrom, pascalFrom, capitalize]
  | cons c cs ih =>
    obtain ⟨hname, hrest⟩ := List.forall_mem_cons.1 hcs
    by_cases hc : c = '_'
    · subst hc
      rw [wordsFrom, if_pos rfl, pascalFrom_cons_of_not_inWord inWord_underscore]
      cases reading <;> simp [ih _ hrest, capitalize]
    · rw [wordsFrom, if_neg hc, ih _ hrest, pascalFrom_cons_of_inWord (inWord_of_ne hname hc)]
      cases reading <;> simp [capitalize]

theorem pascalChars_eq (cs : List Char) : pascalChars cs = pascalFrom true cs := by
  have hwords := flatten_capitalize_wordsFrom [] (clean cs) fun c hc => isNameChar_of_mem_cleanFrom hc
  rw [pascalChars, hwords]
  exact pascalFrom_cleanFrom (fun _ => rfl) cs

/-! ## Characters that lower into names -/

/-- No name character itself, and in lower case one at least in part. -/
def lowersIntoName (c : Char) : Bool := !isNameChar c && (lowerChars c).any isNameChar

/-- A span of letters that lowers no letter beyond ASCII into ASCII, apart from the Kelvin sign. -/
def staysAbove (s : Shift) : Bool :=
  decide (s.high < 128) || decide (128 ≤ (s.low : Int) + s.shift) || decide (s.low = 0x212a ∧ s.high = 0x212a)

theorem le_applyShifts {n : Nat} (hn : 128 ≤ n) (hkelvin : n ≠ 0x212a) {shifts : List Shift}
    (h : shifts.all staysAbove = true) : 128 ≤ applyShifts n shifts := by
  induction shifts with
  | nil => exact hn
  | cons s shifts ih =>
    rw [List.all_cons, Bool.and_eq_true] at h
    rw [applyShifts]
    split
    · rename_i hcovers
      simp only [Step.covers, Bool.and_eq_true, decide_eq_true_eq] at hcovers
      simp only [staysAbove, Bool.or_eq_true, decide_eq_true_eq] at h
      omega
    · exact ih h.2

theorem isNameChar_ofNat_of_le {n : Nat} (hn : 128 ≤ n) : isNameChar (Char.ofNat n) = false := by
  have hzero : isNameChar (Char.ofNat 0) = false := by decide
  by_cases hvalid : n.isValidChar
  · have hcode : (Char.ofNat n).toNat = n := by
      rw [Char.ofNat, dif_pos hvalid]
      rfl
    by_contra hname
    rw [Bool.not_eq_false] at hname
    have hlt := toNat_lt_of_isNameChar hname
    omega
  · have hdefault : Char.ofNat n = Char.ofNat 0 := by
      rw [Char.ofNat, dif_neg hvalid]
      rfl
    rw [hdefault, hzero]

theorem lowersIntoName_of_lt : ∀ n < 128, lowersIntoName (Char.ofNat n) = false := by decide +kernel

theorem lowersIntoName_iff (c : Char) : lowersIntoName c = true ↔ c = '\u0130' ∨ c = '\u212a' := by
  constructor
  · intro h
    by_contra hother
    rw [not_or] at hother
    have hdotted : c.toNat ≠ 0x130 := fun hc => hother.1 (Char.toNat_inj.1 hc)
    have hkelvin : c.toNat ≠ 0x212a := fun hc => hother.2 (Char.toNat_inj.1 hc)
    by_cases hascii : c.toNat < 128
    · have hlow := lowersIntoName_of_lt c.toNat hascii
      rw [Char.ofNat_toNat, h] at hlow
      cases hlow
    · have hshifts : lowerShifts.all staysAbove = true := by decide
      have hlowered := isNameChar_ofNat_of_le (le_applyShifts (Nat.le_of_not_lt hascii) hkelvin hshifts)
      simp [lowersIntoName, lowerChars, hdotted, hlowered] at h
  · rintro (rfl | rfl) <;> decide

/-! ## Lower case keeps the words -/

theorem lowerChars_of_isUpper {c : Char} (hname : isNameChar c = true) (hupper : isUpper c = true) :
    lowerChars c = [c.toLower] ∧ inWord c.toLower = true ∧ c.toLower.toUpper = c ∧ inWord c = true ∧ c.toUpper = c := by
  have hascii := of_isNameChar (P := fun c => !isUpper c ||
    decide (lowerChars c = [c.toLower] ∧ inWord c.toLower = true ∧ c.toLower.toUpper = c ∧ inWord c = true ∧
      c.toUpper = c)) (by decide +kernel) hname
  simpa [hupper] using hascii

theorem lowerChars_of_not_isUpper {c : Char} (hname : isNameChar c = true) (hlower : isUpper c = false) :
    lowerChars c = [c] := by
  have hascii := of_isNameChar (P := fun c => isUpper c || decide (lowerChars c = [c])) (by decide +kernel) hname
  simpa [hlower] using hascii

theorem lowerChars_ne_nil (c : Char) : lowerChars c ≠ [] := by
  unfold lowerChars
  split <;> exact List.cons_ne_nil _ _

/-- After a character of a word the next capital is marked. -/
theorem marks_of_inWord {c : Char} (h : inWord c = true) : (c = '_' || c = '-' || c = ' ') = false := by
  rw [inWord, Bool.and_eq_true] at h
  have hascii := of_isNameChar (P := fun c => !inWord c || !(c = '_' || c = '-' || c = ' ')) (by decide) h.1
  rwa [inWord, h.1, h.2, Bool.and_self, Bool.not_true, Bool.false_or, Bool.not_eq_true'] at hascii

/-- One character in lower case, with a mark where it is a capital inside of a text, is read as the character
itself. Where there is no mark the character must open a word. -/
theorem pascalFrom_lowerChars {c : Char} (hc : lowersIntoName c = false) {marked opens : Bool}
    (hmarked : marked = false → opens = true) {lowered rest : List Char}
    (hrest : pascalFrom (!inWord c) lowered = pascalFrom (!inWord c) rest) :
    pascalFrom opens ((if isUpper c && marked then ['_'] else []) ++ lowerChars c ++ lowered) =
      pascalFrom opens (c :: rest) := by
  by_cases hname : isNameChar c = true
  · by_cases hupper : isUpper c = true
    · obtain ⟨hlower, hin, hback, hcin, hcupper⟩ := lowerChars_of_isUpper hname hupper
      rw [hcin, Bool.not_true] at hrest
      rw [hlower, hupper, Bool.true_and, pascalFrom_cons_of_inWord hcin, hcupper, ite_self]
      cases marked with
      | true =>
        simp only [if_true, List.cons_append, List.nil_append]
        rw [pascalFrom_cons_of_not_inWord inWord_underscore, pascalFrom_cons_of_inWord hin, hrest, if_pos rfl,
          hback]
      | false =>
        simp only [Bool.false_eq_true, if_false, List.singleton_append, List.nil_append]
        rw [hmarked rfl, pascalFrom_cons_of_inWord hin, hrest, if_pos rfl, hback]
    · rw [Bool.not_eq_true] at hupper
      rw [lowerChars_of_not_isUpper hname hupper, hupper, Bool.false_and]
      simp only [Bool.false_eq_true, if_false, List.singleton_append, List.nil_append]
      cases hin : inWord c with
      | true =>
        rw [hin, Bool.not_true] at hrest
        rw [pascalFrom_cons_of_inWord hin, pascalFrom_cons_of_inWord hin, hrest]
      | false =>
        rw [hin, Bool.not_false] at hrest
        rw [pascalFrom_cons_of_not_inWord hin, pascalFrom_cons_of_not_inWord hin, hrest]
  · -- Whatever it lowers to, the character stands between words.
    rw [Bool.not_eq_true] at hname
    have hout := inWord_of_not_isNameChar hname
    have hgap : ∀ d ∈ (if isUpper c && marked then ['_'] else []) ++ lowerChars c, inWord d = false := by
      intro d hd
      rcases List.mem_append.1 hd with hd | hd
      · split at hd
        · rw [List.mem_singleton.1 hd]
          exact inWord_underscore
        · cases hd
      · refine inWord_of_not_isNameChar ?_
        simp only [lowersIntoName, hname, Bool.not_false, Bool.true_and, List.any_eq_false] at hc
        simpa using hc d hd
    rw [hout, Bool.not_false] at hrest
    rw [pascalFrom_append_of_not_inWord hgap (List.append_ne_nil_of_right_ne_nil _ (lowerChars_ne_nil c)),
      pascalFrom_cons_of_not_inWord hout, hrest]

/-- The words of a text are those of its lower case with a mark before each capital; `opens` must hold wherever
no mark would be put. -/
theorem pascalFrom_splitCapitals {cs : List Char} (hcs : ∀ c ∈ cs, lowersIntoName c = false)
    {previous : Option Char} {opens : Bool}
    (hopens : previous.all (fun p => p = '_' || p = '-' || p = ' ') = true → opens = true) :
    pascalFrom opens (splitCapitals previous cs) = pascalFrom opens cs := by
  induction cs generalizing previous opens with
  | nil => rfl
  | cons c cs ih =>
    obtain ⟨hc, hrest⟩ := List.forall_mem_cons.1 hcs
    refine pascalFrom_lowerChars hc (fun hmarked => hopens ?_) (ih hrest fun hseparates => ?_)
    · cases previous with
      | none => rfl
      | some p => simpa only [Bool.not_eq_false', Option.all_some] using hmarked
    · rw [Bool.not_eq_true']
      by_contra hin
      rw [Bool.not_eq_false] at hin
      rw [Option.all_some, marks_of_inWord hin] at hseparates
      cases hseparates

theorem pascalChars_snakeChars {cs : List Char} (hcs : ∀ c ∈ cs, lowersIntoName c = false) :
    pascalFrom true (snakeChars cs) = pascalChars cs := by
  rw [snakeChars, pascalFrom_trimUnderscores, clean, pascalFrom_cleanFrom (fun _ => rfl),
    pascalFrom_splitCapitals hcs fun _ => rfl, pascalChars_eq]

/-! ## Type names -/

theorem head?_snakeChars {cs rest : List Char} {c : Char} (h : snakeChars cs = c :: rest) : inWord c = true := by
  have hname : isNameChar c = true := isNameChar_of_mem_snakeChars (h ▸ List.mem_cons_self)
  refine inWord_of_ne hname fun hc => ?_
  subst hc
  rw [snakeChars, trimUnderscores] at h
  generalize clean (splitCapitals none cs) = cleaned at h
  have hprefix : '_' :: rest <+: cleaned.dropWhile (· = '_') := by
    rw [← h, ← List.reverse_suffix, List.reverse_reverse]
    exact List.dropWhile_suffix _
  obtain ⟨tail, htail⟩ := hprefix
  have hhead := List.head?_dropWhile_not (· = '_') cleaned
  rw [← htail] at hhead
  simp at hhead

theorem isDigit_toUpper {c : Char} (h : isNameChar c = true) : c.toUpper.isDigit = c.isDigit := by
  have hascii := of_isNameChar (P := fun c => c.toUpper.isDigit == c.isDigit) (by decide) h
  simpa using hascii

/-- **The type name of an id is made from its identifier**, unless the id holds one of the two characters that
lower into names. -/
theorem typeChars_eq {cs : List Char} (hcs : ∀ c ∈ cs, lowersIntoName c = false) :
    typeChars cs = pascalFrom true (identifierChars cs) ++ "Widget".toList := by
  have hsnake := pascalChars_snakeChars hcs
  unfold typeChars identifierChars
  cases hchars : snakeChars cs with
  | nil =>
    rw [hchars] at hsnake
    rw [← hsnake]
    rfl
  | cons c rest =>
    have hin := head?_snakeChars hchars
    have hname : isNameChar c = true := isNameChar_of_mem_snakeChars (hchars ▸ List.mem_cons_self)
    have hpascal : pascalChars cs = c.toUpper :: pascalFrom false rest := by
      rw [← hsnake, hchars, pascalFrom_cons_of_inWord hin, if_pos rfl]
    simp only [hpascal, List.isEmpty_cons, Bool.false_eq_true, if_false, startsWithDigit, isDigit_toUpper hname]
    split
    · have hletter : inWord 'w' = true := by decide
      rw [pascalFrom_cons_of_inWord hletter, pascalFrom_cons_of_not_inWord inWord_underscore,
        pascalFrom_cons_of_inWord hin]
      rfl
    · rw [pascalFrom_cons_of_inWord hin, if_pos rfl]

/-- Ids without such characters that share their identifier share their type name. -/
theorem typeName_eq_of_identifier_eq {a b : String} (ha : ∀ c ∈ a.toList, lowersIntoName c = false)
    (hb : ∀ c ∈ b.toList, lowersIntoName c = false) (h : identifier a = identifier b) : typeName a = typeName b := by
  have hchars : identifierChars a.toList = identifierChars b.toList := String.ofList_injective h
  rw [typeName, typeName, typeChars_eq ha, typeChars_eq hb, hchars]

/-- An id of ASCII characters alone. -/
def IsAscii (id : String) : Prop := ∀ c ∈ id.toList, c.toNat < 128

instance (id : String) : Decidable (IsAscii id) :=
  decidable_of_iff ((id.toList.all fun c => c.toNat < 128) = true) (by simp [IsAscii])

theorem IsAscii.lowersIntoName {id : String} (h : IsAscii id) : ∀ c ∈ id.toList, lowersIntoName c = false := by
  intro c hc
  have hlow := lowersIntoName_of_lt c.toNat (h c hc)
  rwa [Char.ofNat_toNat] at hlow

theorem IsAscii.typeName_eq {id : String} (h : IsAscii id) :
    typeName id = pascalCase (identifier id) ++ "Widget" := by
  have hpascal : pascalChars (identifier id).toList = pascalFrom true (identifierChars id.toList) := by
    rw [identifier, String.toList_ofList, pascalChars_eq]
  rw [typeName, typeChars_eq h.lowersIntoName, pascalCase, hpascal, String.ofList_append, String.ofList_toList]

end DashboardCompiler.Name
