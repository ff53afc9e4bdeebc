import DashboardCompiler.Proofs.Text.Quoted
import DashboardCompiler.Text.Naming

/-!
# Names are plain text

Whatever an id holds, the names made from it are of ASCII letters, digits and underscores, so they can stand
in code anywhere.
-/

namespace DashboardCompiler.Name

open Code

theorem toNat_lt_of_isNameChar {c : Char} (h : isNameChar c = true) : c.toNat < 128 := by
  have hle {d : Char} (hd : d.toNat < 128) (hc : c ≤ d) : c.toNat < 128 :=
    (UInt32.le_iff_toNat_le.1 hc).trans_lt hd
  simp only [isNameChar, Bool.or_eq_true, Bool.and_eq_true, decide_eq_true_eq] at h
  rcases h with ((⟨-, h⟩ | ⟨-, h⟩) | ⟨-, h⟩) | rfl
  · exact hle (by decide) h
  · exact hle (by decide) h
  · exact hle (by decide) h
  · decide

/-- A property of name characters that holds of every ASCII character. -/
theorem of_isNameChar {P : Char → Bool} (hP : ∀ n < 128, isNameChar (Char.ofNat n) → P (Char.ofNat n) = true)
    {c : Char} (h : isNameChar c = true) : P c = true := by
  have hc := hP c.toNat (toNat_lt_of_isNameChar h)
  rw [Char.ofNat_toNat] at hc
  exact hc h

theorem isPlain_of_isNameChar {c : Char} (h : isNameChar c = true) : isPlain c = true :=
  of_isNameChar (by decide) h

theorem isNameChar_toUpper {c : Char} (h : isNameChar c = true) : isNameChar c.toUpper = true :=
  of_isNameChar (P := fun c => isNameChar c.toUpper) (by decide) h

theorem isNameChar_of_mem_cleanFrom {inRun : Bool} {cs : List Char} {c : Char} (hc : c ∈ cleanFrom inRun cs) :
    isNameChar c = true := by
  fun_induction cleanFrom inRun cs with
  | case1 => cases hc
  | case2 _ d rest hd ih =>
    rcases List.mem_cons.1 hc with rfl | hc
    · exact hd
    · exact ih hc
  | case3 _ _ _ ih => exact ih hc
  | case4 _ d rest _ _ ih =>
    rcases List.mem_cons.1 hc with rfl | hc
    · decide
    · exact ih hc

theorem isNameChar_of_mem_snakeChars {cs : List Char} {c : Char} (hc : c ∈ snakeChars cs) : isNameChar c = true := by
  rw [snakeChars, trimUnderscores, List.mem_reverse] at hc
  have hc := List.mem_reverse.1 ((List.dropWhile_sublist _).subset hc)
  exact isNameChar_of_mem_cleanFrom ((List.dropWhile_sublist _).subset hc)

theorem isNameChar_of_mem_identifierChars {cs : List Char} {c : Char} (hc : c ∈ identifierChars cs) :
    isNameChar c = true := by
  have hitem : ∀ d ∈ "item".toList, isNameChar d = true := List.all_eq_true.1 (by rfl)
  have hmarked : ∀ d ∈ ['w', '_'], isNameChar d = true := List.all_eq_true.1 (by rfl)
  obtain ⟨named, hnamed, hident⟩ : ∃ named, (∀ d ∈ named, isNameChar d = true) ∧
      identifierChars cs = if startsWithDigit named then ['w', '_'] ++ named else named := by
    refine ⟨_, ?_, rfl⟩
    split
    · exact hitem
    · exact fun d => isNameChar_of_mem_snakeChars
  rw [hident] at hc
  split at hc
  · exact (List.mem_append.1 hc).elim (hmarked c) (hnamed c)
  · exact hnamed c hc

theorem mem_of_mem_wordsFrom {reading cs word : List Char} (hword : word ∈ wordsFrom reading cs) :
    ∀ c ∈ word, c ∈ reading ∨ c ∈ cs := by
  intro c hc
  fun_induction wordsFrom reading cs with
  | case1 => cases hword
  | case2 reading _ =>
    rw [List.mem_singleton.1 hword] at hc
    exact .inl hc
  | case3 rest reading _ ih => exact (ih hword).elim nofun fun h => .inr (List.mem_cons_of_mem _ h)
  | case4 rest reading _ ih =>
    rcases List.mem_cons.1 hword with rfl | hword
    · exact .inl hc
    · exact (ih hword).elim nofun fun h => .inr (List.mem_cons_of_mem _ h)
  | case5 reading d rest _ ih =>
    rcases ih hword with h | h
    · rcases List.mem_append.1 h with h | h
      · exact .inl h
      · exact .inr (List.mem_cons.2 (.inl (List.mem_singleton.1 h)))
    · exact .inr (List.mem_cons_of_mem _ h)

theorem isNameChar_of_mem_pascalChars {cs : List Char} {c : Char} (hc : c ∈ pascalChars cs) :
    isNameChar c = true := by
  obtain ⟨capital, hcapital, hc⟩ := List.mem_flatten.1 hc
  obtain ⟨word, hword, rfl⟩ := List.mem_map.1 hcapital
  have hchars : ∀ d ∈ word, isNameChar d = true := fun d hd =>
    isNameChar_of_mem_cleanFrom ((mem_of_mem_wordsFrom hword d hd).resolve_left List.not_mem_nil)
  cases word with
  | nil => cases hc
  | cons d word =>
    rcases List.mem_cons.1 hc with rfl | hc
    · exact isNameChar_toUpper (hchars d List.mem_cons_self)
    · exact hchars c (List.mem_cons_of_mem _ hc)

/-- A type name is its base, which may need a letter in front, and a fixed end. -/
theorem exists_typeChars (cs : List Char) :
    ∃ base, (base = "Item".toList ∨ base = pascalChars cs) ∧
      typeChars cs = (if startsWithDigit base then 'W' :: base else base) ++ "Widget".toList := by
  refine ⟨_, ?_, rfl⟩
  split
  · exact .inl rfl
  · exact .inr rfl

theorem isNameChar_of_mem_typeChars {cs : List Char} {c : Char} (hc : c ∈ typeChars cs) :
    isNameChar c = true := by
  have hitem : ∀ d ∈ "Item".toList, isNameChar d = true := List.all_eq_true.1 (by rfl)
  have hwidget : ∀ d ∈ "Widget".toList, isNameChar d = true := List.all_eq_true.1 (by rfl)
  obtain ⟨base, hbase, htype⟩ := exists_typeChars cs
  have hchars : ∀ d ∈ base, isNameChar d = true := by
    rcases hbase with rfl | rfl
    · exact hitem
    · exact fun d => isNameChar_of_mem_pascalChars
  rw [htype, List.mem_append] at hc
  rcases hc with hc | hc
  · split at hc
    · rcases List.mem_cons.1 hc with rfl | hc
      · decide
      · exact hchars c hc
    · exact hchars c hc
  · exact hwidget c hc

theorem plain_typeName (id : String) : Plain (typeName id) := by
  intro c hc
  rw [typeName, String.toList_ofList] at hc
  exact isPlain_of_isNameChar (isNameChar_of_mem_typeChars hc)

/-- Every type name ends like this, and templates may avoid that end. -/
theorem suffix_typeName (id : String) : "Widget".toList <:+ (typeName id).toList := by
  obtain ⟨base, -, htype⟩ := exists_typeChars id.toList
  have hchars : (typeName id).toList = typeChars id.toList := String.toList_ofList
  rw [hchars, htype]
  exact List.suffix_append _ _

/-- The one way to the name of a dashboard. -/
theorem typeName_eq_dashboardWidget_iff (id : String) :
    typeName id = "DashboardWidget" ↔ pascalCase id = "Dashboard" := by
  have hwhole : "DashboardWidget" = String.ofList ("Dashboard".toList ++ "Widget".toList) := by rfl
  have hitem : "Item".toList ≠ "Dashboard".toList := by decide
  rw [typeName, hwhole, String.ofList_inj, typeChars, List.append_left_inj, pascalCase]
  constructor
  · intro h
    by_cases hempty : (pascalChars id.toList).isEmpty = true
    · rw [if_pos hempty] at h
      exact absurd h hitem
    · rw [if_neg hempty] at h
      split at h
      · cases h
      · rw [h, String.ofList_toList]
  · intro h
    have hchars : pascalChars id.toList = "Dashboard".toList := by
      rw [← h, String.toList_ofList]
    rw [hchars]
    rfl

end DashboardCompiler.Name
