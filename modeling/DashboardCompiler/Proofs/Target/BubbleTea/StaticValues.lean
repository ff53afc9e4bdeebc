import DashboardCompiler.Proofs.Double.Overflow
import DashboardCompiler.Proofs.Target.Overflow
import DashboardCompiler.Proofs.Target.Ranges
import DashboardCompiler.Proofs.Text.ReadLiterals
import DashboardCompiler.Proofs.Text.Lines

/-!
# Static values in Go programs

A static value stands in a Go program as a composite literal of the types that decoded documents have. Words, texts and
braces end by themselves, and a numeral ends where something else than its characters follows, which a comma or a brace
is. So the literal of a value can be read back from the front, whatever texts and keys stand in it, as long as its
numbers are integers that doubles hold.
-/

namespace DashboardCompiler

/-- Null, flags, texts and integers that doubles hold exactly, and lists and objects of such values. -/
inductive Json.Ordinary : Json → Prop where
  | null : Ordinary .null
  | bool (b : Bool) : Ordinary (.bool b)
  | int {n : Int} (h : n.natAbs ≤ 2 ^ 53) : Ordinary (.ofInt n)
  | text (s : String) : Ordinary (.text s)
  | list {items : List Json} (h : ∀ v ∈ items, Ordinary v) : Ordinary (.list items)
  | object {fields : List (String × Json)} (h : ∀ field ∈ fields, Ordinary field.2) : Ordinary (.object fields)

theorem Json.Ordinary.not_overflows {v : Json} (h : v.Ordinary) : ¬ v.Overflows := by
  induction h with
  | int hn =>
    have hlimit : 2 ^ 53 < overflowSize := by decide +kernel
    rw [ofInt, overflows_int_iff]
    omega
  | list _ ih =>
    rw [overflows_list_iff]
    rintro ⟨v, hv, hoverflows⟩
    exact ih v hv hoverflows
  | object _ ih =>
    rw [overflows_object_iff]
    rintro ⟨field, hfield, hoverflows⟩
    exact ih field hfield hoverflows
  | _ =>
    intro hoverflows
    cases hoverflows

theorem Double.truncate_of_place {x : Double} {m : Int} (h : (Number.double x).place? = some (.at m)) :
    x.isFinite = true ∧ x.truncate = .ok (m.tdiv unitsPerOne) := by
  cases x with
  | nan => cases h
  | infinite negative => cases negative <;> cases h
  | finite negative units fits =>
    obtain rfl := Number.Place.at.inj (Option.some.inj h)
    exact ⟨rfl, rfl⟩

namespace BubbleTea

open Text

/-! ## Reading literals -/

/-- A whole number at the start of a text. -/
def readNumber (cs : List Char) : Option (Json × List Char) := do
  let x ← Literal.numeral? (String.ofList (cs.takeWhile isNumeral))
  let n ← x.truncate.toOption
  return (.ofInt n, cs.dropWhile isNumeral)

/-- What follows an entry of a list or a map: a comma, or the closing brace, which is left to be read. -/
def afterEntry? : List Char → Option (List Char)
  | ',' :: ' ' :: rest => some rest
  | '\x7d' :: rest => some ('\x7d' :: rest)
  | _ => none

/-- The entries up to the closing brace. -/
def readEntries {α : Type} (entry : List Char → Option (α × List Char)) : Nat → List Char → Option (List α × List Char)
  | 0, _ => none
  | fuel + 1, cs =>
    match cs with
    | '\x7d' :: rest => some ([], rest)
    | _ => do
      let (first, rest) ← entry cs
      let next ← afterEntry? rest
      let (others, after) ← readEntries entry fuel next
      return (first :: others, after)

/-- A key with its value. -/
def readField (value : List Char → Option (Json × List Char)) : List Char → Option ((String × Json) × List Char)
  | '"' :: body => do
    let (key, rest) ← readQuoted? body
    let rest ← Json.word? ": " rest
    let (v, after) ← value rest
    return ((key, v), after)
  | _ => none

/-- The value of the literal that a text begins with, and what follows the literal. -/
def readValue : Nat → List Char → Option (Json × List Char)
  | 0, _ => none
  | fuel + 1, cs =>
    match cs with
    | 'n' :: _ => (Json.word? "nil" cs).map (.null, ·)
    | 't' :: _ => (Json.word? "true" cs).map (.bool true, ·)
    | 'f' :: _ => (Json.word? "false" cs).map (.bool false, ·)
    | '"' :: body => (readQuoted? body).map fun (s, after) => (.text s, after)
    | '[' :: _ =>
      ((Json.word? "[]interface\x7b\x7d\x7b" cs).bind (readEntries (readValue fuel) fuel)).map fun (items, after) =>
        (.list items, after)
    | 'm' :: _ =>
      ((Json.word? "map[string]interface\x7b\x7d\x7b" cs).bind (readEntries (readField (readValue fuel)) fuel)).map
        fun (fields, after) => (.object fields, after)
    | _ => readNumber cs

/-- The value that a whole text is the literal of. -/
def decode? (s : String) : Option Json :=
  match readValue (s.length + 1) s.toList with
  | some (v, []) => some v
  | _ => none

/-! ## Texts that are read from the front -/

/-- Here a numeral would end. -/
def Ends (rest : List Char) : Prop := ∀ c ∈ rest.head?, isNumeral c = false

/-- The text is read as the value and left behind, wherever it ends. -/
def Reads {α : Type} (read : List Char → Option (α × List Char)) (a : α) (s : String) : Prop :=
  ∀ rest, Ends rest → read (s.toList ++ rest) = some (a, rest)

theorem ends_cons {c : Char} (h : isNumeral c = false) (rest : List Char) : Ends (c :: rest) := by
  rintro _ ⟨⟩
  exact h

theorem word?_append (word : String) (rest : List Char) : Json.word? word (word.toList ++ rest) = some rest := by
  have hstart : word.toList.isPrefixOf (word.toList ++ rest) = true :=
    List.isPrefixOf_iff_prefix.2 (List.prefix_append _ _)
  rw [Json.word?, if_pos hstart, ← String.length_toList, List.drop_left]

section Entries

variable {α : Type} {entry : List Char → Option (α × List Char)}

theorem readEntries_cons (hclose : ∀ rest, entry ('\x7d' :: rest) = none) {cs rest next after : List Char} {a : α}
    {others : List α} {fuel : Nat} (hentry : entry cs = some (a, rest)) (hnext : afterEntry? rest = some next)
    (hothers : readEntries entry fuel next = some (others, after)) :
    readEntries entry (fuel + 1) cs = some (a :: others, after) := by
  unfold readEntries
  split
  · rw [hclose] at hentry
    cases hentry
  · simp only [hentry, hnext, hothers, Option.bind_eq_bind, Option.bind_some]
    rfl

/-- Behind the first of the joined entries stands a comma and the others, or the brace. -/
theorem exists_afterEntry (s : String) (ss : List String) (rest : List Char) :
    ∃ tail, (joinWith ", " (s :: ss)).toList ++ '\x7d' :: rest = s.toList ++ tail ∧ Ends tail ∧
      afterEntry? tail = some ((joinWith ", " ss).toList ++ '\x7d' :: rest) := by
  cases ss with
  | nil => exact ⟨'\x7d' :: rest, rfl, ends_cons rfl _, rfl⟩
  | cons t ss =>
    refine ⟨',' :: ' ' :: ((joinWith ", " (t :: ss)).toList ++ '\x7d' :: rest), ?_, ends_cons rfl _, rfl⟩
    rw [joinWith_cons_of_ne_nil _ _ (List.cons_ne_nil _ _)]
    simp

theorem readEntries_joinWith (hclose : ∀ rest, entry ('\x7d' :: rest) = none) {as : List α} {ss : List String}
    (h : List.Forall₂ (Reads entry) as ss) {fuel : Nat} (hfuel : ss.length < fuel) (rest : List Char) :
    readEntries entry fuel ((joinWith ", " ss).toList ++ '\x7d' :: rest) = some (as, rest) := by
  induction h generalizing fuel with
  | nil =>
    obtain ⟨fuel, rfl⟩ : ∃ n, fuel = n + 1 := ⟨fuel - 1, by simp at hfuel; omega⟩
    rfl
  | @cons a s as ss hfirst hothers ih =>
    rw [List.length_cons] at hfuel
    obtain ⟨fuel, rfl⟩ : ∃ n, fuel = n + 1 := ⟨fuel - 1, by omega⟩
    obtain ⟨tail, htext, hends, hnext⟩ := exists_afterEntry s ss rest
    rw [htext]
    exact readEntries_cons hclose (hfirst tail hends) hnext (ih (by omega))

end Entries

section Joined

variable {ss : List String}

theorem length_le_joinWith (ss : List String) : ss.length ≤ (joinWith ", " ss).length + 1 := by
  induction ss with
  | nil => exact Nat.zero_le _
  | cons s ss ih =>
    cases ss with
    | nil => exact Nat.le_add_left 1 _
    | cons t ss =>
      rw [joinWith_cons_of_ne_nil _ _ (List.cons_ne_nil _ _), String.length_append, String.length_append,
        List.length_cons]
      have hcomma : ", ".length = 2 := rfl
      omega

theorem length_le_of_mem_joinWith {s : String} (h : s ∈ ss) : s.length ≤ (joinWith ", " ss).length := by
  rw [← String.length_toList, ← String.length_toList]
  exact (infix_joinWith h).length_le

theorem forall₂_imp_of_mem {α β : Type} {R S : α → β → Prop} {as : List α} {bs : List β} (h : List.Forall₂ R as bs)
    (himp : ∀ a ∈ as, ∀ b ∈ bs, R a b → S a b) : List.Forall₂ S as bs := by
  induction h with
  | nil => exact .nil
  | cons hfirst _ ih =>
    refine .cons (himp _ List.mem_cons_self _ List.mem_cons_self hfirst) (ih fun a ha b hb => ?_)
    exact himp a (List.mem_cons_of_mem _ ha) b (List.mem_cons_of_mem _ hb)

/-- The literal of a list or a map, in front of another text. -/
theorem composite_append (opening : String) (ss : List String) (rest : List Char) :
    (opening ++ commaList ss ++ "\x7d").toList ++ rest =
      opening.toList ++ ((joinWith ", " ss).toList ++ '\x7d' :: rest) := by
  simp [commaList]

/-- Each entry is shorter than the whole literal, and so is their number. -/
theorem read_composite {α : Type} (read : Nat → List Char → Option (α × List Char)) {as : List α} {opening : String}
    (hclose : ∀ fuel rest, read (fuel + 1) ('\x7d' :: rest) = none) (hopening : 2 ≤ opening.length) {fuel : Nat}
    (hfuel : (opening ++ commaList ss ++ "\x7d").length ≤ fuel)
    (hentries : ∀ n, (∀ s ∈ ss, s.length ≤ n) → List.Forall₂ (Reads (read (n + 1))) as ss) (rest : List Char) :
    (Json.word? opening (opening.toList ++ ((joinWith ", " ss).toList ++ '\x7d' :: rest))).bind
      (readEntries (read fuel) fuel) = some (as, rest) := by
  have hlength : (opening ++ commaList ss ++ "\x7d").length = opening.length + (joinWith ", " ss).length + 1 := by
    rw [String.length_append, String.length_append, commaList]
    rfl
  have hcount := length_le_joinWith ss
  obtain ⟨n, rfl⟩ : ∃ n, fuel = n + 1 := ⟨fuel - 1, by omega⟩
  have hshort : ∀ s ∈ ss, s.length ≤ n := fun s hs => by
    have := length_le_of_mem_joinWith hs
    omega
  rw [word?_append, Option.bind_some]
  exact readEntries_joinWith (hclose n) (hentries n hshort) (by omega) rest

end Joined

/-! ## Written values are read back -/

/-- The literal of an integer is a numeral for it. -/
theorem exists_numeral {n : Int} (hn : n.natAbs ≤ 2 ^ 53) :
    ∃ s, value (.ofInt n) = .ok s ∧ Literal.numeral? s = some (.ofInt n) ∧ (Double.ofInt n).truncate = .ok n := by
  obtain ⟨hfinite, htruncate⟩ := Double.truncate_of_place (Number.held_int hn)
  have hwhole : (n * unitsPerOne).tdiv unitsPerOne = n :=
    Int.mul_tdiv_cancel n (by exact_mod_cast unitsPerOne_pos.ne')
  have hfloat : Literal.ofDouble (.ofInt n) = (Double.ofInt n).text := if_pos hfinite
  have hsmall : Double.ofInt? n = .ok (.ofInt n) := (Double.below_ofInt hn (by decide)).inRange
  refine ⟨(Double.ofInt n).text, ?_, numeral?_text hfinite, htruncate.trans (congrArg _ hwhole)⟩
  exact bind_ok_iff.2 ⟨_, hsmall, congrArg Except.ok hfloat⟩

theorem readNumber_append {s : String} {x : Double} {n : Int} (hs : Literal.numeral? s = some x)
    (hn : x.truncate = .ok n) {rest : List Char} (hends : Ends rest) :
    readNumber (s.toList ++ rest) = some (.ofInt n, rest) := by
  have hall : ∀ c ∈ s.toList, isNumeral c = true := isNumeral_of_numeral? hs
  obtain ⟨htake, hdrop⟩ : rest.takeWhile isNumeral = [] ∧ rest.dropWhile isNumeral = rest := by
    cases rest with
    | nil => exact ⟨rfl, rfl⟩
    | cons c rest =>
      have hc : isNumeral c = false := hends c rfl
      simp [hc]
  rw [readNumber, List.takeWhile_append_of_pos hall, List.dropWhile_append_of_pos hall, htake, hdrop, List.append_nil,
    String.ofList_toList, hs]
  simp only [Option.bind_eq_bind, Option.bind_some, hn]
  rfl

/-- No word, text or brace starts like a numeral. -/
theorem readValue_number {c : Char} (hc : isNumeral c = true) (fuel : Nat) (cs : List Char) :
    readValue (fuel + 1) (c :: cs) = readNumber (c :: cs) := by
  unfold readValue
  split
  case h_7 => rfl
  all_goals
    rename_i heq
    obtain ⟨rfl, -⟩ := List.cons.inj heq
    cases hc

theorem reads_int {n : Int} (hn : n.natAbs ≤ 2 ^ 53) {s : String} (hs : value (.ofInt n) = .ok s) (fuel : Nat) :
    Reads (readValue (fuel + 1)) (.ofInt n) s := by
  obtain ⟨t, ht, hnumeral, htruncate⟩ := exists_numeral hn
  obtain rfl : s = t := Except.ok.inj (hs.symm.trans ht)
  intro rest hends
  have hread := readNumber_append hnumeral htruncate hends
  cases hchars : s.toList with
  | nil =>
    obtain rfl : s = "" := String.toList_inj.1 hchars
    cases hnumeral
  | cons c cs =>
    have hc : isNumeral c = true := isNumeral_of_numeral? hnumeral c (by rw [hchars]; exact List.mem_cons_self)
    rw [hchars] at hread
    exact (readValue_number hc fuel (cs ++ rest)).trans hread

theorem valueItems_ok {items : List Json} {ss : List String} (h : valueItems items = .ok ss) :
    List.Forall₂ (fun v s => value v = .ok s) items ss := by
  induction items generalizing ss with
  | nil =>
    cases h
    exact .nil
  | cons v items ih =>
    obtain ⟨first, hfirst, h⟩ := bind_ok_iff.1 h
    obtain ⟨others, hothers, h⟩ := bind_ok_iff.1 h
    cases h
    exact .cons hfirst (ih hothers)

theorem valueFields_ok {fields : List (String × Json)} {ss : List String} (h : valueFields fields = .ok ss) :
    List.Forall₂ (fun field s => ∃ t, value field.2 = .ok t ∧ s = BubbleTea.text field.1 ++ ": " ++ t) fields ss := by
  induction fields generalizing ss with
  | nil =>
    cases h
    exact .nil
  | cons field fields ih =>
    obtain ⟨key, v⟩ := field
    obtain ⟨first, hfirst, h⟩ := bind_ok_iff.1 h
    obtain ⟨others, hothers, h⟩ := bind_ok_iff.1 h
    cases h
    exact .cons ⟨first, hfirst, rfl⟩ (ih hothers)

/-- The step for a field: its key is read back as well. -/
theorem reads_field {read : List Char → Option (Json × List Char)} {v : Json} {t : String} (h : Reads read v t)
    (key : String) : Reads (readField read) (key, v) (BubbleTea.text key ++ ": " ++ t) := by
  intro rest hends
  obtain ⟨body, hbody, hkey⟩ := readQuoted?_documentQuoted key (": ".toList ++ (t.toList ++ rest))
  have htext : (BubbleTea.text key ++ ": " ++ t).toList ++ rest = '"' :: body := by
    rw [← hbody, BubbleTea.text, String.toList_append, String.toList_append, List.append_assoc, List.append_assoc]
  rw [htext, readField, hkey]
  simp only [Option.bind_eq_bind, Option.bind_some, word?_append, h rest hends]
  rfl

/-- **The literal of an ordinary value is read as that value**, by a reader that has enough fuel for its length. -/
theorem reads_value {v : Json} (hv : v.Ordinary) :
    ∀ {s : String} {fuel : Nat}, value v = .ok s → s.length ≤ fuel → Reads (readValue (fuel + 1)) v s := by
  induction hv with
  | null =>
    rintro _ fuel ⟨⟩ - rest -
    exact congrArg (Option.map _) (word?_append "nil" rest)
  | bool b =>
    rintro _ fuel ⟨⟩ - rest -
    cases b with
    | true => exact congrArg (Option.map _) (word?_append "true" rest)
    | false => exact congrArg (Option.map _) (word?_append "false" rest)
  | int hn =>
    intro s fuel hs _
    exact reads_int hn hs fuel
  | text t =>
    rintro _ fuel ⟨⟩ - rest -
    obtain ⟨body, hbody, hread⟩ := readQuoted?_documentQuoted t rest
    have htext : (BubbleTea.text t).toList ++ rest = '"' :: body := hbody
    rw [htext]
    exact congrArg (Option.map _) hread
  | @list items _ ih =>
    intro s fuel hs hfuel rest _
    obtain ⟨ss, hss, hs⟩ := bind_ok_iff.1 hs
    cases hs
    rw [composite_append]
    refine congrArg (Option.map _) (read_composite readValue (fun _ _ => rfl) (by decide) hfuel
      (fun n hshort => ?_) rest)
    exact forall₂_imp_of_mem (valueItems_ok hss) fun v hv s hs hvalue => ih v hv hvalue (hshort s hs)
  | @object fields _ ih =>
    intro s fuel hs hfuel rest _
    obtain ⟨ss, hss, hs⟩ := bind_ok_iff.1 hs
    cases hs
    rw [composite_append]
    refine congrArg (Option.map _) (read_composite (fun fuel => readField (readValue fuel)) (fun _ _ => rfl) (by decide)
      hfuel (fun n hshort => ?_) rest)
    refine forall₂_imp_of_mem (valueFields_ok hss) fun field hfield s hs hwritten => ?_
    obtain ⟨t, ht, rfl⟩ := hwritten
    have hlength := hshort _ hs
    rw [String.length_append] at hlength
    exact reads_field (ih field hfield ht (by omega)) field.1

theorem value_decodes {v : Json} (hv : v.Ordinary) {s : String} (hs : value v = .ok s) : decode? s = some v := by
  have hread := reads_value hv hs (Nat.le_refl _) [] nofun
  rw [List.append_nil] at hread
  rw [decode?, hread]

theorem exists_value {v : Json} (hv : v.Ordinary) : ∃ s, value v = .ok s := (value_failsIff v).2 hv.not_overflows

/-- **Ordinary values lose nothing in Go.** Each has a literal, the literal is decoded as the value, and no two of them
share one. -/
theorem value_lossless :
    (∀ v : Json, v.Ordinary → ∃ s, value v = .ok s ∧ decode? s = some v) ∧
      ∀ v w : Json, v.Ordinary → w.Ordinary → value v = value w → v = w := by
  refine ⟨fun v hv => ?_, fun v w hv hw hsame => ?_⟩
  · obtain ⟨s, hs⟩ := exists_value hv
    exact ⟨s, hs, value_decodes hv hs⟩
  · obtain ⟨s, hs⟩ := exists_value hv
    have hback := value_decodes hw (hsame.symm.trans hs)
    rw [value_decodes hv hs] at hback
    exact Option.some.inj hback

/-- Texts and keys may look like the code around them. -/
theorem value_lossless_lookalikes :
    (∃ s, value (.object [("a\": nil\x7d", .list [.ofInt (-3), .text "1.0, nil\x7d"])]) = .ok s ∧
      decode? s = some (.object [("a\": nil\x7d", .list [.ofInt (-3), .text "1.0, nil\x7d"])])) ∧
    value (.list [.text "1.0, true"]) ≠ value (.list [.ofInt 1, .bool true]) := by
  obtain ⟨hdecodes, hinjective⟩ := value_lossless
  have hitems : ∀ v ∈ [Json.ofInt (-3), Json.text "1.0, nil\x7d"], v.Ordinary :=
    List.forall_mem_cons.2 ⟨.int (by decide), List.forall_mem_singleton.2 (.text _)⟩
  have hone : ∀ v ∈ [Json.text "1.0, true"], v.Ordinary := List.forall_mem_singleton.2 (.text _)
  have htwo : ∀ v ∈ [Json.ofInt 1, Json.bool true], v.Ordinary :=
    List.forall_mem_cons.2 ⟨.int (by decide), List.forall_mem_singleton.2 (.bool true)⟩
  refine ⟨hdecodes _ (.object (List.forall_mem_singleton.2 (.list hitems))), fun hsame => ?_⟩
  cases hinjective _ _ (.list hone) (.list htwo) hsame

end BubbleTea

end DashboardCompiler
