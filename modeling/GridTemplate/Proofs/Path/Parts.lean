-- Single parts of a path, on any text. Two patterns are tried one after the other: a word with empty
-- brackets, and a word with a key in brackets. A text fits at most one of them and in one way only, and
-- a text that fits neither is a name as it stands. So a part is written as it was read. Of the
-- characters of a word it only matters that brackets are none of them.
import GridTemplate.Proofs.Path.Decomposition

namespace GridTemplate

/-! ## Patterns -/

/-- A pattern fits a text, and its runs are these parts of it. -/
inductive Captures : List Piece → List Char → List (List Char) → Prop
  | nil : Captures [] [] []
  | char {c : Char} {pieces : List Piece} {rest : List Char} {caught : List (List Char)} :
    Captures pieces rest caught → Captures (.char c :: pieces) (c :: rest) caught
  | run {kind : Char → Bool} {pieces : List Piece} {front rest : List Char}
    {caught : List (List Char)} : front ≠ [] → (∀ c ∈ front, kind c = true) →
    Captures pieces rest caught → Captures (.run kind :: pieces) (front ++ rest) (front :: caught)

variable {pieces : List Piece} {chars : List Char} {caught : List (List Char)}

theorem captures_nil_iff : Captures [] chars caught ↔ chars = [] ∧ caught = [] := by
  constructor
  · rintro ⟨⟩
    exact ⟨rfl, rfl⟩
  · rintro ⟨rfl, rfl⟩
    exact .nil

theorem captures_char_iff {c : Char} :
    Captures (.char c :: pieces) chars caught ↔
      ∃ rest, chars = c :: rest ∧ Captures pieces rest caught := by
  constructor
  · rintro (_ | h)
    exact ⟨_, rfl, h⟩
  · rintro ⟨rest, rfl, h⟩
    exact .char h

theorem captures_run_iff {kind : Char → Bool} :
    Captures (.run kind :: pieces) chars caught ↔
      ∃ front rest inner, chars = front ++ rest ∧ caught = front :: inner ∧ front ≠ [] ∧
        (∀ c ∈ front, kind c = true) ∧ Captures pieces rest inner := by
  constructor
  · rintro (_ | _ | ⟨hne, hkind, h⟩)
    exact ⟨_, _, _, rfl, rfl, hne, hkind, h⟩
  · rintro ⟨front, rest, inner, rfl, rfl, hne, hkind, h⟩
    exact .run hne hkind h

/-- Whatever a run takes or gives back, its characters are of its kind. -/
theorem of_mem_take {kind : Char → Bool} {chars : List Char} {n : Nat}
    (hn : n ≤ (chars.takeWhile kind).length) : ∀ c ∈ chars.take n, kind c = true := by
  intro c hc
  have htake : chars.take n <+: chars.takeWhile kind :=
    List.prefix_of_prefix_length_le (List.take_prefix n chars) (List.takeWhile_prefix kind)
      (Nat.le_trans (List.length_take_le n chars) hn)
  exact List.all_eq_true.mp List.all_takeWhile c (htake.subset hc)

theorem captures_of_eq_some (h : captures pieces chars = some caught) :
    Captures pieces chars caught := by
  induction pieces generalizing chars caught with
  | nil =>
    unfold captures at h
    split at h
    · rename_i hchars
      cases h
      rw [hchars]
      exact .nil
    · cases h
  | cons piece pieces ih =>
    cases piece with
    | char c =>
      unfold captures at h
      split at h
      · cases h
      · split at h
        · rename_i hc
          rw [hc]
          exact .char (ih h)
        · cases h
    | run kind =>
      unfold captures at h
      obtain ⟨n, hn, hrest⟩ := List.exists_of_findSome?_eq_some h
      obtain ⟨inner, hinner, rfl⟩ := Option.map_eq_some_iff.mp hrest
      rw [List.mem_reverse, List.mem_range'_1] at hn
      have hlength := (List.takeWhile_prefix kind (l := chars)).length_le
      have hne : chars.take n ≠ [] := by
        rw [← List.length_pos_iff, List.length_take]
        omega
      have hkind : ∀ c ∈ chars.take n, kind c = true := of_mem_take (by omega)
      have hsplit := Captures.run hne hkind (ih hinner)
      rwa [List.take_append_drop] at hsplit

/-- A pattern that fits in some way is found to fit. -/
theorem Captures.isSome (h : Captures pieces chars caught) :
    (captures pieces chars).isSome = true := by
  induction h with
  | nil => rfl
  | char _ ih => simpa [captures] using ih
  | @run kind pieces front rest caught hne hkind _ ih =>
    unfold captures
    rw [List.findSome?_isSome_iff]
    refine ⟨front.length, ?_, ?_⟩
    · have hpos : 0 < front.length := List.length_pos_iff.mpr hne
      rw [List.mem_reverse, List.mem_range'_1, List.takeWhile_append_of_pos hkind,
        List.length_append]
      omega
    · simpa using ih

theorem captures_eq_none_iff :
    captures pieces chars = none ↔ ∀ caught, ¬ Captures pieces chars caught := by
  cases h : captures pieces chars with
  | none =>
    simp only [true_iff]
    intro caught hcaught
    have hsome := hcaught.isSome
    rw [h] at hsome
    cases hsome
  | some caught =>
    simp only [reduceCtorEq, false_iff]
    exact fun hnone => hnone caught (captures_of_eq_some h)

namespace Part

variable [WordClass]

/-! ## The part of a text -/

/-- A text is a name as it stands, or it is the text of a part whose name is a word. -/
theorem ofText_cases (t : String) :
    ofText t = plain t ∨ (ofText t).Spelt ∧ (ofText t).text = t := by
  unfold ofText
  dsimp only
  split
  · exact Or.inl rfl
  · rename_i key hkey
    obtain ⟨hrest, hinside⟩ := (bracketed?_eq_some_iff _ _).mp hkey
    have hsplit : t.toList.takeWhile isWordChar ++ '[' :: (key ++ [']']) = t.toList := by
      rw [← hrest, List.takeWhile_append_dropWhile]
    split
    · exact Or.inl rfl
    · rename_i hne
      have hword : IsWord (String.ofList (t.toList.takeWhile isWordChar)) := by
        unfold IsWord
        rw [String.toList_ofList]
        exact ⟨hne, List.all_eq_true.mp List.all_takeWhile⟩
      refine Or.inr ?_
      split
      · rename_i hnil
        subst hnil
        refine ⟨hword, ?_⟩
        rw [← String.toList_inj]
        simpa [text] using hsplit
      · rename_i hkeyed
        refine ⟨⟨hword, by simpa using hkeyed, ?_⟩, ?_⟩
        · intro c hc
          rw [String.toList_ofList] at hc
          exact (isInsideBrackets_iff c).mp (List.all_eq_true.mp hinside c hc)
        · rw [← String.toList_inj]
          simpa [text] using hsplit

theorem text_ofText (t : String) : (ofText t).text = t := by
  rcases ofText_cases t with h | ⟨-, h⟩
  · rw [h, text]
  · exact h

/-- A part with brackets is read from its own text and from no other one. -/
theorem ofText_eq_iff {part : Part} (hpart : ∀ name, part ≠ plain name) (t : String) :
    ofText t = part ↔ t = part.text ∧ part.Spelt := by
  constructor
  · rintro rfl
    rcases ofText_cases t with hplain | ⟨hspelt, htext⟩
    · exact absurd hplain (hpart t)
    · exact ⟨htext.symm, hspelt⟩
  · rintro ⟨rfl, hspelt⟩
    exact hspelt.ofText_text

theorem ofText_eq_arrayElement_iff (t name : String) :
    ofText t = arrayElement name ↔ t = name ++ "[]" ∧ IsWord name :=
  ofText_eq_iff (fun _ h => by cases h) t

theorem ofText_eq_keyedElement_iff (t name key : String) :
    ofText t = keyedElement name key ↔ t = name ++ "[" ++ key ++ "]" ∧ IsWord name ∧ key ≠ "" ∧
      ∀ c ∈ key.toList, c ≠ '[' ∧ c ≠ ']' :=
  ofText_eq_iff (fun _ h => by cases h) t

theorem ofText_eq_plain_iff (t name : String) :
    ofText t = plain name ↔
      name = t ∧ (∀ n, ofText t ≠ arrayElement n) ∧ ∀ n k, ofText t ≠ keyedElement n k := by
  have htext := text_ofText t
  cases hread : ofText t with
  | plain other =>
    rw [hread, text] at htext
    simp [htext, eq_comm]
  | arrayElement other => simp
  | keyedElement other key => simp

/-- The text is a word with a key in brackets behind it, and the key may be empty. -/
structure IsBracketed (t name key : String) : Prop where
  text_eq : t = name ++ "[" ++ key ++ "]"
  word : IsWord name
  inside : ∀ c ∈ key.toList, c ≠ '[' ∧ c ≠ ']'

theorem IsBracketed.ofText_eq {t name key : String} (h : IsBracketed t name key) :
    ofText t = if key = "" then arrayElement name else keyedElement name key := by
  split
  · rename_i hkey
    refine (ofText_eq_arrayElement_iff t name).mpr ⟨?_, h.word⟩
    rw [h.text_eq, hkey, String.append_assoc, String.append_assoc]
    rfl
  · rename_i hkey
    exact (ofText_eq_keyedElement_iff t name key).mpr ⟨h.text_eq, h.word, hkey, h.inside⟩

/-- Only one word and one key stand in a text. -/
theorem IsBracketed.unique {t name key name' key' : String} (h : IsBracketed t name key)
    (h' : IsBracketed t name' key') : name = name' ∧ key = key' := by
  have hread := h.ofText_eq
  rw [h'.ofText_eq] at hread
  split at hread
  · rename_i hempty'
    split at hread
    · rename_i hempty
      cases hread
      exact ⟨rfl, hempty.trans hempty'.symm⟩
    · cases hread
  · split at hread
    · cases hread
    · cases hread
      exact ⟨rfl, rfl⟩

/-! ## The two patterns -/

theorem captures_arrayPattern_iff {t : String} {caught : List (List Char)} :
    Captures arrayPattern t.toList caught ↔
      ∃ name, caught = [name.toList] ∧ ofText t = arrayElement name := by
  simp only [arrayPattern, captures_run_iff, captures_char_iff, captures_nil_iff,
    ofText_eq_arrayElement_iff]
  constructor
  · rintro ⟨front, rest, inner, hchars, rfl, hne, hword, _, rfl, _, rfl, rfl, rfl⟩
    refine ⟨String.ofList front, by simp, ?_, ?_⟩
    · simp [← String.toList_inj, hchars]
    · simpa [IsWord] using ⟨hne, hword⟩
  · rintro ⟨name, rfl, rfl, hne, hword⟩
    exact ⟨name.toList, _, [], by simp, rfl, hne, hword, _, rfl, _, rfl, rfl, rfl⟩

theorem captures_keyPattern_iff {t : String} {caught : List (List Char)} :
    Captures keyPattern t.toList caught ↔
      ∃ name key, caught = [name.toList, key.toList] ∧ ofText t = keyedElement name key := by
  simp only [keyPattern, captures_run_iff, captures_char_iff, captures_nil_iff,
    ofText_eq_keyedElement_iff, ← isInsideBrackets_iff]
  constructor
  · rintro ⟨front, rest, _, hchars, rfl, hne, hword, _, rfl, key, _, _, rfl, rfl, hkey, hinside, _,
      rfl, rfl, rfl⟩
    refine ⟨String.ofList front, String.ofList key, by simp, ?_, ?_⟩
    · simp [← String.toList_inj, hchars]
    · simpa [IsWord] using ⟨⟨hne, hword⟩, hkey, hinside⟩
  · rintro ⟨name, key, rfl, rfl, ⟨hne, hword⟩, hkey, hinside⟩
    exact ⟨name.toList, _, [key.toList], by simp, rfl, hne, hword, _, rfl, key.toList, [']'],
      [], rfl, rfl, by simpa using hkey, hinside, _, rfl, rfl, rfl⟩

theorem byPatterns_eq (t : String) : byPatterns t = ofText t := by
  unfold byPatterns
  cases harray : captures arrayPattern t.toList with
  | some caught =>
    obtain ⟨name, rfl, hread⟩ := captures_arrayPattern_iff.mp (captures_of_eq_some harray)
    rw [hread]
    simp
  | none =>
    cases hkey : captures keyPattern t.toList with
    | some caught =>
      obtain ⟨name, key, rfl, hread⟩ := captures_keyPattern_iff.mp (captures_of_eq_some hkey)
      rw [hread]
      simp
    | none =>
      rw [captures_eq_none_iff] at harray hkey
      symm
      rw [ofText_eq_plain_iff]
      refine ⟨rfl, ?_, ?_⟩
      · intro name hread
        exact harray _ (captures_arrayPattern_iff.mpr ⟨name, rfl, hread⟩)
      · intro name key hread
        exact hkey _ (captures_keyPattern_iff.mpr ⟨name, key, rfl, hread⟩)

end Part

/-! ## The law -/

/-- Whatever characters words are made of, any text is read as one part, by the first of the two
patterns that it fits, and the part is written as that text again. What stands before empty brackets
or before a key is a word, and everything else is a name as it stands. Name and key are told by the
text alone. -/
theorem a_part_is_written_as_it_was_read [WordClass] (t : String) :
    Part.byPatterns t = Part.ofText t ∧ (Part.ofText t).text = t ∧
    (∀ n, Part.ofText t = .arrayElement n ↔ t = n ++ "[]" ∧ IsWord n) ∧
    (∀ n k, Part.ofText t = .keyedElement n k ↔
      t = n ++ "[" ++ k ++ "]" ∧ IsWord n ∧ k ≠ "" ∧ ∀ c ∈ k.toList, c ≠ '[' ∧ c ≠ ']') ∧
    (∀ s, Part.ofText t = .plain s ↔
      s = t ∧ (∀ n, ¬ (t = n ++ "[]" ∧ IsWord n)) ∧
        ∀ n k, ¬ (t = n ++ "[" ++ k ++ "]" ∧ IsWord n ∧ k ≠ "" ∧
          ∀ c ∈ k.toList, c ≠ '[' ∧ c ≠ ']')) ∧
    ∀ n k n' k', Part.IsBracketed t n k → Part.IsBracketed t n' k' → n = n' ∧ k = k' := by
  refine ⟨Part.byPatterns_eq t, Part.text_ofText t, Part.ofText_eq_arrayElement_iff t,
    Part.ofText_eq_keyedElement_iff t, ?_, ?_⟩
  · intro s
    rw [Part.ofText_eq_plain_iff]
    simp only [ne_eq, Part.ofText_eq_arrayElement_iff, Part.ofText_eq_keyedElement_iff]
  · exact fun _ _ _ _ h h' => h.unique h'

/-- A name may start with a digit and a key may hold anything but brackets. Where there are brackets
twice, no word stands before the last ones, and the whole text is a name. -/
theorem brackets_that_come_twice_belong_to_the_name :
    Part.ofText "9_[a.\n]" = .keyedElement "9_" "a.\n" ∧
    (∀ n k, Part.IsBracketed "9_[a.\n]" n k → "9_" = n ∧ "a.\n" = k) ∧
    (Part.ofText "x[][]").text = "x[][]" ∧ ∀ n, ¬ ("x[][]" = n ++ "[]" ∧ IsWord n) := by
  obtain ⟨-, -, -, hkeyed, -, hunique⟩ := a_part_is_written_as_it_was_read "9_[a.\n]"
  obtain ⟨-, htext, -, -, hplain, -⟩ := a_part_is_written_as_it_was_read "x[][]"
  have hword : IsWord "9_" := ⟨by decide, List.all_eq_true.mp (by decide)⟩
  have hinside : ∀ c ∈ "a.\n".toList, c ≠ '[' ∧ c ≠ ']' := by simp
  refine ⟨(hkeyed _ _).mpr ⟨by decide, hword, by decide, hinside⟩, ?_, htext, ?_⟩
  · exact fun n k => hunique _ _ n k ⟨by decide, hword, hinside⟩
  · exact ((hplain "x[][]").mp (by decide)).2.1

end GridTemplate
