-- Which lists of parts a text writes. The grammar, the cutting at dots and the reading of a single
-- piece look at a text in three different ways, and they agree: a text is a path exactly if some
-- well-formed parts write it, and those are the parts that are read. This holds whatever characters
-- names are made of, as long as the ASCII letters are some of them and dots and brackets are not.
import GridTemplate.Path.Basic

namespace GridTemplate

/-! ## Brackets -/

theorem isInsideBrackets_iff (c : Char) : isInsideBrackets c = true ↔ c ≠ '[' ∧ c ≠ ']' := by
  simp [isInsideBrackets]

namespace Part

/-- The brackets of a part with what stands between them. -/
def brackets : Part → List Char
  | .plain _ => []
  | .arrayElement _ => ['[', ']']
  | .keyedElement _ key => '[' :: (key.toList ++ [']'])

theorem toList_text (part : Part) : part.text.toList = part.name.toList ++ part.brackets := by
  cases part with
  | plain name => simp [text, Part.name, brackets]
  | arrayElement name => simp [text, Part.name, brackets]
  | keyedElement name key => simp [text, Part.name, brackets]

end Part

section

variable [WordClass]

/-- A member's name: an ASCII letter and then any characters of a word. -/
def IsName (name : String) : Prop :=
  ∃ first rest, name.toList = first :: rest ∧ first.isAlpha = true ∧
    ∀ c ∈ rest, isWordChar c = true

/-- Any characters of a word, at least one. -/
def IsWord (text : String) : Prop := text.toList ≠ [] ∧ ∀ c ∈ text.toList, isWordChar c = true

namespace Part

/-- The name is a word, and a key has characters but no brackets. -/
def Spelt : Part → Prop
  | .plain name => IsWord name
  | .arrayElement name => IsWord name
  | .keyedElement name key => IsWord name ∧ key ≠ "" ∧ ∀ c ∈ key.toList, c ≠ '[' ∧ c ≠ ']'

/-- The name is a member's name, and a key has characters but no brackets. -/
def WellFormed : Part → Prop
  | .plain name => IsName name
  | .arrayElement name => IsName name
  | .keyedElement name key => IsName name ∧ key ≠ "" ∧ ∀ c ∈ key.toList, c ≠ '[' ∧ c ≠ ']'

end Part

/-- The parts are well formed, and with dots between them they are the text. -/
structure Writes (parts : List Part) (text : String) : Prop where
  ne_nil : parts ≠ []
  wellFormed : ∀ part ∈ parts, part.WellFormed
  text_eq : text = ".".intercalate (parts.map Part.text)

/-! ## One part -/

theorem isInsideBrackets_of_isWordChar {c : Char} (h : isWordChar c = true) :
    isInsideBrackets c = true := by
  rw [isInsideBrackets_iff]
  constructor
  · rintro rfl
    rw [not_isWordChar_opening] at h
    cases h
  · rintro rfl
    rw [not_isWordChar_closing] at h
    cases h

namespace Part

theorem Spelt.isWord {part : Part} (h : part.Spelt) : IsWord part.name := by
  cases part with
  | plain name => exact h
  | arrayElement name => exact h
  | keyedElement name key => exact h.1

theorem Spelt.brackets_eq {part : Part} (h : part.Spelt) :
    part.brackets = [] ∨
      ∃ key, part.brackets = '[' :: (key ++ [']']) ∧ ∀ c ∈ key, isInsideBrackets c = true := by
  cases part with
  | plain name => exact Or.inl rfl
  | arrayElement name => exact Or.inr ⟨[], rfl, by simp⟩
  | keyedElement name key =>
    refine Or.inr ⟨key.toList, rfl, fun c hc => ?_⟩
    exact (isInsideBrackets_iff c).mpr (h.2.2 c hc)

/-- A part whose name is a word is read back from its text. -/
theorem Spelt.ofText_text {part : Part} (h : part.Spelt) : ofText part.text = part := by
  obtain ⟨hne, hword⟩ := h.isWord
  have hname : part.text.toList.takeWhile isWordChar = part.name.toList := by
    rw [toList_text, List.takeWhile_append_of_pos hword]
    rcases h.brackets_eq with hb | ⟨key, hb, -⟩ <;> simp [hb, not_isWordChar_opening]
  have hrest : part.text.toList.dropWhile isWordChar = part.brackets := by
    rw [toList_text, List.dropWhile_append_of_pos hword]
    rcases h.brackets_eq with hb | ⟨key, hb, -⟩ <;> simp [hb, not_isWordChar_opening]
  unfold ofText
  rw [hname, hrest]
  cases part with
  | plain name => rfl
  | arrayElement name =>
    have hkey : bracketed? ['[', ']'] = some [] := by rfl
    rw [brackets, hkey]
    dsimp only
    rw [if_neg hne, if_pos rfl, Part.name, String.ofList_toList]
  | keyedElement name key =>
    obtain ⟨-, hkey, hinside⟩ := h
    have hall : key.toList.all isInsideBrackets = true := by
      rw [List.all_eq_true]
      intro c hc
      exact (isInsideBrackets_iff c).mpr (hinside c hc)
    rw [brackets, (bracketed?_eq_some_iff _ _).mpr ⟨rfl, hall⟩]
    dsimp only
    rw [if_neg hne, if_neg (by simpa using hkey), Part.name, String.ofList_toList,
      String.ofList_toList]

end Part

end

/-! ## Cutting at dots -/

/-- Characters that are no brackets stay together, and so do dots between brackets. -/
theorem splitOutsideBrackets_append {depth : Nat} {chars : List Char}
    (h : ∀ c ∈ chars, isInsideBrackets c = true ∧ (c = '.' → depth ≠ 0)) (rest : List Char) :
    splitOutsideBrackets depth (chars ++ rest) =
      (splitOutsideBrackets depth rest).modifyHead (chars ++ ·) := by
  induction chars with
  | nil => cases hs : splitOutsideBrackets depth rest <;> simp [hs]
  | cons c chars ih =>
    obtain ⟨hinside, hdot⟩ := h c List.mem_cons_self
    obtain ⟨hopening, hclosing⟩ := (isInsideBrackets_iff c).mp hinside
    have hdepth : depthAfter depth c = depth := by
      rw [depthAfter, if_neg hopening, if_neg hclosing]
    rw [List.cons_append, splitOutsideBrackets, if_neg (fun hc => hdot hc.1 hc.2), hdepth,
      ih fun d hd => h d (List.mem_cons_of_mem _ hd), List.modifyHead_modifyHead]
    rfl

theorem ModelPath.text_eq_intercalate (path : ModelPath) :
    path.text = ".".intercalate (path.parts.map Part.text) := by
  apply String.toList_inj.mp
  simp [ModelPath.text, String.toList_intercalate, Function.comp_def]

section

variable [NameClass]

/-! ## Names -/

theorem ne_dot_of_isWordChar {c : Char} (h : isWordChar c = true) : c ≠ '.' := by
  rintro rfl
  rw [not_isWordChar_dot] at h
  cases h

theorem IsName.all_word {name : String} (h : IsName name) :
    ∀ c ∈ name.toList, isWordChar c = true := by
  obtain ⟨first, rest, hname, hfirst, hrest⟩ := h
  intro c hc
  rw [hname, List.mem_cons] at hc
  rcases hc with rfl | hc
  · exact isWordChar_of_isAlpha hfirst
  · exact hrest c hc

theorem IsName.isWord {name : String} (h : IsName name) : IsWord name := by
  refine ⟨?_, h.all_word⟩
  obtain ⟨first, rest, hname, -, -⟩ := h
  simp [hname]

namespace Part

theorem WellFormed.isName {part : Part} (h : part.WellFormed) : IsName part.name := by
  cases part with
  | plain name => exact h
  | arrayElement name => exact h
  | keyedElement name key => exact h.1

theorem WellFormed.spelt {part : Part} (h : part.WellFormed) : part.Spelt := by
  cases part with
  | plain name => exact h.isWord
  | arrayElement name => exact h.isWord
  | keyedElement name key => exact ⟨h.1.isWord, h.2⟩

end Part

theorem splitOutsideBrackets_part {part : Part} (h : part.WellFormed) (rest : List Char) :
    splitOutsideBrackets 0 (part.text.toList ++ rest) =
      (splitOutsideBrackets 0 rest).modifyHead (part.text.toList ++ ·) := by
  have hname : ∀ c ∈ part.name.toList, isInsideBrackets c = true ∧ (c = '.' → 0 ≠ 0) := by
    intro c hc
    have hword := h.isName.all_word c hc
    exact ⟨isInsideBrackets_of_isWordChar hword, fun hdot => absurd hdot (ne_dot_of_isWordChar hword)⟩
  have hbrackets : splitOutsideBrackets 0 (part.brackets ++ rest) =
      (splitOutsideBrackets 0 rest).modifyHead (part.brackets ++ ·) := by
    rcases h.spelt.brackets_eq with hb | ⟨key, hb, hkey⟩
    · rw [hb]
      exact splitOutsideBrackets_append (by simp) rest
    · have hinside : ∀ c ∈ key, isInsideBrackets c = true ∧ (c = '.' → 1 ≠ 0) :=
        fun c hc => ⟨hkey c hc, fun _ => Nat.one_ne_zero⟩
      have hsplit := splitOutsideBrackets_append hinside (']' :: rest)
      rw [hb]
      simp [splitOutsideBrackets, depthAfter, hsplit, List.modifyHead_modifyHead,
        Function.comp_def]
  rw [Part.toList_text, List.append_assoc, splitOutsideBrackets_append hname, hbrackets,
    List.modifyHead_modifyHead]
  simp [Function.comp_def]

/-! ## Reading by the grammar -/

namespace PathSpot

/-- What may follow a part: nothing, or a dot and another path. -/
def MayFollow (rest : List Char) : Prop :=
  rest = [] ∨ ∃ more, rest = '.' :: more ∧ partStart.accepts more = true

theorem accepts_afterBrackets_iff (rest : List Char) :
    afterBrackets.accepts rest = true ↔ MayFollow rest := by
  cases rest with
  | nil => simp [accepts, mayEnd, MayFollow]
  | cons c more =>
    by_cases hc : c = '.'
    · simp [accepts, next, MayFollow, hc]
    · simp [accepts, next, MayFollow, hc]

theorem accepts_inName_of_mayFollow {rest : List Char} (h : MayFollow rest) :
    inName.accepts rest = true := by
  rcases h with rfl | ⟨more, rfl, hmore⟩
  · rfl
  · simpa [accepts, next, not_isWordChar_dot] using hmore

theorem accepts_inName_append {word : List Char} (h : ∀ c ∈ word, isWordChar c = true)
    (rest : List Char) : inName.accepts (word ++ rest) = inName.accepts rest := by
  induction word with
  | nil => rfl
  | cons c word ih =>
    have hc := h c List.mem_cons_self
    have hword := ih fun d hd => h d (List.mem_cons_of_mem _ hd)
    simpa [accepts, next, hc] using hword

theorem accepts_inBrackets_append {key : List Char}
    (h : ∀ c ∈ key, isInsideBrackets c = true) (rest : List Char) :
    inBrackets.accepts (key ++ rest) = inBrackets.accepts rest := by
  induction key with
  | nil => rfl
  | cons c key ih =>
    obtain ⟨hopening, hclosing⟩ := (isInsideBrackets_iff c).mp (h c List.mem_cons_self)
    have hkey := ih fun d hd => h d (List.mem_cons_of_mem _ hd)
    simpa [accepts, next, hopening, hclosing] using hkey

/-- A well-formed part with something behind it that may follow is accepted. -/
theorem accepts_append {part : Part} (h : part.WellFormed) {rest : List Char}
    (hrest : MayFollow rest) : partStart.accepts (part.text.toList ++ rest) = true := by
  obtain ⟨first, word, hname, hfirst, hword⟩ := h.isName
  have hstart : ∀ behind, partStart.accepts (part.name.toList ++ behind) = inName.accepts behind := by
    intro behind
    rw [hname, ← accepts_inName_append hword behind]
    simp [accepts, next, hfirst]
  rw [Part.toList_text, List.append_assoc, hstart]
  rcases h.spelt.brackets_eq with hb | ⟨key, hb, hkey⟩
  · rw [hb]
    exact accepts_inName_of_mayFollow hrest
  · have hafter := (accepts_afterBrackets_iff rest).mpr hrest
    have hinside := accepts_inBrackets_append hkey (']' :: rest)
    simpa [hb, accepts, next, not_isWordChar_opening] using hinside.trans hafter

theorem exists_key_of_accepts {chars : List Char} (h : inBrackets.accepts chars = true) :
    ∃ key rest, chars = key ++ ']' :: rest ∧ (∀ c ∈ key, isInsideBrackets c = true) ∧
      MayFollow rest := by
  induction chars with
  | nil => cases h
  | cons c chars ih =>
    by_cases hclosing : c = ']'
    · subst hclosing
      exact ⟨[], chars, rfl, by simp, (accepts_afterBrackets_iff chars).mp h⟩
    · by_cases hopening : c = '['
      · subst hopening
        cases h
      · simp only [accepts, next, if_neg hclosing, if_neg hopening] at h
        obtain ⟨key, rest, rfl, hkey, hrest⟩ := ih h
        refine ⟨c :: key, rest, rfl, ?_, hrest⟩
        intro d hd
        rcases List.mem_cons.mp hd with rfl | hd
        · exact (isInsideBrackets_iff d).mpr ⟨hopening, hclosing⟩
        · exact hkey d hd

theorem exists_word_of_accepts {chars : List Char} (h : inName.accepts chars = true) :
    ∃ word rest, chars = word ++ rest ∧ (∀ c ∈ word, isWordChar c = true) ∧
      (MayFollow rest ∨ ∃ more, rest = '[' :: more ∧ inBrackets.accepts more = true) := by
  induction chars with
  | nil => exact ⟨[], [], rfl, by simp, Or.inl (Or.inl rfl)⟩
  | cons c chars ih =>
    by_cases hword : isWordChar c = true
    · simp only [accepts, next, if_pos hword] at h
      obtain ⟨word, rest, rfl, hall, hrest⟩ := ih h
      refine ⟨c :: word, rest, rfl, ?_, hrest⟩
      intro d hd
      rcases List.mem_cons.mp hd with rfl | hd
      · exact hword
      · exact hall d hd
    · refine ⟨[], c :: chars, rfl, by simp, ?_⟩
      by_cases hopening : c = '['
      · subst hopening
        simp only [accepts, next, if_neg hword] at h
        exact Or.inr ⟨chars, rfl, h⟩
      · by_cases hdot : c = '.'
        · subst hdot
          simp only [accepts, next, if_neg hword] at h
          exact Or.inl (Or.inr ⟨chars, rfl, h⟩)
        · simp [accepts, next, hword, hopening, hdot] at h

/-- What is accepted begins with a well-formed part. -/
theorem exists_part_of_accepts {chars : List Char} (h : partStart.accepts chars = true) :
    ∃ part : Part, ∃ rest, chars = part.text.toList ++ rest ∧ part.WellFormed ∧
      MayFollow rest := by
  cases chars with
  | nil => cases h
  | cons first chars =>
    by_cases hfirst : first.isAlpha = true
    · simp only [accepts, next, if_pos hfirst] at h
      obtain ⟨word, rest, rfl, hword, hrest⟩ := exists_word_of_accepts h
      have hname : IsName (String.ofList (first :: word)) :=
        ⟨first, word, String.toList_ofList, hfirst, hword⟩
      rcases hrest with hrest | ⟨more, rfl, hmore⟩
      · exact ⟨.plain (String.ofList (first :: word)), rest, by simp [Part.text], hname, hrest⟩
      · obtain ⟨key, rest, rfl, hkey, hrest⟩ := exists_key_of_accepts hmore
        by_cases hnil : key = []
        · subst hnil
          exact ⟨.arrayElement (String.ofList (first :: word)), rest, by simp [Part.text], hname,
            hrest⟩
        · refine ⟨.keyedElement (String.ofList (first :: word)) (String.ofList key), rest,
            by simp [Part.text], ⟨hname, by simpa using hnil, ?_⟩, hrest⟩
          intro c hc
          rw [String.toList_ofList] at hc
          exact (isInsideBrackets_iff c).mp (hkey c hc)
    · simp [accepts, next, hfirst] at h

end PathSpot

/-! ## Parts with dots between them -/

/-- Induction on the parts: each of them is accepted and cut off, and what follows it is a dot and
the text of the others. -/
theorem accepts_and_split {parts : List Part} (hne : parts ≠ [])
    (h : ∀ part ∈ parts, part.WellFormed) :
    PathSpot.partStart.accepts (".".intercalate (parts.map Part.text)).toList = true ∧
      splitOutsideBrackets 0 (".".intercalate (parts.map Part.text)).toList =
        parts.map fun part => part.text.toList := by
  induction parts with
  | nil => exact absurd rfl hne
  | cons part parts ih =>
    have hpart := h part List.mem_cons_self
    cases parts with
    | nil =>
      have haccepts := PathSpot.accepts_append hpart (Or.inl rfl)
      have hsplit := splitOutsideBrackets_part hpart []
      rw [List.append_nil] at haccepts hsplit
      simp [haccepts, hsplit, splitOutsideBrackets]
    | cons other parts =>
      obtain ⟨haccepts, hsplit⟩ :=
        ih (List.cons_ne_nil _ _) fun p hp => h p (List.mem_cons_of_mem _ hp)
      have hdot : ".".toList = ['.'] := rfl
      rw [List.map_cons, List.map_cons, String.intercalate_cons_cons, ← List.map_cons,
        String.toList_append, String.toList_append, List.append_assoc]
      refine ⟨PathSpot.accepts_append hpart (Or.inr ⟨_, rfl, haccepts⟩), ?_⟩
      rw [splitOutsideBrackets_part hpart, hdot, List.singleton_append, splitOutsideBrackets,
        if_pos ⟨rfl, rfl⟩, hsplit]
      simp

theorem exists_writes_of_accepts (chars : List Char)
    (h : PathSpot.partStart.accepts chars = true) : ∃ parts, Writes parts (String.ofList chars) := by
  obtain ⟨part, rest, hchars, hpart, hrest⟩ := PathSpot.exists_part_of_accepts h
  rcases hrest with rfl | ⟨more, rfl, hmore⟩
  · refine ⟨[part], List.cons_ne_nil _ _, by simpa using hpart, ?_⟩
    simp [hchars]
  · have hlt : more.length < chars.length := by
      rw [hchars, List.length_append, List.length_cons]
      omega
    obtain ⟨parts, hparts⟩ := exists_writes_of_accepts more hmore
    refine ⟨part :: parts, List.cons_ne_nil _ _, ?_, ?_⟩
    · intro p hp
      rcases List.mem_cons.mp hp with rfl | hp
      · exact hpart
      · exact hparts.wellFormed p hp
    · have hmap : parts.map Part.text ≠ [] := by simpa using hparts.ne_nil
      rw [List.map_cons, String.intercalate_cons_of_ne_nil hmap, ← hparts.text_eq, hchars]
      apply String.toList_inj.mp
      simp
termination_by chars.length

/-! ## Reading a path -/

namespace Writes

variable {parts : List Part} {text : String}

theorem isModelPath (h : Writes parts text) : isModelPath text = true := by
  rw [GridTemplate.isModelPath, h.text_eq]
  exact (accepts_and_split h.ne_nil h.wellFormed).1

theorem partsOf_eq (h : Writes parts text) : partsOf text = parts := by
  rw [partsOf, h.text_eq, (accepts_and_split h.ne_nil h.wellFormed).2, List.map_map]
  calc parts.map _ = parts.map id := List.map_congr_left fun part hp => by
        simpa using (h.wellFormed part hp).spelt.ofText_text
    _ = parts := List.map_id parts

theorem ofText_eq (h : Writes parts text) : ModelPath.ofText text = .ok ⟨parts, h.ne_nil⟩ := by
  rw [ModelPath.ofText, if_pos h.isModelPath]
  simp [h.partsOf_eq]

end Writes

theorem isModelPath_iff (text : String) : isModelPath text = true ↔ ∃ parts, Writes parts text := by
  constructor
  · intro h
    have hwrites := exists_writes_of_accepts text.toList h
    rwa [String.ofList_toList] at hwrites
  · rintro ⟨parts, h⟩
    exact h.isModelPath

namespace ModelPath

/-- The parts that are read are those that write the text. -/
theorem ofText_eq_ok_iff (text : String) (path : ModelPath) :
    ofText text = .ok path ↔ Writes path.parts text := by
  constructor
  · intro h
    by_cases hpath : isModelPath text = true
    · obtain ⟨parts, hparts⟩ := (isModelPath_iff text).mp hpath
      rw [hparts.ofText_eq] at h
      cases h
      exact hparts
    · rw [ofText, if_neg hpath] at h
      cases h
  · intro h
    exact h.ofText_eq

theorem text_of_ofText {text : String} {path : ModelPath} (h : ofText text = .ok path) :
    path.text = text := by
  rw [text_eq_intercalate, ← ((ofText_eq_ok_iff text path).mp h).text_eq]

end ModelPath

end

/-! ## The law -/

/-- Whatever characters names are made of, a path is read as the one list of well-formed parts that
writes it, and written it is the same text again. A text that no such list writes is no path and is
refused as it stands. -/
theorem a_path_is_read_as_the_parts_that_write_it [NameClass] (text : String) :
    (∀ parts, (ModelPath.ofText text).map ModelPath.parts = .ok parts ↔ Writes parts text) ∧
    (∀ parts others, Writes parts text → Writes others text → parts = others) ∧
    (∀ path, ModelPath.ofText text = .ok path → path.text = text) ∧
    (isModelPath text = false ↔ ∀ parts, ¬ Writes parts text) ∧
    ((∀ parts, ¬ Writes parts text) →
      ModelPath.ofText text = .error (.invalidModelPath text)) := by
  have hpath : isModelPath text = false ↔ ∀ parts, ¬ Writes parts text := by
    rw [← Bool.not_eq_true, isModelPath_iff, not_exists]
  refine ⟨?_, ?_, ?_, hpath, ?_⟩
  · intro parts
    constructor
    · intro h
      cases hread : ModelPath.ofText text with
      | error e =>
        rw [hread] at h
        cases h
      | ok path =>
        rw [hread] at h
        cases h
        exact (ModelPath.ofText_eq_ok_iff text path).mp hread
    · intro h
      rw [h.ofText_eq]
      rfl
  · intro parts others h hothers
    exact h.partsOf_eq.symm.trans hothers.partsOf_eq
  · intro path h
    exact ModelPath.text_of_ofText h
  · intro h
    rw [ModelPath.ofText, if_neg (by simp [hpath.mpr h])]

/-- Only the dots outside brackets separate parts, and a part starts with a letter. -/
theorem a_key_keeps_its_dot :
    (ModelPath.ofText "Totals[a.b:].Lines[].x_1").map ModelPath.parts =
      .ok [.keyedElement "Totals" "a.b:", .arrayElement "Lines", .plain "x_1"] ∧
    ModelPath.ofText "Totals[a.b:].1x" = .error (.invalidModelPath "Totals[a.b:].1x") := by
  have hword : ∀ {rest : List Char}, rest.all isWordChar = true →
      ∀ c ∈ rest, isWordChar c = true := List.all_eq_true.mp
  have htotals : IsName "Totals" := ⟨'T', "otals".toList, by decide, by decide, hword (by decide)⟩
  have hlines : IsName "Lines" := ⟨'L', "ines".toList, by decide, by decide, hword (by decide)⟩
  have hx : IsName "x_1" := ⟨'x', "_1".toList, by decide, by decide, hword (by decide)⟩
  constructor
  · apply ((a_path_is_read_as_the_parts_that_write_it "Totals[a.b:].Lines[].x_1").1 _).mpr
    refine ⟨by decide, ?_, by decide⟩
    simp only [List.forall_mem_cons]
    exact ⟨⟨htotals, by decide, by simp⟩, hlines, hx, by simp⟩
  · obtain ⟨-, -, -, hpath, hrefused⟩ :=
      a_path_is_read_as_the_parts_that_write_it "Totals[a.b:].1x"
    exact hrefused (hpath.mp (by decide))

end GridTemplate
