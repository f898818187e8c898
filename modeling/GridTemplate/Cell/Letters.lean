-- Columns are numbered with letters: A to Z, then AA, AB and so on. There is no letter for
-- nothing, so each number from one on has exactly one spelling. A number of 32 bits is spelt in a
-- loop, from the last letter on.
import GridTemplate.Cell.Basic

namespace GridTemplate

/-- The letters of a column. Column zero has none. -/
def columnLetters (column : Nat) : List Char :=
  if _h : column = 0 then []
  else columnLetters ((column - 1) / 26) ++ [Char.ofNat ('A'.toNat + (column - 1) % 26)]
termination_by column
decreasing_by omega

/-- What a letter counts: A is one and Z is twenty-six, in either case. -/
def letterValue (c : Char) : Nat := c.toUpper.toNat - 'A'.toNat + 1

/-- The number that letters spell, of whatever size. -/
def lettersValue (letters : List Char) : Nat :=
  letters.foldl (fun n c => 26 * n + letterValue c) 0

theorem columnLetters_zero : columnLetters 0 = [] := by
  rw [columnLetters]
  rfl

theorem columnLetters_succ (n : Nat) :
    columnLetters (n + 1) = columnLetters (n / 26) ++ [Char.ofNat ('A'.toNat + n % 26)] := by
  rw [columnLetters]
  simp

theorem columnLetters_succ_of_lt {n : Nat} (h : n < 26) :
    columnLetters (n + 1) = [Char.ofNat ('A'.toNat + n)] := by
  rw [columnLetters_succ, Nat.div_eq_of_lt h, columnLetters_zero, Nat.mod_eq_of_lt h]
  rfl

theorem lettersValue_nil : lettersValue [] = 0 := rfl

theorem lettersValue_append_singleton (letters : List Char) (c : Char) :
    lettersValue (letters ++ [c]) = 26 * lettersValue letters + letterValue c := by
  simp [lettersValue]

/-- The reference of a cell: the letters of its column and then the number of its row. -/
def Cell.reference (c : Cell) : String :=
  String.ofList (columnLetters c.column) ++ toString c.row

instance : ToString Cell := ⟨Cell.reference⟩

/-! ## Letters from the last one on -/

theorem toNat_ne_zero {n : UInt32} (h : n ≠ 0) : n.toNat ≠ 0 :=
  fun hzero => h (UInt32.toNat_inj.mp hzero)

theorem toNat_sub_one {n : UInt32} (h : n ≠ 0) : (n - 1).toNat = n.toNat - 1 := by
  have hle : (1 : UInt32) ≤ n := UInt32.le_iff_toNat_le.mpr (Nat.pos_of_ne_zero (toNat_ne_zero h))
  exact UInt32.toNat_sub_of_le n 1 hle

/-- The letters of a number of 32 bits in front of others, written from the last one on. One is taken
off the number before each letter, since there is no letter for nothing. -/
def lettersBefore (n : UInt32) (others : List Char) : List Char :=
  if _h : n = 0 then others
  else lettersBefore ((n - 1) / 26) (Char.ofUInt8 (((n - 1) % 26).toUInt8 + 'A'.toUInt8) :: others)
termination_by n.toNat
decreasing_by
  have hpos := toNat_ne_zero _h
  rw [UInt32.toNat_div, toNat_sub_one _h]
  exact Nat.lt_of_le_of_lt (Nat.div_le_self _ _) (Nat.sub_one_lt hpos)

/-- The sum that gives a letter fits into eight bits. -/
theorem ofUInt8_letter (n : UInt32) :
    Char.ofUInt8 ((n % 26).toUInt8 + 'A'.toUInt8) = Char.ofNat ('A'.toNat + n.toNat % 26) := by
  have hall : ∀ k < 26, Char.ofUInt8 ((UInt32.ofNat k).toUInt8 + 'A'.toUInt8) =
      Char.ofNat ('A'.toNat + k) := by decide
  have hmod : n % 26 = UInt32.ofNat (n.toNat % 26) := by
    apply UInt32.toNat_inj.mp
    simp
    omega
  rw [hmod]
  exact hall _ (Nat.mod_lt _ (by decide))

theorem lettersBefore_eq (n : UInt32) (others : List Char) :
    lettersBefore n others = columnLetters n.toNat ++ others := by
  fun_induction lettersBefore n others with
  | case1 others => simp [columnLetters_zero]
  | case2 n others h ih =>
    obtain ⟨m, hm⟩ := Nat.exists_eq_succ_of_ne_zero (toNat_ne_zero h)
    have hpred : (n - 1).toNat = m := by
      rw [toNat_sub_one h, hm]
      rfl
    rw [ih, ofUInt8_letter, UInt32.toNat_div, hpred, hm, Nat.succ_eq_add_one, columnLetters_succ]
    simp

end GridTemplate
