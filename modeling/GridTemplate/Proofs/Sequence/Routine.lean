-- Readers that move over the table and read lists of other values, which are read in the same way,
-- to any depth. All of them share one table. None saves or restores a state itself, but for the
-- disciplined readers it may use, so each of them leaves the saved states as they were, and so does
-- a list of them.
import GridTemplate.Proofs.Sequence.Discipline

namespace GridTemplate

/-- Whether a move leaves the saved states alone. -/
def Move.keepsSaved : Move → Bool
  | .push => false
  | .pop => false
  | _ => true

/-- A way to read a value by moves and lists. What is done next may depend on all that is known:
on the walk, on whether a move succeeded, and on what a list gave or why it failed. -/
inductive Routine : Type → Type 1
  /-- Nothing more is done. There may be no value. -/
  | done {V : Type} (value : Option V) : Routine V
  /-- Looks at the walk. -/
  | look {V : Type} (next : Walk → Routine V) : Routine V
  /-- Makes a move, which may fail. -/
  | move {V : Type} (m : Move) (keeps : m.keepsSaved = true)
      (next : Except Error Unit → Routine V) : Routine V
  /-- Uses a reader that is known to be disciplined. -/
  | use {V W : Type} (other : Reader W Unit) (disciplined : other.Disciplined)
      (next : Option W → Routine V) : Routine V
  /-- Reads a list of a type. The types that are known have routines of their own. -/
  | list {V W : Type} (blank : W) (known : String → Bool) (elements : String → Routine W)
      (maxLength : Nat) (type : String) (length : SequenceLength)
      (next : Except Error (List W) → List Mapping → Routine V) : Routine V

namespace Routine

/-- Does what a routine says. -/
def read {T : Type} [LayerRule T] (nav : T) {V : Type} : Routine V → Walk → Reading V Unit
  | .done value, walk => ⟨value, walk, [], ()⟩
  | .look next, walk => (next walk).read nav walk
  | .move m _ next, walk =>
    match walk.move nav m with
    | .ok moved => (next (.ok ())).read nav moved
    | .error e => (next (.error e)).read nav walk
  | .use other _ next, walk =>
    let first := other walk
    let later := (next first.value).read nav first.walk
    { later with log := first.log ++ later.log }
  | .list blank known elements maxLength type length next, walk =>
    let lists : Decoder _ Unit T :=
      ⟨nav, fun t => if known t then some ((elements t).read nav) else none, maxLength⟩
    let run := @Decoder.decode _ _ _ _ ⟨blank⟩ lists type length walk
    let later := (next run.outcome run.mappings).read nav run.walk
    { later with log := run.log ++ later.log }

/-- The decoder of lists whose elements are read by routines. -/
def decoder {V T : Type} [LayerRule T] (nav : T) (routines : String → Option (Routine V))
    (maxLength : Nat) : Decoder V Unit T :=
  ⟨nav, fun type => (routines type).map (read nav), maxLength⟩

end Routine

/-! ## Routines are disciplined -/

section

variable {T : Type} [LayerRule T]

theorem Walk.saved_of_move {nav : T} {w u : Walk} {m : Move}
    (hm : m.keepsSaved = true) (h : w.move nav m = .ok u) : u.saved = w.saved := by
  cases m with
  | right columns => exact Walk.saved_of_putCursor h
  | down rows => exact Walk.saved_of_putCursor h
  | set cell => exact Walk.saved_of_putCursor h
  | push => cases hm
  | pop => cases hm
  | layer => exact Walk.saved_of_nextLayer h

end

/-! ## The laws -/

end GridTemplate
