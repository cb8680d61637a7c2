import Mathlib.Algebra.Group.Nat.Defs
import Mathlib.Data.Int.Notation

/-!
# Text in bounded memory

Characters are written to a memory of cells, and a text is kept in a buffer of `size` cells
as C keeps it: cut off after `size - 1` characters and followed by a terminator.

- `writeAt`: consecutive writes; `Holds`: what a memory holds from its start.
- `vsnprintf`: the write and the answer of the C library function.
- `Shows`: a buffer shows a text. `shows_append`: a buffer that shows a text, with the next
  piece written behind it into what is left, shows both.
-/

namespace SchedulingEngine.Text

/-- The cells of a memory. -/
abbrev Memory := ℕ → Char

def nul : Char := Char.ofNat 0

/-- `INT_MAX`. -/
def intMax : ℕ := 2 ^ 31 - 1

/-! ## Writes -/

/-- The characters of `text` in the cells from `start` on. -/
def writeAt (memory : Memory) (start : ℕ) (text : List Char) : Memory :=
  fun i => if start ≤ i then (text[i - start]?).getD (memory i) else memory i

/-- The memory begins with the given characters. -/
def Holds (memory : Memory) (content : List Char) : Prop :=
  ∀ (i : ℕ) (c : Char), content[i]? = some c → memory i = c

section Writes

variable {memory : Memory} {start : ℕ} {text content : List Char}

/-- Cells outside the range keep their characters. -/
theorem writeAt_outside {i : ℕ} (h : i < start ∨ start + text.length ≤ i) :
    writeAt memory start text i = memory i := by
  unfold writeAt
  rcases h with hlt | hle
  · rw [if_neg (Nat.not_le.mpr hlt)]
  · have hnone : text[i - start]? = none := List.getElem?_eq_none (by omega)
    rw [if_pos (by omega), hnone]
    rfl

theorem writeAt_inside {i : ℕ} {c : Char} (h : text[i]? = some c) :
    writeAt memory start text (start + i) = c := by
  unfold writeAt
  rw [if_pos (Nat.le_add_right start i), Nat.add_sub_cancel_left, h]
  rfl

/-- A text written behind what the memory holds is held with it. -/
theorem Holds.write (h : Holds memory content) (text : List Char) :
    Holds (writeAt memory content.length text) (content ++ text) := by
  intro i c hc
  by_cases hi : i < content.length
  · rw [List.getElem?_append_left hi] at hc
    rw [writeAt_outside (.inl hi)]
    exact h i c hc
  · have hle : content.length ≤ i := Nat.not_lt.mp hi
    rw [List.getElem?_append_right hle] at hc
    rw [← Nat.add_sub_cancel' hle]
    exact writeAt_inside hc

theorem Holds.left {more : List Char} (h : Holds memory (content ++ more)) :
    Holds memory content := by
  intro i c hc
  obtain ⟨hi, -⟩ := List.getElem?_eq_some_iff.mp hc
  exact h i c ((List.getElem?_append_left hi).trans hc)

/-- A write that agrees with what is held, or lies behind it. -/
theorem Holds.update (h : Holds memory content) {i : ℕ} {c : Char}
    (hagrees : content[i]? = none ∨ content[i]? = some c) :
    Holds (writeAt memory i [c]) content := by
  intro j d hd
  by_cases hij : j = i
  · subst hij
    have hwritten : writeAt memory j [c] j = c := @writeAt_inside _ j [c] 0 c rfl
    rw [hwritten]
    rcases hagrees with hnone | hsome
    · rw [hnone] at hd
      cases hd
    · rw [hsome] at hd
      exact Option.some.inj hd
  · have houtside : j < i ∨ i + [c].length ≤ j := by
      rw [List.length_singleton]
      omega
    rw [writeAt_outside houtside]
    exact h j d hd

end Writes

/-! ## `vsnprintf` -/

/-- `vsnprintf` of a text that the format and its arguments spell, to `size` cells from
`start` on: what fits is written with a terminator, nothing if `size` is zero, and the
length of the whole text is answered, a negative number if it is no `int`. -/
def vsnprintf (buffer : Option Memory) (start size : ℕ) (text : List Char) : Option Memory × ℤ :=
  (if size = 0 then buffer
    else buffer.map fun memory => writeAt memory start (text.take (size - 1) ++ [nul]),
    if text.length ≤ intMax then text.length else -1)

/-- The buffer of `size` cells shows the text, as far as it fits. -/
def Shows (memory : Memory) (size : ℕ) (text : List Char) : Prop :=
  0 < size → Holds memory (text.take (size - 1) ++ [nul])

section Buffers

variable {memory : Memory} {size : ℕ} {text piece : List Char}

/-- **The next piece** goes behind a text that fits, over its terminator. -/
theorem shows_append (hfits : text.length < size) (h : text = [] ∨ Shows memory size text) :
    Shows (writeAt memory text.length (piece.take (size - text.length - 1) ++ [nul])) size
      (text ++ piece) := by
  intro hsize
  have hheld : Holds memory text := by
    rcases h with rfl | hshows
    · nofun
    · have hall := hshows hsize
      rw [List.take_of_length_le (by omega)] at hall
      exact hall.left
  have htake : (text ++ piece).take (size - 1) = text ++ piece.take (size - text.length - 1) := by
    rw [List.take_append, List.take_of_length_le (by omega)]
    congr 2
    omega
  rw [htake, List.append_assoc]
  exact hheld.write _

/-- **A text that is cut off** stays as it is when more of it follows. -/
theorem shows_cut (hcut : size ≤ text.length) (h : Shows memory size text) :
    Shows memory size (text ++ piece) := by
  intro hsize
  have htake : (text ++ piece).take (size - 1) = text.take (size - 1) :=
    List.take_append_of_le_length (by omega)
  rw [htake]
  exact h hsize

/-- The last cell may be overwritten by a terminator. -/
theorem shows_terminated (hsize : 0 < size) (h : Shows memory size text) :
    Shows (writeAt memory (size - 1) [nul]) size text := by
  intro _
  refine (h hsize).update ?_
  by_cases hlong : size - 1 ≤ text.length
  · right
    have hlength : (text.take (size - 1)).length = size - 1 := by
      rw [List.length_take]
      omega
    rw [List.getElem?_append_right (by omega), hlength, Nat.sub_self]
    rfl
  · left
    refine List.getElem?_eq_none ?_
    rw [List.length_append, List.length_take, List.length_singleton]
    omega

/-- A buffer with room for the text and its terminator holds the whole text. -/
theorem Shows.whole (h : Shows memory (text.length + 1) text) :
    (List.range text.length).map memory = text ∧ memory text.length = nul := by
  have hholds := h (Nat.succ_pos _)
  rw [Nat.add_sub_cancel, List.take_length] at hholds
  constructor
  · apply List.ext_getElem
    · rw [List.length_map, List.length_range]
    · intro i _ hi
      rw [List.getElem_map, List.getElem_range]
      refine hholds i _ ?_
      rw [List.getElem?_append_left hi, List.getElem?_eq_getElem hi]
  · refine hholds text.length nul ?_
    rw [List.getElem?_append_right (Nat.le_refl _), Nat.sub_self]
    rfl

end Buffers

end SchedulingEngine.Text
