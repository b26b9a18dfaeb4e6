import Mathlib.Data.List.Count
import PlainScan.Text.Lines

namespace PlainScan.Text

/-!
# Where lines stand

In a text without carriage returns every line end is one character, so a line stands right behind as
many of them as there are lines before it.

* `notMem_normaliseNewlines` — a file that has been read has no carriage returns.
* `beforeLine` — what stands before a line.
* `exists_of_getElem?_splitLines` — a line stands behind it, and there are as many line ends in it
  as lines before the line.
-/

/-! ### Carriage returns -/

/-- A text that has been read has no carriage returns. -/
theorem notMem_normaliseNewlines (raw : List Char) : '\r' ∉ normaliseNewlines raw := by
  fun_induction normaliseNewlines raw with
  | case1 => exact List.not_mem_nil
  | case2 rest ih => simp [ih]
  | case3 c rest _ ih =>
    by_cases hc : c = '\r'
    · simp [hc, ih]
    · simp [hc, ih, Ne.symm hc]

/-- A character other than a carriage return ends a line by itself or belongs to it. -/
theorem splitLinesFrom_cons {c : Char} (hc : c ≠ '\r') (current rest : List Char) :
    splitLinesFrom current (c :: rest)
      = if isLineEnd c then current.reverse :: splitLinesFrom [] rest
        else splitLinesFrom (c :: current) rest := by
  rw [splitLinesFrom]
  intro _ hreturn
  exact absurd hreturn hc

/-! ### Lines and what stands before them -/

/-- What stands before a line, lines counted from zero: the text up to so many line ends, the last
    of them included.  There are no carriage returns in the text. -/
def beforeLine : Nat → List Char → List Char
  | 0, _ => []
  | _ + 1, [] => []
  | number + 1, c :: rest => c :: beforeLine (if isLineEnd c then number else number + 1) rest

@[simp] theorem beforeLine_zero (text : List Char) : beforeLine 0 text = [] := by
  cases text <;> rfl

/-- A line of the rest of a text, given the reversed start of the current line: only the first line
    goes on from there. -/
theorem exists_of_getElem?_splitLinesFrom {current text line : List Char} {number : Nat}
    (htext : '\r' ∉ text) (hline : (splitLinesFrom current text)[number]? = some line) :
    ∃ w rest, text = beforeLine number text ++ w ++ rest
      ∧ line = (if number = 0 then current.reverse else []) ++ w
      ∧ (∀ c ∈ w, isLineEnd c = false)
      ∧ (beforeLine number text).countP isLineEnd = number := by
  -- on the rest of the text; the line so far is carried along
  induction text generalizing current number with
  | nil =>
    rw [splitLinesFrom] at hline
    split at hline
    · simp at hline
    · have hzero : number = 0 ∧ current.reverse = line := by
        simpa [List.getElem?_singleton] using hline
      obtain ⟨rfl, rfl⟩ := hzero
      exact ⟨[], [], rfl, by simp, by simp, rfl⟩
  | cons c rest ih =>
    rw [List.mem_cons, not_or] at htext
    obtain ⟨hc, hrest⟩ := htext
    rw [splitLinesFrom_cons (Ne.symm hc)] at hline
    by_cases hend : isLineEnd c = true
    · rw [if_pos hend] at hline
      cases number with
      | zero =>
        obtain rfl : current.reverse = line := by simpa using hline
        exact ⟨[], c :: rest, rfl, by simp, by simp, rfl⟩
      | succ number =>
        -- the line end is before the line, and the next line starts anew
        rw [List.getElem?_cons_succ] at hline
        obtain ⟨w, more, hmore, hw, hnone, hcount⟩ := ih hrest hline
        refine ⟨w, more, ?_, ?_, hnone, ?_⟩
        · rw [beforeLine, if_pos hend, List.cons_append, List.cons_append]
          exact congrArg (c :: ·) hmore
        · rw [hw, List.reverse_nil, ite_self, if_neg (Nat.succ_ne_zero number)]
        · rw [beforeLine, if_pos hend, List.countP_cons_of_pos hend, hcount]
    · rw [if_neg hend] at hline
      -- the character belongs to the current line
      obtain ⟨w, more, hmore, hw, hnone, hcount⟩ := ih hrest hline
      cases number with
      | zero =>
        rw [beforeLine_zero, List.nil_append] at hmore
        refine ⟨c :: w, more, congrArg (c :: ·) hmore, ?_, ?_, rfl⟩
        · rw [hw, if_pos rfl, if_pos rfl, List.reverse_cons, List.append_assoc,
            List.singleton_append]
        · rw [List.forall_mem_cons]
          exact ⟨by simpa using hend, hnone⟩
      | succ number =>
        refine ⟨w, more, ?_, ?_, hnone, ?_⟩
        · rw [beforeLine, if_neg hend, List.cons_append, List.cons_append]
          exact congrArg (c :: ·) hmore
        · rw [hw, if_neg (Nat.succ_ne_zero number), if_neg (Nat.succ_ne_zero number)]
        · rw [beforeLine, if_neg hend, List.countP_cons_of_neg hend, hcount]

variable {text line : List Char} {number : Nat}

/-- **Lines.** A line stands in its text behind as many line ends as there are lines before it, and
    none stands in it. -/
theorem exists_of_getElem?_splitLines (htext : '\r' ∉ text)
    (hline : (splitLines text)[number]? = some line) :
    (∃ rest, text = beforeLine number text ++ line ++ rest)
      ∧ (∀ c ∈ line, isLineEnd c = false)
      ∧ (beforeLine number text).countP isLineEnd = number := by
  have hfrom : (splitLinesFrom [] text)[number]? = some line := hline
  obtain ⟨w, rest, hrest, hw, hnone, hcount⟩ := exists_of_getElem?_splitLinesFrom htext hfrom
  have hsame : line = w := by
    rw [hw, List.reverse_nil, ite_self, List.nil_append]
  rw [hsame]
  exact ⟨⟨rest, hrest⟩, hnone, hcount⟩

end PlainScan.Text
