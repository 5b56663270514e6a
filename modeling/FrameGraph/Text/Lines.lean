/-!
# Lines of a text

A newline ends a line, and a carriage return before it belongs to it. Nothing
behind the last newline is no line, so a text may or may not end in one.

Results:
* `pieces_append_newline`: what follows a newline is cut up on its own.
* `length_pieces`: there is one piece more than there are newlines.
* `count_withNewline`: a text that is ended by a newline has as many of them as lines.
* `pieces_withNewline`: ending a text changes none of its lines.
-/
namespace FrameGraph.Text

/-- Cuts a text at its newlines. -/
def pieces : List Char → List (List Char)
  | [] => [[]]
  | c :: cs =>
    if c = '\n' then [] :: pieces cs
    else
      match pieces cs with
      | [] => [[c]]
      | p :: ps => (c :: p) :: ps

/-- A line without the carriage return at its end. -/
def dropReturn (line : List Char) : List Char :=
  match line.reverse with
  | '\r' :: rest => rest.reverse
  | _ => line

/-- The lines of a text without what ends them. -/
def lines (cs : List Char) : List (List Char) :=
  let ps := pieces cs
  let last := ps.getLast?.getD []
  ps.dropLast.map dropReturn ++ (if last = [] then [] else [last])

/-- How many lines a text has. -/
def lineCount (text : String) : Nat := (lines text.toList).length

/-- The text, with a newline at its end. -/
def withNewline (text : String) : String :=
  if text.toList.getLast? = some '\n' then text else text ++ "\n"

theorem pieces_ne_nil (cs : List Char) : pieces cs ≠ [] := by
  cases cs with
  | nil => simp [pieces]
  | cons c cs =>
    simp only [pieces]
    split
    · simp
    · split <;> simp

theorem pieces_append_newline (as bs : List Char) :
    pieces (as ++ '\n' :: bs) = pieces as ++ pieces bs := by
  induction as with
  | nil => simp [pieces]
  | cons a as ih =>
    by_cases h : a = '\n'
    · simp [pieces, h, ih]
    · simp only [List.cons_append, pieces, h, if_false, ih]
      cases hp : pieces as with
      | nil => exact absurd hp (pieces_ne_nil as)
      | cons p ps => simp

theorem length_pieces (cs : List Char) : (pieces cs).length = cs.count '\n' + 1 := by
  induction cs with
  | nil => simp [pieces]
  | cons c cs ih =>
    by_cases h : c = '\n'
    · simp [pieces, h, ih]
    · simp only [pieces, h, if_false]
      cases hp : pieces cs with
      | nil => exact absurd hp (pieces_ne_nil cs)
      | cons p ps => rw [hp] at ih; simp [h] at ih ⊢; omega

/-- A character that is no newline goes to the last piece. -/
theorem pieces_concat (as : List Char) {c : Char} (hc : c ≠ '\n') :
    ∃ ps p, pieces as = ps ++ [p] ∧ pieces (as ++ [c]) = ps ++ [p ++ [c]] := by
  induction as with
  | nil => exact ⟨[], [], rfl, by simp [pieces, hc]⟩
  | cons a as ih =>
    obtain ⟨ps, p, has, hasc⟩ := ih
    by_cases h : a = '\n'
    · exact ⟨[] :: ps, p, by simp [pieces, h, has], by simp [pieces, h, hasc]⟩
    · cases ps with
      | nil => exact ⟨[], a :: p, by simp [pieces, h, has], by simp [pieces, h, hasc]⟩
      | cons q ps => exact ⟨(a :: q) :: ps, p, by simp [pieces, h, has], by simp [pieces, h, hasc]⟩

theorem length_lines_of_newline (cs : List Char) :
    (lines (cs ++ ['\n'])).length = (cs ++ ['\n']).count '\n' := by
  have hlen := length_pieces cs
  simp [lines, pieces_append_newline, pieces, hlen]

theorem length_lines_of_ne {cs : List Char} (hne : cs ≠ []) (hlast : cs.getLast? ≠ some '\n') :
    (lines cs).length = cs.count '\n' + 1 := by
  have hcs : cs = cs.dropLast ++ [cs.getLast hne] := (List.dropLast_concat_getLast hne).symm
  have hc : cs.getLast hne ≠ '\n' := fun h => hlast (by rw [List.getLast?_eq_some_getLast hne, h])
  obtain ⟨ps, p, -, hpieces⟩ := pieces_concat cs.dropLast hc
  rw [← hcs] at hpieces
  have hlen := length_pieces cs
  rw [hpieces] at hlen
  simp only [lines, hpieces]
  simp at hlen ⊢
  omega

theorem count_withNewline {text : String} (h : text ≠ "") :
    (withNewline text).toList.count '\n' = lineCount text := by
  have hne : text.toList ≠ [] := fun he => h (by simpa using he)
  unfold withNewline lineCount
  split
  · next hlast =>
    have hcs : text.toList = text.toList.dropLast ++ ['\n'] := by
      rw [List.getLast?_eq_some_getLast hne] at hlast
      rw [← Option.some.inj hlast]
      exact (List.dropLast_concat_getLast hne).symm
    rw [hcs, length_lines_of_newline]
  · next hlast => simp [length_lines_of_ne hne hlast]

theorem lineCount_pos {text : String} (h : text ≠ "") : 0 < lineCount text := by
  have hne : text.toList ≠ [] := fun he => h (by simpa using he)
  rw [← count_withNewline h, List.count_pos_iff]
  unfold withNewline
  split
  · next hlast => exact List.mem_of_getLast? hlast
  · simp

theorem lineCount_le (text : String) : lineCount text ≤ (pieces text.toList).length := by
  by_cases h : text = ""
  · rw [h]
    decide
  · rw [length_pieces, ← count_withNewline h]
    unfold withNewline
    split
    · omega
    · simp

/-- Behind the lines of a text that is ended by a newline there is an empty piece. -/
theorem pieces_withNewline_append (text : String) (cs : List Char) :
    pieces ((withNewline text).toList ++ cs)
      = (pieces (withNewline text).toList).dropLast ++ pieces cs := by
  obtain ⟨as, has⟩ : ∃ as, (withNewline text).toList = as ++ ['\n'] := by
    unfold withNewline
    split
    · next hlast =>
      obtain ⟨as, has⟩ := List.getLast?_eq_some_iff.1 hlast
      exact ⟨as, has⟩
    · exact ⟨text.toList, by simp⟩
  rw [has, List.append_assoc]
  simp [pieces_append_newline, pieces]

theorem length_pieces_withNewline {text : String} (h : text ≠ "") :
    (pieces (withNewline text).toList).dropLast.length = lineCount text := by
  rw [List.length_dropLast, length_pieces, count_withNewline h, Nat.add_sub_cancel]

/-- Ending a text by a newline changes none of its lines. -/
theorem pieces_withNewline {text : String} (h : text ≠ "") {j : Nat} (hj : j < lineCount text) :
    (pieces (withNewline text).toList).dropLast[j]? = (pieces text.toList)[j]? := by
  rw [List.getElem?_dropLast, length_pieces, count_withNewline h, Nat.add_sub_cancel, if_pos hj]
  unfold withNewline
  split
  · rfl
  · next hlast =>
    have hne : text.toList ≠ [] := fun he => h (by simpa using he)
    have hlen : (pieces text.toList).length = lineCount text := by
      rw [length_pieces, lineCount, length_lines_of_ne hne hlast]
    rw [String.toList_append, show ("\n" : String).toList = '\n' :: [] from rfl,
      pieces_append_newline, List.getElem?_append_left (by omega)]

end FrameGraph.Text
