/-!
# Beginnings and ends of texts
-/
namespace FrameGraph.Text

/-- What follows `word` at the front of a text. -/
def behind? : List Char → List Char → Option (List Char)
  | [], cs => some cs
  | _ :: _, [] => none
  | w :: ws, c :: cs => if w = c then behind? ws cs else none

/-- What precedes `ending` at the end of a text. -/
def before? (ending cs : List Char) : Option (List Char) :=
  (behind? ending.reverse cs.reverse).map List.reverse

/-- Puts `new` for the first `old`, which is not empty. -/
def replaceFirst (old new : List Char) : List Char → List Char
  | [] => []
  | c :: cs =>
    match behind? old (c :: cs) with
    | some rest => new ++ rest
    | none => c :: replaceFirst old new cs

theorem behind?_eq_some_iff (word cs rest : List Char) :
    behind? word cs = some rest ↔ cs = word ++ rest := by
  induction word generalizing cs with
  | nil => simp [behind?, eq_comm]
  | cons w ws ih =>
    cases cs with
    | nil => simp [behind?]
    | cons c cs =>
      by_cases h : w = c
      · subst h; simp [behind?, ih]
      · simp [behind?, h, Ne.symm h]

theorem before?_eq_some_iff (ending cs front : List Char) :
    before? ending cs = some front ↔ cs = front ++ ending := by
  simp only [before?, Option.map_eq_some_iff, behind?_eq_some_iff]
  constructor
  · rintro ⟨r, h, rfl⟩
    simpa using congrArg List.reverse h
  · rintro rfl
    exact ⟨front.reverse, by simp, by simp⟩

end FrameGraph.Text
