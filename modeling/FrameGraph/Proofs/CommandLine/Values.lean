import Mathlib
import FrameGraph.CommandLine

/-!
# What the value of a flag says

A number is written as digits behind an optional plus sign, a size as two numbers around its first
cross with blanks around each of them. Here both are grammars of texts, apart from how a text is
read: what it denotes, and, if it denotes nothing, what is wrong with it. A `Verdict` says that a
reader follows such a pair.

Numbers are words. Their digits are read from the left, so of a letter and of a value that has
grown too large, the one that comes first is what is wrong.

Results:
* `Verdict.bind`, `Verdict.mapError`: readers in sequence.
* `Text.trim_eq_iff`: a text without the blanks around it.
* `verdict_parseNumber`, `verdict_parseSize`: reading follows the grammars.
* `denotes_toDigits`, `measures_text`: what is written for a number and for a size is in them.
-/
namespace FrameGraph

/-! ## Verdicts -/

/-- A result, by what it may be and by what may be wrong. -/
structure Verdict {ε α : Type} (r : Except ε α) (holds : α → Prop) (fails : ε → Prop) : Prop where
  ok_iff : ∀ a, r = .ok a ↔ holds a
  error_iff : ∀ e, r = .error e ↔ fails e

namespace Verdict

variable {ε α β : Type} {r : Except ε α} {holds : α → Prop} {fails : ε → Prop}

theorem ok (a : α) : Verdict (.ok a : Except ε α) (a = ·) fun _ => False :=
  ⟨fun _ => by simp, fun _ => by simp⟩

theorem error (e : ε) : Verdict (.error e : Except ε α) (fun _ => False) (e = ·) :=
  ⟨fun _ => by simp, fun _ => by simp⟩

theorem congr (h : Verdict r holds fails) {holds' : α → Prop} {fails' : ε → Prop}
    (hholds : ∀ a, holds a ↔ holds' a) (hfails : ∀ e, fails e ↔ fails' e) :
    Verdict r holds' fails' :=
  ⟨fun a => (h.ok_iff a).trans (hholds a), fun e => (h.error_iff e).trans (hfails e)⟩

theorem bind (h : Verdict r holds fails) {next : α → Except ε β} {holds' : α → β → Prop}
    {fails' : α → ε → Prop} (hnext : ∀ a, Verdict (next a) (holds' a) (fails' a)) :
    Verdict (r >>= next) (fun b => ∃ a, holds a ∧ holds' a b)
      fun e => fails e ∨ ∃ a, holds a ∧ fails' a e := by
  cases r with
  | ok a =>
    have hholds : ∀ a', holds a' ↔ a = a' := fun a' => by rw [← h.ok_iff, Except.ok.injEq]
    have hfails : ∀ e, ¬ fails e := fun e he => nomatch (h.error_iff e).2 he
    refine (hnext a).congr (fun b => ?_) (fun e => ?_)
    · simp [hholds]
    · simp [hholds, hfails]
  | error e =>
    have hholds : ∀ a, ¬ holds a := fun a ha => nomatch (h.ok_iff a).2 ha
    have hfails : ∀ e', fails e' ↔ e = e' := fun e' => by rw [← h.error_iff, Except.error.injEq]
    refine (error e).congr (fun b => ?_) (fun e' => ?_)
    · simp [hholds]
    · simp [hholds, hfails]

theorem map (h : Verdict r holds fails) (f : α → β) :
    Verdict (r.map f) (fun b => ∃ a, holds a ∧ f a = b) fails := by
  have hmap : r.map f = r >>= fun a => .ok (f a) := by cases r <;> rfl
  rw [hmap]
  exact (h.bind fun a => ok (f a)).congr (fun _ => .rfl) (fun e => by simp)

theorem mapError {ε' : Type} (h : Verdict r holds fails) (f : ε → ε') :
    Verdict (r.mapError f) holds fun e' => ∃ e, fails e ∧ f e = e' := by
  cases r with
  | ok a =>
    have hfails : ∀ e, ¬ fails e := fun e he => nomatch (h.error_iff e).2 he
    exact (ok a).congr (fun a' => by rw [← h.ok_iff, Except.ok.injEq]) (fun e => by simp [hfails])
  | error e =>
    have hfails : ∀ e', fails e' ↔ e = e' := fun e' => by rw [← h.error_iff, Except.error.injEq]
    exact (error (f e)).congr (fun a => by rw [← h.ok_iff]; simp) (fun e' => by simp [hfails])

end Verdict

/-! ## Blanks around a text -/

namespace Text

/-- A text and what is left of it without the blanks at its ends. -/
structure Trimmed (cs core : List Char) : Prop where
  around : ∃ front back, (∀ c ∈ front ++ back, isBlank c = true) ∧ cs = front ++ core ++ back
  head : ∀ c ∈ core.head?, isBlank c = false
  last : ∀ c ∈ core.getLast?, isBlank c = false

theorem trim_eq_rdropWhile (cs : List Char) :
    trim cs = (cs.dropWhile isBlank).rdropWhile isBlank := rfl

theorem trimmed_trim (cs : List Char) : Trimmed cs (trim cs) := by
  rw [trim_eq_rdropWhile]
  have hsplit : (cs.dropWhile isBlank).rdropWhile isBlank
      ++ (cs.dropWhile isBlank).rtakeWhile isBlank = cs.dropWhile isBlank :=
    List.rdropWhile_append_rtakeWhile
  refine ⟨⟨cs.takeWhile isBlank, (cs.dropWhile isBlank).rtakeWhile isBlank, ?_, ?_⟩, ?_, ?_⟩
  · intro c hc
    rcases List.mem_append.1 hc with hfront | hback
    · exact List.mem_takeWhile_imp hfront
    · exact List.mem_rtakeWhile_imp hback
  · rw [List.append_assoc, hsplit, List.takeWhile_append_dropWhile]
  · -- The core begins where the text behind the first blanks does.
    intro c hc
    have hhead := List.head?_dropWhile_not isBlank cs
    obtain ⟨tail, htail⟩ := List.rdropWhile_prefix isBlank (cs.dropWhile isBlank)
    rw [← htail, List.head?_append, Option.mem_def.1 hc] at hhead
    exact hhead
  · intro c hc
    obtain ⟨hne, rfl⟩ := List.mem_getLast?_eq_getLast hc
    exact Bool.eq_false_iff.2 (List.rdropWhile_last_not isBlank _ hne)

theorem trim_of_trimmed {cs core : List Char} (h : Trimmed cs core) : trim cs = core := by
  obtain ⟨front, back, hblank, rfl⟩ := h.around
  have hfront : ∀ c ∈ front, isBlank c = true := fun c hc =>
    hblank c (List.mem_append_left back hc)
  have hback : ∀ c ∈ back.reverse, isBlank c = true := fun c hc =>
    hblank c (List.mem_append_right front (List.mem_reverse.1 hc))
  rw [trim, List.append_assoc, List.dropWhile_append_of_pos hfront]
  cases core with
  | nil => simp [List.dropWhile_eq_nil_iff.2 fun c hc => hback c (List.mem_reverse.2 hc)]
  | cons c cs =>
    have hhead : isBlank c = false := h.head c rfl
    have hlast : ((c :: cs).reverse).dropWhile isBlank = (c :: cs).reverse := by
      refine List.dropWhile_eq_self_iff.2 fun hpos => ?_
      rw [Bool.not_eq_true]
      refine h.last _ ?_
      rw [← List.head?_reverse, List.head?_eq_getElem?, List.getElem?_eq_getElem hpos]
      rfl
    rw [List.cons_append, List.dropWhile_cons_of_neg (by simp [hhead]), ← List.cons_append,
      List.reverse_append, List.dropWhile_append_of_pos hback, hlast, List.reverse_reverse]

/-- Cutting off the blanks leaves what does not begin or end in one. -/
theorem trim_eq_iff {cs core : List Char} : trim cs = core ↔ Trimmed cs core :=
  ⟨fun h => h ▸ trimmed_trim cs, trim_of_trimmed⟩

/-- `p` holds of what is left of a text without the blanks around it. -/
def Within (p : List Char → Prop) (cs : List Char) : Prop := ∃ core, Trimmed cs core ∧ p core

theorem within_iff (p : List Char → Prop) {cs : List Char} : Within p cs ↔ p (trim cs) := by
  simp only [Within, ← trim_eq_iff, exists_eq_left']

/-- A text without blanks is left as it is. -/
theorem trimmed_self {cs : List Char} (h : ∀ c ∈ cs, isBlank c = false) : Trimmed cs cs :=
  ⟨⟨[], [], by simp, by simp⟩, fun c hc => h c (List.mem_of_head? hc),
    fun c hc => h c (List.mem_of_getLast? hc)⟩

end Text

namespace CommandLine

/-! ## Numbers -/

/-- A text less a plus sign in front of it. -/
def unsigned : List Char → List Char
  | '+' :: cs => cs
  | cs => cs

/-- Decimal digits behind an optional plus sign, and the word that they make. -/
structure Denotes (cs : List Char) (n : UInt32) : Prop where
  nonempty : unsigned cs ≠ []
  digits : ∀ c ∈ unsigned cs, c.isDigit = true
  value : Nat.ofDigitChars 10 (unsigned cs) 0 = n.toNat

/-- What ends the digits that are read on top of `n`, or makes them too large, before their end. -/
inductive Stops (n : Nat) (cs : List Char) : NumberError → Prop where
  | foreign (ds : List Char) (c : Char) (rest : List Char) (split : cs = ds ++ c :: rest)
      (digits : ∀ d ∈ ds, d.isDigit = true) (other : c.isDigit = false)
      (small : Nat.ofDigitChars 10 ds n < 2 ^ 32) : Stops n cs .invalidDigit
  | large (ds rest : List Char) (split : cs = ds ++ rest) (digits : ∀ d ∈ ds, d.isDigit = true)
      (large : 2 ^ 32 ≤ Nat.ofDigitChars 10 ds n) : Stops n cs .tooLarge

/-- What is wrong with a text that is no number. -/
inductive Misspelt (cs : List Char) : NumberError → Prop where
  | empty (nothing : cs = []) : Misspelt cs .empty
  | bare (plus : cs = ['+']) : Misspelt cs .invalidDigit
  | stops {cause : NumberError} (h : Stops 0 (unsigned cs) cause) : Misspelt cs cause

theorem le_ofDigitChars (cs : List Char) (n : Nat) : n ≤ Nat.ofDigitChars 10 cs n := by
  induction cs generalizing n with
  | nil => simp
  | cons c cs ih =>
    rw [Nat.ofDigitChars_cons]
    have := ih (10 * n + (c.toNat - '0'.toNat))
    omega

theorem digitsFrom_cons (n : Nat) (c : Char) (cs : List Char) :
    digitsFrom n (c :: cs) =
      if c.isDigit = true then
        if 10 * n + (c.toNat - '0'.toNat) < 2 ^ 32 then
          digitsFrom (10 * n + (c.toNat - '0'.toNat)) cs
        else .error .tooLarge
      else .error .invalidDigit := by
  by_cases hc : c.isDigit = true
  · obtain ⟨hlow, hhigh⟩ := Char.isDigit_iff_toNat.1 hc
    have hdigit : Decimal.ofChar? c = some (Fin.ofNat 10 (c.toNat - '0'.toNat)) :=
      if_pos ⟨hlow, hhigh⟩
    have hval : (Fin.ofNat 10 (c.toNat - '0'.toNat)).val = c.toNat - '0'.toNat :=
      Nat.mod_eq_of_lt (by simp only [Char.reduceToNat] at hhigh ⊢; omega)
    simp only [digitsFrom, hdigit, hval, if_pos hc]
    rfl
  · have hnone : Decimal.ofChar? c = none :=
      if_neg fun h => hc (Char.isDigit_iff_toNat.2 h)
    simp only [digitsFrom, hnone, if_neg hc]

section
variable {n : Nat} {c : Char} {cs : List Char} {e : NumberError}

theorem not_stops_nil (hn : n < 2 ^ 32) : ¬ Stops n [] e := by
  intro h
  cases h with
  | foreign ds c rest split => simp at split
  | large ds rest split _ large =>
    obtain ⟨rfl, -⟩ := List.append_eq_nil_iff.1 split.symm
    exact absurd large (Nat.not_le.2 hn)

/-- Reading goes on behind a digit that still makes a word. -/
theorem stops_cons_iff (hc : c.isDigit = true) (hsmall : 10 * n + (c.toNat - '0'.toNat) < 2 ^ 32) :
    Stops n (c :: cs) e ↔ Stops (10 * n + (c.toNat - '0'.toNat)) cs e := by
  constructor
  · intro h
    cases h with
    | foreign ds c' rest split digits other small =>
      cases ds with
      | nil =>
        obtain ⟨rfl, -⟩ := List.cons.inj split
        exact absurd hc (by simp [other])
      | cons d ds =>
        obtain ⟨rfl, hsplit⟩ := List.cons.inj split
        rw [Nat.ofDigitChars_cons] at small
        exact .foreign ds c' rest hsplit (List.forall_mem_cons.1 digits).2 other small
    | large ds rest split digits large =>
      cases ds with
      | nil =>
        rw [Nat.ofDigitChars_nil] at large
        omega
      | cons d ds =>
        obtain ⟨rfl, hsplit⟩ := List.cons.inj split
        rw [Nat.ofDigitChars_cons] at large
        exact .large ds rest hsplit (List.forall_mem_cons.1 digits).2 large
  · intro h
    cases h with
    | foreign ds c' rest split digits other small =>
      exact .foreign (c :: ds) c' rest (congrArg (c :: ·) split)
        (List.forall_mem_cons.2 ⟨hc, digits⟩) other (by rwa [Nat.ofDigitChars_cons])
    | large ds rest split digits large =>
      exact .large (c :: ds) rest (congrArg (c :: ·) split)
        (List.forall_mem_cons.2 ⟨hc, digits⟩) (by rwa [Nat.ofDigitChars_cons])

theorem stops_large_iff (hc : c.isDigit = true)
    (hlarge : 2 ^ 32 ≤ 10 * n + (c.toNat - '0'.toNat)) :
    Stops n (c :: cs) e ↔ .tooLarge = e := by
  constructor
  · intro h
    cases h with
    | large => rfl
    | foreign ds c' rest split digits other small =>
      cases ds with
      | nil =>
        obtain ⟨rfl, -⟩ := List.cons.inj split
        exact absurd hc (by simp [other])
      | cons d ds =>
        -- What follows a digit only makes its value larger.
        obtain ⟨rfl, -⟩ := List.cons.inj split
        rw [Nat.ofDigitChars_cons] at small
        have hle := le_ofDigitChars ds (10 * n + (c.toNat - '0'.toNat))
        omega
  · rintro rfl
    exact .large [c] cs rfl (by simpa using hc) (by rwa [Nat.ofDigitChars_cons])

theorem stops_foreign_iff (hn : n < 2 ^ 32) (hc : c.isDigit = false) :
    Stops n (c :: cs) e ↔ .invalidDigit = e := by
  constructor
  · intro h
    cases h with
    | foreign => rfl
    | large ds rest split digits large =>
      cases ds with
      | nil =>
        rw [Nat.ofDigitChars_nil] at large
        omega
      | cons d ds =>
        obtain ⟨rfl, -⟩ := List.cons.inj split
        exact absurd (List.forall_mem_cons.1 digits).1 (by simp [hc])
  · rintro rfl
    exact .foreign [] c cs rfl (by simp) hc hn

end

theorem verdict_digitsFrom {n : Nat} (hn : n < 2 ^ 32) (cs : List Char) :
    Verdict (digitsFrom n cs)
      (fun m => (∀ c ∈ cs, c.isDigit = true) ∧ Nat.ofDigitChars 10 cs n = m ∧ m < 2 ^ 32)
      (Stops n cs) := by
  induction cs generalizing n with
  | nil =>
    refine (Verdict.ok n).congr (fun m => ?_) (fun e => iff_of_false id (not_stops_nil hn))
    simp only [List.not_mem_nil, false_implies, implies_true, Nat.ofDigitChars_nil, true_and]
    exact ⟨fun h => ⟨h, h ▸ hn⟩, And.left⟩
  | cons c cs ih =>
    rw [digitsFrom_cons]
    by_cases hc : c.isDigit = true
    · rw [if_pos hc]
      by_cases hsmall : 10 * n + (c.toNat - '0'.toNat) < 2 ^ 32
      · rw [if_pos hsmall]
        refine (ih hsmall).congr (fun m => ?_) (fun e => (stops_cons_iff hc hsmall).symm)
        rw [List.forall_mem_cons, Nat.ofDigitChars_cons, and_iff_right hc]
      · rw [if_neg hsmall]
        refine (Verdict.error _).congr (fun m => ?_)
          (fun e => (stops_large_iff hc (Nat.le_of_not_lt hsmall)).symm)
        have hle := le_ofDigitChars cs (10 * n + (c.toNat - '0'.toNat))
        rw [Nat.ofDigitChars_cons]
        exact iff_of_false id fun h => by omega
    · rw [if_neg hc]
      refine (Verdict.error _).congr (fun m => ?_)
        (fun e => (stops_foreign_iff hn (Bool.eq_false_iff.2 hc)).symm)
      exact iff_of_false id fun h => hc (h.1 c List.mem_cons_self)

theorem unsigned_eq_nil_iff {cs : List Char} : unsigned cs = [] ↔ cs = [] ∨ cs = ['+'] := by
  unfold unsigned
  split <;> simp_all

/-- A number is the digits behind its sign, and a sign cannot stand alone. -/
theorem parseNumber_eq (cs : List Char) :
    parseNumber cs =
      if unsigned cs = [] then .error (if cs = [] then .empty else .invalidDigit)
      else (digitsFrom 0 (unsigned cs)).map UInt32.ofNat := by
  cases cs with
  | nil => rfl
  | cons c cs =>
    by_cases hc : c = '+'
    · subst hc
      cases cs <;> simp [parseNumber, unsigned]
    · simp [parseNumber, unsigned, hc]

theorem verdict_parseNumber (cs : List Char) :
    Verdict (parseNumber cs) (Denotes cs) (Misspelt cs) := by
  rw [parseNumber_eq]
  by_cases hnil : unsigned cs = []
  · rw [if_pos hnil]
    refine (Verdict.error _).congr (fun n => iff_of_false id fun h => h.nonempty hnil) (fun e => ?_)
    constructor
    · rintro rfl
      split
      · next h => exact .empty h
      · next h => exact .bare (unsigned_eq_nil_iff.1 hnil |>.resolve_left h)
    · intro h
      cases h with
      | empty nothing => exact if_pos nothing
      | bare plus => exact if_neg (by simp [plus])
      | stops h => exact absurd (hnil ▸ h) (not_stops_nil (by decide))
  · rw [if_neg hnil]
    refine ((verdict_digitsFrom (by decide) (unsigned cs)).map UInt32.ofNat).congr (fun n => ?_)
      (fun e => ⟨.stops, fun h => ?_⟩)
    · constructor
      · rintro ⟨m, ⟨hdigits, hvalue, hm⟩, rfl⟩
        exact ⟨hnil, hdigits, by rw [hvalue, UInt32.toNat_ofNat_of_lt' hm]⟩
      · rintro ⟨-, hdigits, hvalue⟩
        exact ⟨n.toNat, ⟨hdigits, hvalue, n.toNat_lt⟩, UInt32.ofNat_toNat⟩
    · cases h with
      | empty nothing => exact absurd (by rw [nothing]; rfl) hnil
      | bare plus => exact absurd (by rw [plus]; rfl) hnil
      | stops h => exact h

theorem ne_of_isDigit {c d : Char} (hc : c.isDigit = true) (hd : d.isDigit = false) : c ≠ d := by
  rintro rfl
  exact Bool.noConfusion (hc.symm.trans hd)

theorem isBlank_of_isDigit {c : Char} (hc : c.isDigit = true) : Text.isBlank c = false := by
  obtain ⟨hlow, hhigh⟩ := Char.isDigit_iff_toNat.1 hc
  rw [Bool.eq_false_iff]
  intro hblank
  simp only [Text.isBlank, Bool.or_eq_true, Bool.and_eq_true, decide_eq_true_eq, Char.le_def,
    UInt32.le_iff_toNat_le, ← Char.toNat_inj, Char.reduceVal, UInt32.reduceToNat, Char.toNat_val,
    Char.reduceToNat] at hblank
  simp only [Char.reduceToNat] at hlow hhigh
  omega

theorem isDigit_of_mem {n : Nat} {c : Char} (hc : c ∈ Nat.toDigits 10 n) : c.isDigit = true :=
  Nat.isDigit_of_mem_toDigits (by decide) (by decide) hc

/-- Digits alone denote their value. -/
theorem denotes_toDigits (n : UInt32) : Denotes (Nat.toDigits 10 n.toNat) n := by
  have hunsigned : unsigned (Nat.toDigits 10 n.toNat) = Nat.toDigits 10 n.toNat := by
    unfold unsigned
    split
    · next cs heq =>
      have hplus : '+' ∈ Nat.toDigits 10 n.toNat := heq ▸ List.mem_cons_self
      exact absurd rfl (ne_of_isDigit (isDigit_of_mem hplus) rfl)
    · rfl
  refine ⟨?_, ?_, ?_⟩
  · rw [hunsigned]
    exact Nat.toDigits_ne_nil
  · rw [hunsigned]
    exact fun c => isDigit_of_mem
  · rw [hunsigned, Nat.ofDigitChars_ten_toDigits]

theorem within_toDigits (n : UInt32) : Text.Within (Denotes · n) (Nat.toDigits 10 n.toNat) :=
  ⟨_, Text.trimmed_self fun _ hc => isBlank_of_isDigit (isDigit_of_mem hc), denotes_toDigits n⟩

/-! ## Sizes -/

/-- The characters that a size is divided at. -/
def IsCross (c : Char) : Prop := c = 'x' ∨ c = 'X'

/-- A text and what stands around the first cross in it. -/
def Divided (cs front back : List Char) : Prop :=
  ∃ cross, IsCross cross ∧ cs = front ++ cross :: back ∧ ∀ c ∈ front, ¬ IsCross c

theorem splitSize_eq_none_iff {cs : List Char} :
    splitSize cs = none ↔ ∀ c ∈ cs, ¬ IsCross c := by
  induction cs with
  | nil => simp [splitSize]
  | cons c cs ih =>
    rw [List.forall_mem_cons, ← ih]
    by_cases hc : c = 'x' ∨ c = 'X' <;> simp [splitSize, IsCross, hc]

theorem splitSize_eq_some_iff {cs front back : List Char} :
    splitSize cs = some (front, back) ↔ Divided cs front back := by
  induction cs generalizing front with
  | nil => simp [splitSize, Divided]
  | cons c cs ih =>
    by_cases hc : IsCross c
    · have hsplit : splitSize (c :: cs) = some ([], cs) := if_pos (by simpa [IsCross] using hc)
      rw [hsplit, Option.some.injEq, Prod.mk.injEq]
      constructor
      · rintro ⟨rfl, rfl⟩
        exact ⟨c, hc, rfl, by simp⟩
      · rintro ⟨cross, -, heq, hfront⟩
        cases front with
        | nil => exact ⟨rfl, (List.cons.inj heq).2⟩
        | cons d ds =>
          obtain ⟨rfl, -⟩ := List.cons.inj heq
          exact absurd hc (hfront _ List.mem_cons_self)
    · have hsplit : splitSize (c :: cs) = (splitSize cs).map fun p => (c :: p.1, p.2) :=
        if_neg (by simpa [IsCross] using hc)
      rw [hsplit, Option.map_eq_some_iff]
      constructor
      · rintro ⟨⟨w, h⟩, hwh, heq⟩
        obtain ⟨rfl, rfl⟩ := Prod.mk.inj heq
        obtain ⟨cross, hcross, rfl, hw⟩ := ih.1 hwh
        exact ⟨cross, hcross, rfl, List.forall_mem_cons.2 ⟨hc, hw⟩⟩
      · rintro ⟨cross, hcross, heq, hfront⟩
        cases front with
        | nil =>
          obtain ⟨rfl, -⟩ := List.cons.inj heq
          exact absurd hcross hc
        | cons d ds =>
          obtain ⟨rfl, hcs⟩ := List.cons.inj heq
          exact ⟨(ds, back), ih.2 ⟨cross, hcross, hcs, (List.forall_mem_cons.1 hfront).2⟩, rfl⟩

/-- Two numbers around the first cross, each with blanks around it. -/
def Measures (cs : List Char) (e : Extent) : Prop :=
  ∃ front back, Divided cs front back ∧ Text.Within (Denotes · e.width) front ∧
    Text.Within (Denotes · e.height) back

/-- What is wrong with a text that measures no size. -/
inductive Mismeasured (value : String) : ArgumentError → Prop where
  | undivided (h : ∀ c ∈ value.toList, ¬ IsCross c) : Mismeasured value (.invalidSize value)
  | width {front back : List Char} {cause : NumberError} (h : Divided value.toList front back)
      (hwidth : Text.Within (Misspelt · cause) front) :
      Mismeasured value (.invalidWidth value cause)
  | height {front back : List Char} {width : UInt32} {cause : NumberError}
      (h : Divided value.toList front back) (hwidth : Text.Within (Denotes · width) front)
      (hheight : Text.Within (Misspelt · cause) back) :
      Mismeasured value (.invalidHeight value cause)

theorem verdict_within (cs : List Char) :
    Verdict (parseNumber (Text.trim cs)) (fun n => Text.Within (Denotes · n) cs)
      fun cause => Text.Within (Misspelt · cause) cs :=
  (verdict_parseNumber (Text.trim cs)).congr (fun n => (Text.within_iff (Denotes · n)).symm)
    fun cause => (Text.within_iff (Misspelt · cause)).symm

theorem verdict_parseSize (value : String) :
    Verdict (parseSize value) (Measures value.toList) (Mismeasured value) := by
  unfold parseSize
  cases hsplit : splitSize value.toList with
  | none =>
    have hdivided : ∀ front back, ¬ Divided value.toList front back := fun front back h =>
      nomatch hsplit.symm.trans (splitSize_eq_some_iff.2 h)
    refine (Verdict.error _).congr (fun e => iff_of_false id ?_) (fun e => ⟨?_, fun h => ?_⟩)
    · rintro ⟨front, back, h, -⟩
      exact hdivided front back h
    · rintro rfl
      exact .undivided (splitSize_eq_none_iff.1 hsplit)
    · cases h with
      | undivided => rfl
      | width h => exact absurd h (hdivided _ _)
      | height h => exact absurd h (hdivided _ _)
  | some parts =>
    obtain ⟨front, back⟩ := parts
    have hdivided : Divided value.toList front back := splitSize_eq_some_iff.1 hsplit
    have honly : ∀ {f b}, Divided value.toList f b → f = front ∧ b = back := fun h =>
      Prod.mk.inj (Option.some.inj ((splitSize_eq_some_iff.2 h).symm.trans hsplit))
    have hfront := (verdict_within front).mapError (ArgumentError.invalidWidth value)
    have hback := (verdict_within back).mapError (ArgumentError.invalidHeight value)
    have hparts := hfront.bind fun width => hback.bind fun height =>
      Verdict.ok (Extent.mk width height)
    refine hparts.congr (fun e => ⟨?_, ?_⟩) (fun e => ⟨?_, fun h => ?_⟩)
    · rintro ⟨width, hwidth, height, hheight, rfl⟩
      exact ⟨front, back, hdivided, hwidth, hheight⟩
    · rintro ⟨f, b, h, hwidth, hheight⟩
      obtain ⟨rfl, rfl⟩ := honly h
      exact ⟨e.width, hwidth, e.height, hheight, rfl⟩
    · rintro (⟨cause, hcause, rfl⟩ | ⟨width, hwidth, ⟨cause, hcause, rfl⟩ | ⟨height, -, h⟩⟩)
      · exact .width hdivided hcause
      · exact .height hdivided hwidth hcause
      · exact h.elim
    · cases h with
      | undivided h => exact nomatch hsplit.symm.trans (splitSize_eq_none_iff.2 h)
      | width h hcause =>
        obtain ⟨rfl, rfl⟩ := honly h
        exact .inl ⟨_, hcause, rfl⟩
      | height h hwidth hcause =>
        obtain ⟨rfl, rfl⟩ := honly h
        exact .inr ⟨_, hwidth, .inl ⟨_, hcause, rfl⟩⟩

/-- What is written for a size measures it. -/
theorem measures_text (e : Extent) : Measures e.text.toList e := by
  have htext : e.text.toList
      = Nat.toDigits 10 e.width.toNat ++ 'x' :: Nat.toDigits 10 e.height.toNat := by
    change (toString e.width.toNat ++ "x" ++ toString e.height.toNat).toList = _
    simp
  refine ⟨_, _, ⟨'x', .inl rfl, htext, fun c hc => ?_⟩, within_toDigits e.width,
    within_toDigits e.height⟩
  exact not_or.2 ⟨ne_of_isDigit (isDigit_of_mem hc) rfl, ne_of_isDigit (isDigit_of_mem hc) rfl⟩

end CommandLine
end FrameGraph
