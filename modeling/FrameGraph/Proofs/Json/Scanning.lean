import Mathlib
import FrameGraph.Json.Print
import FrameGraph.Json.Scan

/-!
# Scanning what was printed

A document is `Written` if it is one that can be printed and read again: its numerals are
grammatical and worth something, its strings have no half pairs, its lists and records are
closed and not nested too deep, and no record has a key twice. The compact text of such a
document scans to that document.

A numeral has no end of its own, so what is printed behind a value matters: inside a document
that is a comma or a closing bracket (`Follows`). The fuel of the scanner suffices, since every
value takes one character at least, and every list and record two.

Results:
* `numeral?_chars`, `string?_escaped`: numerals and strings.
* `found_written`: values, in whatever they stand.
* `Reading.scan_compact`: whole texts.
-/
namespace FrameGraph.Json

/-! ## Numerals -/

/-- There is a digit, nothing behind a leading zero, and a digit in the exponent, if any. -/
structure Numeral.Grammatical (n : Numeral) : Prop where
  whole : n.whole ≠ []
  leading : ∀ d ds, n.whole ≠ 0 :: d :: ds
  exponent : ∀ negative, n.exponent ≠ some (negative, [])

namespace Numeral

/-- Nothing, or a point and digits. -/
def fractionChars (ds : List Digit) : List Char :=
  if ds = [] then [] else '.' :: ds.map Decimal.char

/-- Nothing, or the letter and a signed exponent. -/
def exponentChars : Option (Bool × List Digit) → List Char
  | none => []
  | some (negative, ds) => 'e' :: (if negative then '-' else '+') :: ds.map Decimal.char

theorem chars_eq (n : Numeral) :
    n.chars = (if n.negative then ['-'] else []) ++ (n.whole.map Decimal.char
      ++ (fractionChars n.fraction ++ exponentChars n.exponent)) := by
  unfold chars fractionChars exponentChars
  cases n.exponent <;> simp only [List.append_assoc]

end Numeral

namespace Scan

/-- What comes next is no part of a value. -/
def Follows (rest : List Char) : Prop := ∀ c ∈ rest.head?, c = ',' ∨ c = ']' ∨ c = '\x7d'

theorem follows_cons {c : Char} (h : c = ',' ∨ c = ']' ∨ c = '\x7d') (rest : List Char) :
    Follows (c :: rest) := by
  intro c' hc'
  cases hc'
  exact h

/-- What comes next is no digit. -/
def NoDigit (rest : List Char) : Prop := ∀ c ∈ rest.head?, Decimal.ofChar? c = none

theorem Follows.noDigit {rest : List Char} (h : Follows rest) : NoDigit rest := by
  intro c hc
  rcases h c hc with rfl | rfl | rfl <;> decide

theorem leadingDigits_append (ds : List Digit) {rest : List Char} (h : NoDigit rest) :
    leadingDigits (ds.map Decimal.char ++ rest) = (ds, rest) := by
  induction ds with
  | nil =>
    cases rest with
    | nil => rfl
    | cons c cs =>
      have hc : Decimal.ofChar? c = none := h c rfl
      simp only [List.map_nil, List.nil_append, leadingDigits, hc]
  | cons d ds ih =>
    simp only [List.map_cons, List.cons_append, leadingDigits, Decimal.ofChar?_char, ih]

theorem digits?_append {ds : List Digit} (hds : ds ≠ []) {rest : List Char} (h : NoDigit rest) :
    digits? (ds.map Decimal.char ++ rest) = some (ds, rest) := by
  unfold digits?
  rw [leadingDigits_append ds h]
  cases ds with
  | nil => exact absurd rfl hds
  | cons d ds => rfl

theorem whole?_append {ds : List Digit} (hds : ds ≠ []) (hleading : ∀ d ds', ds ≠ 0 :: d :: ds')
    {rest : List Char} (h : NoDigit rest) :
    whole? (ds.map Decimal.char ++ rest) = some (ds, rest) := by
  unfold whole?
  rw [digits?_append hds h]
  split
  · next d ds' _ hfound =>
    cases hfound
    exact absurd rfl (hleading d ds')
  · rfl

/-- What comes next is neither a digit nor a point. -/
def NoFraction (rest : List Char) : Prop :=
  ∀ c ∈ rest.head?, Decimal.ofChar? c = none ∧ c ≠ '.'

theorem NoFraction.noDigit {rest : List Char} (h : NoFraction rest) : NoDigit rest :=
  fun c hc => (h c hc).1

theorem fraction?_append (ds : List Digit) {rest : List Char} (h : NoFraction rest) :
    fraction? (Numeral.fractionChars ds ++ rest) = some (ds, rest) := by
  unfold Numeral.fractionChars
  split
  · next hds =>
    subst hds
    cases rest with
    | nil => rfl
    | cons c cs =>
      unfold fraction?
      split
      · next heq =>
        cases heq
        exact absurd rfl (h '.' rfl).2
      · rfl
  · next hds => exact digits?_append hds h.noDigit

theorem exponent?_append {e : Option (Bool × List Digit)} (he : ∀ negative, e ≠ some (negative, []))
    {rest : List Char} (h : Follows rest) :
    exponent? (Numeral.exponentChars e ++ rest) = some (e, rest) := by
  rcases e with _ | ⟨negative, ds⟩
  · cases rest with
    | nil => rfl
    | cons c cs => rcases h c rfl with rfl | rfl | rfl <;> rfl
  · have hds : ds ≠ [] := fun hds => he negative (by rw [hds])
    have hfound := digits?_append hds h.noDigit
    cases negative <;> simp only [Numeral.exponentChars, List.cons_append, Bool.false_eq_true,
      if_true, if_false, exponent?, signedExponent?, exponentDigits?, hfound, Option.map_some]

theorem noFraction_exponent (e : Option (Bool × List Digit)) {rest : List Char}
    (h : Follows rest) : NoFraction (Numeral.exponentChars e ++ rest) := by
  intro c hc
  rcases e with _ | ⟨negative, ds⟩
  · rcases h c hc with rfl | rfl | rfl <;> decide
  · cases hc
    decide

theorem noDigit_fraction (ds : List Digit) {rest : List Char} (h : NoFraction rest) :
    NoDigit (Numeral.fractionChars ds ++ rest) := by
  unfold Numeral.fractionChars
  split
  · exact h.noDigit
  · intro c hc
    cases hc
    decide

theorem unsigned?_append {n : Numeral} (hn : n.Grammatical) {rest : List Char} (h : Follows rest)
    (negative : Bool) :
    unsigned? negative (n.whole.map Decimal.char ++ (Numeral.fractionChars n.fraction
      ++ (Numeral.exponentChars n.exponent ++ rest))) = some ({ n with negative }, rest) := by
  have hrest := noFraction_exponent n.exponent h
  have hwhole := whole?_append hn.whole hn.leading (noDigit_fraction n.fraction hrest)
  have hfraction := fraction?_append n.fraction hrest
  have hexponent := exponent?_append hn.exponent h
  simp only [unsigned?, hwhole, hfraction, hexponent, bind, Option.bind_some, pure]

/-- A numeral starts with a minus or a digit. -/
theorem head_chars {n : Numeral} (hn : n.Grammatical) :
    ∃ c cs, n.chars = c :: cs ∧ (c = '-' ∨ ∃ d, c = Decimal.char d) := by
  rw [n.chars_eq]
  obtain ⟨d, ds, hwhole⟩ := List.exists_cons_of_ne_nil hn.whole
  cases n.negative with
  | true => exact ⟨_, _, rfl, .inl rfl⟩
  | false =>
    rw [hwhole]
    exact ⟨_, _, rfl, .inr ⟨d, rfl⟩⟩

theorem digit_ne (d : Digit) {c : Char} (hc : Decimal.ofChar? c = none) : Decimal.char d ≠ c := by
  rintro rfl
  rw [Decimal.ofChar?_char] at hc
  cases hc

/-- A numeral ends where nothing that follows is part of it. -/
theorem numeral?_chars {n : Numeral} (hn : n.Grammatical) {rest : List Char} (h : Follows rest) :
    numeral? (n.chars ++ rest) = some (n, rest) := by
  have hunsigned := unsigned?_append hn h n.negative
  rw [n.chars_eq]
  simp only [List.append_assoc]
  obtain ⟨negative, whole, fraction, exponent⟩ := n
  cases negative with
  | true => exact hunsigned
  | false =>
    obtain ⟨d, ds, rfl⟩ := List.exists_cons_of_ne_nil hn.whole
    simp only [Bool.false_eq_true, if_false, List.nil_append, List.map_cons, List.cons_append]
      at hunsigned ⊢
    unfold numeral?
    split
    · next heq => exact absurd (List.cons.inj heq).1 (digit_ne d rfl)
    · exact hunsigned

/-! ## Strings -/

/-- A letter behind a backslash. -/
theorem codes?_letter {e c : Char} (he : escaped? e = some c) (cs : List Char) :
    codes? ('\\' :: e :: cs) = (codes? cs).map fun found => (c.toNat :: found.1, found.2) := by
  have hu : e ≠ 'u' := by
    rintro rfl
    cases he
  rw [codes?.eq_def]
  split
  · next heq => cases heq
  · next heq => cases heq
  · next heq =>
    cases heq
    exact absurd rfl hu
  · next heq =>
    cases heq
    rw [he]
    cases codes? cs <;> rfl
  · next hescape heq =>
    cases heq
    exact (hescape e cs rfl rfl).elim

/-- A character that needs no escape. -/
theorem codes?_plain {c : Char} (hquote : c ≠ '"') (hbackslash : c ≠ '\\') (hc : ¬ c < ' ')
    (cs : List Char) :
    codes? (c :: cs) = (codes? cs).map fun found => (c.toNat :: found.1, found.2) := by
  rw [codes?.eq_def]
  split
  · next heq => cases heq
  · next heq => exact absurd (List.cons.inj heq).1 hquote
  · next heq => exact absurd (List.cons.inj heq).1 hbackslash
  · next heq => exact absurd (List.cons.inj heq).1 hbackslash
  · next heq =>
    cases heq
    rw [if_neg hc]
    cases codes? cs <;> rfl

/-- A printed character gives its code again. -/
theorem codes?_escape (c : Char) (cs : List Char) :
    codes? (Print.escape c ++ cs) = (codes? cs).map fun found => (c.toNat :: found.1, found.2) := by
  unfold Print.escape
  split
  · next hc =>
    subst hc
    exact codes?_letter rfl cs
  split
  · next hc =>
    subst hc
    exact codes?_letter rfl cs
  split
  · next hc =>
    subst hc
    exact codes?_letter rfl cs
  split
  · next hc =>
    subst hc
    exact codes?_letter rfl cs
  split
  · next hc =>
    subst hc
    exact codes?_letter rfl cs
  split
  · next hc =>
    subst hc
    exact codes?_letter rfl cs
  split
  · next hc =>
    subst hc
    exact codes?_letter rfl cs
  split
  · next hc =>
    have hunit : ∀ k < 32, hexUnit? '0' '0' (Nat.digitChar (k / 16)) (Nat.digitChar (k % 16))
        = some k := by decide
    have hlt : c.toNat < 32 := hc
    simp only [List.cons_append, List.nil_append, codes?, hunit c.toNat hlt, bind,
      Option.bind_some]
    cases codes? cs <;> rfl
  · next hquote hbackslash _ _ _ _ _ hc => exact codes?_plain hquote hbackslash hc cs

theorem codes?_flatMap (cs rest : List Char) :
    codes? (cs.flatMap Print.escape ++ '"' :: rest) = some (cs.map Char.toNat, rest) := by
  induction cs with
  | nil => rw [List.flatMap_nil, List.nil_append, codes?, List.map_nil]
  | cons c cs ih =>
    rw [List.flatMap_cons, List.append_assoc, codes?_escape, ih]
    rfl

/-- No character is half of a pair. -/
theorem not_half (c : Char) : isHighHalf c.toNat = false ∧ isLowHalf c.toNat = false := by
  have hvalid : c.toNat < 0xd800 ∨ 0xdfff < c.toNat ∧ c.toNat < 0x110000 := c.valid
  simp only [isHighHalf, isLowHalf, decide_eq_false_iff_not]
  omega

theorem joinPairs_map (cs : List Char) : joinPairs (cs.map Char.toNat) = some cs := by
  induction cs with
  | nil => rfl
  | cons c cs ih =>
    obtain ⟨hhigh, hlow⟩ := not_half c
    cases cs with
    | nil =>
      simp only [List.map_cons, List.map_nil, joinPairs, hhigh, hlow, Bool.or_self,
        Bool.false_eq_true, if_false, Char.ofNat_toNat]
    | cons c' cs =>
      simp only [List.map_cons] at ih ⊢
      simp only [joinPairs, hhigh, hlow, Bool.false_eq_true, if_false, ih, Option.map_some,
        Char.ofNat_toNat]

/-- A printed string, behind its opening quote. -/
theorem string?_escaped (s : String) (rest : List Char) :
    string? (s.toList.flatMap Print.escape ++ '"' :: rest) = some (some s, rest) := by
  simp only [string?, codes?_flatMap, Option.map_some, joinPairs_map, String.ofList_toList]

end Scan

/-! ## Documents -/

/-- Fields under their names. -/
def Doc.named (fs : List (String × Doc)) : List (Key × Doc) := fs.map fun f => (.name f.1, f.2)

/-- A document that can be printed and read again, nested `n` deep at most. -/
inductive Doc.Written : Nat → Doc → Prop where
  | null (n : Nat) : Written n .null
  | bool (n : Nat) (b : Bool) : Written n (.bool b)
  | number (n : Nat) {numeral : Numeral} (grammatical : numeral.Grammatical)
    (worth : numeral.number?.isSome) : Written n (.number numeral)
  | string (n : Nat) (s : String) : Written n (Doc.text s)
  | items {n : Nat} {ds : List Doc} (items : ∀ d ∈ ds, Written n d) : Written (n + 1) (Doc.items ds)
  | fields {n : Nat} {fs : List (String × Doc)} (keys : (fs.map Prod.fst).Nodup)
    (fields : ∀ f ∈ fs, Written n f.2) : Written (n + 1) (Doc.fields fs)

namespace Scan

variable {n : Nat} {d : Doc}

theorem skipBlanks_cons {c : Char} (h : isBlank c = false) (rest : List Char) :
    skipBlanks (c :: rest) = c :: rest := by
  rw [skipBlanks, List.dropWhile_cons, h]
  rfl

/-- A value starts with neither a blank nor a closing bracket. -/
def Opens (cs : List Char) : Prop := ∃ c rest, cs = c :: rest ∧ isBlank c = false ∧ c ≠ ']'

theorem Opens.append {cs : List Char} (h : Opens cs) (rest : List Char) : Opens (cs ++ rest) := by
  obtain ⟨c, front, rfl, hc⟩ := h
  exact ⟨c, front ++ rest, rfl, hc⟩

theorem Opens.skipBlanks {cs : List Char} (h : Opens cs) : skipBlanks cs = cs := by
  obtain ⟨c, rest, rfl, hblank, -⟩ := h
  exact skipBlanks_cons hblank rest

theorem opens_digit : ∀ d : Digit, isBlank (Decimal.char d) = false ∧ Decimal.char d ≠ ']' := by
  decide

theorem opens_number {numeral : Numeral} (h : numeral.Grammatical) :
    Opens (Print.value (.number numeral)) := by
  obtain ⟨c, cs, hchars, rfl | ⟨d, rfl⟩⟩ := head_chars h
  · exact ⟨_, _, hchars, rfl, by decide⟩
  · exact ⟨_, _, hchars, opens_digit d⟩

theorem opens_value (h : d.Written n) : Opens (Print.value d) := by
  cases h with
  | null => exact ⟨_, _, rfl, rfl, by decide⟩
  | bool _ b => cases b <;> exact ⟨_, _, rfl, rfl, by decide⟩
  | number _ grammatical => exact opens_number grammatical
  | string _ s => exact ⟨_, _, rfl, rfl, by decide⟩
  | items => exact ⟨_, _, rfl, rfl, by decide⟩
  | fields => exact ⟨_, _, rfl, rfl, by decide⟩

/-- The scanner finds this document in front of whatever is no part of it. -/
def Found (d : Doc) : Prop := ∀ fuel rest, 2 * (Print.value d).length ≤ fuel → Follows rest →
  value fuel (Print.value d ++ rest) = (d, some rest)

/-- What starts like a numeral is scanned as one. -/
theorem value_numeral {c : Char} (hc : c = '-' ∨ ∃ d, c = Decimal.char d) (fuel : Nat)
    (cs : List Char) :
    value (fuel + 1) (c :: cs)
      = match numeral? (c :: cs) with
        | some (n, rest) => (.number n, some rest)
        | none => (.broken, none) := by
  rcases hc with rfl | ⟨d, rfl⟩
  · rfl
  · fin_cases d <;> rfl

theorem found_number {numeral : Numeral} (h : numeral.Grammatical) : Found (.number numeral) := by
  intro fuel rest hfuel hrest
  obtain ⟨c, cs, hchars, hc⟩ := head_chars h
  have hnumeral := numeral?_chars h hrest
  have hvalue : Print.value (.number numeral) = c :: cs := hchars
  rw [hvalue] at hfuel ⊢
  rw [hchars] at hnumeral
  cases fuel with
  | zero => cases hfuel
  | succ fuel =>
    rw [List.cons_append] at hnumeral ⊢
    rw [value_numeral hc, hnumeral]

theorem found_string (s : String) : Found (Doc.text s) := by
  intro fuel rest hfuel _
  cases fuel with
  | zero => cases hfuel
  | succ fuel =>
    have hprint : Print.value (Doc.text s) ++ rest
        = '"' :: (s.toList.flatMap Print.escape ++ '"' :: rest) := by
      simp only [Doc.text, Print.value, Print.quoted, List.cons_append, List.append_assoc,
        List.nil_append]
    rw [hprint, value, string?_escaped]
    rfl

/-! ### Lists -/

/-- The items of a list start like its first one. -/
theorem opens_items {ds : List Doc} (hopens : ∀ d ∈ ds, Opens (Print.value d)) (hds : ds ≠ []) :
    Opens (Print.items ds) := by
  match ds with
  | [d] => exact hopens d List.mem_cons_self
  | d :: d' :: ds => exact (hopens d List.mem_cons_self).append _

/-- Each item takes a step, and as many as it has characters, twice. -/
theorem items_print {ds : List Doc} (hfound : ∀ d ∈ ds, Found d)
    (hopens : ∀ d ∈ ds, Opens (Print.value d)) (hds : ds ≠ []) {fuel : Nat}
    (hfuel : 2 * (Print.items ds).length + 1 ≤ fuel) (rest : List Char) :
    items fuel (Print.items ds ++ ']' :: rest) = (ds, some rest) := by
  induction ds generalizing fuel with
  | nil => exact absurd rfl hds
  | cons d ds ih =>
    obtain ⟨hd, hrest⟩ := List.forall_mem_cons.1 hfound
    cases fuel with
    | zero => cases hfuel
    | succ fuel =>
      cases ds with
      | nil =>
        have hfollows : Follows (']' :: rest) := follows_cons (.inr (.inl rfl)) rest
        rw [Print.items] at hfuel ⊢
        rw [items, hd fuel _ (by omega) hfollows]
        rfl
      | cons d' ds =>
        have hfollows := follows_cons (.inl rfl) (Print.items (d' :: ds) ++ ']' :: rest)
        have hprint : Print.items (d :: d' :: ds) ++ ']' :: rest
            = Print.value d ++ ',' :: (Print.items (d' :: ds) ++ ']' :: rest) := by
          rw [Print.items, List.append_assoc, List.cons_append]
        have hlength : (Print.items (d :: d' :: ds)).length
            = (Print.value d).length + ((Print.items (d' :: ds)).length + 1) := by
          rw [Print.items, List.length_append, List.length_cons]
        obtain ⟨-, hopens'⟩ := List.forall_mem_cons.1 hopens
        have hnext := (opens_items hopens' (by simp)).append (']' :: rest)
        rw [hprint, items, hd fuel _ (by omega) hfollows]
        have hfuel : 2 * (Print.items (d' :: ds)).length + 1 ≤ fuel := by omega
        have hih := ih hrest hopens' (by simp) hfuel
        simp only [skipBlanks_cons (c := ',') rfl, hnext.skipBlanks, hih]

theorem found_items {ds : List Doc} (hfound : ∀ d ∈ ds, Found d)
    (hopens : ∀ d ∈ ds, Opens (Print.value d)) : Found (Doc.items ds) := by
  intro fuel rest hfuel _
  have hprint : Print.value (Doc.items ds) = '[' :: (Print.items ds ++ [']']) := rfl
  rw [hprint, List.length_cons, List.length_append, List.length_singleton] at hfuel
  rw [hprint, List.cons_append, List.append_assoc, List.singleton_append]
  cases fuel with
  | zero => cases hfuel
  | succ fuel =>
    by_cases hds : ds = []
    · subst hds
      rfl
    · have hbound : 2 * (Print.items ds).length + 1 ≤ fuel := by omega
      have hitems := items_print hfound hopens hds hbound rest
      obtain ⟨c, cs, hcs, hblank, hc⟩ := (opens_items hopens hds).append (']' :: rest)
      rw [hcs] at hitems ⊢
      rw [value, skipBlanks_cons hblank]
      split
      · next heq => exact absurd (List.cons.inj heq).1 hc
      · rw [hitems]
        rfl

/-! ### Records -/

/-- What is printed behind a first field. -/
def others : List (String × Doc) → List Char
  | [] => []
  | f :: fs => ',' :: Print.fields (Doc.named (f :: fs))

/-- A field starts with the quote of its key. -/
theorem fields_cons (f : String × Doc) (fs : List (String × Doc)) (rest : List Char) :
    Print.fields (Doc.named (f :: fs)) ++ rest
      = '"' :: (f.1.toList.flatMap Print.escape
        ++ '"' :: ':' :: (Print.value f.2 ++ (others fs ++ rest))) := by
  cases fs <;> simp [others, Doc.named, Print.fields, Print.key, Print.quoted]

/-- Each field takes a step, and as many as its value has characters, twice. -/
theorem fields_print {fs : List (String × Doc)} (hfound : ∀ f ∈ fs, Found f.2)
    (hopens : ∀ f ∈ fs, Opens (Print.value f.2)) (hfs : fs ≠ []) {fuel : Nat}
    (hfuel : 2 * (Print.fields (Doc.named fs)).length + 1 ≤ fuel) (rest : List Char) :
    fields fuel (Print.fields (Doc.named fs) ++ '\x7d' :: rest) = (Doc.named fs, some rest) := by
  induction fs generalizing fuel with
  | nil => exact absurd rfl hfs
  | cons f fs ih =>
    obtain ⟨hf, hfound⟩ := List.forall_mem_cons.1 hfound
    obtain ⟨hopensf, hopens⟩ := List.forall_mem_cons.1 hopens
    have hlength := congrArg List.length (fields_cons f fs [])
    simp only [List.append_nil, List.length_cons, List.length_append] at hlength
    cases fuel with
    | zero => cases hfuel
    | succ fuel =>
      rw [fields_cons, fields, string?_escaped]
      simp only [skipBlanks_cons (c := ':') rfl]
      cases fs with
      | nil =>
        have hfollows : Follows ('\x7d' :: rest) := follows_cons (.inr (.inr rfl)) rest
        rw [(hopensf.append _).skipBlanks, others, List.nil_append, hf fuel _ (by omega) hfollows]
        rfl
      | cons f' fs =>
        have hfollows := follows_cons (.inl rfl)
          (Print.fields (Doc.named (f' :: fs)) ++ '\x7d' :: rest)
        rw [others, List.length_cons] at hlength
        have hih := ih hfound hopens (by simp) (by omega :
          2 * (Print.fields (Doc.named (f' :: fs))).length + 1 ≤ fuel)
        rw [(hopensf.append _).skipBlanks, others, List.cons_append, hf fuel _ (by omega) hfollows]
        rw [fields_cons] at hih ⊢
        simp only [skipBlanks_cons (c := ',') rfl, skipBlanks_cons (c := '"') rfl, hih]
        rfl

theorem found_fields {fs : List (String × Doc)} (hfound : ∀ f ∈ fs, Found f.2)
    (hopens : ∀ f ∈ fs, Opens (Print.value f.2)) : Found (Doc.fields fs) := by
  intro fuel rest hfuel _
  have hprint : Print.value (Doc.fields fs)
      = '\x7b' :: (Print.fields (Doc.named fs) ++ ['\x7d']) := rfl
  rw [hprint, List.length_cons, List.length_append, List.length_singleton] at hfuel
  rw [hprint, List.cons_append, List.append_assoc, List.singleton_append]
  cases fuel with
  | zero => cases hfuel
  | succ fuel =>
    cases fs with
    | nil => rfl
    | cons f fs =>
      have hbound : 2 * (Print.fields (Doc.named (f :: fs))).length + 1 ≤ fuel := by omega
      have hfields := fields_print hfound hopens (by simp) hbound rest
      rw [fields_cons] at hfields ⊢
      rw [value, skipBlanks_cons rfl]
      split
      · next heq => exact absurd (List.cons.inj heq).1 (by decide)
      · rw [hfields]
        rfl

/-! ### Whole texts -/

/-- Whatever was written is found again. -/
theorem found_written (h : d.Written n) : Found d := by
  induction h with
  | null n =>
    intro fuel rest hfuel _
    cases fuel with
    | zero => cases hfuel
    | succ fuel => rfl
  | bool n b =>
    intro fuel rest hfuel _
    cases fuel with
    | zero => cases b <;> cases hfuel
    | succ fuel => cases b <;> rfl
  | number n grammatical => exact found_number grammatical
  | string n s => exact found_string s
  | items items ih => exact found_items ih fun d hd => opens_value (items d hd)
  | fields keys fields ih => exact found_fields ih fun f hf => opens_value (fields f hf)

end Scan

/-- A document that is found in its own text is all of it. -/
theorem Reading.scan_found {d : Doc} (hopens : Scan.Opens (Print.value d)) (hfound : Scan.Found d) :
    Reading.scan d.compact = ⟨d, true⟩ := by
  have hfollows : Scan.Follows [] := nofun
  have hvalue := hfound (2 * (Print.value d).length + 2) [] (by omega) hfollows
  rw [List.append_nil] at hvalue
  have hskip : Scan.skipBlanks [] = [] := rfl
  simp only [Reading.scan, Doc.compact, String.toList_ofList, hopens.skipBlanks, hvalue, hskip,
    decide_true]

/-- The compact text of what was written denotes just that. -/
theorem Reading.scan_compact {n : Nat} {d : Doc} (h : d.Written n) :
    Reading.scan d.compact = ⟨d, true⟩ :=
  scan_found (Scan.opens_value h) (Scan.found_written h)

end FrameGraph.Json
