import Mathlib
import FrameGraph.Proofs.CommandLine.Values

/-!
# Pairs of a flag and its value

A command line is a sequence of pairs of a flag, in one of its spellings, and a value that fits
the flag; the value is taken as it stands, so one that looks like a flag is a value like any
other. What such a line says is told field by field: the last value of its flag, or what was
there before. Any other line goes wrong at its first pair that is none, and says what is wrong
with that pair alone.

Results:
* `ofString?_eq_some_iff`: the spellings of the flags.
* `verdict_set`: what a pair does.
* `holds_cons_iff`, `refused_cons_iff`: a pair and what follows it.
* `verdict_parseFrom`: reading follows the grammar, whatever is known before.
* `arguments_read_as_pairs`: the lines that are accepted, what they say, and what the others are
  refused for.
-/
namespace FrameGraph.CommandLine

/-! ## Flags -/

/-- How the flags are spelt. -/
def spellings : List (String × Flag) :=
  [("--bundle", .bundle), ("--frames", .frames), ("--size", .size), ("--output", .output),
    ("-o", .output), ("--config", .config)]

theorem ofString?_eq_some_iff {argument : String} {flag : Flag} :
    Flag.ofString? argument = some flag ↔ (argument, flag) ∈ spellings := by
  constructor
  · intro h
    unfold Flag.ofString? at h
    split at h
    · next hshort =>
      obtain rfl := Option.some.inj h
      simp [spellings, hshort]
    · have hname := List.find?_some h
      obtain rfl := of_decide_eq_true hname
      cases flag <;> simp [spellings, Flag.name]
  · intro h
    simp only [spellings, List.mem_cons, Prod.mk.injEq, List.not_mem_nil, or_false] at h
    rcases h with ⟨rfl, rfl⟩ | ⟨rfl, rfl⟩ | ⟨rfl, rfl⟩ | ⟨rfl, rfl⟩ | ⟨rfl, rfl⟩ | ⟨rfl, rfl⟩
    all_goals rfl

theorem ofString?_eq_none_iff {argument : String} :
    Flag.ofString? argument = none ↔ ∀ flag, (argument, flag) ∉ spellings := by
  simp only [Option.eq_none_iff_forall_ne_some, ne_eq, ofString?_eq_some_iff]

/-- A spelling is that of one flag. -/
theorem flag_unique {argument : String} {f g : Flag} (hf : (argument, f) ∈ spellings)
    (hg : (argument, g) ∈ spellings) : f = g :=
  Option.some.inj ((ofString?_eq_some_iff.2 hf).symm.trans (ofString?_eq_some_iff.2 hg))

/-- A value that the flag can be set to. -/
def Fits : Flag → String → Prop
  | .frames, value => ∃ n, Denotes value.toList n
  | .size, value => ∃ e, Measures value.toList e
  | _, _ => True

/-- What is wrong with a value that does not fit. -/
inductive Faulty : Flag → String → ArgumentError → Prop where
  | frames {value : String} {cause : NumberError} (h : Misspelt value.toList cause) :
      Faulty .frames value (.invalidFrames value cause)
  | size {value : String} {e : ArgumentError} (h : Mismeasured value e) : Faulty .size value e

/-! ## What pairs say -/

/-- The last value that a flag is given. -/
def last? (flag : Flag) (pairs : List (Flag × String)) : Option String := pairs.reverse.lookup flag

/-- A field behind the last value that its flag is given, if it is given one. -/
def Told {α : Type} (means : String → α → Prop) (value? : Option String) (before after : α) :
    Prop :=
  match value? with
  | none => after = before
  | some value => means value after

/-- The arguments `b` are what the pairs say, and where they say nothing, as in `a`. -/
structure Holds (a : Arguments) (pairs : List (Flag × String)) (b : Arguments) : Prop where
  bundle : Told (fun value path => path = some value) (last? .bundle pairs) a.bundle b.bundle
  frames : Told (fun value n => Denotes value.toList n) (last? .frames pairs) a.frames b.frames
  size : Told (fun value e => Measures value.toList e) (last? .size pairs) a.size b.size
  output : Told (fun value path => path = value) (last? .output pairs) a.output b.output
  config : Told (fun value path => path = some value) (last? .config pairs) a.config b.config

theorem last?_singleton (flag f : Flag) (value : String) :
    last? flag [(f, value)] = if flag = f then some value else none := by
  unfold last?
  by_cases h : flag = f
  · simp [h]
  · simp [List.lookup_cons, beq_false_of_ne h, h]

theorem last?_cons (flag : Flag) (pair : Flag × String) (pairs : List (Flag × String)) :
    last? flag (pair :: pairs) = (last? flag pairs).or (last? flag [pair]) := by
  unfold last?
  rw [List.reverse_cons, List.lookup_append]
  rfl

/-- A pair tells a field if no later one does. -/
theorem told_cons_iff {α : Type} {means : String → α → Prop} {flag f : Flag} {value : String}
    (hfits : flag = f → ∃ x, means value x) {pairs : List (Flag × String)} {before after : α} :
    Told means (last? flag ((f, value) :: pairs)) before after ↔
      ∃ x, Told means (last? flag [(f, value)]) before x ∧
        Told means (last? flag pairs) x after := by
  rw [last?_cons, last?_singleton]
  cases last? flag pairs with
  | none => simp [Told]
  | some later =>
    -- What the pair tells is overwritten, so all that it needs is to fit.
    have hexists : ∃ x, Told means (if flag = f then some value else none) before x := by
      by_cases h : flag = f
      · rw [if_pos h]
        exact hfits h
      · rw [if_neg h]
        exact ⟨before, rfl⟩
    exact ⟨fun h => hexists.imp fun x hx => ⟨hx, h⟩, fun ⟨x, _, h⟩ => h⟩

theorem holds_cons_iff {f : Flag} {value : String} (hfits : Fits f value)
    {pairs : List (Flag × String)} {a c : Arguments} :
    Holds a ((f, value) :: pairs) c ↔ ∃ b, Holds a [(f, value)] b ∧ Holds b pairs c := by
  have hpath : ∀ flag, flag = f → ∃ path, path = some value := fun _ _ => ⟨_, rfl⟩
  have houtput : Flag.output = f → ∃ path, path = value := fun _ => ⟨_, rfl⟩
  have hframes : Flag.frames = f → ∃ n, Denotes value.toList n := by
    rintro rfl
    exact hfits
  have hsize : Flag.size = f → ∃ e, Measures value.toList e := by
    rintro rfl
    exact hfits
  constructor
  · intro h
    obtain ⟨bundle, hb, hb'⟩ := (told_cons_iff (hpath .bundle)).1 h.bundle
    obtain ⟨frames, hf, hf'⟩ := (told_cons_iff hframes).1 h.frames
    obtain ⟨size, hs, hs'⟩ := (told_cons_iff hsize).1 h.size
    obtain ⟨output, ho, ho'⟩ := (told_cons_iff houtput).1 h.output
    obtain ⟨config, hc, hc'⟩ := (told_cons_iff (hpath .config)).1 h.config
    exact ⟨⟨bundle, frames, size, output, config⟩, ⟨hb, hf, hs, ho, hc⟩, ⟨hb', hf', hs', ho', hc'⟩⟩
  · rintro ⟨b, h, h'⟩
    exact ⟨(told_cons_iff (hpath .bundle)).2 ⟨_, h.bundle, h'.bundle⟩,
      (told_cons_iff hframes).2 ⟨_, h.frames, h'.frames⟩,
      (told_cons_iff hsize).2 ⟨_, h.size, h'.size⟩,
      (told_cons_iff houtput).2 ⟨_, h.output, h'.output⟩,
      (told_cons_iff (hpath .config)).2 ⟨_, h.config, h'.config⟩⟩

/-- A value fits a flag if there are arguments that it leads to. -/
theorem fits_iff {flag : Flag} {value : String} (a : Arguments) :
    Fits flag value ↔ ∃ b, Holds a [(flag, value)] b := by
  cases flag with
  | bundle =>
    exact iff_of_true trivial ⟨{ a with bundle := some value }, rfl, rfl, rfl, rfl, rfl⟩
  | frames =>
    exact ⟨fun ⟨n, hn⟩ => ⟨{ a with frames := n }, rfl, hn, rfl, rfl, rfl⟩,
      fun ⟨b, hb⟩ => ⟨b.frames, hb.frames⟩⟩
  | size =>
    exact ⟨fun ⟨e, he⟩ => ⟨{ a with size := e }, rfl, rfl, he, rfl, rfl⟩,
      fun ⟨b, hb⟩ => ⟨b.size, hb.size⟩⟩
  | output => exact iff_of_true trivial ⟨{ a with output := value }, rfl, rfl, rfl, rfl, rfl⟩
  | config =>
    exact iff_of_true trivial ⟨{ a with config := some value }, rfl, rfl, rfl, rfl, rfl⟩

theorem verdict_set (a : Arguments) (flag : Flag) (value : String) :
    Verdict (a.set flag value) (Holds a [(flag, value)]) (Faulty flag value) := by
  cases flag with
  | bundle | output | config =>
    refine (Verdict.ok _).congr (fun b => ⟨?_, fun h => ?_⟩) (fun e => ⟨False.elim, nofun⟩)
    · rintro rfl
      exact ⟨rfl, rfl, rfl, rfl, rfl⟩
    · exact Eq.symm (Arguments.ext h.bundle h.frames h.size h.output h.config)
  | frames =>
    have hread := (verdict_parseNumber value.toList).mapError (ArgumentError.invalidFrames value)
    have hset := hread.bind fun n => Verdict.ok { a with frames := n }
    refine hset.congr (fun b => ⟨?_, fun h => ?_⟩) (fun e => ⟨?_, fun h => ?_⟩)
    · rintro ⟨n, hn, rfl⟩
      exact ⟨rfl, hn, rfl, rfl, rfl⟩
    · exact ⟨b.frames, h.frames, Eq.symm (Arguments.ext h.bundle rfl h.size h.output h.config)⟩
    · rintro (⟨cause, hcause, rfl⟩ | ⟨n, -, h⟩)
      · exact .frames hcause
      · exact h.elim
    · cases h with
      | frames hcause => exact .inl ⟨_, hcause, rfl⟩
  | size =>
    have hset := (verdict_parseSize value).bind fun size => Verdict.ok { a with size }
    refine hset.congr (fun b => ⟨?_, fun h => ?_⟩) (fun e => ⟨?_, fun h => ?_⟩)
    · rintro ⟨size, hsize, rfl⟩
      exact ⟨rfl, rfl, hsize, rfl, rfl⟩
    · exact ⟨b.size, h.size, Eq.symm (Arguments.ext h.bundle h.frames rfl h.output h.config)⟩
    · rintro (h | ⟨size, -, h⟩)
      · exact .size h
      · exact h.elim
    · cases h with
      | size h => exact .inl h

/-! ## Lines -/

/-- The lines that are pairs, each of a flag and of a value that fits it. -/
inductive Spells : List String → List (Flag × String) → Prop where
  | nil : Spells [] []
  | cons {argument value : String} {flag : Flag} {rest : List String}
      {pairs : List (Flag × String)} (named : (argument, flag) ∈ spellings)
      (fits : Fits flag value) (h : Spells rest pairs) :
      Spells (argument :: value :: rest) ((flag, value) :: pairs)

/-- What is wrong with the pair that a line begins with. -/
inductive Offends : List String → ArgumentError → Prop where
  | unknown {argument : String} {rest : List String}
      (unnamed : ∀ flag, (argument, flag) ∉ spellings) :
      Offends (argument :: rest) (.unknown argument)
  | missing {argument : String} {flag : Flag} (named : (argument, flag) ∈ spellings) :
      Offends [argument] (.missingValue flag.name)
  | faulty {argument value : String} {flag : Flag} {rest : List String} {e : ArgumentError}
      (named : (argument, flag) ∈ spellings) (fault : Faulty flag value e) :
      Offends (argument :: value :: rest) e

/-- What is wrong with the first pair of a line that is none. -/
def Refused (line : List String) (e : ArgumentError) : Prop :=
  ∃ front pairs rest, line = front ++ rest ∧ Spells front pairs ∧ Offends rest e

section
variable {argument value : String} {flag : Flag} {rest : List String}

theorem Spells.exists_holds {line : List String} {pairs : List (Flag × String)}
    (h : Spells line pairs) (a : Arguments) : ∃ b, Holds a pairs b := by
  induction h generalizing a with
  | nil => exact ⟨a, rfl, rfl, rfl, rfl, rfl⟩
  | cons named fits h ih =>
    obtain ⟨b, hb⟩ := (fits_iff a).1 fits
    obtain ⟨c, hc⟩ := ih b
    exact ⟨c, (holds_cons_iff fits).2 ⟨b, hb, hc⟩⟩

/-- A line is refused for its first pair or for what follows a pair that fits. -/
theorem refused_cons_iff (named : (argument, flag) ∈ spellings) {e : ArgumentError} :
    Refused (argument :: value :: rest) e ↔
      Faulty flag value e ∨ Fits flag value ∧ Refused rest e := by
  constructor
  · rintro ⟨front, pairs, behind, hline, hfront, hoffends⟩
    cases hfront with
    | nil =>
      obtain rfl := hline
      cases hoffends with
      | unknown unnamed => exact absurd named (unnamed flag)
      | faulty named' fault => exact .inl (flag_unique named named' ▸ fault)
    | cons named' fits h =>
      simp only [List.cons_append, List.cons.injEq] at hline
      obtain ⟨rfl, rfl, rfl⟩ := hline
      exact .inr ⟨flag_unique named named' ▸ fits, _, _, _, rfl, h, hoffends⟩
  · rintro (fault | ⟨fits, front, pairs, behind, rfl, h, hoffends⟩)
    · exact ⟨[], [], _, rfl, .nil, .faulty named fault⟩
    · exact ⟨_, _, _, rfl, .cons named fits h, hoffends⟩

theorem spells_cons_iff (named : (argument, flag) ∈ spellings) {pairs : List (Flag × String)} :
    Spells (argument :: value :: rest) pairs ↔
      Fits flag value ∧ ∃ ps, Spells rest ps ∧ pairs = (flag, value) :: ps := by
  constructor
  · intro h
    cases h with
    | cons named' fits h =>
      obtain rfl := flag_unique named named'
      exact ⟨fits, _, h, rfl⟩
  · rintro ⟨fits, ps, h, rfl⟩
    exact .cons named fits h

theorem not_refused_nil {e : ArgumentError} : ¬ Refused [] e := by
  rintro ⟨front, pairs, rest, hline, -, hoffends⟩
  obtain ⟨-, rfl⟩ := List.append_eq_nil_iff.1 hline.symm
  cases hoffends

theorem refused_unnamed_iff (hunnamed : ∀ flag, (argument, flag) ∉ spellings)
    {e : ArgumentError} : Refused (argument :: rest) e ↔ .unknown argument = e := by
  constructor
  · rintro ⟨front, pairs, behind, hline, hfront, hoffends⟩
    cases hfront with
    | nil =>
      obtain rfl := hline
      cases hoffends with
      | unknown => rfl
      | missing named => exact absurd named (hunnamed _)
      | faulty named => exact absurd named (hunnamed _)
    | cons named =>
      obtain ⟨rfl, -⟩ := List.cons.inj hline
      exact absurd named (hunnamed _)
  · rintro rfl
    exact ⟨[], [], _, rfl, .nil, .unknown hunnamed⟩

theorem refused_single_iff (named : (argument, flag) ∈ spellings) {e : ArgumentError} :
    Refused [argument] e ↔ .missingValue flag.name = e := by
  constructor
  · rintro ⟨front, pairs, behind, hline, hfront, hoffends⟩
    cases hfront with
    | nil =>
      obtain rfl := hline
      cases hoffends with
      | unknown unnamed => exact absurd named (unnamed flag)
      | missing named' => rw [flag_unique named named']
    | cons => simp at hline
  · rintro rfl
    exact ⟨[], [], _, rfl, .nil, .missing named⟩

end

theorem verdict_unnamed {argument : String} (hunnamed : ∀ flag, (argument, flag) ∉ spellings)
    (a : Arguments) (rest : List String) :
    Verdict (.error (.unknown argument) : Except ArgumentError Arguments)
      (fun b => ∃ pairs, Spells (argument :: rest) pairs ∧ Holds a pairs b)
      (Refused (argument :: rest)) := by
  refine (Verdict.error _).congr (fun b => iff_of_false id ?_)
    (fun e => (refused_unnamed_iff hunnamed).symm)
  rintro ⟨pairs, hpairs, -⟩
  cases hpairs with
  | cons named => exact hunnamed _ named

/-- Reading follows the grammar, whatever is known already. -/
theorem verdict_parseFrom (a : Arguments) (line : List String) :
    Verdict (parseFrom a line) (fun b => ∃ pairs, Spells line pairs ∧ Holds a pairs b)
      (Refused line) := by
  fun_induction parseFrom a line with
  | case1 a =>
    refine (Verdict.ok a).congr (fun b => ⟨?_, ?_⟩) (fun e => iff_of_false id not_refused_nil)
    · rintro rfl
      exact ⟨[], .nil, rfl, rfl, rfl, rfl, rfl⟩
    · rintro ⟨pairs, hpairs, h⟩
      cases hpairs
      exact Eq.symm (Arguments.ext h.bundle h.frames h.size h.output h.config)
  | case2 a argument hnone => exact verdict_unnamed (ofString?_eq_none_iff.1 hnone) a []
  | case3 a argument flag hsome =>
    have hnamed := ofString?_eq_some_iff.1 hsome
    refine (Verdict.error _).congr (fun b => iff_of_false id ?_)
      (fun e => (refused_single_iff hnamed).symm)
    rintro ⟨pairs, hpairs, -⟩
    cases hpairs
  | case4 a argument value rest hnone =>
    exact verdict_unnamed (ofString?_eq_none_iff.1 hnone) a (value :: rest)
  | case5 a argument value rest flag hsome ih =>
    have hnamed := ofString?_eq_some_iff.1 hsome
    refine ((verdict_set a flag value).bind ih).congr (fun b => ⟨?_, ?_⟩) (fun e => ?_)
    · rintro ⟨b', hb', pairs, hpairs, hb⟩
      have hfits := (fits_iff a).2 ⟨b', hb'⟩
      exact ⟨_, .cons hnamed hfits hpairs, (holds_cons_iff hfits).2 ⟨b', hb', hb⟩⟩
    · rintro ⟨pairs, hpairs, hb⟩
      obtain ⟨hfits, ps, hps, rfl⟩ := (spells_cons_iff hnamed).1 hpairs
      obtain ⟨b', hb', hb⟩ := (holds_cons_iff hfits).1 hb
      exact ⟨b', hb', ps, hps, hb⟩
    · rw [refused_cons_iff hnamed, fits_iff a, exists_and_right]

/-- A line is accepted exactly if it is pairs that fit. The fields are then as their last values
say, or as at the start; any other line is refused for its first pair that is none. A size may be
given as it is written. -/
theorem arguments_read_as_pairs (line : List String) :
    ((∃ a, parse line = .ok a) ↔ ∃ pairs, Spells line pairs) ∧
    (∀ a, parse line = .ok a ↔
      ∃ pairs, Spells line pairs ∧ Holds ⟨none, 1, ⟨256, 256⟩, "out.png", none⟩ pairs a) ∧
    (∀ e, parse line = .error e ↔
      ∃ front pairs rest, line = front ++ rest ∧ Spells front pairs ∧ Offends rest e) ∧
    ∀ e : Extent, parseSize e.text = .ok e ∧
      parse ["--size", e.text] = .ok ⟨none, 1, e, "out.png", none⟩ := by
  have hline := verdict_parseFrom {} line
  have hsize : ∀ e : Extent, parseSize e.text = .ok e := fun e =>
    ((verdict_parseSize e.text).ok_iff e).2 (measures_text e)
  refine ⟨⟨?_, ?_⟩, hline.ok_iff, hline.error_iff, fun e => ⟨hsize e, ?_⟩⟩
  · rintro ⟨a, ha⟩
    obtain ⟨pairs, hpairs, -⟩ := (hline.ok_iff a).1 ha
    exact ⟨pairs, hpairs⟩
  · rintro ⟨pairs, hpairs⟩
    obtain ⟨a, ha⟩ := hpairs.exists_holds {}
    exact ⟨a, (hline.ok_iff a).2 ⟨pairs, hpairs, ha⟩⟩
  · refine ((verdict_parseFrom {} ["--size", e.text]).ok_iff _).2 ⟨[(.size, e.text)], ?_, ?_⟩
    · exact .cons (by simp [spellings]) ⟨e, measures_text e⟩ .nil
    · exact ⟨rfl, rfl, measures_text e, rfl, rfl⟩

/-- A value may look like a flag, a later value counts, and the first cross divides a size. -/
example : parse ["--size", " 64X+32 ", "-o", "--frames", "--frames", "007", "--size", "1x2"]
    = .ok ⟨none, 7, ⟨1, 2⟩, "--frames", none⟩ := by
  decide

/-- The value grows too large before the letter in it is read, and what follows it does not
matter. -/
example : parse ["-o", "a.png", "--frames", "+4294967296x", "--size", "64", "--help"]
    = .error (.invalidFrames "+4294967296x" .tooLarge) := by
  decide

end FrameGraph.CommandLine
