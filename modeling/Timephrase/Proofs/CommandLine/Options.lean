import Timephrase.Proofs.CommandLine.Run

/-!
# What a command line amounts to

A command line that makes sense consists of options in any order, each maybe with its value, and of
a text behind them.  It is read option by option, and amounts to what can be said without regard to
the reading: which flags are there, the last value of each kind, and the one text.

## Main definitions

* `OptionGroup`: an option with its value
* `Tail`: what follows the options
* `Settings.Amounts`: what options and text say of settings

## Main results

* `Settings.readFrom_append`: options are read one after another
* `Settings.readFrom_tail`: what follows them is read as the text
* `Settings.amounts_withText`: the settings are what the options and the text say
* `run_of_options`: what a command line amounts to, and how its run ends
-/

namespace Timephrase.CommandLine

/-- An option with its value, if it takes one. -/
inductive OptionGroup
  | firstOnly
  | trace
  | debug
  | color (on : Bool)
  | reference (value : String) (moment : Moment) (h : Moment.ofRfc3339? value = some moment)
  | input (long : Bool) (text : String)

namespace OptionGroup

/-- The arguments that make up an option. -/
def args : OptionGroup → List String
  | firstOnly => ["--first-only"]
  | trace => ["--trace"]
  | debug => ["--debug"]
  | color on => [if on then "--color" else "--no-color"]
  | reference value _ _ => ["--reference", value]
  | input long text => [if long then "--input" else "-i", text]

/-- Whether the output is to have colors, where an option says so. -/
def color? : OptionGroup → Option Bool
  | color on => some on
  | _ => none

/-- The moment of reference that an option gives. -/
def reference? : OptionGroup → Option Moment
  | reference _ moment _ => some moment
  | _ => none

/-- The text that an option gives. -/
def input? : OptionGroup → Option String
  | input _ text => some text
  | _ => none

/-- The settings with one more option. -/
def apply (s : Settings) : OptionGroup → Settings
  | firstOnly => { s with firstOnly := true }
  | trace => { s with trace := true }
  | debug => { s with debug := true }
  | color on => { s with color := on }
  | reference _ moment _ => { s with reference := some moment }
  | input _ text => { s with input := some text }

end OptionGroup

/-- What follows the options: nothing, words of which the first is no option, or two hyphens and any
words. -/
inductive Tail
  | none
  | words (first : String) (rest : List String) (h : first.toList.head? ≠ some '-')
  | separated (rest : List String)

namespace Tail

/-- The arguments that follow the options. -/
def args : Tail → List String
  | none => []
  | words first rest _ => first :: rest
  | separated rest => "--" :: rest

/-- The text that follows the options: the words joined by single spaces, unless they stand behind
two hyphens and are blank together. -/
def text? : Tail → Option String
  | none => .none
  | words first rest _ => some (" ".intercalate (first :: rest))
  | separated rest =>
    if Blank.trim (" ".intercalate rest) = "" then .none else some (" ".intercalate rest)

end Tail

/-- The arguments that options and what follows them make up. -/
def arguments (groups : List OptionGroup) (tail : Tail) : List String :=
  groups.flatMap OptionGroup.args ++ tail.args

/-- What the options and the text say of settings, without regard to how they are read: each flag is
set just if it is there, the last color and the last moment of reference count, and the text is the
one that is given. -/
structure Settings.Amounts (terminal : Bool) (groups : List OptionGroup) (tail : Tail)
    (s : Settings) : Prop where
  firstOnly_iff : s.firstOnly = true ↔ .firstOnly ∈ groups
  trace_iff : s.trace = true ↔ .trace ∈ groups
  debug_iff : s.debug = true ↔ .debug ∈ groups
  color_eq : s.color = (groups.filterMap OptionGroup.color?).getLast?.getD terminal
  reference_eq : s.reference = (groups.filterMap OptionGroup.reference?).getLast?
  input_eq : s.input = (groups.filterMap OptionGroup.input?).getLast?.or tail.text?

/-! ## Reading options -/

namespace Settings

open OptionGroup

variable {s : Settings}

/-- **An option is read**, with its value, if there is no second text. -/
theorem readFrom_args (g : OptionGroup) (rest : List String)
    (h : ∀ text ∈ g.input?, s.input = none) :
    readFrom s (g.args ++ rest) = readFrom (g.apply s) rest := by
  cases g with
  | firstOnly =>
    rw [args, List.singleton_append, readFrom.eq_def]
    simp [apply]
  | trace =>
    rw [args, List.singleton_append, readFrom.eq_def]
    simp [apply]
  | debug =>
    rw [args, List.singleton_append, readFrom.eq_def]
    simp [apply]
  | color on =>
    rw [args, List.singleton_append, readFrom.eq_def]
    cases on with
    | true => simp [apply]
    | false => simp [apply]
  | reference value moment hvalue =>
    have hread : s.withReference value = .ok { s with reference := some moment } := by
      rw [withReference, hvalue]
    rw [args, List.cons_append, List.singleton_append, readFrom]
    simp only [hread]
    rfl
  | input long text =>
    -- There is no text before this one, which would be refused otherwise.
    have hread : s.withInput text = .ok { s with input := some text } := by
      rw [withInput, h text rfl]
    rw [args, List.cons_append, List.singleton_append, readFrom]
    simp only [hread]
    cases long with
    | true => rfl
    | false => rfl

theorem input_apply (s : Settings) (g : OptionGroup) :
    (g.apply s).input = g.input?.or s.input := by
  cases g with
  | _ => rfl

theorem reference_apply (s : Settings) (g : OptionGroup) :
    (g.apply s).reference = g.reference?.or s.reference := by
  cases g with
  | _ => rfl

theorem color_apply (s : Settings) (g : OptionGroup) :
    some (g.apply s).color = g.color?.or (some s.color) := by
  cases g with
  | _ => rfl

/-- The settings after some options, one after another. -/
def applyAll (s : Settings) (groups : List OptionGroup) : Settings :=
  groups.foldl OptionGroup.apply s

/-- **Options are read one after another**, if at most one of them gives a text. -/
theorem readFrom_append {groups : List OptionGroup} (rest : List String)
    (h : (s.input.toList ++ groups.filterMap input?).length ≤ 1) :
    readFrom s (groups.flatMap args ++ rest) = readFrom (s.applyAll groups) rest := by
  -- On the options: a text that has been read is counted with those to come.
  induction groups generalizing s with
  | nil => rfl
  | cons g groups ih =>
    rw [List.filterMap_cons, List.length_append] at h
    have hfirst : ∀ text ∈ g.input?, s.input = none := by
      intro text htext
      rw [Option.mem_def.mp htext, List.length_cons] at h
      cases hinput : s.input with
      | none => rfl
      | some before =>
        rw [hinput, Option.toList_some, List.length_singleton] at h
        omega
    have hrest : ((g.apply s).input.toList ++ groups.filterMap input?).length ≤ 1 := by
      rw [input_apply, List.length_append]
      cases htext : g.input? with
      | none =>
        rw [htext] at h
        exact h
      | some text =>
        rw [htext, List.length_cons] at h
        rw [Option.some_or, Option.toList_some, List.length_singleton]
        omega
    rw [List.flatMap_cons, List.append_assoc, readFrom_args g _ hfirst, ih hrest]
    rfl

/-! ## What options amount to -/

/-- **The last of several options counts**, or else what there was before. -/
theorem get_applyAll {α : Type} (get : Settings → Option α) {given : OptionGroup → Option α}
    (hget : ∀ s g, get (g.apply s) = (given g).or (get s)) (s : Settings)
    (groups : List OptionGroup) :
    get (s.applyAll groups) = (groups.filterMap given).getLast?.or (get s) := by
  induction groups generalizing s with
  | nil => rfl
  | cons g groups ih =>
    have hstep : s.applyAll (g :: groups) = (g.apply s).applyAll groups := rfl
    rw [hstep, ih, hget, List.filterMap_cons]
    cases given g with
    | none => rfl
    | some a =>
      rw [List.getLast?_cons]
      cases (groups.filterMap given).getLast? with
      | none => rfl
      | some b => rfl

/-- **A flag is set** if it is there or has been set before. -/
theorem flag_applyAll (flag : Settings → Bool) (option : OptionGroup)
    (hflag : ∀ s g, flag (g.apply s) = true ↔ g = option ∨ flag s = true) (s : Settings)
    (groups : List OptionGroup) :
    flag (s.applyAll groups) = true ↔ option ∈ groups ∨ flag s = true := by
  induction groups generalizing s with
  | nil => simp [applyAll]
  | cons g groups ih =>
    have hstep : s.applyAll (g :: groups) = (g.apply s).applyAll groups := rfl
    rw [hstep, ih, hflag, List.mem_cons, eq_comm (a := option), or_left_comm, or_assoc]

/-! ## Reading the text -/

theorem joinedValue?_eq_none {arg : String} (option : String)
    (hoption : option.toList.head? = some '-') (h : arg.toList.head? ≠ some '-') :
    joinedValue? option arg = none := by
  have hfront : (option.toList ++ ['=']).isPrefixOf arg.toList = false := by
    rw [Bool.eq_false_iff, ne_eq, List.isPrefixOf_iff_prefix]
    rintro ⟨after, harg⟩
    apply h
    rw [← harg, List.append_assoc, List.head?_append, hoption]
    rfl
  rw [joinedValue?]
  exact if_neg (Bool.eq_false_iff.mp hfront)

theorem isPrefixOf_hyphen_iff {cs : List Char} :
    ['-'].isPrefixOf cs = true ↔ cs.head? = some '-' := by
  rw [List.isPrefixOf_iff_prefix, List.head?_eq_some_iff]
  exact exists_congr fun _ => eq_comm

/-- **What follows the options is read as the text**, if it is one. -/
theorem readFrom_tail (s : Settings) (tail : Tail) :
    readFrom s tail.args = match tail.text? with
      | none => .ok (.parse s)
      | some text => (s.withInput text).map .parse := by
  cases tail with
  | none => rfl
  | words first rest h =>
    -- A word does not start with a hyphen, so that it is none of the options.
    have hne : ∀ option : String, option.toList.head? = some '-' → first ≠ option := by
      rintro option hoption rfl
      exact h hoption
    rw [Tail.args, readFrom.eq_def]
    simp only [hne "-h" rfl, hne "--help" rfl, hne "-V" rfl, hne "--version" rfl, hne "--color" rfl,
      hne "--no-color" rfl, hne "--first-only" rfl, hne "--trace" rfl, hne "--debug" rfl,
      hne "--reference" rfl, hne "--input" rfl, hne "-i" rfl, hne "--" rfl, or_self, if_false,
      joinedValue?_eq_none "--reference" rfl h, joinedValue?_eq_none "--input" rfl h,
      if_neg (mt isPrefixOf_hyphen_iff.mp h)]
    rfl
  | separated rest =>
    have hread : readFrom s ("--" :: rest) = (s.withRest rest).map .parse := by
      rw [readFrom.eq_def]
      simp
    rw [Tail.args, hread, withRest, Tail.text?]
    split
    · rfl
    · rfl

/-- The settings after some options and a text, where there is one. -/
def withText (s : Settings) : Option String → Settings
  | none => s
  | some text => { s with input := some text }

variable {groups : List OptionGroup} {tail : Tail}

/-- The settings that a command line makes, if it gives one text at most. -/
theorem read_arguments (terminal : Bool) (h : (groups.filterMap input?).length ≤ 1)
    (hone : groups.filterMap input? = [] ∨ tail.text? = none) :
    read terminal (arguments groups tail) =
      .ok (.parse (((initial terminal).applyAll groups).withText tail.text?)) := by
  rw [read, arguments, readFrom_append (s := initial terminal) _ h, readFrom_tail]
  cases htext : tail.text? with
  | none => rfl
  | some text =>
    have hnone : ((initial terminal).applyAll groups).input = none := by
      rw [get_applyAll Settings.input input_apply, hone.resolve_right (by simp [htext])]
      rfl
    dsimp only
    rw [withInput, hnone]
    rfl

/-- A text behind the options is refused if one of them gives a text. -/
theorem read_repeated (terminal : Bool) (h : (groups.filterMap input?).length ≤ 1)
    (hgiven : groups.filterMap input? ≠ []) (htext : tail.text? ≠ none) :
    read terminal (arguments groups tail) = .error .repeatedInput := by
  rw [read, arguments, readFrom_append (s := initial terminal) _ h, readFrom_tail]
  obtain ⟨text, htext⟩ := Option.ne_none_iff_exists'.mp htext
  have hinput : ((initial terminal).applyAll groups).input =
      some ((groups.filterMap input?).getLast hgiven) := by
    rw [get_applyAll Settings.input input_apply, List.getLast?_eq_some_getLast hgiven]
    rfl
  rw [htext]
  dsimp only
  rw [withInput, hinput]
  rfl

/-- A text leaves the other settings as the options made them. -/
theorem kept_withText (s : Settings) (text? : Option String) :
    (s.withText text?).firstOnly = s.firstOnly ∧ (s.withText text?).trace = s.trace ∧
      (s.withText text?).debug = s.debug ∧ (s.withText text?).color = s.color ∧
      (s.withText text?).reference = s.reference := by
  cases text? with
  | none => exact ⟨rfl, rfl, rfl, rfl, rfl⟩
  | some text => exact ⟨rfl, rfl, rfl, rfl, rfl⟩

/-- **The settings that a command line makes** are what its options and its text say. -/
theorem amounts_withText (terminal : Bool)
    (hone : groups.filterMap input? = [] ∨ tail.text? = none) :
    (((initial terminal).applyAll groups).withText tail.text?).Amounts terminal groups tail := by
  obtain ⟨hfirstOnly, htrace, hdebug, hcolor, hreference⟩ :=
    kept_withText ((initial terminal).applyAll groups) tail.text?
  constructor
  · rw [hfirstOnly, flag_applyAll Settings.firstOnly .firstOnly]
    · simp [initial]
    · intro s g
      cases g with
      | _ => simp [apply]
  · rw [htrace, flag_applyAll Settings.trace .trace]
    · simp [initial]
    · intro s g
      cases g with
      | _ => simp [apply]
  · rw [hdebug, flag_applyAll Settings.debug .debug]
    · simp [initial]
    · intro s g
      cases g with
      | _ => simp [apply]
  -- A color is always there, so that the last one counts as it does for values.
  · have hlast := get_applyAll (fun s => some s.color) color_apply (initial terminal) groups
    rw [Option.or_some] at hlast
    rw [hcolor]
    exact Option.some.inj hlast
  · rw [hreference, get_applyAll Settings.reference reference_apply]
    exact Option.or_none
  · have hlast := get_applyAll Settings.input input_apply (initial terminal) groups
    cases htext : tail.text? with
    | none => exact hlast
    | some text =>
      rw [hone.resolve_right (by simp [htext])]
      rfl

end Settings

/-- **What a command line amounts to**, if it consists of options in any order, at most one of which
gives a text, and of what follows them.  A text given twice is refused.  Otherwise the settings are
what the options and the text say, whatever their order.  If the text, or the standard input where
none is given, is blank, the run ends with code 2, and otherwise with what the settings print for
it. -/
theorem run_of_options (env : Environment) (groups : List OptionGroup) (tail : Tail)
    (h : (groups.filterMap OptionGroup.input?).length ≤ 1) :
    (groups.filterMap OptionGroup.input? ≠ [] ∧ tail.text? ≠ none →
      run env (arguments groups tail) =
        ⟨2, "", "error: input provided multiple times\n"⟩) ∧
    (groups.filterMap OptionGroup.input? = [] ∨ tail.text? = none →
      ∃ s, Settings.read env.terminal (arguments groups tail) = .ok (.parse s) ∧
        s.Amounts env.terminal groups tail ∧
        ∀ raw, s.Takes env raw →
          (Blank.trim raw = "" → run env (arguments groups tail) =
            ⟨2, "", "error: no input provided\n\n" ++ helpText ++ "\n"⟩) ∧
          (Blank.trim raw ≠ "" → run env (arguments groups tail) =
            .ofOutput (output env s (Blank.trim raw)))) := by
  constructor
  · rintro ⟨hgiven, htext⟩
    exact run_of_rejected (.arguments (Settings.read_repeated env.terminal h hgiven htext))
  · intro hone
    have hread := Settings.read_arguments env.terminal h hone
    refine ⟨_, hread, Settings.amounts_withText env.terminal hone,
      fun raw htakes => ⟨fun hblank => ?_, fun hne => ?_⟩⟩
    · exact run_of_rejected (.blank hread htakes hblank)
    · exact run_of_asks ⟨hread, htakes, hne⟩

/-- The last color counts, an option behind two hyphens is text, and blank text there is none, so
that the standard input is read.  A text that is given twice is refused. -/
theorem run_of_options_lunch :
    (∃ s, Settings.read false ["--color", "--reference", "2013-02-12T04:30:00Z", "--no-color", "--",
        "lunch", "--trace"] = .ok (.parse s) ∧
      s.color = false ∧ s.trace = false ∧ s.reference = some ⟨⟨1360643400, 0⟩, 0⟩ ∧
      s.input = some "lunch --trace") ∧
    run (atRest "\n") ["--debug", "--", "", ""] =
      ⟨2, "", "error: no input provided\n\n" ++ helpText ++ "\n"⟩ ∧
    run (atRest "") ["-i", "lunch", "--trace", "at", "--debug"] =
      ⟨2, "", "error: input provided multiple times\n"⟩ := by
  refine ⟨?_, ?_, ?_⟩
  · let groups : List OptionGroup := [.color true,
      .reference "2013-02-12T04:30:00Z" ⟨⟨1360643400, 0⟩, 0⟩ (by rfl), .color false]
    obtain ⟨-, hread⟩ := run_of_options (atRest "") groups (.separated ["lunch", "--trace"])
      (by decide)
    obtain ⟨s, hs, hamounts, -⟩ := hread (Or.inl rfl)
    refine ⟨s, hs, hamounts.color_eq, ?_, hamounts.reference_eq, ?_⟩
    · rw [Bool.eq_false_iff, ne_eq, hamounts.trace_iff]
      simp [groups]
    · rw [hamounts.input_eq]
      rfl
  · obtain ⟨-, hread⟩ := run_of_options (atRest "\n") [.debug] (.separated ["", ""]) (by decide)
    obtain ⟨s, -, hamounts, hrun⟩ := hread (Or.inl rfl)
    have hinput : s.input = none := by
      rw [hamounts.input_eq]
      rfl
    exact (hrun "\n" (Or.inr ⟨hinput, rfl⟩)).1 (by decide)
  · obtain ⟨htwice, -⟩ := run_of_options (atRest "") [.input false "lunch", .trace]
      (.words "at" ["--debug"] (by decide)) (by decide)
    exact htwice ⟨by decide, by decide⟩

end Timephrase.CommandLine
