import Timephrase.Proofs.CommandLine.Options

/-!
# What one argument does

Where an option may stand, an argument does one of six things.  It ends the reading, sets a flag,
takes the next argument as its value or brings its value along, or it starts the text, with two
hyphens before it or as its first word.  Which one it is depends on the argument alone.

## Main definitions

* `Flag`, `ValuedOption`: options without and with a value
* `Reading`: how an argument is read
* `TakesValue`: the arguments that take the next one as their value
* `StandsAlone`: the arguments that are an option on their own

## Main results

* `Settings.readFrom_cons`: the step that an argument makes
* `Reading.fits_of`: what an argument is, by how it is read
-/

namespace Timephrase.CommandLine

/-- Options without a value. -/
inductive Flag
  | firstOnly
  | trace
  | debug
  | color (on : Bool)
  deriving DecidableEq, Repr

namespace Flag

/-- The argument that sets a flag. -/
def name : Flag → String
  | firstOnly => "--first-only"
  | trace => "--trace"
  | debug => "--debug"
  | color on => if on then "--color" else "--no-color"

/-- The settings with a flag. -/
def apply (s : Settings) : Flag → Settings
  | firstOnly => { s with firstOnly := true }
  | trace => { s with trace := true }
  | debug => { s with debug := true }
  | color on => { s with color := on }

end Flag

/-- Options with a value. -/
inductive ValuedOption
  | reference
  | input
  deriving DecidableEq, Repr

namespace ValuedOption

/-- The name of an option. -/
def name : ValuedOption → String
  | reference => "--reference"
  | input => "--input"

/-- The settings with a value of an option, if it may have this value. -/
def take (s : Settings) (value : String) : ValuedOption → Except UsageFault Settings
  | reference => s.withReference value
  | input => s.withInput value

end ValuedOption

/-- How an argument is read where an option may stand. -/
inductive Reading
  | ends (outcome : Except UsageFault Request)
  | flag (flag : Flag)
  | valued (option : ValuedOption)
  | joined (option : ValuedOption) (value : String)
  | separator
  | word

namespace Reading

open Settings

/-- How an argument is read. -/
def of (arg : String) : Reading :=
  if arg = "-h" ∨ arg = "--help" then ends (.ok .help)
  else if arg = "-V" ∨ arg = "--version" then ends (.ok .version)
  else if arg = "--color" then flag (.color true)
  else if arg = "--no-color" then flag (.color false)
  else if arg = "--first-only" then flag .firstOnly
  else if arg = "--trace" then flag .trace
  else if arg = "--debug" then flag .debug
  else if arg = "--reference" then valued .reference
  else if arg = "--input" ∨ arg = "-i" then valued .input
  else if arg = "--" then separator
  else
    match joinedValue? "--reference" arg with
    | some value => joined .reference value
    | none =>
      match joinedValue? "--input" arg with
      | some value => joined .input value
      | none => if ['-'].isPrefixOf arg.toList then ends (.error (.unknownOption arg)) else word

end Reading

/-- **The step that an argument makes.** -/
theorem Settings.readFrom_cons (s : Settings) (arg : String) (rest : List String) :
    readFrom s (arg :: rest) = match Reading.of arg with
      | .ends outcome => outcome
      | .flag flag => readFrom (flag.apply s) rest
      | .valued option =>
        match rest with
        | [] => .error (.missingValue option.name)
        | value :: rest => do readFrom (← option.take s value) rest
      | .joined option value => do readFrom (← option.take s value) rest
      | .separator => (s.withRest rest).map .parse
      | .word => (s.withWords (arg :: rest)).map .parse := by
  -- Both are decided by the same conditions, one after another.
  rw [readFrom.eq_def, Reading.of]
  dsimp only
  by_cases hhelp : arg = "-h" ∨ arg = "--help"
  · rw [if_pos hhelp, if_pos hhelp]
  rw [if_neg hhelp, if_neg hhelp]
  by_cases hversion : arg = "-V" ∨ arg = "--version"
  · rw [if_pos hversion, if_pos hversion]
  rw [if_neg hversion, if_neg hversion]
  by_cases hcolor : arg = "--color"
  · rw [if_pos hcolor, if_pos hcolor]
    rfl
  rw [if_neg hcolor, if_neg hcolor]
  by_cases hplain : arg = "--no-color"
  · rw [if_pos hplain, if_pos hplain]
    rfl
  rw [if_neg hplain, if_neg hplain]
  by_cases hfirst : arg = "--first-only"
  · rw [if_pos hfirst, if_pos hfirst]
    rfl
  rw [if_neg hfirst, if_neg hfirst]
  by_cases htrace : arg = "--trace"
  · rw [if_pos htrace, if_pos htrace]
    rfl
  rw [if_neg htrace, if_neg htrace]
  by_cases hdebug : arg = "--debug"
  · rw [if_pos hdebug, if_pos hdebug]
    rfl
  rw [if_neg hdebug, if_neg hdebug]
  by_cases hreference : arg = "--reference"
  · rw [if_pos hreference, if_pos hreference]
    rfl
  rw [if_neg hreference, if_neg hreference]
  by_cases hinput : arg = "--input" ∨ arg = "-i"
  · rw [if_pos hinput, if_pos hinput]
    rfl
  rw [if_neg hinput, if_neg hinput]
  by_cases hseparator : arg = "--"
  · rw [if_pos hseparator, if_pos hseparator]
  rw [if_neg hseparator, if_neg hseparator]
  cases joinedValue? "--reference" arg with
  | some value => rfl
  | none =>
    cases joinedValue? "--input" arg with
    | some value => rfl
    | none =>
      dsimp only
      split <;> rfl

/-- The arguments that take the next one as their value. -/
def TakesValue (arg : String) : Prop := arg ∈ ["--reference", "--input", "-i"]

instance (arg : String) : Decidable (TakesValue arg) := inferInstanceAs (Decidable (_ ∈ _))

/-- The arguments that are an option on their own, known or not. -/
structure StandsAlone (arg : String) : Prop where
  head?_eq : arg.toList.head? = some '-'
  not_takesValue : ¬TakesValue arg
  ne_separator : arg ≠ "--"

instance (arg : String) : Decidable (StandsAlone arg) :=
  decidable_of_iff (arg.toList.head? = some '-' ∧ ¬TakesValue arg ∧ arg ≠ "--")
    ⟨fun ⟨h₁, h₂, h₃⟩ => ⟨h₁, h₂, h₃⟩, fun ⟨h₁, h₂, h₃⟩ => ⟨h₁, h₂, h₃⟩⟩

namespace Reading

open Settings

/-- What an argument is that is read in some way. -/
inductive Fits (arg : String) : Reading → Prop
  | ends (h : StandsAlone arg) (outcome : Except UsageFault Request)
      (houtcome : ∀ s, outcome ≠ .ok (.parse s))
      (hnone : ∀ option : ValuedOption, joinedValue? option.name arg = none) :
      Fits arg (.ends outcome)
  | flag (f : Flag) (h : arg = f.name) : Fits arg (.flag f)
  | valued (h : TakesValue arg) (option : ValuedOption) : Fits arg (.valued option)
  | joined (h : StandsAlone arg) (option : ValuedOption) (value : String)
      (hvalue : joinedValue? option.name arg = some value) : Fits arg (.joined option value)
  | separator (h : arg = "--") : Fits arg .separator
  | word (h : arg.toList.head? ≠ some '-') : Fits arg .word

theorem joinedValue?_name_eq_none {arg : String}
    (hreference : joinedValue? "--reference" arg = none)
    (hinput : joinedValue? "--input" arg = none) (option : ValuedOption) :
    joinedValue? option.name arg = none := by
  cases option with
  | reference => exact hreference
  | input => exact hinput

/-- An argument that is no name and no separator is a word, or an option on its own since it starts
with a hyphen. -/
theorem fits_of_unlisted {arg : String} (htakes : ¬TakesValue arg) (hseparator : arg ≠ "--") :
    Fits arg (match joinedValue? "--reference" arg with
      | some value => joined .reference value
      | none =>
        match joinedValue? "--input" arg with
        | some value => joined .input value
        | none =>
          if ['-'].isPrefixOf arg.toList then ends (.error (.unknownOption arg)) else word) := by
  by_cases hdash : arg.toList.head? = some '-'
  · have halone : StandsAlone arg := ⟨hdash, htakes, hseparator⟩
    cases hreference : joinedValue? "--reference" arg with
    | some value => exact .joined halone .reference value hreference
    | none =>
      cases hinput : joinedValue? "--input" arg with
      | some value => exact .joined halone .input value hinput
      | none =>
        dsimp only
        rw [if_pos (isPrefixOf_hyphen_iff.mpr hdash)]
        exact .ends halone _ nofun (joinedValue?_name_eq_none hreference hinput)
  · rw [joinedValue?_eq_none "--reference" rfl hdash, joinedValue?_eq_none "--input" rfl hdash]
    dsimp only
    rw [if_neg (mt isPrefixOf_hyphen_iff.mp hdash)]
    exact .word hdash

/-- **What an argument is** is known from how it is read. -/
theorem fits_of (arg : String) : Fits arg (of arg) := by
  -- One kind of argument after the other, in the order in which they are tried.
  rw [of]
  by_cases hhelp : arg = "-h" ∨ arg = "--help"
  · rw [if_pos hhelp]
    rcases hhelp with rfl | rfl
    · exact .ends (by decide) _ nofun (joinedValue?_name_eq_none rfl rfl)
    · exact .ends (by decide) _ nofun (joinedValue?_name_eq_none rfl rfl)
  rw [if_neg hhelp]
  by_cases hversion : arg = "-V" ∨ arg = "--version"
  · rw [if_pos hversion]
    rcases hversion with rfl | rfl
    · exact .ends (by decide) _ nofun (joinedValue?_name_eq_none rfl rfl)
    · exact .ends (by decide) _ nofun (joinedValue?_name_eq_none rfl rfl)
  rw [if_neg hversion]
  by_cases hcolor : arg = "--color"
  · rw [if_pos hcolor]
    exact .flag (.color true) hcolor
  rw [if_neg hcolor]
  by_cases hplain : arg = "--no-color"
  · rw [if_pos hplain]
    exact .flag (.color false) hplain
  rw [if_neg hplain]
  by_cases hfirst : arg = "--first-only"
  · rw [if_pos hfirst]
    exact .flag .firstOnly hfirst
  rw [if_neg hfirst]
  by_cases htrace : arg = "--trace"
  · rw [if_pos htrace]
    exact .flag .trace htrace
  rw [if_neg htrace]
  by_cases hdebug : arg = "--debug"
  · rw [if_pos hdebug]
    exact .flag .debug hdebug
  rw [if_neg hdebug]
  by_cases hreference : arg = "--reference"
  · rw [if_pos hreference]
    exact .valued (by simp [TakesValue, hreference]) _
  rw [if_neg hreference]
  by_cases hinput : arg = "--input" ∨ arg = "-i"
  · rw [if_pos hinput]
    exact .valued (List.mem_cons_of_mem _ (by simpa using hinput)) _
  rw [if_neg hinput]
  by_cases hseparator : arg = "--"
  · rw [if_pos hseparator]
    exact .separator hseparator
  rw [if_neg hseparator]
  exact fits_of_unlisted (by simp [TakesValue, hreference, hinput]) hseparator

end Reading

end Timephrase.CommandLine
