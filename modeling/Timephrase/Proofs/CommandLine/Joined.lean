import Timephrase.Proofs.CommandLine.Argument

/-!
# Values joined to their options

A value may follow its option as the next argument, or be joined to it by an equals sign.  The two
spellings agree on values that do not themselves start with the option and the sign.  Of those that
do, only the joined spelling takes all repetitions off, so that it stands for another value.

## Main definitions

* `ValuedOption.joined`: an option and a value in one argument
* `IsGroup`: an option with all that belongs to it, or an option on its own

## Main results

* `ValuedOption.exists_bare`: how an option with a joined value is read
* `Settings.readFrom_flatten_congr`: arguments that are read alike are read alike behind options
* `run_of_joined`: a run with a joined value, as one with a value that follows
-/

namespace Timephrase

/-- A timestamp does not start with a hyphen. -/
theorem Moment.ofRfc3339?_of_hyphen {text : String} {cs : List Char}
    (h : text.toList = '-' :: cs) : ofRfc3339? text = none := by
  rw [ofRfc3339?, h]
  rfl

namespace CommandLine

namespace ValuedOption

/-- What stands before a value that is joined to an option. -/
def front (option : ValuedOption) : String := option.name ++ "="

/-- An option and a value in one argument. -/
def joined (option : ValuedOption) (value : String) : String := option.front ++ value

theorem toList_front (option : ValuedOption) : option.front.toList = option.name.toList ++ ['='] :=
  String.toList_append

end ValuedOption

/-! ## Repetitions -/

namespace Settings

/-- All repetitions of a list are taken off the front, and what is left does not start with it. -/
theorem exists_dropRepeated {front : List Char} (hfront : front ≠ []) {fuel : Nat} {cs : List Char}
    (hfuel : cs.length ≤ fuel) : ∃ n,
      cs = (List.replicate n front).flatten ++ dropRepeated front fuel cs ∧
        ¬front <+: dropRepeated front fuel cs := by
  induction fuel generalizing cs with
  | zero =>
    obtain rfl := List.length_eq_zero_iff.mp (Nat.le_zero.mp hfuel)
    exact ⟨0, rfl, fun h => hfront (List.prefix_nil.mp h)⟩
  | succ fuel ih =>
    rw [dropRepeated]
    by_cases hstart : front <+: cs
    · obtain ⟨after, rfl⟩ := hstart
      have hpos := List.length_pos_iff.mpr hfront
      rw [List.length_append] at hfuel
      have hless : after.length ≤ fuel := by omega
      obtain ⟨n, hafter, hbare⟩ := ih hless
      rw [if_pos (List.isPrefixOf_iff_prefix.mpr (List.prefix_append ..)), List.drop_left]
      refine ⟨n + 1, ?_, hbare⟩
      rw [List.replicate_succ, List.flatten_cons, List.append_assoc, ← hafter]
    · rw [if_neg (fun h => hstart (List.isPrefixOf_iff_prefix.mp h))]
      exact ⟨0, rfl, hstart⟩

/-- An argument with a joined value starts with the option and the sign, and the value is what is
left without the repetitions. -/
theorem joinedValue?_eq_some_iff {option arg value : String} :
    joinedValue? option arg = some value ↔ option.toList ++ ['='] <+: arg.toList ∧ value =
      String.ofList (dropRepeated (option.toList ++ ['=']) arg.toList.length arg.toList) := by
  rw [joinedValue?, ← List.isPrefixOf_iff_prefix, eq_comm (a := value)]
  simp only [Option.ite_none_right_eq_some, Option.some.injEq]

end Settings

/-! ## Joined values -/

/-- An argument has one option at most with which it starts and with the sign after it. -/
theorem Settings.option_unique {option option' : ValuedOption} {arg value value' : String}
    (h : joinedValue? option.name arg = some value)
    (h' : joinedValue? option'.name arg = some value') : option = option' := by
  have hor := List.prefix_or_prefix_of_prefix (joinedValue?_eq_some_iff.mp h).1
    (joinedValue?_eq_some_iff.mp h').1
  cases option with
  | reference =>
    cases option' with
    | reference => rfl
    | input => exact absurd hor (by decide)
  | input =>
    cases option' with
    | reference => exact absurd hor (by decide)
    | input => rfl

namespace ValuedOption

open Settings

variable (option : ValuedOption) (value : String)

theorem toList_joined :
    (option.joined value).toList = option.front.toList ++ value.toList :=
  String.toList_append

theorem joined_ne {other : String} (h : ¬option.front.toList <+: other.toList) :
    option.joined value ≠ other := by
  rintro rfl
  exact h ⟨value.toList, (option.toList_joined value).symm⟩

/-- An argument that joins a value to an option is read as one that does so. -/
theorem of_joined {bare : String}
    (h : joinedValue? option.name (option.joined value) = some bare) :
    Reading.of (option.joined value) = .joined option bare := by
  have hne : ∀ other : String, ¬option.front.toList <+: other.toList →
      option.joined value ≠ other := fun other => option.joined_ne value
  have hfits := Reading.fits_of (option.joined value)
  generalize Reading.of (option.joined value) = reading at hfits
  -- No argument of another kind starts with the name of the option and an equals sign.
  cases hfits with
  | ends _ outcome _ hnone => cases (hnone option).symm.trans h
  | flag f hflag =>
    refine absurd hflag (hne _ ?_)
    cases option with
    | _ =>
      cases f with
      | color on => cases on with | _ => decide
      | _ => decide
  | valued htakes option' =>
    have hnames : ∀ other ∈ ["--reference", "--input", "-i"],
        ¬option.front.toList <+: other.toList := by
      cases option with
      | _ => decide
    exact absurd rfl (hne _ (hnames _ htakes))
  | joined _ option' value' hvalue =>
    obtain rfl := option_unique hvalue h
    rw [Option.some.inj (hvalue.symm.trans h)]
  | separator hseparator =>
    refine absurd hseparator (hne _ ?_)
    cases option with
    | _ => decide
  | word hword =>
    refine absurd ?_ hword
    rw [toList_joined]
    cases option with
    | _ => rfl

/-- **An option with a joined value is read** with the value that is left when all repetitions of
the option and the equals sign are taken off. -/
theorem exists_bare : ∃ n bare,
    value = String.join (List.replicate n option.front) ++ bare ∧
      ¬option.front.toList <+: bare.toList ∧
      (¬option.front.toList <+: value.toList → bare = value) ∧
      Reading.of (option.joined value) = .joined option bare := by
  have hfront : option.front.toList ≠ [] := by
    cases option with
    | _ => decide
  have hjoined := option.toList_joined value
  obtain ⟨n, hall, hbare⟩ := exists_dropRepeated hfront (Nat.le_refl (option.joined value).length)
  have hread := of_joined option value (joinedValue?_eq_some_iff.mpr ⟨⟨value.toList, by
    rw [hjoined, toList_front]⟩, rfl⟩)
  rw [← toList_front] at hread
  cases n with
  | zero =>
    -- The argument starts with the option and the sign, so they are taken off once at least.
    refine absurd ?_ hbare
    rw [List.replicate_zero, List.flatten_nil, List.nil_append] at hall
    rw [← hall, hjoined]
    exact List.prefix_append ..
  | succ n =>
    rw [List.replicate_succ, List.flatten_cons, List.append_assoc] at hall
    have hvalue := List.append_cancel_left (hjoined.symm.trans hall)
    refine ⟨n, _, ?_, ?_, fun h => ?_, hread⟩
    · rw [← String.toList_inj, String.toList_append, String.toList_join, List.flatMap_def,
        List.map_replicate, String.toList_ofList]
      exact hvalue
    · rwa [String.toList_ofList]
    · cases n with
      | zero => rw [← String.toList_inj, String.toList_ofList, hvalue]; rfl
      | succ n =>
        rw [List.replicate_succ, List.flatten_cons, List.append_assoc] at hvalue
        exact absurd ⟨_, hvalue.symm⟩ h

/-- The next argument is read as the value of an option. -/
theorem readFrom_name (s : Settings) (rest : List String) :
    readFrom s (option.name :: value :: rest) =
      (option.take s value >>= fun s' => readFrom s' rest) := by
  rw [readFrom_cons]
  cases option with
  | _ => rfl

/-- A joined value is read as the value without the repetitions would be as the next argument. -/
theorem readFrom_joined {bare : String}
    (h : Reading.of (option.joined value) = .joined option bare) (s : Settings)
    (rest : List String) :
    readFrom s (option.joined value :: rest) = readFrom s (option.name :: bare :: rest) := by
  rw [readFrom_cons, h, readFrom_name]

end ValuedOption

theorem Reading.of_takesValue {arg : String} (h : TakesValue arg) :
    ∃ option, Reading.of arg = .valued option := by
  have hnames : arg = "--reference" ∨ arg = "--input" ∨ arg = "-i" := by
    simpa [TakesValue] using h
  rcases hnames with rfl | rfl | rfl
  · exact ⟨.reference, rfl⟩
  · exact ⟨.input, rfl⟩
  · exact ⟨.input, rfl⟩

/-! ## What stands before a joined value -/

/-- The arguments that make up an option: one that takes a value with its value, or one that stands
alone, known or not. -/
inductive IsGroup : List String → Prop
  | valued {option : String} (value : String) (h : TakesValue option) : IsGroup [option, value]
  | alone {arg : String} (h : StandsAlone arg) : IsGroup [arg]

namespace Settings

variable {xs ys : List String}

/-- Arguments that are read alike are read alike behind an option. -/
theorem readFrom_group_congr {group : List String} (hgroup : IsGroup group)
    (h : ∀ s, readFrom s xs = readFrom s ys) (s : Settings) :
    readFrom s (group ++ xs) = readFrom s (group ++ ys) := by
  cases hgroup with
  | @valued arg value htakes =>
    obtain ⟨option, hoption⟩ := Reading.of_takesValue htakes
    have hread : ∀ zs, readFrom s (arg :: value :: zs) =
        (option.take s value >>= fun s' => readFrom s' zs) := by
      intro zs
      rw [readFrom_cons, hoption]
    exact (hread xs).trans ((bind_congr h).trans (hread ys).symm)
  | @alone arg halone =>
    rw [List.singleton_append, List.singleton_append, readFrom_cons, readFrom_cons]
    have hfits := Reading.fits_of arg
    generalize Reading.of arg = reading at hfits
    cases hfits with
    | ends _ outcome _ _ => rfl
    | flag f _ => exact h _
    | valued htakes _ => exact absurd htakes halone.not_takesValue
    | joined _ option value _ => exact bind_congr h
    | separator hseparator => exact absurd hseparator halone.ne_separator
    | word hword => exact absurd halone.head?_eq hword

/-- **Arguments that are read alike are read alike behind options.** -/
theorem readFrom_flatten_congr {groups : List (List String)} (hgroups : ∀ g ∈ groups, IsGroup g)
    (h : ∀ s, readFrom s xs = readFrom s ys) (s : Settings) :
    readFrom s (groups.flatten ++ xs) = readFrom s (groups.flatten ++ ys) := by
  induction groups generalizing s with
  | nil => exact h s
  | cons group groups ih =>
    rw [List.flatten_cons, List.append_assoc, List.append_assoc]
    exact readFrom_group_congr (hgroups _ List.mem_cons_self)
      (ih fun g hg => hgroups g (List.mem_cons_of_mem _ hg)) s

/-- The two spellings of an option are read differently if the value starts with the option and the
sign. -/
theorem read_joined_ne (option : ValuedOption) {value bare : String}
    (hread : Reading.of (option.joined value) = .joined option bare) (hne : bare ≠ value)
    (h : option.front.toList <+: value.toList) (terminal : Bool) :
    read terminal [option.joined value] ≠ read terminal [option.name, value] := by
  rw [read, read, option.readFrom_joined value hread, option.readFrom_name, option.readFrom_name]
  cases option with
  | input =>
    intro hsame
    injection hsame with hsame
    injection hsame with hsame
    injection hsame with hsame
    exact hne (Option.some.inj hsame)
  | reference =>
    -- A value that starts with a hyphen is no timestamp, and the fault tells the value.
    obtain ⟨after, hafter⟩ := h
    have hnone : Moment.ofRfc3339? value = none := Moment.ofRfc3339?_of_hyphen hafter.symm
    have hbad : ∀ s : Settings, s.withReference value = .error (.badReference value) := by
      intro s
      rw [withReference, hnone]
    simp only [ValuedOption.take, hbad]
    rw [withReference]
    cases Moment.ofRfc3339? bare with
    | none =>
      intro hsame
      injection hsame with hsame
      injection hsame with hsame
      exact hne hsame
    | some moment =>
      intro hsame
      cases hsame

end Settings

/-! ## Runs -/

theorem run_congr {env : Environment} {args args' : List String}
    (h : Settings.read env.terminal args = Settings.read env.terminal args') :
    run env args = run env args' := by
  rw [run, run, h]

/-- **A joined value stands for what is left of it** when all repetitions of the option and the
equals sign are taken off its front: the run is the one with that value as the next argument,
whatever options come before and whatever comes after.  A value that starts with no repetition is
therefore the same in both spellings.  One that does start with one is read as another value than if
it followed its option. -/
theorem run_of_joined (option : ValuedOption) (value : String) : ∃ n bare,
    value = String.join (List.replicate n option.front) ++ bare ∧
    ¬option.front.toList <+: bare.toList ∧
    (∀ (env : Environment) (groups : List (List String)) (rest : List String),
      (∀ group ∈ groups, IsGroup group) →
      run env (groups.flatten ++ option.joined value :: rest) =
          run env (groups.flatten ++ option.name :: bare :: rest) ∧
        (¬option.front.toList <+: value.toList →
          run env (groups.flatten ++ option.joined value :: rest) =
            run env (groups.flatten ++ option.name :: value :: rest))) ∧
    (option.front.toList <+: value.toList → ∀ terminal,
      Settings.read terminal [option.joined value] ≠
        Settings.read terminal [option.name, value]) := by
  obtain ⟨n, bare, hvalue, hbare, hsame, hread⟩ := option.exists_bare value
  refine ⟨n, bare, hvalue, hbare, fun env groups rest hgroups => ?_, fun h => ?_⟩
  · have hrun : run env (groups.flatten ++ option.joined value :: rest) =
        run env (groups.flatten ++ option.name :: bare :: rest) :=
      run_congr (Settings.readFrom_flatten_congr hgroups
        (fun s => option.readFrom_joined value hread s rest) _)
    refine ⟨hrun, fun h => hrun.trans ?_⟩
    rw [hsame h]
  · have hne : bare ≠ value := by
      rintro rfl
      exact hbare h
    exact Settings.read_joined_ne option hread hne h

/-- Behind a moment of reference, the text `--input=lunch at 1` is parsed as `lunch at 1` when it is
joined to its option, and as it stands when it follows it. -/
theorem run_of_joined_input :
    (∃ n bare, "--input=lunch at 1" = String.join (List.replicate n "--input=") ++ bare ∧
      ¬"--input=".toList <+: bare.toList ∧
      run (atRest "") ["--reference", "2013-02-12T04:30:00Z", "--input=--input=lunch at 1"] =
        run (atRest "") ["--reference", "2013-02-12T04:30:00Z", "--input", bare]) ∧
    run (atRest "") ["--reference", "2013-02-12T04:30:00Z", "--input=--input=lunch at 1"] =
      ⟨0, "time:     2013-02-12T01:00:00+00:00\nduration: 0s\n" ++
        "text:     lunch\nspans:    [6..10]\n", ""⟩ ∧
    run (atRest "") ["--reference", "2013-02-12T04:30:00Z", "--input", "--input=lunch at 1"] =
      ⟨0, "time:     2013-02-12T01:00:00+00:00\nduration: 0s\n" ++
        "text:     --input=lunch\nspans:    [14..18]\n", ""⟩ := by
  have hgroups : ∀ group ∈ [["--reference", "2013-02-12T04:30:00Z"]], IsGroup group := by
    intro group hgroup
    rw [List.mem_singleton.mp hgroup]
    exact .valued _ (by decide)
  obtain ⟨n, bare, hvalue, hbare, hrun, -⟩ := run_of_joined .input "--input=lunch at 1"
  have hjoined : Asks (atRest "")
      ["--reference", "2013-02-12T04:30:00Z", "--input=--input=lunch at 1"]
      ⟨some "lunch at 1", some ⟨⟨1360643400, 0⟩, 0⟩, false, false, false, false⟩ "lunch at 1" :=
    ⟨by decide +kernel, Or.inl rfl, by decide +kernel⟩
  have hfollowing : Asks (atRest "")
      ["--reference", "2013-02-12T04:30:00Z", "--input", "--input=lunch at 1"]
      ⟨some "--input=lunch at 1", some ⟨⟨1360643400, 0⟩, 0⟩, false, false, false, false⟩
      "--input=lunch at 1" :=
    ⟨by decide +kernel, Or.inl rfl, by decide +kernel⟩
  refine ⟨⟨n, bare, hvalue, hbare, (hrun (atRest "") _ [] hgroups).1⟩, ?_, ?_⟩
  · rw [run_of_plain hjoined rfl (e := ⟨⟨⟨1360630800, 0⟩, 0⟩, ⟨0⟩, "lunch", [⟨6, 10⟩]⟩)
      (by decide +kernel)]
    decide +kernel
  · rw [run_of_plain hfollowing rfl
      (e := ⟨⟨⟨1360630800, 0⟩, 0⟩, ⟨0⟩, "--input=lunch", [⟨14, 18⟩]⟩) (by decide +kernel)]
    decide +kernel

end CommandLine

end Timephrase
