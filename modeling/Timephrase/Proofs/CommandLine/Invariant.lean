import Timephrase.Proofs.CommandLine.Joined
import Timephrase.Proofs.CommandLine.Plain

/-!
# What arguments keep

The settings that arguments lead to come about option by option, and then by the text.  What each
option that is there keeps, and every text made of the arguments, holds of the settings in the end.

## Main definitions

* `options`: the arguments that stand where an option may stand
* `Given`: the texts that arguments give

## Main results

* `Settings.readFrom_invariant`: what every option and every text keeps
* `Settings.plain_of_read`, `Settings.trace_of_read`: instances of it
-/

namespace Timephrase.CommandLine

/-! ## Options -/

/-- The arguments that stand where an option may stand: those before two hyphens or the first word,
without the values that follow their options. -/
def options : List String → List String
  | [] => []
  | arg :: rest =>
    if arg = "--" ∨ arg.toList.head? ≠ some '-' then []
    else if TakesValue arg then
      match rest with
      | [] => [arg]
      | _ :: rest => arg :: options rest
    else arg :: options rest

theorem options_of_standsAlone {arg : String} (h : StandsAlone arg) (rest : List String) :
    options (arg :: rest) = arg :: options rest := by
  rw [options.eq_def]
  dsimp only
  rw [if_neg (not_or.mpr ⟨h.ne_separator, not_not_intro h.head?_eq⟩), if_neg h.not_takesValue]

theorem options_of_takesValue {arg : String} (h : TakesValue arg) (value : String)
    (rest : List String) : options (arg :: value :: rest) = arg :: options rest := by
  have hnames : ∀ arg ∈ ["--reference", "--input", "-i"],
      ¬(arg = "--" ∨ arg.toList.head? ≠ some '-') := by
    decide
  rw [options.eq_def]
  dsimp only
  rw [if_neg (hnames arg h), if_pos h]

theorem Flag.standsAlone (f : Flag) : StandsAlone f.name := by
  cases f with
  | color on =>
    cases on with
    | _ => decide
  | _ => decide

/-- Induction on arguments, an option being read together with its value: a step may use what is
left after the first argument or after more of them. -/
theorem args_induction {P : List String → Prop} (nil : P [])
    (cons : ∀ arg rest, (∀ left, left <:+ rest → P left) → P (arg :: rest)) (args : List String) :
    P args := by
  induction hlength : args.length using Nat.strong_induction_on generalizing args with
  | h length ih =>
    subst hlength
    cases args with
    | nil => exact nil
    | cons arg rest =>
      exact cons arg rest fun left hleft =>
        ih _ (Nat.lt_succ_of_le hleft.length_le) left rfl

/-! ## What arguments keep -/

/-- A text that arguments give: one of them, a value that is joined to its option in one of them, or
some of them joined by spaces. -/
inductive Given (args : List String) : String → Prop
  | arg {text : String} (h : text ∈ args) : Given args text
  | joined {option : ValuedOption} {arg text : String} (harg : arg ∈ args)
      (h : Settings.joinedValue? option.name arg = some text) : Given args text
  | words {texts : List String} (h : texts ⊆ args) : Given args (" ".intercalate texts)

namespace Settings

variable {P : Settings → Prop} {flags all : List String}

theorem invariant_withInput
    (hinput : ∀ s text, Given all text → P s → P { s with input := some text })
    {s s' : Settings} {text : String} (hgiven : Given all text) (h : s.withInput text = .ok s')
    (hs : P s) : P s' := by
  rw [withInput] at h
  cases hnone : s.input with
  | some before =>
    rw [hnone] at h
    cases h
  | none =>
    rw [hnone] at h
    cases h
    exact hinput s text hgiven hs

theorem invariant_take (hinput : ∀ s text, Given all text → P s → P { s with input := some text })
    (hreference : ∀ s moment, P s → P { s with reference := some moment })
    {s s' : Settings} {option : ValuedOption} {value : String} (hgiven : Given all value)
    (h : option.take s value = .ok s') (hs : P s) : P s' := by
  cases option with
  | reference =>
    rw [ValuedOption.take, withReference] at h
    cases hmoment : Moment.ofRfc3339? value with
    | none =>
      rw [hmoment] at h
      cases h
    | some moment =>
      rw [hmoment] at h
      cases h
      exact hreference s moment hs
  | input => exact invariant_withInput hinput hgiven h hs

/-- **What every option and every text keeps** holds of the settings that arguments lead to. -/
theorem readFrom_invariant (hflag : ∀ f : Flag, f.name ∈ flags → ∀ s, P s → P (f.apply s))
    (hreference : ∀ s moment, P s → P { s with reference := some moment })
    (hinput : ∀ s text, Given all text → P s → P { s with input := some text })
    {s s' : Settings} {args : List String} (hoptions : options args ⊆ flags) (hall : args ⊆ all)
    (h : readFrom s args = .ok (.parse s')) (hs : P s) : P s' := by
  -- On what is left of the arguments: an option takes one or two of them, and the text all.
  induction args using args_induction generalizing s with
  | nil =>
    cases h
    exact hs
  | cons arg rest ih =>
    obtain ⟨harg, hrest⟩ := List.cons_subset.mp hall
    rw [readFrom_cons] at h
    have hfits := Reading.fits_of arg
    generalize Reading.of arg = reading at hfits h
    cases hfits with
    | ends _ outcome houtcome _ => exact absurd h (houtcome s')
    | flag f hname =>
      subst hname
      rw [options_of_standsAlone f.standsAlone, List.cons_subset] at hoptions
      exact ih _ (List.suffix_refl _) hoptions.2 hrest h (hflag f hoptions.1 s hs)
    | valued htakes option =>
      cases rest with
      | nil => cases h
      | cons value rest =>
        obtain ⟨hvalue, hrest⟩ := List.cons_subset.mp hrest
        rw [options_of_takesValue htakes, List.cons_subset] at hoptions
        obtain ⟨s₁, htake, h⟩ := exists_of_bind_eq_ok h
        exact ih _ (List.suffix_cons _ _) hoptions.2 hrest h
          (invariant_take hinput hreference (.arg hvalue) htake hs)
    | joined halone option value hvalue =>
      rw [options_of_standsAlone halone, List.cons_subset] at hoptions
      obtain ⟨s₁, htake, h⟩ := exists_of_bind_eq_ok h
      exact ih _ (List.suffix_refl _) hoptions.2 hrest h
        (invariant_take hinput hreference (.joined harg hvalue) htake hs)
    | separator _ =>
      obtain ⟨s₁, hread, hsame⟩ := exists_of_map_eq_ok h
      cases hsame
      rw [withRest] at hread
      split at hread
      · cases hread
        exact hs
      · exact invariant_withInput hinput (.words hrest) hread hs
    | word _ =>
      obtain ⟨s₁, hread, hsame⟩ := exists_of_map_eq_ok h
      cases hsame
      exact invariant_withInput hinput (.words hall) hread hs

end Settings

theorem Given.plain {args : List String} {text : String} (h : Given args text)
    (hargs : ∀ arg ∈ args, Plain arg) : Plain text := by
  cases h with
  | arg h => exact hargs _ h
  | @joined option arg _ harg h =>
    obtain ⟨hstart, rfl⟩ := Settings.joinedValue?_eq_some_iff.mp h
    obtain ⟨n, hwhole, -⟩ := Settings.exists_dropRepeated
      (List.append_ne_nil_of_right_ne_nil option.name.toList (List.cons_ne_nil '=' []))
      (Nat.le_refl arg.toList.length)
    refine .of_ofList fun hc => (hargs arg harg).escape_not_mem ?_
    rw [hwhole]
    exact List.mem_append_right _ hc
  | words h => exact .intercalate (by decide) fun text htext => hargs text (h htext)

namespace Settings

/-- The text that arguments give has no escape character if none of them has one. -/
theorem plain_of_read {terminal : Bool} {args : List String} {s : Settings}
    (hargs : ∀ arg ∈ args, Plain arg) (h : read terminal args = .ok (.parse s)) :
    ∀ text ∈ s.input, Plain text := by
  refine readFrom_invariant (P := fun s => ∀ text ∈ s.input, Plain text)
    (fun f _ s hs => ?_) (fun s moment hs => hs) (fun s text hgiven _ => ?_) (List.Subset.refl _)
    (List.Subset.refl _) h nofun
  · cases f with
    | _ => exact hs
  · rintro _ ⟨⟩
    exact hgiven.plain hargs

/-- A report is asked for by an option only. -/
theorem trace_of_read {terminal : Bool} {args : List String} {s : Settings}
    (hargs : Flag.trace.name ∉ options args) (h : read terminal args = .ok (.parse s)) :
    s.trace = false := by
  refine readFrom_invariant (P := fun s => s.trace = false)
    (fun f hf s hs => ?_) (fun s moment hs => hs) (fun s text _ hs => hs) (List.Subset.refl _)
    (List.Subset.refl _) h rfl
  cases f with
  | trace => exact absurd hf hargs
  | _ => exact hs

end Settings

end Timephrase.CommandLine
