import Timephrase.Proofs.CommandLine.Escape
import Timephrase.Proofs.CommandLine.Invariant
import Timephrase.Proofs.Run.Removal

/-!
# Runs with and without colors

Whether there are colors is settled by the options alone and has no effect on how the arguments are
read.  A run with colors therefore ends as the one without them does, and prints a decoration of
what that one prints.

## Main definitions

* `Exit.IsColored`: an exit is another one with colors

## Main results

* `Settings.read_color`: a color put before the arguments changes nothing but the color
* `run_isColored`: a run with colors is the one without them, with colors
* `run_without_trace`: without a report neither colors nor elapsed times have an effect
* `run_with_color`: colors only decorate
-/

namespace Timephrase.CommandLine

/-! ## Colors among the settings -/

namespace Settings

/-- The settings with or without colors. -/
def withColor (on : Bool) (s : Settings) : Settings := { s with color := on }

variable {s : Settings} {on : Bool}

theorem parser_withColor : (s.withColor on).parser = s.parser := rfl

theorem context_withColor (env : Environment) : (s.withColor on).context env = s.context env := rfl

theorem withInput_withColor (text : String) :
    (s.withColor on).withInput text = (s.withInput text).map (withColor on) := by
  rw [withInput, withInput, withColor]
  cases s.input with
  | _ => rfl

theorem take_withColor (option : ValuedOption) (value : String) :
    option.take (s.withColor on) value = (option.take s value).map (withColor on) := by
  cases option with
  | reference =>
    rw [ValuedOption.take, ValuedOption.take, withReference, withReference]
    cases Moment.ofRfc3339? value with
    | _ => rfl
  | input => exact withInput_withColor value

theorem withRest_withColor (words : List String) :
    (s.withColor on).withRest words = (s.withRest words).map (withColor on) := by
  rw [withRest, withRest]
  split
  · rfl
  · exact withInput_withColor _

end Settings

/-- A request with or without colors. -/
def Request.withColor (on : Bool) : Request → Request
  | .parse s => .parse (s.withColor on)
  | request => request

namespace Settings

/-- **The color has no effect on how arguments are read**, if none of them changes it. -/
theorem readFrom_withColor (on : Bool) (s : Settings) (args : List String)
    (h : ∀ on, (Flag.color on).name ∉ options args) :
    readFrom (s.withColor on) args = (readFrom s args).map (Request.withColor on) := by
  -- On the arguments: the two settings differ in the color after each of them.
  induction args using args_induction generalizing s with
  | nil => rfl
  | cons arg rest ih =>
    rw [readFrom_cons, readFrom_cons]
    have hfits := Reading.fits_of arg
    generalize Reading.of arg = reading at hfits
    cases hfits with
    | ends _ outcome houtcome _ =>
      dsimp only
      rcases outcome with fault | (_ | _ | s')
      · rfl
      · rfl
      · rfl
      · exact absurd rfl (houtcome s')
    | flag f hflag =>
      subst hflag
      rw [options_of_standsAlone f.standsAlone] at h
      have happly : f.apply (s.withColor on) = (f.apply s).withColor on := by
        cases f with
        | color b => exact absurd List.mem_cons_self (h b)
        | _ => rfl
      dsimp only
      rw [happly]
      exact ih _ (List.suffix_refl _) _ fun on hon => h on (List.mem_cons_of_mem _ hon)
    | valued htakes option =>
      cases rest with
      | nil => rfl
      | cons value rest =>
        rw [options_of_takesValue htakes] at h
        dsimp only
        rw [take_withColor]
        cases option.take s value with
        | error fault => rfl
        | ok s' =>
          exact ih _ (List.suffix_cons _ _) _ fun on hon => h on (List.mem_cons_of_mem _ hon)
    | joined halone option value _ =>
      rw [options_of_standsAlone halone] at h
      dsimp only
      rw [take_withColor]
      cases option.take s value with
      | error fault => rfl
      | ok s' =>
        exact ih _ (List.suffix_refl _) _ fun on hon => h on (List.mem_cons_of_mem _ hon)
    | separator _ =>
      dsimp only
      rw [withRest_withColor]
      cases s.withRest rest with
      | _ => rfl
    | word _ =>
      dsimp only
      rw [withWords, withWords, withInput_withColor]
      cases s.withInput (" ".intercalate (arg :: rest)) with
      | _ => rfl

/-- A color put before the arguments is the color of the request that they make. -/
theorem read_color (terminal on : Bool) {args : List String}
    (h : ∀ on, (Flag.color on).name ∉ options args) :
    read terminal ((Flag.color on).name :: args) =
      (read terminal args).map (Request.withColor on) := by
  rw [read, read, ← readFrom_withColor on _ args h, readFrom_cons]
  cases on with
  | _ => rfl

end Settings

/-! ## Runs -/

section

variable {env : Environment} {args : List String}

theorem Exit.output_success (text : String) : (success text).output = text := rfl

/-- An exit is another one with colors. -/
structure Exit.IsColored (colored bare : Exit) : Prop where
  code_eq : colored.code = bare.code
  decorates : Decorates colored.output bare.output
  plain : Plain bare.output

theorem Exit.IsColored.refl {exit : Exit} (h : Plain exit.output) : exit.IsColored exit :=
  ⟨rfl, .refl _, h⟩

theorem Exit.isColored_success {colored bare : String} (h : Decorates colored bare)
    (hplain : Plain bare) : (success colored).IsColored (success bare) := ⟨rfl, h, hplain⟩

variable (hcolor : ∀ on, (Flag.color on).name ∉ options args)

include hcolor

theorem Asks.with_color {s : Settings} {raw : String} (h : Asks env args s raw) (on : Bool) :
    Asks env ((Flag.color on).name :: args) (s.withColor on) raw := by
  refine ⟨?_, h.takes, h.not_blank⟩
  rw [Settings.read_color _ on hcolor, h.read]
  rfl

theorem Rejected.with_color {fault : UsageFault} (h : Rejected env args fault) (on : Bool) :
    Rejected env ((Flag.color on).name :: args) fault := by
  cases h with
  | arguments hread =>
    refine .arguments ?_
    rw [Settings.read_color _ on hcolor, hread]
    rfl
  | @unreadable s reason hread hnone herror =>
    refine .unreadable (s := s.withColor on) ?_ hnone herror
    rw [Settings.read_color _ on hcolor, hread]
    rfl
  | @blank s raw hread htakes hblank =>
    refine .blank (s := s.withColor on) ?_ htakes hblank
    rw [Settings.read_color _ on hcolor, hread]
    rfl

/-- What is asked for without a text is answered without colors. -/
theorem run_color_of_read {request : Request}
    (hread : Settings.read env.terminal args = .ok request)
    (hrequest : ∀ on, request.withColor on = request) (on : Bool) :
    run env ((Flag.color on).name :: args) = run env args := by
  refine run_congr ?_
  rw [Settings.read_color _ on hcolor, hread]
  exact congrArg Except.ok (hrequest on)

variable (hargs : ∀ arg ∈ args, Plain arg) (hinput : ∀ text, env.input = .ok text → Plain text)
  (htiming : env.timing.IsPlain)

include hargs hinput htiming

/-- What is printed for a text is the same with colors, but for the colors. -/
theorem isColored_of_asks {s : Settings} {raw : String} (h : Asks env args s raw) :
    (run env ((Flag.color true).name :: args)).IsColored
      (run env ((Flag.color false).name :: args)) := by
  have hraw : Plain (Blank.trim raw) := by
    refine Blank.plain_trim ?_
    rcases h.takes with hgiven | ⟨-, hread⟩
    · exact Settings.plain_of_read hargs h.read raw hgiven
    · exact hinput raw hread
  have hasks := h.with_color hcolor
  -- Colors have no part in the parse, which is the same for both runs.
  obtain ⟨failure, herror, -⟩ | ⟨e, passes, hok, htraced, haccounts, -⟩ :=
    s.parser.parse_and_traced (s.context env) (Blank.trim raw)
  · have hrun : ∀ on, run env ((Flag.color on).name :: args) = .failure failure := fun on =>
      run_of_parse_error (hasks on)
        (by rw [Settings.parser_withColor, Settings.context_withColor, herror])
    rw [hrun, hrun]
    exact .refl (by decide : Plain "")
  · have htext := Parser.plain_of_parse hraw hok
    cases htrace : s.trace with
    | false =>
      have hrun : ∀ on, run env ((Flag.color on).name :: args) = .success (Report.plain e) :=
        fun on => run_of_plain (hasks on) htrace
          (by rw [Settings.parser_withColor, Settings.context_withColor, hok])
      rw [hrun, hrun]
      exact Exit.isColored_success (.refl _) (Report.plain_plain htext)
    | true =>
      have hrun : ∀ on, run env ((Flag.color on).name :: args) = .success
          (Report.traced ⟨on⟩ env.timing (Blank.trim raw) ⟨e, s.context env, passes⟩) :=
        fun on => run_of_traced (hasks on) htrace
          (by rw [Settings.parser_withColor, Settings.context_withColor, htraced])
      -- A report names the rules of the catalog, whose names are known.
      have hnames := map_eq_map_of_forall₂ (haccounts.imp fun _ _ haccount => haccount.name)
      have hrules : ∀ pass ∈ passes, Plain pass.rule := by
        intro pass hpass
        have hname := List.mem_map_of_mem (f := Pass.rule) hpass
        rw [hnames] at hname
        obtain ⟨rule, hrule, hsame⟩ := List.mem_map.mp hname
        exact hsame ▸ English.plain_name_of_mem_rules rule hrule
      rw [hrun, hrun]
      exact Exit.isColored_success (Report.decorates_traced _ _ _ _)
        (Report.plain_traced htiming hraw htext hrules)

/-- **A run with colors** ends as the one without them, and decorates its output. -/
theorem run_isColored : (run env ((Flag.color true).name :: args)).IsColored
    (run env ((Flag.color false).name :: args)) := by
  rcases asks_or_rejected env args with hread | hread | ⟨s, raw, hasks⟩ | ⟨fault, hrejected⟩
  · have hsame := run_color_of_read hcolor hread fun _ => rfl
    rw [hsame, hsame, run, hread]
    exact Exit.isColored_success (.refl _) (plain_helpText.append (by decide))
  · have hsame := run_color_of_read hcolor hread fun _ => rfl
    rw [hsame, hsame, run, hread]
    exact Exit.isColored_success (.refl _) (by decide)
  · exact isColored_of_asks hcolor hargs hinput htiming hasks
  · rw [run_of_rejected (hrejected.with_color hcolor true),
      run_of_rejected (hrejected.with_color hcolor false)]
    exact .refl (by decide : Plain "")

omit hargs hinput htiming

/-- Without a report neither colors nor elapsed times have an effect on a run. -/
theorem run_without_trace (htrace : Flag.trace.name ∉ options args) (on on' : Bool)
    (timing : Timing) : run env ((Flag.color on).name :: args) =
      run { env with timing } ((Flag.color on').name :: args) := by
  rw [run, run, Settings.read_color _ on hcolor, Settings.read_color _ on' hcolor]
  dsimp only
  cases hread : Settings.read env.terminal args with
  | error fault => rfl
  | ok request =>
    cases request with
    | help => rfl
    | version => rfl
    | parse s =>
      have htrace := Settings.trace_of_read htrace hread
      -- What is printed without a report has neither colors nor times in it.
      have houtput : ∀ text, output env (s.withColor on) text =
          output { env with timing } (s.withColor on') text := by
        intro text
        have hon : (s.withColor on).trace = false := htrace
        have hoff : (s.withColor on').trace = false := htrace
        rw [output_eq, output_eq, hon, hoff]
        rfl
      have hsettings : runSettings env (s.withColor on) =
          runSettings { env with timing } (s.withColor on') := by
        rw [runSettings, runSettings]
        simp only [houtput]
        rfl
      exact hsettings

end

/-- **Colors only decorate.**  Where neither the arguments nor the standard input have an escape
character, and no option is a color, the run with a color in front of the arguments ends with the
same code as the one without colors, and its output without the escape sequences is the other one's,
if the same elapsed times are written in both.  Without a report asked for, the outputs are the same
as they are, whatever the elapsed times. -/
theorem run_with_color (env : Environment) (args : List String)
    (hon : "--color" ∉ options args) (hoff : "--no-color" ∉ options args)
    (hargs : ∀ arg ∈ args, Plain arg) (hinput : ∀ text, env.input = .ok text → Plain text)
    (htiming : env.timing.IsPlain) :
    withoutSequences (run env ("--color" :: args)).output =
        (run env ("--no-color" :: args)).output ∧
      (run env ("--color" :: args)).code = (run env ("--no-color" :: args)).code ∧
      ("--trace" ∉ options args → ∀ timing,
        (run env ("--color" :: args)).output =
          (run { env with timing } ("--no-color" :: args)).output) := by
  have hcolor : ∀ on, (Flag.color on).name ∉ options args := by
    intro on
    cases on with
    | true => exact hon
    | false => exact hoff
  have hcolored := run_isColored hcolor hargs hinput htiming
  refine ⟨hcolored.decorates.withoutSequences_eq hcolored.plain, hcolored.code_eq,
    fun htrace timing => ?_⟩
  exact congrArg Exit.output (run_without_trace hcolor htrace true false timing)

/-- The report of "lunch at 1" has escape sequences with colors only, and the plain result of it has
none with them either. -/
theorem run_with_color_of_lunch :
    let timing : Timing := ⟨Elapsed.text 1500000, Elapsed.text 1200000, Elapsed.text 900,
      fun place => Elapsed.text (1000 * place)⟩
    let env : Environment := { atRest "" with timing }
    withoutSequences (run env ["--color", "--trace", "lunch", "at", "1"]).output =
        (run env ["--no-color", "--trace", "lunch", "at", "1"]).output ∧
      ¬Plain (run env ["--color", "--trace", "lunch", "at", "1"]).output ∧
      (run env ["--no-color", "--trace", "lunch", "at", "1"]).code = 0 ∧
      (run env ["--color", "lunch", "at", "1"]).output =
        (run (atRest "") ["--no-color", "lunch", "at", "1"]).output := by
  intro timing env
  have htiming : env.timing.IsPlain :=
    ⟨Elapsed.plain_text 1500000, Elapsed.plain_text 1200000, Elapsed.plain_text 900,
      fun place => Elapsed.plain_text (1000 * place)⟩
  have hinput : ∀ text, env.input = .ok text → Plain text := by
    rintro _ ⟨⟩
    decide
  obtain ⟨hreport, hcode, -⟩ := run_with_color env ["--trace", "lunch", "at", "1"] (by decide)
    (by decide) (by decide) hinput htiming
  obtain ⟨-, -, hresult⟩ := run_with_color env ["lunch", "at", "1"] (by decide) (by decide)
    (by decide) hinput htiming
  -- The report is only looked at for whether it has colors; what it says need not be computed.
  have hasks : Asks env ["--color", "--trace", "lunch", "at", "1"]
      ⟨some "lunch at 1", none, false, true, false, true⟩ "lunch at 1" :=
    ⟨by decide +kernel, Or.inl rfl, by decide +kernel⟩
  have hparse : (⟨some "lunch at 1", none, false, true, false, true⟩ : Settings).parser.parse
      (.at ⟨⟨0, 0⟩, 0⟩) "lunch at 1" =
        .ok ⟨⟨⟨3600, 0⟩, 0⟩, ⟨0⟩, "lunch", [⟨6, 10⟩]⟩ := by
    decide +kernel
  have hrun := run_of_traced hasks rfl (Parser.parseTraced_of_parse hparse).1
  refine ⟨hreport, ?_, ?_, hresult (by decide) _⟩
  · rw [hrun, Exit.output_success]
    exact Report.not_plain_traced _ _ _
  · rw [← hcode, hrun]
    rfl

end Timephrase.CommandLine
