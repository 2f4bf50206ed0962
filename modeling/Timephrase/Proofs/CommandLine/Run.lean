import Timephrase.CommandLine.Run
import Timephrase.Proofs.Run.Account

/-!
# The command line prints what a parse answers

A run of the command line that gets as far as a text parses it once, with the English catalog, and
prints the answer: in four lines, or in a report that lists the rules with their spans.  A failed
parse and arguments that make no sense leave the standard output empty.

## Main definitions

* `Asks`: arguments ask for a parse of a text
* `Rejected`: arguments make no sense, for a given fault
* `Report.opening`, `Report.ruleLine`, `Report.closing`: the parts of a report

## Main results

* `asks_or_rejected`: arguments that ask for no help or version ask for a parse or are rejected
* `Report.traced_eq`: a report lists each rule and then its spans
* `Parser.parse_and_traced`: a plain and a traced parse fail alike or answer alike
* `run_cases`: how a run ends
* `run_prints_parse`: what a run prints, and with which code it ends
-/

namespace Timephrase

/-- **A plain and a traced parse fail alike or answer alike.**  The traced one has an entry for each
rule, and the spans of the entries put together are those of the answer. -/
theorem Parser.parse_and_traced (p : Parser) (context : Context) (text : String) :
    (∃ failure, p.parse context text = .error failure ∧
      p.parseTraced context text = .error failure) ∨
    ∃ e passes, p.parse context text = .ok e ∧
      p.parseTraced context text = .ok ⟨e, context, passes⟩ ∧
      List.Forall₂ (Pass.Accounts p.mode text) p.catalog.rules passes ∧
      passes.flatMap (·.spans) = e.spans ∧
      TracedExtraction.appliedRules ⟨e, context, passes⟩ =
        (passes.filter (·.spans ≠ [])).map (·.rule) := by
  rw [parse, parseTraced, ← Catalog.map_trace]
  cases htrace : p.catalog.trace context p.mode text with
  | error failure => exact Or.inl ⟨failure, rfl, rfl⟩
  | ok result =>
    obtain ⟨tally, passes⟩ := result
    obtain ⟨rfl, hspans⟩ := Catalog.passes_eq_of_trace htrace
    obtain ⟨haccounts, happlied⟩ := faithful_account p.catalog.rules p.mode text
    refine Or.inr ⟨_, _, rfl, rfl, haccounts, ?_, happlied⟩
    rw [List.flatMap_map]
    exact hspans.symm

namespace CommandLine

/-! ## The parts of a report -/

namespace Report

variable (p : Palette) (timing : Timing)

/-- The lines of a report before those of the rules. -/
def opening (context : Context) (input : String) : List String :=
  ["",
    p.paint .bold (p.paint .cyan ("⚙  Parsing: \"" ++ input ++ "\"")),
    "  " ++ p.paint .dim "reference:" ++ " " ++ p.paint .gray context.now.rfc3339,
    "",
    p.paint .gray "━━━ Rules ━━━"]

/-- The line of one rule: its name, its kind, what became of it, and the time that it took. -/
def ruleLine (elapsed : String) (pass : Pass) : String :=
  "  " ++ p.paint .blue (padded 10 pass.rule) ++ " " ++ p.paint .dim (padded 8 (kind pass.kind)) ++
    " " ++ status p pass.status ++ " " ++ p.paint .dim elapsed

/-- The lines of a report after those of the rules: the time, the duration and the text that a parse
answers, the names of the rules that were applied, and the elapsed times. -/
def closing (result : Extraction) (applied : List String) : List String :=
  ["",
    p.paint .gray "━━━ Result ━━━",
    "  " ++ p.paint .dim "time:    " ++ " " ++ p.paint .bold (p.paint .green result.time.rfc3339),
    "  " ++ p.paint .dim "duration:" ++ " " ++ p.paint .green result.duration.text,
    textLine p result.text,
    appliedLine p applied,
    "",
    p.paint .gray "━━━ Timing ━━━",
    "  Total: " ++ p.paint .green timing.total ++ "  │  Rules: " ++ p.paint .cyan timing.rules ++
      "  │  Reduce: " ++ p.paint .dim timing.reduce,
    ""]

theorem passesLines_eq (input : String) (place : Nat) (passes : List Pass) :
    passesLines p input timing place passes = (passes.zipIdx place).flatMap fun (pass, i) =>
      ruleLine p (timing.pass i) pass :: pass.spans.map (spanLine p input) := by
  induction passes generalizing place with
  | nil => rfl
  | cons pass passes ih =>
    rw [passesLines, ih, List.zipIdx_cons, List.flatMap_cons]
    rfl

/-- **A report lists each rule and then its spans**, between the opening and the result. -/
theorem traced_eq (input : String) (t : TracedExtraction) :
    traced p timing input t = lines (opening p t.context input ++
      (t.passes.zipIdx.flatMap fun (pass, i) =>
        ruleLine p (timing.pass i) pass :: pass.spans.map (spanLine p input)) ++
      closing p timing t.result t.appliedRules) := by
  rw [← passesLines_eq]
  rfl

end Report

/-! ## What is asked -/

variable {env : Environment} {args : List String} {s : Settings} {raw : String}

/-- The text that settings take as it is given: their own, or else the standard input. -/
def Settings.Takes (env : Environment) (s : Settings) (raw : String) : Prop :=
  s.input = some raw ∨ s.input = none ∧ env.input = .ok raw

/-- Arguments ask for a parse of a text, which is not blank. -/
structure Asks (env : Environment) (args : List String) (s : Settings) (raw : String) : Prop where
  read : Settings.read env.terminal args = .ok (.parse s)
  takes : s.Takes env raw
  not_blank : Blank.trim raw ≠ ""

/-- Arguments are rejected: they cannot be read, or what they take as the text cannot be read or is
blank. -/
inductive Rejected (env : Environment) (args : List String) : UsageFault → Prop
  | arguments {fault : UsageFault} (h : Settings.read env.terminal args = .error fault) :
      Rejected env args fault
  | unreadable {s : Settings} {reason : String}
      (hread : Settings.read env.terminal args = .ok (.parse s)) (hinput : s.input = none)
      (h : env.input = .error reason) : Rejected env args (.unreadableInput reason)
  | blank {s : Settings} {raw : String} (hread : Settings.read env.terminal args = .ok (.parse s))
      (htakes : s.Takes env raw) (h : Blank.trim raw = "") : Rejected env args .noInput

/-- The matches of a rule that settings make count. -/
def Settings.mode (s : Settings) : MatchMode := if s.firstOnly then .first else .all

/-- The English catalog, with the matches that settings make count. -/
def Settings.parser (s : Settings) : Parser := ⟨English.catalogRead, s.mode⟩

/-- The moment of reference, or else that of the clock. -/
def Settings.context (env : Environment) (s : Settings) : Context := .at (s.reference.getD env.now)

/-- **Arguments that ask for no help or version** ask for a parse or are rejected. -/
theorem asks_or_rejected (env : Environment) (args : List String) :
    Settings.read env.terminal args = .ok .help ∨ Settings.read env.terminal args = .ok .version ∨
      (∃ s raw, Asks env args s raw) ∨ ∃ fault, Rejected env args fault := by
  cases hread : Settings.read env.terminal args with
  | error fault => exact Or.inr (Or.inr (Or.inr ⟨fault, .arguments hread⟩))
  | ok request =>
    cases request with
    | help => exact Or.inl rfl
    | version => exact Or.inr (Or.inl rfl)
    | parse s =>
      refine Or.inr (Or.inr ?_)
      -- Wherever the text comes from, it is rejected if it is blank.
      have htaken : ∀ raw, s.Takes env raw →
          (∃ s raw, Asks env args s raw) ∨ ∃ fault, Rejected env args fault := by
        intro raw htakes
        by_cases hblank : Blank.trim raw = ""
        · exact Or.inr ⟨_, .blank hread htakes hblank⟩
        · exact Or.inl ⟨s, raw, hread, htakes, hblank⟩
      cases hinput : s.input with
      | some raw => exact htaken raw (Or.inl hinput)
      | none =>
        cases henv : env.input with
        | ok raw => exact htaken raw (Or.inr ⟨hinput, henv⟩)
        | error reason => exact Or.inr ⟨_, .unreadable hread hinput henv⟩

theorem source_of_takes (h : s.Takes env raw) : source env s =
    if Blank.trim raw = "" then .error .noInput else .ok (Blank.trim raw) := by
  rcases h with hinput | ⟨hinput, henv⟩
  · rw [source, hinput]
    rfl
  · rw [source, hinput, henv]
    rfl

/-! ## What is printed -/

theorem run_of_rejected {fault : UsageFault} (h : Rejected env args fault) :
    run env args = .usage fault := by
  cases h with
  | arguments hread => rw [run, hread]
  | unreadable hread hinput henv =>
    rw [run, hread]
    dsimp only
    rw [runSettings, source, hinput, henv]
    rfl
  | blank hread htakes hblank =>
    rw [run, hread]
    dsimp only
    rw [runSettings, source_of_takes htakes, if_pos hblank]

/-- The exit for what is to be printed, or for a failure. -/
def Exit.ofOutput : Except Failure String → Exit
  | .ok text => .success text
  | .error failure => .failure failure

theorem run_of_asks (h : Asks env args s raw) :
    run env args = .ofOutput (output env s (Blank.trim raw)) := by
  have hrun : run env args = runSettings env s := by rw [run, h.read]
  rw [hrun, runSettings]
  -- Under the binder, as a match on an output would have the catalog computed.
  conv_lhs =>
    enter [4, text]
    equals Exit.ofOutput (output env s text) =>
      generalize output env s text = result
      cases result with
      | ok text => rfl
      | error failure => rfl
  rw [source_of_takes h.takes, if_neg h.not_blank]

/-- The English catalog can be read, so settings always make a parser. -/
theorem output_eq (env : Environment) (s : Settings) (text : String) : output env s text =
    if s.trace then
      (s.parser.parseTraced (s.context env) text).map (Report.traced ⟨s.color⟩ env.timing text)
    else (s.parser.parse (s.context env) text).map Report.plain := by
  rw [output, parser, English.catalog_eq]
  rfl

section

variable (h : Asks env args s raw)

include h

theorem run_of_parse_error {failure : Failure}
    (hparse : s.parser.parse (s.context env) (Blank.trim raw) = .error failure) :
    run env args = .failure failure := by
  obtain ⟨f, herror, htraced⟩ | ⟨e, passes, hok, -⟩ :=
    s.parser.parse_and_traced (s.context env) (Blank.trim raw)
  · obtain rfl : f = failure := Except.error.inj (herror.symm.trans hparse)
    rw [run_of_asks h, output_eq, htraced, hparse]
    split
    · rfl
    · rfl
  · rw [hparse] at hok
    cases hok

theorem run_of_plain {e : Extraction} (htrace : s.trace = false)
    (hparse : s.parser.parse (s.context env) (Blank.trim raw) = .ok e) :
    run env args = .success (Report.plain e) := by
  rw [run_of_asks h, output_eq, htrace, hparse]
  rfl

theorem run_of_traced {t : TracedExtraction} (htrace : s.trace = true)
    (hparse : s.parser.parseTraced (s.context env) (Blank.trim raw) = .ok t) :
    run env args = .success (Report.traced ⟨s.color⟩ env.timing (Blank.trim raw) t) := by
  rw [run_of_asks h, output_eq, htrace, hparse]
  rfl

end

/-- A run succeeds, ends with a failure, or has rejected its arguments. -/
theorem run_cases (env : Environment) (args : List String) :
    (∃ text, run env args = .success text) ∨ (∃ failure, run env args = .failure failure) ∨
      ∃ fault, Rejected env args fault := by
  rcases asks_or_rejected env args with hread | hread | ⟨s, raw, hasks⟩ | hrejected
  · rw [run, hread]
    exact Or.inl ⟨_, rfl⟩
  · rw [run, hread]
    exact Or.inl ⟨_, rfl⟩
  · rw [run_of_asks hasks]
    cases output env s (Blank.trim raw) with
    | ok text => exact Or.inl ⟨text, rfl⟩
    | error failure => exact Or.inr (Or.inl ⟨failure, rfl⟩)
  · exact Or.inr (Or.inr hrejected)

/-- A run that does not succeed writes nothing to the standard output. -/
theorem output_of_code_ne_zero (h : (run env args).code ≠ 0) : (run env args).output = "" := by
  rcases run_cases env args with ⟨text, hrun⟩ | ⟨failure, hrun⟩ | ⟨fault, hrejected⟩
  · rw [hrun] at h
    exact absurd rfl h
  · rw [hrun]
    rfl
  · rw [run_of_rejected hrejected]
    rfl

/-- The code of a run is 2 just if its arguments are rejected. -/
theorem code_eq_two_iff : (run env args).code = 2 ↔ ∃ fault, Rejected env args fault := by
  constructor
  · intro h
    rcases run_cases env args with ⟨text, hrun⟩ | ⟨failure, hrun⟩ | hrejected
    · rw [hrun] at h
      cases h
    · rw [hrun] at h
      cases h
    · exact hrejected
  · rintro ⟨fault, hrejected⟩
    rw [run_of_rejected hrejected]
    rfl

/-- **A run prints what a parse answers.**  When arguments ask for a parse of a text, it is trimmed
and parsed with the English catalog, from the moment of reference.  If the parse fails, the run ends
with code 1 and prints nothing but the failure, on the standard error, with a report asked for or
not.  If it succeeds, the run ends with code 0 and prints nothing there.  Its output is then the
four lines of the time, the duration, the text and the spans.  If a report is asked for, the output
has one line for each rule, followed by the lines of its spans, which put together are those of the
result, and then the same time, duration and text.  When arguments are rejected, which is what code
2 says, and whenever the code is not 0, nothing is printed on the standard output. -/
theorem run_prints_parse (env : Environment) (args : List String) :
    (∀ s raw, Asks env args s raw →
      (∀ failure, s.parser.parse (s.context env) (Blank.trim raw) = .error failure →
        run env args = ⟨1, "", "error: " ++ failure.message ++ "\n"⟩) ∧
      ∀ e, s.parser.parse (s.context env) (Blank.trim raw) = .ok e →
        (s.trace = false → run env args =
          ⟨0, Report.lines [
            "time:     " ++ e.time.rfc3339,
            "duration: " ++ e.duration.text,
            "text:     " ++ e.text,
            "spans:    [" ++ ", ".intercalate (e.spans.map Report.span) ++ "]"], ""⟩) ∧
        (s.trace = true → ∃ passes,
          List.Forall₂ (Pass.Accounts s.mode (Blank.trim raw)) English.catalogRead.rules passes ∧
          passes.flatMap (·.spans) = e.spans ∧
          run env args =
            ⟨0, Report.lines (
              Report.opening ⟨s.color⟩ (s.context env) (Blank.trim raw) ++
              (passes.zipIdx.flatMap fun (pass, i) =>
                Report.ruleLine ⟨s.color⟩ (env.timing.pass i) pass ::
                  pass.spans.map (Report.spanLine ⟨s.color⟩ (Blank.trim raw))) ++
              Report.closing ⟨s.color⟩ env.timing e
                ((passes.filter (·.spans ≠ [])).map (·.rule))), ""⟩)) ∧
    (∀ fault, Rejected env args fault → run env args = ⟨2, "", fault.message ++ "\n"⟩) ∧
    ((run env args).code = 2 ↔ ∃ fault, Rejected env args fault) ∧
    ((run env args).code ≠ 0 → (run env args).output = "") := by
  refine ⟨fun s raw h => ⟨fun failure hparse => run_of_parse_error h hparse,
    fun e hparse => ⟨fun htrace => run_of_plain h htrace hparse, fun htrace => ?_⟩⟩,
    fun fault => run_of_rejected, code_eq_two_iff, output_of_code_ne_zero⟩
  obtain ⟨failure, herror, -⟩ | ⟨e', passes, hok, htraced, haccounts, hspans, happlied⟩ :=
    s.parser.parse_and_traced (s.context env) (Blank.trim raw)
  · rw [hparse] at herror
    cases herror
  · obtain rfl : e' = e := Except.ok.inj (hok.symm.trans hparse)
    refine ⟨passes, haccounts, hspans, ?_⟩
    rw [run_of_traced h htrace htraced, Report.traced_eq, happlied]
    rfl

/-- A text on the standard input, at the start of 1970 and not on a terminal. -/
def atRest (input : String) : Environment :=
  ⟨.ok input, ⟨⟨0, 0⟩, 0⟩, false, ⟨"", "", "", fun _ => ""⟩⟩

/-- "lunch at 1", given as words, is parsed and printed.  A number of weeks that leads out of the
calendar, on the standard input, is a failure with a report asked for, too. -/
theorem run_prints_parse_of_lunch :
    Asks (atRest "") ["--reference", "2013-02-12T04:30:00Z", "lunch", "at", "1"]
        ⟨some "lunch at 1", some ⟨⟨1360643400, 0⟩, 0⟩, false, false, false, false⟩ "lunch at 1" ∧
      run (atRest "") ["--reference", "2013-02-12T04:30:00Z", "lunch", "at", "1"] =
        ⟨0, "time:     2013-02-12T01:00:00+00:00\nduration: 0s\n" ++
          "text:     lunch\nspans:    [6..10]\n", ""⟩ ∧
      Asks (atRest "in 9999999999 weeks\n") ["--trace"] ⟨none, none, false, true, false, false⟩
        "in 9999999999 weeks\n" ∧
      run (atRest "in 9999999999 weeks\n") ["--trace"] =
        ⟨1, "", "error: rule `in offset`: resulting time is out of range\n"⟩ ∧
      Rejected (atRest "") ["--first"] (.unknownOption "--first") ∧
      run (atRest "") ["--first"] = ⟨2, "", "error: unknown option '--first'\n"⟩ := by
  have hlunch : Asks (atRest "") ["--reference", "2013-02-12T04:30:00Z", "lunch", "at", "1"]
      ⟨some "lunch at 1", some ⟨⟨1360643400, 0⟩, 0⟩, false, false, false, false⟩ "lunch at 1" :=
    ⟨by decide +kernel, Or.inl rfl, by decide +kernel⟩
  have hweeks : Asks (atRest "in 9999999999 weeks\n") ["--trace"]
      ⟨none, none, false, true, false, false⟩ "in 9999999999 weeks\n" :=
    ⟨by decide +kernel, Or.inr ⟨rfl, rfl⟩, by decide +kernel⟩
  have hfirst : Rejected (atRest "") ["--first"] (.unknownOption "--first") :=
    .arguments (by decide +kernel)
  have hprinted := ((run_prints_parse _ _).1 _ _ hlunch).2
    ⟨⟨⟨1360630800, 0⟩, 0⟩, ⟨0⟩, "lunch", [⟨6, 10⟩]⟩ (by decide +kernel)
  have hfailed := ((run_prints_parse _ _).1 _ _ hweeks).1 (.outOfRange "in offset")
    (by decide +kernel)
  refine ⟨hlunch, (hprinted.1 rfl).trans ?_, hweeks, hfailed.trans ?_, hfirst,
    ((run_prints_parse _ _).2.1 _ hfirst).trans ?_⟩
  · decide +kernel
  · decide +kernel
  · decide +kernel

end CommandLine

end Timephrase
