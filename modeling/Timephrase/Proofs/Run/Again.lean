import Timephrase.Proofs.Pattern.Elsewhere
import Timephrase.Proofs.Run.Reach
import Timephrase.Proofs.Run.Slice
import Timephrase.Proofs.Text.Kind

/-!
# Parsing again what is left

What a parse leaves of a text can be parsed again.  If all matches of the rules have a character that
is not blank, the second parse leaves the text as it is just where no rule recognises anything in it.
A rule that does recognise something there needs what was taken out or put in order: a piece that
stood whole in the text would have been matched the first time.

## Main definitions

* `Rule.isInked`: whether every match of a rule has a character that is not blank

## Main results

* `Parser.parse_again_iff`: when a second parse leaves what the first one has left
* `Rule.not_stoodWhole`: what is recognised in what is left did not stand whole in the text
-/

namespace Timephrase

open Pattern

variable {rule : Rule} {text : String} {mode : MatchMode} {context : Context}

/-! ## Matches that can be seen -/

/-- Whether no member of a set is blank. -/
def CharSet.hasNoBlank (s : CharSet) : Bool := (s.ranges.inter Blank.blanks).list.isEmpty

theorem CharSet.isBlank_of_hasNoBlank {s : CharSet} {c : Char} (hs : s.hasNoBlank = true)
    (h : s.mem c = true) : Blank.isBlank c = false :=
  Ranges.contains_eq_false_of_inter (List.isEmpty_iff.mp hs) h

namespace Rule

/-- Whether every match of a rule has a character that is not blank. -/
def isInked (rule : Rule) : Bool := rule.pattern.node.needs CharSet.hasNoBlank

theorem exists_not_blank_of_mem_findAll (hinked : rule.isInked = true) {m : Match}
    (h : m ∈ rule.pattern.findAll text) :
    ∃ u c v, text.toList = u ++ c :: v ∧ m.span.Covers (Utf8.size u) ∧ Blank.isBlank c = false := by
  obtain ⟨w, u, v, groups, ht, hstart, hstop, -, hway⟩ := exists_matches h
  obtain ⟨r, hr, c, hc, s, hs, hmem⟩ := hway.exists_mem_of_needs hinked
  obtain rfl := hr.unique (Cursor.reads_between u w v)
  obtain ⟨a, b, rfl⟩ := List.append_of_mem hc
  refine ⟨u ++ a, c, b ++ v, by simp [ht], ⟨?_, ?_⟩, CharSet.isBlank_of_hasNoBlank hs hmem⟩
  · rw [hstart, Utf8.size_append]
    exact Nat.le_add_right _ _
  · have := c.utf8Size_pos
    rw [hstop, Utf8.size_append, Utf8.size_append, Utf8.size_append, Utf8.size_cons]
    omega

end Rule

/-! ## The second parse -/

namespace Parser

variable {p : Parser} {e : Extraction}

/-- A parse in which no rule recognises anything succeeds. -/
theorem parse_of_steps_eq_nil (h : p.catalog.steps p.mode text = []) (context : Context) :
    p.parse context text =
      .ok ⟨context.today, .zero, Residual.residual text [], []⟩ :=
  parse_of_steps h rfl

theorem spans_of_parse (h : p.parse context text = .ok e) :
    e.spans = (p.catalog.steps p.mode text).map (·.2.span) := by
  obtain ⟨tally, hrun, rfl⟩ := exists_of_map_eq_ok h
  rw [Catalog.run_eq_foldlM] at hrun
  obtain ⟨state, -, rfl⟩ := exists_of_map_eq_ok hrun
  rfl

theorem exists_residual_of_parse (h : p.parse context text = .ok e) :
    e.text = Residual.residual text e.spans ∧ ∀ s ∈ e.spans, ∃ w, s.Marks text w := by
  obtain ⟨tally, hrun, rfl⟩ := exists_of_map_eq_ok h
  exact ⟨rfl, Catalog.exists_marks_of_run hrun⟩

/-- **When a second parse leaves what the first one has left:** if and only if no rule recognises
anything in it. -/
theorem parse_again_iff (hinked : ∀ rule ∈ p.catalog.rules, rule.isInked = true)
    (h : p.parse context text = .ok e) (context' : Context) :
    (∃ e', p.parse context' e.text = .ok e' ∧ e'.text = e.text) ↔
      p.catalog.steps p.mode e.text = [] := by
  constructor
  · rintro ⟨e', he', hsame⟩
    by_contra hsteps
    obtain ⟨step, hstep⟩ := List.exists_mem_of_ne_nil _ hsteps
    obtain ⟨hrule, hfound⟩ := Catalog.mem_of_mem_steps hstep
    obtain ⟨u, c, v, ht, hcovers, hc⟩ :=
      Rule.exists_not_blank_of_mem_findAll (hinked step.1 hrule) hfound
    -- The span of the step takes that character away.
    have hspan : step.2.span ∈ e'.spans := by
      rw [spans_of_parse he']
      exact List.mem_map_of_mem hstep
    obtain ⟨htext, hmarks⟩ := exists_residual_of_parse he'
    exact Residual.residual_ne hmarks hspan ht hcovers hc (htext.symm.trans hsame)
  · intro hsteps
    obtain ⟨htext, -⟩ := exists_residual_of_parse h
    refine ⟨_, parse_of_steps_eq_nil hsteps context', ?_⟩
    show Residual.residual e.text [] = e.text
    rw [htext, Residual.residual_residual]

end Parser

/-! ## What the second parse recognises -/

/-- **What a rule recognises in what is left did not stand whole in the text**, if all matches of the
rule in the text have been taken out. -/
theorem Rule.not_stoodWhole (hinked : rule.isInked = true)
    (hloop : rule.pattern.node.isLoopFree = true)
    (hbounds : rule.pattern.node.boundsInOrder = true) {spans : List Span}
    (htaken : ∀ m ∈ rule.pattern.findAll text, m.span ∈ spans) {u w v : List Char}
    {groups : List (Nat × Span)}
    (h : rule.pattern.node.Way (.between u (w ++ v)) (.between (u ++ w) v) groups) :
    ¬ Residual.StoodWhole text spans u w v := by
  rintro ⟨x, y, ht, hlast, hhead, huncovered⟩
  rw [List.append_assoc] at ht
  -- The same way leads over the piece in the text.
  obtain ⟨groups', hway⟩ := Node.isLocal_way _ h (Cursor.reads_between u w v)
    (Cursor.reads_between x w y) hlast hhead
  obtain ⟨m, hm, hcovers⟩ := exists_mem_findAll_of_way hloop hbounds hinked ht hway
  obtain ⟨r, hr, c, hc, -⟩ := h.exists_mem_of_needs hinked
  obtain rfl := hr.unique (Cursor.reads_between u w v)
  have hsize := Utf8.size_pos (List.ne_nil_of_mem hc)
  refine huncovered (Utf8.size x) (Nat.le_refl _) ?_ m.span (htaken m hm) hcovers
  rw [Utf8.size_append]
  omega

end Timephrase
