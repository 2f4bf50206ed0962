import Timephrase.Proofs.English.Catalog
import Timephrase.Proofs.Pattern.Edge
import Timephrase.Proofs.Run.Trace
import Timephrase.Proofs.Text.Kind

/-!
# Words stay whole

No span that a rule of the English catalog records cuts a word in two.  What a word is made of is
the same for seven of the rules: the word characters of all scripts.  The pattern for dates knows
ASCII alone, so that it sees the end of a word where a character of another script follows.

## Main definitions

* `KeepsWords`: a position of a text does not stand inside a word

## Main results

* `English.keepsWords_of_mem_spans`: the spans recorded by the English catalog keep words whole
-/

namespace Timephrase

/-- A position in bytes stands between two characters of a text, or at one of its ends, and not
inside a word made of some characters. -/
def KeepsWords (isWord : Char → Bool) (text : String) (position : Nat) : Prop :=
  ∃ u v, text.toList = u ++ v ∧ Utf8.size u = position ∧
    ¬ (u.getLast?.any isWord = true ∧ v.head?.any isWord = true)

namespace Pattern

variable {p : Pattern} {text : String} {m : Match} {ascii : Bool}

/-- At the edge of a word no word goes on. -/
theorem not_both_of_holdsAt {u v : List Char}
    (h : (Look.word .boundary ascii).HoldsAt (.between u v)) :
    ¬ (u.getLast?.any (Word.kind ascii) = true ∧ v.head?.any (Word.kind ascii) = true) := by
  rintro ⟨hu, hv⟩
  have hne : (u.getLast?.any (Word.kind ascii) != v.head?.any (Word.kind ascii)) = true := h
  rw [hu, hv] at hne
  cases hne

/-- The matches of a pattern that opens and closes with edges of words keep words whole. -/
theorem keepsWords_of_mem_findAll (hopens : p.node.opens (.word .boundary ascii) = true)
    (hcloses : p.node.closes (.word .boundary ascii) false = true) (h : m ∈ p.findAll text) :
    KeepsWords (Word.kind ascii) text m.span.start ∧
      KeepsWords (Word.kind ascii) text m.span.stop := by
  obtain ⟨u, v, ht, hu, hl⟩ := holds_start_of_mem_findAll hopens h
  obtain ⟨u', v', ht', hu', hl'⟩ := holds_stop_of_mem_findAll hcloses h
  exact ⟨⟨u, v, ht, hu, not_both_of_holdsAt hl⟩, u', v', ht', hu', not_both_of_holdsAt hl'⟩

end Pattern

namespace English

/-- Every pattern of the catalog opens and closes with edges of words. -/
theorem opens_and_closes : ∀ rule ∈ catalogRead.rules,
    rule.pattern.node.opens (.word .boundary (rule.name == "date")) = true ∧
      rule.pattern.node.closes (.word .boundary (rule.name == "date")) false = true := by
  decide

/-- The matches that the rules of the catalog find keep words whole. -/
theorem keepsWords_of_mem_calls {mode : MatchMode} {text : String} {call : Call}
    (h : call ∈ catalogRead.calls mode text) :
    KeepsWords (Word.kind (call.rule.name == "date")) text call.found.span.start ∧
      KeepsWords (Word.kind (call.rule.name == "date")) text call.found.span.stop := by
  have hrule := List.mem_of_getElem? (Catalog.mem_calls_iff.mp h).1
  obtain ⟨hopens, hcloses⟩ := opens_and_closes call.rule hrule
  exact Pattern.keepsWords_of_mem_findAll hopens hcloses (Catalog.mem_findAll_of_mem_calls h)

/-- **No recorded span cuts a word in two**: for the rule of dates no word of ASCII characters, and
for every other rule no word of the characters of all scripts. -/
theorem keepsWords_of_mem_spans (context : Context) (mode : MatchMode) (text : String) :
    ∃ c, catalog = .ok c ∧ ∀ tally passes, c.trace context mode text = .ok (tally, passes) →
      ∀ pass ∈ passes, ∀ s ∈ pass.spans,
        (pass.rule ≠ "date" →
          KeepsWords Word.isWord text s.start ∧ KeepsWords Word.isWord text s.stop) ∧
        (pass.rule = "date" →
          KeepsWords Word.isAsciiWord text s.start ∧ KeepsWords Word.isAsciiWord text s.stop) := by
  refine ⟨catalogRead, catalog_eq, fun tally passes h pass hpass s hs => ?_⟩
  obtain ⟨call, hcall, hname, rfl⟩ :=
    (Catalog.mem_spans_iff_of_trace h).mp ⟨pass, hpass, rfl, hs⟩
  have hkeeps := keepsWords_of_mem_calls hcall
  rw [hname] at hkeeps
  constructor
  · intro hdate
    rw [beq_eq_false_iff_ne.mpr hdate] at hkeeps
    exact hkeeps
  · intro hdate
    rw [hdate] at hkeeps
    exact hkeeps

/-- In "on may 5" the rule of dates records the whole text, whose ends do not stand inside words. -/
theorem keepsWords_on_may : ∃ c tally passes, catalog = .ok c ∧
    c.trace halfPastFour .all "on may 5" = .ok (tally, passes) ∧
    ∃ pass ∈ passes, pass.rule = "date" ∧ ⟨0, 8⟩ ∈ pass.spans ∧
      KeepsWords Word.isAsciiWord "on may 5" 0 ∧ KeepsWords Word.isAsciiWord "on may 5" 8 := by
  obtain ⟨c, hc, h⟩ := keepsWords_of_mem_spans halfPastFour .all "on may 5"
  obtain rfl := catalogRead_eq hc
  obtain ⟨tally, passes, htrace⟩ : ∃ tally passes,
      catalogRead.trace halfPastFour .all "on may 5" = .ok (tally, passes) :=
    Catalog.exists_trace_of_isOk (by decide)
  have hcall : ⟨5, dateRule, ⟨⟨0, 8⟩, [(3, ⟨7, 8⟩), (2, ⟨3, 6⟩)]⟩⟩ ∈
      catalogRead.calls .all "on may 5" :=
    Catalog.mem_calls_iff.mpr ⟨rfl, by decide, by decide⟩
  obtain ⟨pass, hpass, hname, hs⟩ :=
    (Catalog.mem_spans_iff_of_trace htrace).mpr ⟨_, hcall, rfl, rfl⟩
  exact ⟨catalogRead, tally, passes, hc, htrace, pass, hpass, hname, hs,
    (h _ _ htrace pass hpass _ hs).2 hname⟩

/-- The rule of dates cuts the word "jané" after its third letter, as it takes `é` for no part of
a word. -/
theorem date_cuts_word : ¬ ∃ c, catalog = .ok c ∧
    ∀ context mode text tally passes, c.trace context mode text = .ok (tally, passes) →
      ∀ pass ∈ passes, ∀ s ∈ pass.spans,
        KeepsWords Word.isWord text s.start ∧ KeepsWords Word.isWord text s.stop := by
  rintro ⟨c, hc, h⟩
  obtain rfl := catalogRead_eq hc
  obtain ⟨tally, passes, htrace⟩ : ∃ tally passes,
      catalogRead.trace halfPastFour .all "jané" = .ok (tally, passes) :=
    Catalog.exists_trace_of_isOk (by decide)
  have hcall : ⟨5, dateRule, ⟨⟨0, 3⟩, [(2, ⟨0, 3⟩)]⟩⟩ ∈ catalogRead.calls .all "jané" :=
    Catalog.mem_calls_iff.mpr ⟨rfl, by decide, by decide⟩
  obtain ⟨pass, hpass, -, hs⟩ := (Catalog.mem_spans_iff_of_trace htrace).mpr ⟨_, hcall, rfl, rfl⟩
  -- The span stops after the third letter, between two characters of the word.
  obtain ⟨u, v, ht, hu, hne⟩ := (h _ _ _ _ _ htrace pass hpass _ hs).2
  have hparts : ['j', 'a', 'n'] ++ ['é'] = u ++ v := by
    rw [← ht]
    simp
  obtain rfl : ['j', 'a', 'n'] = u := Utf8.eq_of_append_eq_append hparts hu.symm
  obtain rfl : ['é'] = v := List.append_cancel_left hparts
  exact hne ⟨by decide, by decide⟩

end English

end Timephrase
