import Timephrase.Proofs.Captures
import Timephrase.Proofs.Pattern.Finding
import Timephrase.Proofs.Pattern.Row

/-!
# What groups capture

A group of a match is captured by what stands between the brackets of the group in the pattern.  So
what the text of a group looks like is known from the pattern, and whether it is there at all.

## Main definitions

* `Pattern.Node.bodies`: what stands between the brackets of a group
* `Pattern.Node.records`: every way through a node records a group
* `Pattern.Node.ReadsAt`: a node reads some characters between others
* `Pattern.written?`: the text of a named group, as it is written

## Main results

* `Pattern.Node.Way.exists_body`: the span of a group is what one of its bodies reads
* `Pattern.stop_le_of_mem_findAll`: a match and its groups lie in the text
* `Captures.exists_after_of_group?`: the span of a group covers what its body reads
* `Captures.exists_readsAt_of_group?`: the text of a group that took part in a match
* `Captures.exists_readsAt_of_records`: the text of a group that takes part in every match
-/

namespace Timephrase

namespace Pattern.Node

/-- The nodes that stand between the brackets of a group. -/
def bodies (index : Nat) : Node → List Node
  | group index' body => (if index' = index then [body] else []) ++ body.bodies index
  | seq first second => first.bodies index ++ second.bodies index
  | alt first second => first.bodies index ++ second.bodies index
  | times body _ _ _ => body.bodies index
  | _ => []

/-- Whether every way through a node records a group. -/
def records (index : Nat) : Node → Bool
  | group index' body => index' == index || body.records index
  | seq first second => first.records index || second.records index
  | alt first second => first.records index && second.records index
  | times body least _ _ => 0 < least && body.records index
  | _ => false

variable {node : Node} {c d : Cursor} {gs : List (Nat × Span)} {index : Nat} {s : Span}

/-- **The span of a group** is what one of its bodies reads, somewhere on the way. -/
theorem Way.exists_body (h : node.Way c d gs) (hs : (index, s) ∈ gs) :
    ∃ body ∈ node.bodies index, ∃ w₀ e e' ks, c.Reads w₀ e ∧ body.Way e e' ks ∧
      s = ⟨e.offset, e'.offset⟩ := by
  induction node generalizing c d gs with
  | empty =>
    obtain ⟨-, rfl⟩ := h
    cases hs
  | set set =>
    obtain ⟨ch, -, -, rfl⟩ := h
    cases hs
  | run set least greatest greedy =>
    obtain ⟨w, -, -, -, -, rfl⟩ := h
    cases hs
  | look l =>
    obtain ⟨-, -, rfl⟩ := h
    cases hs
  | group index' body ih =>
    obtain ⟨ks, h, rfl⟩ := h
    rcases List.mem_cons.mp hs with heq | hs
    · obtain ⟨rfl, rfl⟩ := Prod.mk.inj heq
      refine ⟨body, List.mem_append_left _ ?_, [], c, d, ks, .refl c, h, rfl⟩
      rw [if_pos rfl]
      exact List.mem_singleton_self body
    · obtain ⟨body', hbody, hreads⟩ := ih h hs
      exact ⟨body', List.mem_append_right _ hbody, hreads⟩
  | seq first second ih₁ ih₂ =>
    obtain ⟨e, hs₁, hs₂, h₁, h₂, rfl⟩ := h
    -- Before what the second part records stands what the first one reads.
    rcases List.mem_append.mp hs with hs | hs
    · obtain ⟨body, hbody, w₀, e', e'', ks, hw₀, hway, hspan⟩ := ih₂ h₂ hs
      obtain ⟨w, hw⟩ := h₁.exists_reads
      exact ⟨body, List.mem_append_right _ hbody, w ++ w₀, e', e'', ks, hw.trans hw₀, hway, hspan⟩
    · obtain ⟨body, hbody, hreads⟩ := ih₁ h₁ hs
      exact ⟨body, List.mem_append_left _ hbody, hreads⟩
  | alt first second ih₁ ih₂ =>
    rcases h with h | h
    · obtain ⟨body, hbody, hreads⟩ := ih₁ h hs
      exact ⟨body, List.mem_append_left _ hbody, hreads⟩
    · obtain ⟨body, hbody, hreads⟩ := ih₂ h hs
      exact ⟨body, List.mem_append_right _ hbody, hreads⟩
  | times body least greatest greedy ih =>
    -- On the copies, one of which records the group.
    obtain ⟨n, -, -, h⟩ := h
    induction n generalizing c gs with
    | zero =>
      obtain ⟨-, rfl⟩ := h
      cases hs
    | succ n ihn =>
      obtain ⟨e, hs₁, hs₂, h₁, h₂, rfl⟩ := h
      rcases List.mem_append.mp hs with hs | hs
      · obtain ⟨body', hbody, w₀, e', e'', ks, hw₀, hway, hspan⟩ := ihn hs h₂
        obtain ⟨w, hw⟩ := h₁.exists_reads
        exact ⟨body', hbody, w ++ w₀, e', e'', ks, hw.trans hw₀, hway, hspan⟩
      · exact ih h₁ hs

/-- A group that is always recorded has a span. -/
theorem Way.exists_mem_of_records (h : node.Way c d gs) (hrecords : node.records index = true) :
    ∃ s, (index, s) ∈ gs := by
  induction node generalizing c d gs with
  | group index' body ih =>
    obtain ⟨ks, h, rfl⟩ := h
    rcases Bool.or_eq_true_iff.mp hrecords with heq | hrecords
    · obtain rfl := beq_iff_eq.mp heq
      exact ⟨_, List.mem_cons_self⟩
    · obtain ⟨s, hs⟩ := ih h hrecords
      exact ⟨s, List.mem_cons_of_mem _ hs⟩
  | seq first second ih₁ ih₂ =>
    obtain ⟨e, hs₁, hs₂, h₁, h₂, rfl⟩ := h
    rcases Bool.or_eq_true_iff.mp hrecords with hrecords | hrecords
    · obtain ⟨s, hs⟩ := ih₁ h₁ hrecords
      exact ⟨s, List.mem_append_right _ hs⟩
    · obtain ⟨s, hs⟩ := ih₂ h₂ hrecords
      exact ⟨s, List.mem_append_left _ hs⟩
  | alt first second ih₁ ih₂ =>
    obtain ⟨hfirst, hsecond⟩ := Bool.and_eq_true_iff.mp hrecords
    rcases h with h | h
    · exact ih₁ h hfirst
    · exact ih₂ h hsecond
  | times body least greatest greedy ih =>
    simp only [records, Bool.and_eq_true, decide_eq_true_eq] at hrecords
    -- There is a first copy, which records the group.
    obtain ⟨n, hn, -, h⟩ := h
    obtain ⟨n, rfl⟩ := Nat.exists_eq_succ_of_ne_zero
      (Nat.ne_of_gt (Nat.lt_of_lt_of_le hrecords.1 hn))
    obtain ⟨e, hs₁, hs₂, h₁, h₂, rfl⟩ := h
    obtain ⟨s, hs⟩ := ih h₁ hrecords.2
    exact ⟨s, List.mem_append_right _ hs⟩
  | _ => cases hrecords

/-! ## Reading between characters -/

/-- A node reads the characters `w` where they stand between `u` and `v`. -/
def ReadsAt (node : Node) (u w v : List Char) : Prop :=
  ∃ gs, node.Way (.between u (w ++ v)) (.between (u ++ w) v) gs

variable {nodes : List Node} {u w v : List Char}

theorem readsAt_ofBranches :
    (ofBranches nodes).ReadsAt u w v ↔ ∃ node ∈ nodes, node.ReadsAt u w v := by
  simp only [ReadsAt, way_ofBranches]
  constructor
  · rintro ⟨gs, node, hnode, h⟩
    exact ⟨node, hnode, gs, h⟩
  · rintro ⟨node, hnode, gs, h⟩
    exact ⟨gs, node, hnode, h⟩

theorem readsAt_run {set : CharSet} {least most : Nat} {greedy : Bool}
    (h : (run set least (some most) greedy).ReadsAt u w v) :
    (∀ ch ∈ w, set.mem ch = true) ∧ least ≤ w.length ∧ w.length ≤ max least most := by
  obtain ⟨gs, w', hmem, hleast, hmost, hw', -⟩ := h
  obtain rfl : w' = w := List.append_cancel_right hw'.rest_eq.symm
  exact ⟨hmem, hleast, hmost most rfl⟩

end Pattern.Node

/-! ## In a text -/

namespace Pattern

variable {p : Pattern} {text : String} {found : Match}

/-- The span of a group is among those recorded. -/
theorem Match.mem_of_group? {index : Nat} {s : Span} (h : found.group? index = some s) :
    (index, s) ∈ found.groups := by
  obtain ⟨later, earlier, hgroups, -⟩ := List.lookup_eq_some_iff.mp h
  rw [hgroups]
  exact List.mem_append_right _ List.mem_cons_self

/-- A place that is reached in a text is none behind its end. -/
theorem Cursor.offset_le_of_reads {u v w : List Char} {d : Cursor} (ht : text.toList = u ++ v)
    (h : (Cursor.between u v).Reads w d) : d.offset ≤ Utf8.size text.toList := by
  have hv : v = w ++ d.rest := h.rest_eq
  have hd : d.offset = Utf8.size u + Utf8.size w := h.offset_eq
  rw [hd, ht, hv, Utf8.size_append, Utf8.size_append]
  omega

/-- A match found in a text stops in it, and so does each of its groups. -/
theorem stop_le_of_mem_findAll (h : found ∈ p.findAll text) :
    found.span.stop ≤ Utf8.size text.toList ∧
      ∀ g ∈ found.groups, g.2.stop ≤ Utf8.size text.toList := by
  obtain ⟨u, v, ht, hmatch⟩ := exists_place_of_mem_findAll h
  obtain ⟨d, hway, hspan⟩ := way_of_matchAt? hmatch
  constructor
  · obtain ⟨w, hw⟩ := hway.exists_reads
    rw [hspan]
    exact Cursor.offset_le_of_reads ht hw
  · rintro ⟨index, s⟩ hs
    obtain ⟨body, -, w₀, e, e', ks, hbefore, hbody, rfl⟩ := hway.exists_body hs
    obtain ⟨w, hw⟩ := hbody.exists_reads
    exact Cursor.offset_le_of_reads ht (hbefore.trans hw)

end Pattern

/-- The text of a named group of a match, as it is written. -/
def Pattern.written? (p : Pattern) (text : String) (m : Match) (name : String) : Option String :=
  (p.names.lookup name).bind fun index =>
    (m.group? index).bind fun s => Utf8.slice? text s.start s.stop

namespace Captures

open Pattern

variable {rule : String} {p : Pattern} {text : String} {m : Match} {name : String} {index : Nat}
  {body : Node} {value : String}

/-- What is captured of a group is what is written there, in small letters. -/
theorem get?_eq_written? (hname : p.names.lookup name = some index) :
    (ofMatch rule p text m).get? name = (p.written? text m name).map Lowercase.lowercase := by
  rw [get?_ofMatch hname, written?, hname, Option.bind_some, Option.map_bind]
  rfl

theorem written?_of_after {u w v : List Char} (hname : p.names.lookup name = some index)
    (hgroup : m.group? index = some (.after u w)) (ht : text.toList = u ++ w ++ v) :
    p.written? text m name = some (String.ofList w) := by
  rw [written?, hname, Option.bind_some, hgroup, Option.bind_some, Span.after, Utf8.slice?_eq ht]

theorem written?_eq_none (hname : p.names.lookup name = some index)
    (hgroup : m.group? index = none) : p.written? text m name = none := by
  rw [written?, hname, Option.bind_some, hgroup, Option.bind_none]

section

variable (h : m ∈ p.findAll text) (hname : p.names.lookup name = some index)
  (hbody : p.node.bodies index = [body])

include h hname hbody

omit hname in
/-- **The span of a group** covers what its body reads. -/
theorem exists_after_of_group? {s : Span} (hs : m.group? index = some s) :
    ∃ u w v, text.toList = u ++ w ++ v ∧ body.ReadsAt u w v ∧ s = .after u w := by
  obtain ⟨u, v, ht, hmatch⟩ := exists_place_of_mem_findAll h
  obtain ⟨d, hway, -⟩ := way_of_matchAt? hmatch
  obtain ⟨body', hmem, w₀, e, e', ks, hw₀, hread, rfl⟩ :=
    hway.exists_body (Pattern.Match.mem_of_group? hs)
  rw [hbody] at hmem
  obtain rfl := List.mem_singleton.mp hmem
  obtain ⟨w, hw⟩ := hread.exists_reads
  have hv : v = w₀ ++ e.rest := hw₀.rest_eq
  have he : e = .between (u ++ w₀) (w ++ e'.rest) := by
    rw [hw₀.eq_between, hw.rest_eq]
  have he' : e' = .between (u ++ w₀ ++ w) e'.rest := by
    rw [List.append_assoc]
    exact (hw₀.trans hw).eq_between
  refine ⟨u ++ w₀, w, e'.rest, ?_, ⟨ks, he ▸ he' ▸ hread⟩, ?_⟩
  · rw [ht, hv, hw.rest_eq]
    simp
  · rw [he', he]
    rfl

variable (rule) in
/-- The text of a group that has a span is what its body reads. -/
theorem exists_readsAt_of_group? {s : Span} (hs : m.group? index = some s) :
    ∃ u w v, text.toList = u ++ w ++ v ∧ body.ReadsAt u w v ∧
      (ofMatch rule p text m).get? name = some (Lowercase.lowercase (String.ofList w)) := by
  obtain ⟨u, w, v, ht, hread, rfl⟩ := exists_after_of_group? h hbody hs
  exact ⟨u, w, v, ht, hread, get?_of_after hname hs ht⟩

omit hname hbody in
/-- A group that is always recorded has a span in every match. -/
theorem exists_group?_of_records (hrecords : p.node.records index = true) :
    ∃ s, m.group? index = some s := by
  obtain ⟨u, v, -, hmatch⟩ := exists_place_of_mem_findAll h
  obtain ⟨d, hway, -⟩ := way_of_matchAt? hmatch
  obtain ⟨s, hs⟩ := hway.exists_mem_of_records hrecords
  cases hgroup : m.group? index with
  | none =>
    have hne := List.lookup_eq_none_iff.mp hgroup _ hs
    exact absurd rfl (bne_iff_ne.mp hne)
  | some s' => exact ⟨s', rfl⟩

variable (rule) in
/-- **The text of a group that takes part in every match.** -/
theorem exists_readsAt_of_records (hrecords : p.node.records index = true) :
    ∃ u w v, text.toList = u ++ w ++ v ∧ body.ReadsAt u w v ∧
      (ofMatch rule p text m).get? name = some (Lowercase.lowercase (String.ofList w)) := by
  obtain ⟨s, hs⟩ := exists_group?_of_records h hrecords
  exact exists_readsAt_of_group? rule h hname hbody hs

end

end Captures

end Timephrase
