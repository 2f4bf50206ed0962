import Timephrase.Captures
import Timephrase.Proofs.Pattern.Place

/-!
# What the captures of a match hold

## Main definitions

* `Span.after`: the span of a piece of a text

## Main results

* `Utf8.slice?_eq`: the piece of a text between two of its places
* `Captures.slice_of_reads`: what a group captures
* `Captures.get?_ofMatch`, `Captures.get?_of_after`: the text of a group of a match
* `Captures.read?_of_get?_eq_some`: the number of a group
* `Captures.require_of_get?_of_error`: a group whose text is no number
* `Captures.rule_of_read?`: how reading a number from a group fails
-/

namespace Timephrase

namespace Utf8

/-- Characters put before a text move the places where it can be split. -/
theorem splitAt?_size_add (u cs : List Char) (i : Nat) :
    splitAt? (size u + i) (u ++ cs) = (splitAt? i cs).map fun (x, y) => (u ++ x, y) := by
  -- On the characters in front, none of which is of size zero.
  induction u with
  | nil =>
    have hzero : size [] + i = i := Nat.zero_add i
    rw [hzero, List.nil_append]
    exact Option.map_id'.symm
  | cons c u ih =>
    have hpos := c.utf8Size_pos
    obtain ⟨n, hn⟩ : ∃ n, size (c :: u) + i = n + 1 := by
      refine Nat.exists_eq_succ_of_ne_zero ?_
      rw [size_cons]
      omega
    have hrest : n + 1 - c.utf8Size = size u + i := by
      rw [← hn, size_cons]
      omega
    rw [hn, List.cons_append, splitAt?, if_pos (by rw [size_cons] at hn; omega), hrest, ih,
      Option.map_map]
    rfl

/-- Characters put behind a text change none of the places where it can be split. -/
theorem splitAt?_append {cs : List Char} {i : Nat} (v : List Char) (hi : i ≤ size cs) :
    splitAt? i (cs ++ v) = (splitAt? i cs).map fun (x, y) => (x, y ++ v) := by
  induction cs generalizing i with
  | nil =>
    obtain rfl := Nat.le_zero.mp hi
    rw [splitAt?, splitAt?]
    rfl
  | cons c cs ih =>
    cases i with
    | zero =>
      rw [splitAt?, splitAt?]
      rfl
    | succ i =>
      rw [size_cons] at hi
      rw [List.cons_append, splitAt?, splitAt?]
      split
      · rw [ih (by omega), Option.map_map, Option.map_map]
        rfl
      · rfl

theorem splitAt?_size (u v : List Char) : splitAt? (size u) (u ++ v) = some (u, v) := by
  have hstart : splitAt? 0 v = some ([], v) := by
    cases v with
    | nil => rfl
    | cons c v => rfl
  have hsplit := splitAt?_size_add u v 0
  simpa [hstart] using hsplit

/-- A text is made of the two parts into which it is split. -/
theorem eq_of_splitAt? {cs u v : List Char} {i : Nat} (h : splitAt? i cs = some (u, v)) :
    cs = u ++ v ∧ i = size u := by
  -- On the characters: each of them uses up its size of the place, which may not lie inside one.
  induction cs generalizing i u with
  | nil =>
    cases i with
    | zero =>
      cases h
      exact ⟨rfl, rfl⟩
    | succ i => cases h
  | cons c cs ih =>
    cases i with
    | zero =>
      cases h
      exact ⟨rfl, rfl⟩
    | succ i =>
      rw [splitAt?] at h
      split at h
      · next hle =>
        obtain ⟨⟨u, v⟩, hsplit, heq⟩ := Option.map_eq_some_iff.mp h
        cases heq
        obtain ⟨rfl, hsize⟩ := ih hsplit
        rw [size_cons]
        exact ⟨rfl, by omega⟩
      · cases h

/-- **The piece of a text between two of its places** is what stands between them. -/
theorem slice?_eq {text : String} {u w v : List Char} (h : text.toList = u ++ w ++ v) :
    slice? text (size u) (size (u ++ w)) = some (String.ofList w) := by
  have hpiece : size (u ++ w) - size u = size w := by
    rw [size_append, Nat.add_sub_cancel_left]
  have hle : size u ≤ size (u ++ w) := by
    rw [size_append]
    exact Nat.le_add_right _ _
  rw [slice?, if_pos hle, hpiece, h, List.append_assoc, splitAt?_size]
  simp [splitAt?_size]

end Utf8

/-- The span of some characters of a text that stand after some others. -/
def Span.after (u w : List Char) : Span := ⟨Utf8.size u, Utf8.size (u ++ w)⟩

namespace Captures

variable {rule : String} {pattern : Pattern} {text : String} {m : Pattern.Match} {name : String}
  {index : Nat}

/-- **What a group captures** is what was read while it was open, in small letters. -/
theorem slice_of_reads {u v w₀ w : List Char} {e e' : Pattern.Cursor} (ht : text.toList = u ++ v)
    (hbefore : (Pattern.Cursor.between u v).Reads w₀ e) (h : e.Reads w e') :
    ofMatch.slice text ⟨e.offset, e'.offset⟩ = some (Lowercase.lowercase (String.ofList w)) := by
  have hv : v = w₀ ++ (w ++ e'.rest) := by
    have hrest : v = w₀ ++ e.rest := hbefore.rest_eq
    rw [hrest, h.rest_eq]
  have htext : text.toList = (u ++ w₀) ++ w ++ e'.rest := by
    rw [ht, hv]
    simp
  have he : e.offset = Utf8.size (u ++ w₀) := by
    rw [hbefore.eq_between]
    rfl
  have he' : e'.offset = Utf8.size (u ++ w₀ ++ w) := by
    rw [(hbefore.trans h).eq_between, List.append_assoc]
    rfl
  rw [ofMatch.slice, he, he', Utf8.slice?_eq htext]
  rfl

/-- The text of a group of a match, in small letters. -/
theorem get?_ofMatch (h : pattern.names.lookup name = some index) :
    (ofMatch rule pattern text m).get? name = (m.group? index).bind (ofMatch.slice text) := by
  -- On the names: the captures are listed in their order.
  have hlookup : ∀ names : List (String × Nat), names.lookup name = some index →
      (names.map fun g => (g.1, (m.group? g.2).bind (ofMatch.slice text))).lookup name =
        some ((m.group? index).bind (ofMatch.slice text)) := by
    intro names hnames
    induction names with
    | nil => cases hnames
    | cons g names ih =>
      obtain ⟨name', index'⟩ := g
      rw [List.map_cons]
      rw [List.lookup_cons] at hnames ⊢
      cases hname : name == name' with
      | true =>
        rw [hname] at hnames
        obtain rfl : index' = index := Option.some.inj hnames
        rfl
      | false =>
        rw [hname] at hnames
        exact ih hnames
  rw [get?]
  exact congrArg Option.join (hlookup pattern.names h)

/-- The text of a group that some characters of the text are captured for, in small letters. -/
theorem get?_of_after {u w v : List Char} (hname : pattern.names.lookup name = some index)
    (hgroup : m.group? index = some (.after u w)) (ht : text.toList = u ++ w ++ v) :
    (ofMatch rule pattern text m).get? name =
      some (Lowercase.lowercase (String.ofList w)) := by
  rw [get?_ofMatch hname, hgroup, Option.bind_some, ofMatch.slice, Span.after, Utf8.slice?_eq ht]
  rfl

/-! ## Numbers -/

section Numbers

variable {α : Type} {c : Captures} {reader : String → Except NumberFault α} {value : String} {a : α}

theorem text_of_get? (h : c.get? name = some value) : c.text name = value := by
  rw [Captures.text, h]
  rfl

theorem has_of_get? (h : c.get? name = some value) (hne : value ≠ "") : c.has name = true := by
  rw [has, text_of_get? h]
  exact bne_iff_ne.mpr hne

/-- The number of a group is read from its text. -/
theorem read?_of_get?_eq_some (h : c.get? name = some value) (hne : value ≠ "")
    (hread : reader value = .ok a) : c.read? reader name = .ok (some a) := by
  rw [read?, if_pos (has_of_get? h hne), text_of_get? h, hread]

/-- A group that took no part writes no number. -/
theorem read?_of_get?_eq_none (h : c.get? name = none) : c.read? reader name = .ok none := by
  have hhas : c.has name = false := by
    rw [has, Captures.text, h]
    rfl
  rw [read?, if_neg (Bool.eq_false_iff.mp hhas)]

theorem require_of_read? (h : c.read? reader name = .ok (some a)) :
    c.require reader name = .ok a := by
  rw [require, h]
  rfl

/-- A group whose text is no number cannot be read. -/
theorem require_of_get?_of_error {fault : NumberFault} (h : c.get? name = some value)
    (hne : value ≠ "") (hread : reader value = .error fault) :
    c.require reader name = .error (.capture c.rule name value (.number fault)) := by
  have hfailure : c.failure name (.number fault) = .capture c.rule name value (.number fault) := by
    rw [Captures.failure, text_of_get? h]
  rw [require, read?, if_pos (has_of_get? h hne), text_of_get? h, hread]
  exact congrArg Except.error hfailure

end Numbers

/-- Reading a number from a group fails in the name of the rule. -/
theorem rule_of_read? {α : Type} {c : Captures} {reader : String → Except NumberFault α}
    {failure : Failure} (h : c.read? reader name = .error failure) :
    ∃ value fault, failure = .capture c.rule name value fault := by
  simp only [read?] at h
  split at h
  · split at h
    · cases h
    · cases h
      exact ⟨_, _, rfl⟩
  · cases h

end Captures

end Timephrase
