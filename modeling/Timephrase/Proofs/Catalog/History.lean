import Mathlib.Data.List.Forall2
import Timephrase.Proofs.English.Catalog
import Timephrase.Proofs.Run.Gate

/-!
# What a catalog has gone through

A catalog is replaced, takes more rules, puts rules into use or out of it, and is asked for rules and
for parses, any number of times.  What it holds in the end can be read off these requests: the rules
that have come in since it was last replaced, each in use or not as the last request for its name
after it came in has it.

## Main definitions

* `Catalog.Request`, `Catalog.Reply`: what is asked of a catalog, and what comes back
* `Catalog.serve`, `Catalog.after`, `Catalog.replies`: one request, and several
* `Catalog.held`, `Catalog.settled`: the rules that have come in, and what has become of them
* `Catalog.Serves`: what a request has to lead to
* `Catalog.inUse`: the catalog without the rules that are out of use

## Main results

* `Catalog.run_inUse`: rules out of use may as well be missing
* `Catalog.rules_after`: the rules after any requests
* `Catalog.rules_and_replies_of_history`: the rules and the replies
-/

namespace Timephrase

/-- The rule of a draft, put into use or out of it afterwards if that is asked for. -/
def Rule.Draft.build (draft : Rule.Draft) (meaning : Meaning) (enabled : Option Bool) :
    Except Failure Rule :=
  (draft.finish meaning).map fun rule => enabled.elim rule rule.withEnabled

namespace Catalog

/-! ## Rules out of use -/

/-- The catalog without the rules that are out of use. -/
def inUse (c : Catalog) : Catalog := ⟨c.rules.filter (·.enabled)⟩

/-- **Rules out of use may as well be missing.** -/
theorem run_inUse (c : Catalog) (context : Context) (mode : MatchMode) (text : String) :
    c.inUse.run context mode text = c.run context mode text := by
  have hsteps : c.inUse.steps mode text = c.steps mode text := by
    rw [steps, steps, inUse, List.filter_filter]
    congr 2
    funext rule
    rw [Rule.isDue]
    cases rule.enabled <;> simp
  rw [run_eq_foldlM, run_eq_foldlM, hsteps]

/-! ## Requests -/

/-- What is asked of a catalog: to become the English one, or the one without rules; to take the rule
of a draft at its end; to put all rules of a name into use or out of it; for the first rule of a name;
and for a parse. -/
inductive Request
  | english
  | clear
  | push (draft : Rule.Draft) (meaning : Meaning) (enabled : Option Bool)
  | setEnabled (name : String) (enabled : Bool)
  | get (name : String)
  | parse (context : Context) (mode : MatchMode) (text : String)

/-- What a catalog replies: nothing but that it is done, the failure to read a pattern, whether there
is any rule of a name, the first of them, and what a parse answers. -/
inductive Reply
  | done
  | refused (failure : Failure)
  | found (any : Bool)
  | first (rule : Option Rule)
  | parsed (result : Except Failure Extraction)

/-- A catalog in the place of another one, which stays if there is a failure instead. -/
def become (c : Catalog) : Except Failure Catalog → Catalog × Reply
  | .ok next => (next, .done)
  | .error failure => (c, .refused failure)

/-- One request: the catalog after it, and the reply. -/
def serve (c : Catalog) : Request → Catalog × Reply
  | .english => c.become English.catalog
  | .clear => (.empty, .done)
  | .push draft meaning enabled => c.become ((draft.build meaning enabled).map c.push)
  | .setEnabled name enabled => (c.setEnabled name enabled, .found (c.has name))
  | .get name => (c, .first (c.get? name))
  | .parse context mode text => (c, .parsed ((⟨c, mode⟩ : Parser).parse context text))

/-- The catalog after some requests. -/
def after (c : Catalog) (history : List Request) : Catalog :=
  history.foldl (fun c request => (c.serve request).1) c

/-- The replies to some requests. -/
def replies : Catalog → List Request → List Reply
  | _, [] => []
  | c, request :: later => (c.serve request).2 :: replies (c.serve request).1 later

/-! ## What can be read off the requests -/

namespace Request

/-- Whether a request replaces all rules. -/
def replaces : Request → Bool
  | english | clear => true
  | _ => false

/-- The rules that come in with a request. -/
def brings : Request → List Rule
  | english => English.catalogRead.rules
  | push draft meaning enabled => (draft.build meaning enabled).toOption.toList
  | _ => []

/-- Whether rules of a name are put into use or out of it, if a request does either. -/
def sets? (name : String) : Request → Option Bool
  | setEnabled name' enabled => if name' = name then some enabled else none
  | _ => none

end Request

/-- What the last of the requests that put rules of a name into use or out of it does. -/
def lastSet? (name : String) (history : List Request) : Option Bool :=
  history.reverse.findSome? (·.sets? name)

/-- The rules that have come in since all rules were last replaced, each with the requests after
it. -/
def added : List Request → List (Rule × List Request)
  | [] => []
  | request :: later =>
    (if later.any (·.replaces) then [] else request.brings.map (·, later)) ++ added later

/-- The rules that a catalog holds after some requests, each as it was when it came in and with the
requests since: its own rules, unless they have been replaced, and those that have been added. -/
def held (c : Catalog) (history : List Request) : List (Rule × List Request) :=
  (if history.any (·.replaces) then [] else c.rules.map (·, history)) ++ added history

/-- What becomes of a rule that came in before some requests. -/
def settled (entry : Rule × List Request) : Rule :=
  entry.1.withEnabled ((lastSet? entry.1.name entry.2).getD entry.1.enabled)

/-- What a request has to lead to: a reply, and the catalog after it. -/
def Serves (c : Catalog) : Request → Reply → Catalog → Prop
  | .english, reply, next => reply = .done ∧ English.catalog = .ok next
  | .clear, reply, next => reply = .done ∧ next.rules = []
  | .push draft meaning enabled, reply, next =>
    (∃ rule, draft.build meaning enabled = .ok rule ∧ reply = .done ∧
      next.rules = c.rules ++ [rule]) ∨
    (∃ fault, Pattern.read draft.source draft.anyCase draft.unicode = .error fault ∧
      reply = .refused (.pattern draft.name fault) ∧ next = c)
  | .setEnabled name enabled, reply, next =>
    (∃ any, reply = .found any ∧ (any = true ↔ ∃ rule ∈ c.rules, rule.name = name)) ∧
    List.Forall₂ (fun rule rule' => (rule.name = name → rule' = rule.withEnabled enabled) ∧
      (rule.name ≠ name → rule' = rule)) c.rules next.rules
  | .get name, reply, next =>
    next = c ∧ ∃ rule?, reply = .first rule? ∧
      (rule? = none ↔ ∀ rule ∈ c.rules, rule.name ≠ name) ∧
      ∀ rule, rule? = some rule → rule.name = name ∧
        ∃ before after, c.rules = before ++ rule :: after ∧ ∀ rule ∈ before, rule.name ≠ name
  | .parse context mode text, reply, next =>
    next = c ∧ reply = .parsed ((⟨c.inUse, mode⟩ : Parser).parse context text)

/-! ## The rules -/

variable {c : Catalog} {name : String} {request : Request} {later : List Request}

theorem serve_english (c : Catalog) : c.serve .english = (English.catalogRead, .done) := by
  rw [serve, English.catalog_eq, become]

/-- The last request for a name comes after the others. -/
theorem lastSet?_cons :
    lastSet? name (request :: later) = (lastSet? name later).or (request.sets? name) := by
  rw [lastSet?, List.reverse_cons, List.findSome?_append, ← lastSet?]
  congr 1
  cases h : request.sets? name <;> simp [h]

/-- Requests that set nothing for the name of a rule leave it as it is. -/
theorem settled_cons_of_sets?_eq_none {rule : Rule} (h : request.sets? rule.name = none) :
    settled (rule, request :: later) = settled (rule, later) := by
  rw [settled, settled, lastSet?_cons, h, Option.or_none]

/-- What a request sets for the name of a rule counts from then on as what the rule came in with. -/
theorem settled_cons_of_sets?_eq_some {rule : Rule} {enabled : Bool}
    (h : request.sets? rule.name = some enabled) :
    settled (rule, request :: later) = settled (rule.withEnabled enabled, later) := by
  rw [settled, settled, lastSet?_cons, h]
  dsimp only [Rule.name_withEnabled, Rule.enabled_withEnabled]
  cases lastSet? rule.name later <;> rfl

/-- **One request more.**  The rules after it are those from before, unless it replaces them, and
those that it brings. -/
theorem map_settled_serve (c : Catalog) (request : Request) (later : List Request) :
    (c.serve request).1.rules.map (fun rule => settled (rule, later)) =
      (if request.replaces then [] else
        c.rules.map fun rule => settled (rule, request :: later)) ++
        request.brings.map fun rule => settled (rule, later) := by
  cases request with
  | english =>
    rw [serve_english]
    exact (List.nil_append _).symm
  | clear => rfl
  | push draft meaning enabled =>
    have hkept : ∀ rule, settled (rule, .push draft meaning enabled :: later) =
        settled (rule, later) := fun _ => settled_cons_of_sets?_eq_none rfl
    simp only [hkept, serve, Request.brings, Request.replaces]
    cases draft.build meaning enabled with
    | ok rule => exact List.map_append
    | error failure => exact (List.append_nil _).symm
  | setEnabled name enabled =>
    -- What is set now for a rule of the name is what its later requests find it with.
    refine Eq.trans ?_ (List.append_nil _).symm
    refine List.map_map.trans (List.map_congr_left fun rule _ => ?_)
    rw [Function.comp_apply]
    by_cases hname : rule.name = name
    · have hsets : (Request.setEnabled name enabled).sets? rule.name = some enabled :=
        if_pos hname.symm
      rw [settled_cons_of_sets?_eq_some hsets, if_pos (beq_iff_eq.mpr hname)]
    · have hsets : (Request.setEnabled name enabled).sets? rule.name = none :=
        if_neg (Ne.symm hname)
      rw [settled_cons_of_sets?_eq_none hsets, if_neg (mt beq_iff_eq.mp hname)]
  | get name =>
    have hkept : ∀ rule, settled (rule, .get name :: later) = settled (rule, later) :=
      fun _ => settled_cons_of_sets?_eq_none rfl
    simp only [hkept]
    exact (List.append_nil _).symm
  | parse context mode text =>
    have hkept : ∀ rule, settled (rule, .parse context mode text :: later) =
        settled (rule, later) := fun _ => settled_cons_of_sets?_eq_none rfl
    simp only [hkept]
    exact (List.append_nil _).symm

/-- **The rules after any requests** are those that have come in since all were last replaced, each
in use or not as the last request for its name after it came in has it. -/
theorem rules_after (c : Catalog) (history : List Request) :
    (c.after history).rules = (c.held history).map settled := by
  -- On the requests, from the first on: the catalog after it goes through the others.
  induction history generalizing c with
  | nil =>
    rw [held, added, List.append_nil, List.any_nil, if_neg Bool.false_ne_true, List.map_map]
    exact (List.map_id _).symm
  | cons request later ih =>
    have hnext : (c.after (request :: later)) = (c.serve request).1.after later := rfl
    rw [hnext, ih, held, held, added, List.any_cons]
    cases hreplaced : later.any (·.replaces) with
    | true => simp
    | false =>
      have hone := map_settled_serve c request later
      simp only [Bool.or_false, Bool.false_eq_true, if_false, List.map_append, List.map_map,
        ← List.append_assoc]
      refine congrArg (· ++ _) (hone.trans ?_)
      cases request.replaces <;> simp [Function.comp_def]

/-! ## The replies -/

/-- **One request** leads to what it has to lead to. -/
theorem serves_serve (c : Catalog) (request : Request) :
    c.Serves request (c.serve request).2 (c.serve request).1 := by
  cases request with
  | english =>
    rw [serve_english]
    exact ⟨rfl, English.catalog_eq⟩
  | clear => exact ⟨rfl, rfl⟩
  | push draft meaning enabled =>
    simp only [serve]
    cases hbuild : draft.build meaning enabled with
    | ok rule => exact Or.inl ⟨rule, hbuild, rfl, rfl⟩
    | error failure =>
      rw [Rule.Draft.build, map_eq_error_iff, Rule.Draft.finish] at hbuild
      split at hbuild
      · cases hbuild
      · next fault hread =>
        obtain rfl := Except.error.inj hbuild
        exact Or.inr ⟨fault, hread, rfl, rfl⟩
  | setEnabled name enabled =>
    refine ⟨⟨c.has name, rfl, ?_⟩, ?_⟩
    · simp [has]
    · refine List.forall₂_map_right_iff.mpr (List.forall₂_same.mpr fun rule _ => ⟨?_, ?_⟩)
      · exact fun hname => if_pos (beq_iff_eq.mpr hname)
      · exact fun hname => if_neg (mt beq_iff_eq.mp hname)
  | get name =>
    refine ⟨rfl, c.get? name, rfl, ?_, fun rule hrule => ?_⟩
    · simp [get?]
    -- No rule before the one that is found has the name.
    · obtain ⟨hname, before, after, hrules, hbefore⟩ := List.find?_eq_some_iff_append.mp hrule
      refine ⟨beq_iff_eq.mp hname, before, after, hrules, fun rule hmem => ?_⟩
      simpa using hbefore rule hmem
  | parse context mode text =>
    refine ⟨rfl, congrArg Reply.parsed ?_⟩
    exact Parser.parse_eq_iff.mpr (c.run_inUse context mode text).symm

/-- Each request is served by the catalog that those before it have left. -/
theorem replies_append (c : Catalog) (before : List Request) (request : Request)
    (later : List Request) :
    (c.replies (before ++ request :: later))[before.length]? =
      some ((c.after before).serve request).2 := by
  induction before generalizing c with
  | nil => rfl
  | cons first before ih => exact ih _

/-- **What a catalog has gone through settles what it holds and replies.**  After any requests it
holds the rules that have come in since all were last replaced, in order, each in use or not as the
last request for its name after it came in has it, or else as it came in.  The next request, whatever
follows it, is served by what those before it have left, and a parse does without the rules that are
out of use. -/
theorem rules_and_replies_of_history (c : Catalog) (history : List Request) (request : Request)
    (later : List Request) :
    (c.after history).rules = (c.held history).map settled ∧
    ∃ reply, (c.replies (history ++ request :: later))[history.length]? = some reply ∧
      (c.after history).Serves request reply (c.after (history ++ [request])) := by
  refine ⟨c.rules_after history, _, c.replies_append history request later, ?_⟩
  have hnext : c.after (history ++ [request]) = ((c.after history).serve request).1 := by
    rw [after, List.foldl_append]
    rfl
  rw [hnext]
  exact serves_serve _ request

end Catalog

end Timephrase
