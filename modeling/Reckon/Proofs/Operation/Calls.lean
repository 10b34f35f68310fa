import Mathlib.Data.List.Induction
import Reckon.Proofs.Operation.Definition

/-!
# Registries in use

A registry starts empty and is handed actions in any order, right ones and wrong ones (`after`). What
one call does is told by whether the action is acceptable and new (`attempt_cases`); so after any row of
calls each rule has the first acceptable action that it was handed (`find?_after`), and all entries
are acceptable (`orderly_after`). An action that was accepted has one positional parameter for each
argument that a node of its rule brings (`Takes.supply?_eq`). All of this together is
`registry_lawful`.
-/

namespace Reckon

variable {α β ε σ : Type}

/-! ## Calls of actions -/

namespace Action

/-- The arguments supplied to the positional parameters, from the left. None if an argument finds no
parameter, or a parameter without a default no argument. -/
def supply? (a : Action β) (arguments : List α) : Option (List (Parameter × α)) :=
  let places := a.signature.filter (·.isPositional)
  if places.length < arguments.length ∧ a.signature.all (·.kind != .rest) then none
  else if (places.drop arguments.length).any (!·.hasDefault) then none
  else if a.signature.any (fun p => p.kind == .keywordOnly && !p.hasDefault) then none
  else some (places.zip arguments)

theorem Takes.supply?_eq {a : Action β} {n : Nat} (h : a.Takes n) {arguments : List α}
    (hlength : arguments.length = n + leading) :
    a.supply? arguments = some ((a.signature.filter (·.isPositional)).zip arguments) := by
  have hplaces : (a.signature.filter (·.isPositional)).length = arguments.length := by
    rw [h.positional, hlength]
  have hoptional : a.signature.any (fun p => p.kind == .keywordOnly && !p.hasDefault) = false := by
    rw [List.any_eq_false]
    intro p hp
    simpa using h.optional p hp
  unfold supply?
  simp only [hplaces, Nat.lt_irrefl, false_and, if_false, hoptional, Bool.false_eq_true]
  rw [← hplaces, List.drop_length]
  rfl

end Action

/-- What an action is called with. -/
inductive Argument (ε : Type) where
  | node (n : Node)
  | environment (env : ε)
  | child (n : Node)

/-- The arguments that a node brings: itself, the environment and its children. -/
def Node.arguments (n : Node) (env : ε) : List (Argument ε) :=
  .node n :: .environment env :: n.children.map .child

theorem Node.length_arguments (n : Node) (env : ε) :
    (n.arguments env).length = n.children.length + Action.leading := by
  simp [arguments, Action.leading]

namespace Registry

variable {g : Grammar} {r : Registry β} {rule x : String} {a : Action β}
  {calls : List (String × Action β)}

/-- Calls the action of the node's rule: the parameters with what they are given, if the call fits the
action. -/
def call (r : Registry β) (n : Node) (env : ε) :
    Except RegistryError (Option (List (Parameter × Argument ε))) :=
  (r.dispatch n.rule).map fun a => a.supply? (n.arguments env)

/-! ## One registration -/

/-- Tries to register an action: what the call comes to, and the registry after it. -/
def attempt (r : Registry β) (rule : String) (a : Action β) :
    Except RegistryError Unit × Registry β :=
  match r.register rule a with
  | .ok r' => (.ok (), r')
  | .error e => (.error e, r)

/-- The action may stand for the rule. -/
def Acceptable (g : Grammar) (rule : String) (a : Action β) : Prop :=
  rule ∈ g.ruleNames ∧ a.Takes (g.arity rule)

/-- An acceptable action of a new rule becomes its entry, and any other call changes nothing. -/
theorem attempt_cases (r : Registry β) (rule : String) (a : Action β) :
    (Acceptable r.grammar rule a ∧ rule ∉ r.names ∧
      r.attempt rule a = (.ok (), { r with actions := r.actions ++ [(rule, a)] })) ∨
    ¬ (Acceptable r.grammar rule a ∧ rule ∉ r.names) ∧ ∃ e, r.attempt rule a = (.error e, r) := by
  unfold attempt
  cases hr : r.register rule a with
  | ok r' =>
    obtain ⟨hrule, hnew, htakes, rfl⟩ := register_eq_ok_iff.1 hr
    exact .inl ⟨⟨hrule, htakes⟩, hnew, rfl⟩
  | error e =>
    refine .inr ⟨fun ⟨⟨hrule, htakes⟩, hnew⟩ => ?_, e, rfl⟩
    rw [register_eq_ok_iff.2 ⟨hrule, hnew, htakes, rfl⟩] at hr
    cases hr

theorem grammar_attempt (r : Registry β) (rule : String) (a : Action β) :
    (r.attempt rule a).2.grammar = r.grammar := by
  obtain ⟨-, -, h⟩ | ⟨-, e, h⟩ := r.attempt_cases rule a <;> rw [h]

theorem find?_append (r : Registry β) (rule : String) (a : Action β) :
    ({ r with actions := r.actions ++ [(rule, a)] } : Registry β).find? x =
      (r.find? x).or (if x = rule then some a else none) := by
  unfold find?
  rw [List.lookup_append, lookup_cons, List.lookup_nil]

theorem find?_attempt_of_find? (h : r.find? x = some a) (rule : String) (b : Action β) :
    (r.attempt rule b).2.find? x = some a := by
  obtain ⟨-, -, hr⟩ | ⟨-, e, hr⟩ := r.attempt_cases rule b <;> rw [hr]
  · rw [find?_append, h, Option.some_or]
  · exact h

theorem find?_eq_none_iff : r.find? rule = none ↔ rule ∉ r.names := by
  rw [← contains_iff, contains]
  cases r.find? rule <;> simp

/-- Where there is no entry, only an acceptable action of the rule makes one. -/
theorem find?_attempt_of_none (h : r.find? x = none) (rule : String) (b : Action β) :
    (r.attempt rule b).2.find? x = some a ↔
      x = rule ∧ a = b ∧ Acceptable r.grammar rule b := by
  obtain ⟨hb, hnew, hr⟩ | ⟨hnot, e, hr⟩ := r.attempt_cases rule b <;> rw [hr]
  · rw [find?_append, h, Option.none_or]
    by_cases hx : x = rule <;> simp [hx, hb, eq_comm]
  · simp only [h, reduceCtorEq, false_iff]
    rintro ⟨rfl, -, hb⟩
    exact hnot ⟨hb, find?_eq_none_iff.1 h⟩

/-! ## Rows of registrations -/

/-- The registry of a grammar after a row of calls, whatever they came to. -/
def after (g : Grammar) (calls : List (String × Action β)) : Registry β :=
  calls.foldl (fun r c => (r.attempt c.1 c.2).2) ⟨g, []⟩

theorem after_append_singleton (g : Grammar) (calls : List (String × Action β))
    (c : String × Action β) : after g (calls ++ [c]) = ((after g calls).attempt c.1 c.2).2 := by
  rw [after, List.foldl_append, List.foldl_cons, List.foldl_nil]
  rfl

theorem grammar_after (g : Grammar) (calls : List (String × Action β)) :
    (after g calls).grammar = g := by
  induction calls using List.reverseRecOn with
  | nil => rfl
  | append_singleton calls c ih => rw [after_append_singleton, grammar_attempt, ih]

/-- Each rule has one entry at most, and an acceptable one. -/
structure Orderly (g : Grammar) (r : Registry β) : Prop where
  nodup : r.names.Nodup
  acceptable : ∀ p ∈ r.actions, Acceptable g p.1 p.2

theorem Orderly.attempt (h : Orderly g r) (hg : r.grammar = g) (rule : String) (a : Action β) :
    Orderly g (r.attempt rule a).2 := by
  subst hg
  obtain ⟨ha, hnew, hr⟩ | ⟨-, e, hr⟩ := r.attempt_cases rule a <;> rw [hr]
  · refine ⟨?_, List.forall_mem_append.2 ⟨h.acceptable, List.forall_mem_singleton.2 ha⟩⟩
    rw [names_append]
    refine List.nodup_append.2 ⟨h.nodup, List.pairwise_singleton _ _, ?_⟩
    rintro x hx y hy rfl
    obtain rfl : x = rule := List.mem_singleton.1 hy
    exact hnew hx
  · exact h

theorem orderly_after (g : Grammar) (calls : List (String × Action β)) :
    Orderly g (after g calls) := by
  induction calls using List.reverseRecOn with
  | nil => exact ⟨List.nodup_nil, nofun⟩
  | append_singleton calls c ih =>
    rw [after_append_singleton]
    exact ih.attempt (grammar_after g calls) c.1 c.2

/-- An entry is never replaced. -/
theorem find?_after_append (h : (after g calls).find? rule = some a)
    (more : List (String × Action β)) : (after g (calls ++ more)).find? rule = some a := by
  induction more using List.reverseRecOn with
  | nil => rwa [List.append_nil]
  | append_singleton more c ih =>
    rw [← List.append_assoc, after_append_singleton]
    exact find?_attempt_of_find? ih c.1 c.2

/-- The first acceptable action that a rule is handed in a row of calls. -/
def FirstAcceptable (g : Grammar) (calls : List (String × Action β)) (rule : String)
    (a : Action β) : Prop :=
  ∃ before rest, calls = before ++ (rule, a) :: rest ∧ Acceptable g rule a ∧
    ∀ c ∈ before, c.1 = rule → ¬ Acceptable g rule c.2

/-- An entry was made by an acceptable action when there was none. -/
theorem exists_of_find?_after (h : (after g calls).find? rule = some a) :
    ∃ before rest, calls = before ++ (rule, a) :: rest ∧ Acceptable g rule a ∧
      (after g before).find? rule = none := by
  induction calls using List.reverseRecOn with
  | nil => cases h
  | append_singleton calls c ih =>
    rw [after_append_singleton] at h
    cases hbefore : (after g calls).find? rule with
    | some b =>
      rw [find?_attempt_of_find? hbefore] at h
      obtain ⟨before, rest, rfl, hrest⟩ := ih (hbefore.trans h)
      exact ⟨before, rest ++ [c], by rw [List.append_assoc, List.cons_append], hrest⟩
    | none =>
      obtain ⟨rfl, rfl, hc⟩ := (find?_attempt_of_none hbefore c.1 c.2).1 h
      rw [grammar_after] at hc
      exact ⟨calls, [], rfl, hc, hbefore⟩

theorem find?_after_acceptable {before : List (String × Action β)} (ha : Acceptable g rule a)
    (h : (after g before).find? rule = none) (rest : List (String × Action β)) :
    (after g (before ++ (rule, a) :: rest)).find? rule = some a := by
  have hnow : (after g (before ++ [(rule, a)])).find? rule = some a := by
    rw [after_append_singleton]
    exact (find?_attempt_of_none h rule a).2 ⟨rfl, rfl, by rwa [grammar_after]⟩
  have hthen := find?_after_append hnow rest
  rwa [List.append_assoc] at hthen

theorem find?_after_eq_none_iff : (after g calls).find? rule = none ↔
    ∀ c ∈ calls, c.1 = rule → ¬ Acceptable g rule c.2 := by
  constructor
  · rintro hnone ⟨_, a⟩ hc rfl ha
    obtain ⟨before, rest, rfl⟩ := List.append_of_mem hc
    -- whatever was there before this call, there is something after it
    cases hbefore : (after g before).find? _ with
    | none => rw [find?_after_acceptable ha hbefore rest] at hnone; cases hnone
    | some b => rw [find?_after_append hbefore _] at hnone; cases hnone
  · intro h
    cases hfind : (after g calls).find? rule with
    | none => rfl
    | some a =>
      obtain ⟨before, rest, rfl, ha, -⟩ := exists_of_find?_after hfind
      exact absurd ha (h (rule, a) (by simp) rfl)

theorem find?_after : (after g calls).find? rule = some a ↔ FirstAcceptable g calls rule a := by
  constructor
  · intro h
    obtain ⟨before, rest, hcalls, ha, hnone⟩ := exists_of_find?_after h
    exact ⟨before, rest, hcalls, ha, find?_after_eq_none_iff.1 hnone⟩
  · rintro ⟨before, rest, rfl, ha, hbefore⟩
    exact find?_after_acceptable ha (find?_after_eq_none_iff.2 hbefore) rest

/-! ## Completeness and calls -/

theorem checkComplete_of_missing (h : r.checkComplete ≠ .ok ()) :
    r.checkComplete = .error (.missing (r.grammar.ruleNames.filter (· ∉ r.names))) := by
  have hmissing : r.missing = r.grammar.ruleNames.filter (· ∉ r.names) := by
    refine List.filter_congr fun rule _ => ?_
    simp [← contains_iff]
  rw [← hmissing]
  unfold checkComplete at h ⊢
  split at h
  · exact absurd rfl h
  · rw [if_neg ‹_›]

theorem call_eq_error_iff {n : Node} {env : ε} {e : RegistryError} :
    r.call n env = .error e ↔ n.rule ∉ r.names ∧ e = .unregistered n.rule := by
  rw [← find?_eq_none_iff, call, dispatch]
  cases r.find? n.rule <;> simp [Except.map, eq_comm]

theorem Orderly.call_eq (h : Orderly g r) {n : Node} (hrule : n.rule ∈ r.names)
    (hn : n.children.length = g.arity n.rule) (env : ε) :
    ∃ a, (n.rule, a) ∈ r.actions ∧ r.call n env =
      .ok (some ((a.signature.filter (·.isPositional)).zip (n.arguments env))) ∧
        (a.signature.filter (·.isPositional)).length = (n.arguments env).length := by
  obtain ⟨a, ha⟩ := exists_dispatch hrule
  have hmem := mem_of_dispatch ha
  have htakes := (h.acceptable _ hmem).2
  have hlength : (n.arguments env).length = g.arity n.rule + Action.leading := by
    rw [Node.length_arguments, hn]
  refine ⟨a, hmem, ?_, htakes.positional.trans hlength.symm⟩
  rw [call, ha, Except.map, htakes.supply?_eq hlength]

/-- After any row of calls: one more call either is refused and changes nothing or adds one entry;
each rule has the first acceptable action that it was handed, and keeps it; all entries are
acceptable; the check tells exactly the rules without an entry, in the order of the grammar; and
calling the action of a node fails with an error of the registry exactly if its rule has no entry, and
gives each positional parameter one argument if the node has as many children as its rule. -/
theorem registry_lawful (g : Grammar) (calls : List (String × Action β)) :
    (∀ rule a, (∃ e, (after g calls).attempt rule a = (.error e, after g calls)) ∨
      rule ∉ (after g calls).names ∧
        (after g calls).attempt rule a = (.ok (), ⟨g, (after g calls).actions ++ [(rule, a)]⟩)) ∧
    (∀ rule a, (after g calls).find? rule = some a ↔ FirstAcceptable g calls rule a) ∧
    (∀ more rule a, (after g calls).find? rule = some a →
      (after g (calls ++ more)).find? rule = some a) ∧
    ((after g calls).names.Nodup ∧
      ∀ p ∈ (after g calls).actions, p.1 ∈ g.ruleNames ∧ p.2.Takes (g.arity p.1)) ∧
    ((after g calls).checkComplete = .ok () ↔ ∀ rule ∈ g.ruleNames, rule ∈ (after g calls).names) ∧
    ((after g calls).checkComplete ≠ .ok () → (after g calls).checkComplete =
      .error (.missing (g.ruleNames.filter (· ∉ (after g calls).names)))) ∧
    ∀ (n : Node) (env : ε),
      (∀ e, (after g calls).call n env = .error e ↔
        n.rule ∉ (after g calls).names ∧ e = .unregistered n.rule) ∧
      (n.rule ∈ (after g calls).names → n.children.length = g.arity n.rule →
        ∃ a, (n.rule, a) ∈ (after g calls).actions ∧ (after g calls).call n env =
          .ok (some ((a.signature.filter (·.isPositional)).zip (n.arguments env))) ∧
            (a.signature.filter (·.isPositional)).length = (n.arguments env).length) := by
  have hg := grammar_after g calls
  have horderly := orderly_after g calls
  refine ⟨fun rule a => ?_, fun rule a => find?_after, fun more rule a h => find?_after_append h more,
    ⟨horderly.nodup, horderly.acceptable⟩, ?_, fun h => ?_,
    fun n env => ⟨fun e => call_eq_error_iff, fun hrule hn => horderly.call_eq hrule hn env⟩⟩
  · obtain ⟨-, hnew, h⟩ | ⟨-, h⟩ := (after g calls).attempt_cases rule a
    · rw [hg] at h
      exact .inr ⟨hnew, h⟩
    · exact .inl h
  · rw [checkComplete_eq_ok_iff, hg]
  · rw [checkComplete_of_missing h, hg]

/-! ### Actions of pairs -/

/-- The rule of the first is unknown, the second takes no children, and the fourth comes late. -/
def pairCalls : List (String × Action (Body Unit Nat)) :=
  [("sum", Definition.ofPair), ("pair", Definition.ofNumber), ("pair", Definition.ofPair),
    ("pair", .ofArity "late" 3 Definition.addPair)]

theorem registry_lawful_pairCalls :
    (after Definition.pairGrammar (pairCalls ++ [("NUM", Definition.ofNumber)])).find? "pair" =
        some Definition.ofPair ∧
      (after Definition.pairGrammar pairCalls).checkComplete = .error (.missing ["NUM"]) ∧
      ∃ a, ("pair", a) ∈ (after Definition.pairGrammar pairCalls).actions ∧
        (after Definition.pairGrammar pairCalls).call Definition.pairTree () = .ok (some
          ((a.signature.filter (·.isPositional)).zip (Definition.pairTree.arguments ()))) ∧
        (a.signature.filter (·.isPositional)).length = 5 := by
  obtain ⟨-, -, hkept, -, -, hmissing, hcall⟩ := registry_lawful Definition.pairGrammar pairCalls
  have hincomplete : (after Definition.pairGrammar pairCalls).checkComplete ≠ .ok () := nofun
  exact ⟨hkept _ _ _ rfl, hmissing hincomplete,
    (hcall Definition.pairTree ()).2 (List.mem_singleton.2 rfl) rfl⟩

end Registry

/-! ## Visits -/

/-- A visit of a node that is no list calls the action of its rule. It fails if the call does, and else
it is what the action does with the node and its children. -/
theorem Operation.visitBody_call (op : Operation σ α) {n : Node} (hi : n.isIteration = false)
    (bs : List (Branch σ α)) (env : ε) :
    (∃ e, op.registry.call n env = .error e ∧ op.visitBody n bs = Visit.fail (.registry e)) ∨
      ∃ a : Action (Body σ α), op.registry.call n env = .ok (a.supply? (n.arguments env)) ∧
        op.visitBody n bs = a.body n bs := by
  unfold Registry.call
  rcases hdispatch : op.registry.dispatch n.rule with e | a
  · exact .inl ⟨e, rfl, by simp [visitBody, hi, hdispatch]⟩
  · exact .inr ⟨a, rfl, visitBody_of_dispatch hi hdispatch⟩

end Reckon
