import Reckon.Operation.Registry
import Reckon.Proofs.Checks
import Reckon.Proofs.Table

/-!
# Registration

A registry takes an action if its rule has none yet and the action takes as many children as the
rule has (`register_eq_ok_iff`). It takes a row of actions if it takes each of them and no rule is
named twice (`registerAll_eq_ok_iff`).
-/

namespace Reckon

variable {β : Type}

theorem Grammar.contains_iff {g : Grammar} {name : String} :
    g.contains name = true ↔ name ∈ g.ruleNames := by
  simp [contains, ruleNames]

namespace Action

/-- Besides the node and the environment the action has `n` positional parameters, and it can be
called with these alone and with no more. -/
structure Takes (a : Action β) (n : Nat) : Prop where
  bounded : ∀ p ∈ a.signature, p.kind ≠ .rest ∧ p.kind ≠ .keywordRest
  optional : ∀ p ∈ a.signature, p.kind = .keywordOnly → p.hasDefault = true
  positional : (a.signature.filter (·.isPositional)).length = n + leading

theorem fault?_eq_none_iff {shown : String} {p : Parameter} : p.fault? shown = none ↔
    (p.kind ≠ .rest ∧ p.kind ≠ .keywordRest) ∧ (p.kind = .keywordOnly → p.hasDefault = true) := by
  obtain ⟨name, kind, hasDefault⟩ := p
  cases kind <;> cases hasDefault <;> simp [Parameter.fault?]

theorem arity_eq_ok_iff {a : Action β} {n : Nat} : a.arity = .ok (n : Int) ↔ a.Takes n := by
  have hnone : a.signature.findSome? (·.fault? a.shown) = none ↔
      (∀ p ∈ a.signature, p.kind ≠ .rest ∧ p.kind ≠ .keywordRest) ∧
        ∀ p ∈ a.signature, p.kind = .keywordOnly → p.hasDefault = true := by
    simp only [List.findSome?_eq_none_iff, fault?_eq_none_iff, forall_and]
  unfold arity
  constructor
  · intro h
    split at h
    · cases h
    · rename_i hfault
      have hlength := Except.ok.inj h
      exact ⟨(hnone.1 hfault).1, (hnone.1 hfault).2, by omega⟩
  · intro h
    simp only [hnone.2 ⟨h.bounded, h.optional⟩, h.positional]
    congr 1
    omega

end Action

namespace Registry

variable {r r' : Registry β} {rule owner : String} {a : Action β} {l : List (String × Action β)}

/-- The rules that have an action. -/
def names (r : Registry β) : List String := r.actions.map (·.1)

theorem contains_iff : r.contains rule = true ↔ rule ∈ r.names := isSome_lookup_iff

theorem register_eq_ok_iff : r.register rule a = .ok r' ↔ rule ∈ r.grammar.ruleNames ∧
    rule ∉ r.names ∧ a.Takes (r.grammar.arity rule) ∧
      r' = { r with actions := r.actions ++ [(rule, a)] } := by
  rw [← Grammar.contains_iff, ← contains_iff, ← Action.arity_eq_ok_iff]
  unfold register
  rcases ha : a.arity with e | actual <;>
    cases r.grammar.contains rule <;> cases r.contains rule <;> simp
  by_cases h : actual = r.grammar.arity rule <;> simp [h, eq_comm]

theorem names_append (r : Registry β) (l : List (String × Action β)) :
    ({ r with actions := r.actions ++ l } : Registry β).names = r.names ++ l.map (·.1) :=
  List.map_append

theorem registerAll_eq_ok_iff : r.registerAll l = .ok r' ↔
    (∀ p ∈ l, p.1 ∈ r.grammar.ruleNames ∧ p.2.Takes (r.grammar.arity p.1)) ∧
      (∀ p ∈ l, p.1 ∉ r.names) ∧ (l.map (·.1)).Nodup ∧
        r' = { r with actions := r.actions ++ l } := by
  -- the registry grows: a later action has to be new to the earlier ones as well
  induction l generalizing r with
  | nil => simp [registerAll, eq_comm]
  | cons p l ih =>
    simp only [registerAll, bind_eq_ok_iff, register_eq_ok_iff, List.forall_mem_cons, List.map_cons,
      List.nodup_cons]
    constructor
    · rintro ⟨r₁, ⟨hrule, hnew, htakes, rfl⟩, hrest⟩
      obtain ⟨hl, hnews, hnodup, rfl⟩ := ih.1 hrest
      simp only [names_append, List.mem_append, not_or] at hnews
      refine ⟨⟨⟨hrule, htakes⟩, hl⟩, ⟨hnew, fun q hq => (hnews q hq).1⟩, ⟨fun hp => ?_, hnodup⟩,
        by rw [List.append_assoc, List.singleton_append]⟩
      obtain ⟨q, hq, hqp⟩ := List.mem_map.1 hp
      exact (hnews q hq).2 (List.mem_singleton.2 hqp)
    · rintro ⟨⟨⟨hrule, htakes⟩, hl⟩, ⟨hnew, hnews⟩, ⟨hp, hnodup⟩, rfl⟩
      refine ⟨_, ⟨hrule, hnew, htakes, rfl⟩, ih.2 ⟨hl, fun q hq => ?_, hnodup,
        by rw [List.append_assoc, List.singleton_append]⟩⟩
      rw [names_append, List.mem_append, not_or]
      exact ⟨hnews q hq, fun hqp => hp (List.mem_map.2 ⟨q, hq, List.mem_singleton.1 hqp⟩)⟩

/-- What an empty registry takes. -/
theorem registerAll_empty_eq_ok_iff {g : Grammar} : (⟨g, []⟩ : Registry β).registerAll l = .ok r' ↔
    (∀ p ∈ l, p.1 ∈ g.ruleNames ∧ p.2.Takes (g.arity p.1)) ∧ (l.map (·.1)).Nodup ∧ r' = ⟨g, l⟩ := by
  simp [registerAll_eq_ok_iff, names]

theorem checkComplete_eq_ok_iff : r.checkComplete = .ok () ↔ ∀ rule ∈ r.grammar.ruleNames,
    rule ∈ r.names := by
  simp [checkComplete, missing, ← contains_iff, List.filter_eq_nil_iff]

theorem mem_of_dispatch (h : r.dispatch rule = .ok a) : (rule, a) ∈ r.actions := by
  unfold dispatch find? at h
  split at h
  · rename_i hlookup
    cases h
    exact mem_of_lookup hlookup
  · cases h

theorem exists_dispatch (h : rule ∈ r.names) : ∃ a, r.dispatch rule = .ok a := by
  obtain ⟨a, ha⟩ := Option.isSome_iff_exists.1 (contains_iff.2 h)
  exact ⟨a, by rw [dispatch, ha]⟩

end Registry

end Reckon
