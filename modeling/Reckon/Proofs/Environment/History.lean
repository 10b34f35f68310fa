import Reckon.Proofs.Environment.Protection

/-!
# Histories of an environment

What an environment refuses under protection depends on how each name came to be bound. A name that
was defined as a constant or function stands as such until it is unset, or assigned to without
protection (`History.stands`), and the names that stand are those bound to a constant or function
(`History.isDefinition_env`). So exactly these cannot be assigned to under protection
(`assign_refused_iff_stands`). Protection that comes late does not bring a name back that was hidden
before (`assign_hidden_or_removed`).
-/

namespace Reckon.Environment

/-! ## Edits -/

/-- One thing that is done to an environment. -/
inductive Edit where
  | defineConstant (name : String) (value : Float)
  | defineFunction (f : Function)
  | assign (name : String) (value : Number)
  | unset (name : String)
  | protect (isProtected : Bool)
  | copy

/-- The environment after an edit. One that is refused leaves it as it was, and a copy takes its place. -/
def edit (env : Environment) : Edit → Environment
  | .defineConstant name value => env.defineConstant name value
  | .defineFunction f => (env.defineFunction? f).getD env
  | .assign name value => (env.assign name value).toOption.getD env
  | .unset name => (env.unset name).toOption.getD env
  | .protect isProtected => { env with isProtected }
  | .copy => env.copy

namespace Edit

/-- Does the edit define the name as a constant or function? -/
def defines (name : String) : Edit → Bool
  | defineConstant n _ => n == name
  | defineFunction f => f.name == name && decide (0 ≤ f.arity)
  | _ => false

/-- Does the edit take a definition of the name away? -/
def ends (name : String) (isProtected : Bool) : Edit → Bool
  | assign n _ => n == name && !isProtected
  | unset n => n == name
  | _ => false

end Edit

/-- What an environment is constructed from, and the edits since, latest first. -/
structure History where
  bindings : List Binding := []
  isProtected : Bool := false
  edits : List Edit := []

namespace History

/-- The environment after the edits. -/
def envAfter (bindings : List Binding) (isProtected : Bool) : List Edit → Environment
  | [] => ofBindings bindings isProtected
  | e :: es => (envAfter bindings isProtected es).edit e

/-- Is protection on after the edits? -/
def protectedAfter (isProtected : Bool) : List Edit → Bool
  | [] => isProtected
  | .protect isProtected :: _ => isProtected
  | _ :: es => protectedAfter isProtected es

/-- Does a definition of the name stand after the edits? If a construction binds the name more than
once the last binding counts. -/
def standsAfter (bindings : List Binding) (isProtected : Bool) (name : String) : List Edit → Bool
  | [] => (bindings.reverse.find? (·.name == name)).any (!·.isVariable)
  | e :: es => e.defines name ||
      (standsAfter bindings isProtected name es && !e.ends name (protectedAfter isProtected es))

def env (h : History) : Environment := envAfter h.bindings h.isProtected h.edits

/-- Was the name ever defined as a constant or function? -/
def isDefined (h : History) (name : String) : Bool :=
  h.bindings.any (fun b => b.name == name && !b.isVariable) || h.edits.any (·.defines name)

def stands (h : History) (name : String) : Bool :=
  standsAfter h.bindings h.isProtected name h.edits

end History

/-! ## What is looked up -/

section Lookup

variable {table : List (String × Binding)} {n name : String} {b : Binding}

theorem lookup_put : (put table n b).lookup name = if name = n then some b else table.lookup name := by
  induction table with
  | nil => exact lookup_cons (n, b)
  | cons q rest ih =>
    unfold put
    split
    · rename_i hq
      obtain rfl := eq_of_beq hq
      rw [lookup_cons, lookup_cons]
      split <;> rfl
    · rename_i hq
      rw [lookup_cons, lookup_cons, ih]
      by_cases hn : name = n
      · have hne : name ≠ q.1 := fun h => hq (beq_iff_eq.2 (h.symm.trans hn))
        simp [hn, hn ▸ hne]
      · simp [hn]

theorem lookup_filter_ne : (table.filter (·.1 != n)).lookup name =
    if name = n then none else table.lookup name := by
  induction table with
  | nil => simp
  | cons q rest ih =>
    by_cases hq : q.1 = n
    · rw [List.filter_cons_of_neg (by simp [hq]), ih, lookup_cons, hq]
      split <;> rfl
    · rw [List.filter_cons_of_pos (by simp [hq]), lookup_cons, lookup_cons, ih]
      by_cases hn : name = n
      · have hne : n ≠ q.1 := fun h => hq h.symm
        simp [hn, hne]
      · simp [hn]

theorem lookup_foldl_put (bindings : List Binding) :
    (bindings.foldl (fun t b => put t b.name b) table).lookup name =
      (bindings.reverse.find? (·.name == name)).or (table.lookup name) := by
  induction bindings generalizing table with
  | nil => simp
  | cons b rest ih =>
    rw [List.foldl_cons, ih, List.reverse_cons, List.find?_append, lookup_put, Option.or_assoc]
    by_cases hn : name = b.name
    · simp [hn]
    · simp [hn, Ne.symm hn]

end Lookup

/-- Is the name bound to a constant or function? -/
def isDefinition (env : Environment) (name : String) : Bool :=
  (env.lookup name).any (!·.isVariable)

theorem isSome_hiddenKind (env : Environment) (name : String) :
    (env.hiddenKind? name).isSome = env.isDefinition name := by
  unfold hiddenKind? isDefinition
  cases env.lookup name with
  | none => rfl
  | some b => cases hb : b.isVariable <;> simp [hb]

/-! ## One edit -/

section Edits

variable {env : Environment}

theorem isDefinition_ofBindings (bindings : List Binding) (isProtected : Bool)
    (name : String) : (ofBindings bindings isProtected).isDefinition name =
      (bindings.reverse.find? (·.name == name)).any (!·.isVariable) := by
  unfold isDefinition lookup ofBindings
  rw [lookup_foldl_put]
  simp

theorem isDefinition_addBuiltin (env : Environment) {b : Binding} (hb : b.isVariable = false)
    (name : String) :
    (env.addBuiltin b).isDefinition name = (b.name == name || env.isDefinition name) := by
  unfold isDefinition lookup addBuiltin
  rw [lookup_put]
  by_cases hn : name = b.name
  · simp [hn, hb]
  · simp [hn, beq_false_of_ne (Ne.symm hn)]

theorem isDefinition_hide (env : Environment) (n : String) (value : Number) (name : String) :
    isDefinition { env with bindings := put env.bindings n (.var n value) } name =
      (env.isDefinition name && !(n == name)) := by
  unfold isDefinition lookup
  rw [lookup_put]
  by_cases hn : name = n
  · simp [hn, Binding.isVariable]
  · simp [hn, beq_false_of_ne (Ne.symm hn)]

theorem isDefinition_unset (env : Environment) (n name : String) :
    (env.edit (.unset n)).isDefinition name = (env.isDefinition name && !(n == name)) := by
  rw [edit, unset, contains]
  cases hn : (env.lookup n).isSome with
  | true =>
    change Option.any _ (List.lookup name (env.bindings.filter (·.1 != n))) = _
    rw [lookup_filter_ne]
    by_cases he : name = n
    · simp [he]
    · simp [he, beq_false_of_ne (Ne.symm he), isDefinition, lookup]
  | false =>
    change env.isDefinition name = _
    have hnone : env.lookup n = none := by simpa using hn
    by_cases he : n = name
    · simp [isDefinition, ← he, hnone]
    · simp [beq_false_of_ne he]

/-- An assignment is refused if the name is bound to a constant or function and protected. -/
theorem Consistent.assign_eq (h : env.Consistent) (n : String) (value : Number) :
    env.assign n value =
      if env.isDefinition n && env.isProtected then .error (.readOnly n)
      else .ok { env with bindings := put env.bindings n (.var n value) } := by
  unfold Environment.assign
  rw [isSome_hiddenKind]
  cases hd : env.isDefinition n with
  | false => rfl
  | true =>
    -- what is bound to a constant or function is known as such
    obtain ⟨b, hb, hv⟩ := (Option.any_eq_true _ _).1 hd
    have hmem : n ∈ env.builtins := h.builtin _ (mem_of_lookup hb) (by simpa using hv)
    simp [hmem]

theorem Consistent.isDefinition_assign (h : env.Consistent) (n : String) (value : Number)
    (name : String) : (env.edit (.assign n value)).isDefinition name =
      (env.isDefinition name && !(n == name && !env.isProtected)) := by
  rw [edit, h.assign_eq]
  cases hr : env.isDefinition n && env.isProtected with
  | true =>
    -- refused, so the environment is protected
    change env.isDefinition name = _
    simp [(Bool.and_eq_true_iff.1 hr).2]
  | false =>
    refine (isDefinition_hide env n value name).trans ?_
    by_cases hn : n = name
    · subst hn
      cases hd : env.isDefinition n <;> simp_all
    · simp [beq_false_of_ne hn]

theorem Consistent.isDefinition_edit (h : env.Consistent) (e : Edit) (name : String) :
    (env.edit e).isDefinition name =
      (e.defines name || (env.isDefinition name && !e.ends name env.isProtected)) := by
  cases e with
  | defineConstant n value =>
    refine (isDefinition_addBuiltin env (b := .constant n (.ieee value)) rfl name).trans ?_
    simp [Edit.defines, Edit.ends, Binding.name]
  | defineFunction f =>
    unfold edit defineFunction?
    by_cases hf : f.arity < 0
    · simp [hf, Edit.defines, Edit.ends, Int.not_le.2 hf]
    · simpa [hf, Edit.defines, Edit.ends, Int.not_lt.1 hf, Binding.name] using
        isDefinition_addBuiltin env (b := .function f) rfl name
  | assign n value => exact h.isDefinition_assign n value name
  | unset n => exact isDefinition_unset env n name
  | protect isProtected => simp [edit, Edit.defines, Edit.ends, isDefinition, lookup]
  | copy => simp [edit, copy_eq, Edit.defines, Edit.ends]

theorem isProtected_edit (env : Environment) (e : Edit) : (env.edit e).isProtected =
    match e with
    | .protect isProtected => isProtected
    | _ => env.isProtected := by
  cases e with
  | defineConstant | protect | copy => rfl
  | defineFunction f =>
    rw [edit, defineFunction?]
    split <;> rfl
  | assign n value =>
    rw [edit, Environment.assign]
    split <;> rfl
  | unset n =>
    rw [edit, unset]
    split <;> rfl

theorem Reachable.edit (h : env.Reachable) (e : Edit) : (env.edit e).Reachable := by
  cases e with
  | defineConstant n value => exact h.defineConstant n value
  | defineFunction f =>
    rw [Environment.edit]
    cases hf : env.defineFunction? f with
    | none => exact h
    | some env' => exact h.defineFunction hf
  | assign n value =>
    rw [Environment.edit]
    cases ha : env.assign n value with
    | error => exact h
    | ok env' => exact h.assign ha
  | unset n =>
    rw [Environment.edit]
    cases hu : env.unset n with
    | error => exact h
    | ok env' => exact h.unset hu
  | protect isProtected => exact h.protect isProtected
  | copy => exact h.copy

end Edits

/-! ## Histories -/

namespace History

section

variable (bindings : List Binding) (isProtected : Bool)

theorem reachable_envAfter (es : List Edit) : (envAfter bindings isProtected es).Reachable := by
  induction es with
  | nil => exact .construct bindings isProtected
  | cons e es ih => exact ih.edit e

theorem isProtected_envAfter (es : List Edit) :
    (envAfter bindings isProtected es).isProtected = protectedAfter isProtected es := by
  induction es with
  | nil => rfl
  | cons e es ih =>
    rw [envAfter, isProtected_edit, ih]
    cases e <;> rfl

/-- The names that stand are those bound to constants and functions. -/
theorem isDefinition_envAfter (name : String) (es : List Edit) :
    (envAfter bindings isProtected es).isDefinition name =
      standsAfter bindings isProtected name es := by
  induction es with
  | nil => exact isDefinition_ofBindings bindings isProtected name
  | cons e es ih =>
    have hconsistent := (reachable_envAfter bindings isProtected es).consistent
    rw [envAfter, hconsistent.isDefinition_edit, ih, isProtected_envAfter, standsAfter]

end

end History

/-- An assignment is refused, and leaves the environment as it was, exactly under protection and for
the names that were defined as constants or functions and stand as such. -/
theorem assign_refused_iff_stands (h : History) (name : String) (value : Number) :
    (h.env.assign name value = .error (.readOnly name) ∧ h.env.edit (.assign name value) = h.env) ↔
      h.env.isProtected = true ∧ h.stands name = true := by
  have hreach : h.env.Reachable := History.reachable_envAfter h.bindings h.isProtected h.edits
  have hstands : h.env.isDefinition name = h.stands name :=
    History.isDefinition_envAfter h.bindings h.isProtected name h.edits
  rw [edit, hreach.consistent.assign_eq, hstands]
  cases hs : h.stands name <;> cases hp : h.env.isProtected <;> simp [Except.toOption]

/-- A constant that was hidden by a variable before it was protected. -/
def History.hidden : History :=
  ⟨[.constant "k" (.ieee 1)], false, [.protect true, .assign "k" (.ieee 2)]⟩

/-- A protected constant that was removed. -/
def History.removed : History := ⟨[.constant "k" (.ieee 1)], true, [.unset "k"]⟩

theorem assign_hidden_or_removed :
    (History.hidden.env.isProtected = true ∧ History.hidden.isDefined "k" = true ∧
      History.hidden.env.assign "k" (.ieee 3) ≠ .error (.readOnly "k")) ∧
    (History.removed.env.isProtected = true ∧ History.removed.isDefined "k" = true ∧
      History.removed.env.assign "k" (.ieee 3) ≠ .error (.readOnly "k")) :=
  ⟨⟨rfl, rfl, nofun⟩, ⟨rfl, rfl, nofun⟩⟩

end Reckon.Environment
