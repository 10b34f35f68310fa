import Reckon.Environment.Standard
import Reckon.Proofs.Interpreter.Related
import Reckon.Proofs.Table

/-!
# Protected constants and functions

An environment keeps its bindings and the names defined as constants or functions apart, and it keeps
a binding, which has a name itself, under a name. All these agree in every environment that comes about
(`Consistent`), so the check that protects constants and functions lets no assignment through that
would touch one. Evaluating a text changes an environment by assignments only, which carries this over
to all texts (`builtins_protected`).
-/

namespace Reckon.Environment

variable {table : List (String × Binding)} {name : String} {b : Binding}

/-! ## Tables -/

theorem mem_put {p : String × Binding} (h : p ∈ put table name b) : p = (name, b) ∨ p ∈ table := by
  induction table with
  | nil => exact .inl (List.mem_singleton.1 h)
  | cons q rest ih =>
    unfold put at h
    split at h
    · rename_i hq
      rcases List.mem_cons.1 h with rfl | h
      · exact .inl (by rw [eq_of_beq hq])
      · exact .inr (List.mem_cons_of_mem _ h)
    · rcases List.mem_cons.1 h with rfl | h
      · exact .inr List.mem_cons_self
      · exact (ih h).imp_right (List.mem_cons_of_mem _)

theorem forall_mem_put {P : String × Binding → Prop} (h : ∀ p ∈ table, P p) (hb : P (name, b)) :
    ∀ p ∈ put table name b, P p := by
  intro p hp
  rcases mem_put hp with rfl | hp
  · exact hb
  · exact h p hp

theorem mem_names_put {x : String} :
    x ∈ (put table name b).map (·.1) → x = name ∨ x ∈ table.map (·.1) := by
  intro h
  obtain ⟨p, hp, rfl⟩ := List.mem_map.1 h
  rcases mem_put hp with rfl | hp
  · exact .inl rfl
  · exact .inr (List.mem_map_of_mem hp)

theorem nodup_put (h : (table.map (·.1)).Nodup) : ((put table name b).map (·.1)).Nodup := by
  induction table with
  | nil => simp [put]
  | cons q rest ih =>
    rw [List.map_cons, List.nodup_cons] at h
    unfold put
    split
    · rw [List.map_cons, List.nodup_cons]
      exact h
    · rename_i hq
      rw [List.map_cons, List.nodup_cons]
      refine ⟨fun hmem => ?_, ih h.2⟩
      rcases mem_names_put hmem with he | hmem
      · exact hq (beq_iff_eq.2 he)
      · exact h.1 hmem

theorem filter_put {value : Number}
    (h : ∀ b, table.lookup name = some b → b.isVariable = true) :
    (put table name (.var name value)).filter (!·.2.isVariable) = table.filter (!·.2.isVariable) := by
  induction table with
  | nil => rfl
  | cons q rest ih =>
    unfold put
    split
    · rename_i hq
      obtain rfl := eq_of_beq hq
      have hvar : q.2.isVariable = true := h q.2 List.lookup_cons_self
      rw [List.filter_cons_of_neg (by simp [Binding.isVariable]),
        List.filter_cons_of_neg (by simp [hvar])]
    · rename_i hq
      rw [List.filter_cons, List.filter_cons, ih]
      intro b hb
      refine h b ?_
      have hne : (name == q.1) = false := by
        rw [beq_eq_false_iff_ne]
        rintro rfl
        exact hq (beq_self_eq_true _)
      rw [List.lookup_cons, hne]
      exact hb

/-! ## Reachable environments -/

theorem copy_eq (env : Environment) : env.copy = env := rfl

/-- The environments that come about. -/
inductive Reachable : Environment → Prop
  | construct (bindings : List Binding) (isProtected : Bool) :
      Reachable (.ofBindings bindings isProtected)
  | standard (isProtected : Bool) : Reachable (.standard isProtected)
  | defineConstant {env : Environment} (h : Reachable env) (name : String) (value : Float) :
      Reachable (env.defineConstant name value)
  | defineFunction {env env' : Environment} (h : Reachable env) {f : Function}
      (hf : env.defineFunction? f = some env') : Reachable env'
  | assign {env env' : Environment} (h : Reachable env) {name : String} {value : Number}
      (ha : env.assign name value = .ok env') : Reachable env'
  | unset {env env' : Environment} (h : Reachable env) {name : String}
      (hu : env.unset name = .ok env') : Reachable env'
  | copy {env : Environment} (h : Reachable env) : Reachable env.copy
  | protect {env : Environment} (h : Reachable env) (isProtected : Bool) :
      Reachable { env with isProtected }
  | evaluate {s : Session} (h : Reachable s.env) (p : Pool) (text : String) (maxDepth : Int) :
      Reachable (p.evaluate text maxDepth s).2.2.env
  | run {s : Session} (h : Reachable s.env) (p : Pool) (text : String) (maxDepth : Int) :
      Reachable (p.run text maxDepth s).2.2.env

/-- No name is bound twice, bindings are stored under their own names, and constants and functions are
known as such. -/
structure Consistent (env : Environment) : Prop where
  nodup : env.names.Nodup
  name_eq : ∀ p ∈ env.bindings, p.2.name = p.1
  builtin : ∀ p ∈ env.bindings, p.2.isVariable = false → p.1 ∈ env.builtins

section Consistent

variable {env env' : Environment}

/-- What holds of the empty table and is kept by each of the bindings holds when all are put in. -/
theorem foldl_put {P : List (String × Binding) → Prop} {bindings : List Binding}
    (hP : ∀ (table : List (String × Binding)), ∀ b ∈ bindings, P table → P (put table b.name b))
    (h : P []) : P (bindings.foldl (fun t b => put t b.name b) []) :=
  List.foldlRecOn bindings _ h fun table htable b hb => hP table b hb htable

theorem consistent_ofBindings (bindings : List Binding) (isProtected : Bool) :
    (ofBindings bindings isProtected).Consistent where
  nodup := foldl_put (P := fun table => (table.map Prod.fst).Nodup) (fun _ _ _ h => nodup_put h)
    List.nodup_nil
  name_eq := foldl_put (P := fun table => ∀ p ∈ table, p.2.name = p.1)
    (fun _ _ _ h => forall_mem_put h rfl) nofun
  builtin p hp hv := List.mem_map_of_mem (List.mem_filter.2 ⟨hp, by simp [hv]⟩)

theorem Consistent.addBuiltin (h : env.Consistent) (b : Binding) : (env.addBuiltin b).Consistent where
  nodup := nodup_put h.nodup
  name_eq := forall_mem_put h.name_eq rfl
  builtin := by
    have hsub {x : String} (hx : x = b.name ∨ x ∈ env.builtins) : x ∈ (env.addBuiltin b).builtins := by
      unfold Environment.addBuiltin
      simp only
      split
      · rename_i hname
        rcases hx with rfl | hx
        · exact List.contains_iff_mem.1 hname
        · exact hx
      · exact List.mem_cons.2 hx
    exact forall_mem_put (fun p hp hv => hsub (.inr (h.builtin p hp hv))) fun _ => hsub (.inl rfl)

theorem Consistent.assign (h : env.Consistent) {name : String} {value : Number}
    (ha : env.assign name value = .ok env') : env'.Consistent := by
  unfold Environment.assign at ha
  split at ha
  · cases ha
  · cases ha
    exact ⟨nodup_put h.nodup, forall_mem_put h.name_eq rfl, forall_mem_put h.builtin nofun⟩

theorem Consistent.unset (h : env.Consistent) {name : String} (hu : env.unset name = .ok env') :
    env'.Consistent := by
  unfold Environment.unset at hu
  split at hu
  · cases hu
    refine ⟨h.nodup.sublist (List.filter_sublist.map _), fun p hp => ?_, fun p hp hv => ?_⟩
    · exact h.name_eq p (List.mem_filter.1 hp).1
    · exact h.builtin p (List.mem_filter.1 hp).1 hv
  · cases hu

theorem Reachable.consistent (h : Reachable env) : env.Consistent := by
  induction h with
  | construct bindings isProtected => exact consistent_ofBindings bindings isProtected
  | standard isProtected => exact consistent_ofBindings standardBindings isProtected
  | defineConstant _ name value ih => exact ih.addBuiltin _
  | @defineFunction env env' _ f hf ih =>
    unfold defineFunction? at hf
    split at hf
    · cases hf
    · cases hf
      exact ih.addBuiltin _
  | assign _ ha ih => exact ih.assign ha
  | unset _ hu ih => exact ih.unset hu
  | copy _ ih => rwa [copy_eq]
  | protect _ _ ih => exact ⟨ih.nodup, ih.name_eq, ih.builtin⟩
  | evaluate _ p text maxDepth ih =>
    exact (Interpreter.pool_keeps (fun h ha => h.assign ha) p text maxDepth ih).1
  | run _ p text maxDepth ih =>
    exact (Interpreter.pool_keeps (fun h ha => h.assign ha) p text maxDepth ih).2

end Consistent

/-! ## Protection -/

/-- The constants and functions with their names, in order. -/
def definitions (env : Environment) : List (String × Binding) :=
  env.bindings.filter (!·.2.isVariable)

/-- The environment is protected and has the given constants and functions. -/
structure Guards (definitions : List (String × Binding)) (env : Environment) : Prop where
  consistent : env.Consistent
  isProtected : env.isProtected = true
  definitions_eq : env.definitions = definitions

theorem Guards.assign {ds : List (String × Binding)} {env env' : Environment} {name : String}
    {value : Number} (h : Guards ds env) (ha : env.assign name value = .ok env') :
    Guards ds env' := by
  have hconsistent := h.consistent.assign ha
  unfold Environment.assign at ha
  split at ha
  · cases ha
  · rename_i hguard
    cases ha
    refine ⟨hconsistent, h.isProtected, ?_⟩
    rw [← h.definitions_eq]
    refine filter_put fun b hb => ?_
    by_contra hv
    -- a constant or function under that name is known as such, so it was guarded
    have hmem : name ∈ env.builtins :=
      h.consistent.builtin _ (mem_of_lookup hb) (Bool.not_eq_true _ ▸ hv)
    have hlook : env.lookup name = some b := hb
    simp [hiddenKind?, hlook, hv, h.isProtected, hmem] at hguard

/-- In every reachable environment each name is bound once, what is bound is stored under its own name,
constants and functions are known as such, and under protection no text touches them or adds one. -/
theorem builtins_protected {env : Environment} (h : Reachable env) :
    (∀ name b, (name, b) ∈ env.bindings ↔ env.lookup name = some b) ∧
    (∀ name b, env.lookup name = some b → b.name = name) ∧
    (∀ name b, env.lookup name = some b → b.isVariable = false → name ∈ env.builtins) ∧
    (env.isProtected = true → ∀ (p : Pool) (text : String) (maxDepth : Int) (s : Session),
      s.env = env → (p.evaluate text maxDepth s).2.2.env.definitions = env.definitions ∧
        (p.run text maxDepth s).2.2.env.definitions = env.definitions) := by
  have hc := h.consistent
  refine ⟨fun name b => (lookup_eq_some_iff hc.nodup).symm, fun name b hb => ?_, fun name b hb => ?_, ?_⟩
  · exact hc.name_eq _ (mem_of_lookup hb)
  · exact hc.builtin _ (mem_of_lookup hb)
  · rintro hp p text maxDepth s rfl
    have hguards : Guards s.env.definitions s.env := ⟨hc, hp, rfl⟩
    obtain ⟨hevaluate, hrun⟩ := Interpreter.pool_keeps Guards.assign p text maxDepth hguards
    exact ⟨hevaluate.definitions_eq, hrun.definitions_eq⟩

theorem builtins_protected_constant :
    (({} : Pool).run "x = k; k = 2" 5
      ⟨{ ((ofBindings []).defineConstant "k" 1).copy with isProtected := true },
        []⟩).2.2.env.definitions = [("k", .constant "k" (.ieee 1))] := by
  have hreach := (((Reachable.construct [] false).defineConstant "k" 1).copy).protect true
  exact ((builtins_protected hreach).2.2.2 rfl {} "x = k; k = 2" 5 _ rfl).2

end Reckon.Environment
