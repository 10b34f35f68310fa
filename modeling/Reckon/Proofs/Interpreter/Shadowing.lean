import Mathlib.Data.List.Dedup
import Reckon.Proofs.Interpreter.Trace

/-!
# Hidden constants and functions

An assignment that puts a variable in the place of a constant or function is reported with the kind
that the name had. What was defined under a name before a run is either reported or still there
(`Trace.hidden_append`): an assignment takes it from one side to the other, and another one to the
same name finds a variable. So the warnings of a run are as many as the definitions it lost, and each
of these is named in one of them (`run_reports_lost`).
-/

namespace Reckon

/-! ## Reports -/

/-- The name and the kind of what the event tells to be hidden. -/
def Event.hidden? : Event → Option (String × String)
  | .shadowed name kind => some (name, kind)
  | _ => none

/-- The names told to be hidden, with the kinds that they had. -/
def hiddenIn (events : List Event) : List (String × String) := events.filterMap Event.hidden?

/-- The warning that an assignment to a name hides a constant or function. -/
def hidingRecord (d : String × String) : Record where
  level := .warning
  origin := "arith.environment"
  message := "assignment to '" ++ d.1 ++ "' shadows a built-in " ++ d.2

theorem hiddenIn_append (es es' : List Event) : hiddenIn (es ++ es') = hiddenIn es ++ hiddenIn es' :=
  List.filterMap_append

theorem hiddenIn_filter_isStep (es : List Event) : hiddenIn (es.filter Event.isStep) = hiddenIn es := by
  unfold hiddenIn
  rw [List.filterMap_filter]
  refine List.filterMap_congr fun e _ => ?_
  cases e <;> rfl

/-- Nothing else is reported as a warning. -/
theorem recordsAt_warning (es : List Event) :
    recordsAt .warning es = (hiddenIn es).map hidingRecord := by
  unfold recordsAt
  induction es with
  | nil => rfl
  | cons e es ih =>
    cases e with
    | shadowed name kind => exact congrArg (hidingRecord (name, kind) :: ·) ih
    | _ => exact ih

/-! ## Definitions that are lost -/

namespace Environment

/-- The constant or function of a name, as it is reported. -/
def definition? (env : Environment) (name : String) : Option (String × String) :=
  (env.hiddenKind? name).map (name, ·)

/-- The names bound to a constant or function in one environment and to a variable in another, with
the kinds that they have in the first. -/
def lost (env env' : Environment) : List (String × String) :=
  env.names.dedup.filterMap fun name =>
    match env.lookup name, env'.lookup name with
    | some b, some (.var _ _) => if b.isVariable then none else some (name, b.kind)
    | _, _ => none

variable {env env' : Environment} {name kind : String}

theorem hiddenIn_hiding (env : Environment) (name : String) :
    hiddenIn (env.hiding name) = (env.definition? name).toList := by
  unfold Environment.hiding definition?
  cases env.hiddenKind? name <;> rfl

theorem definition?_eq_some_iff : env.definition? name = some (name, kind) ↔
    ∃ b, env.lookup name = some b ∧ b.isVariable = false ∧ b.kind = kind := by
  unfold definition? hiddenKind?
  cases env.lookup name with
  | none => simp
  | some b => cases hb : b.isVariable <;> simp [hb]

theorem definition?_of_assign {value : Number} (h : env.assign name value = .ok env') (x : String) :
    env'.definition? x = if x = name then none else env.definition? x := by
  unfold definition? hiddenKind?
  rw [lookup_of_assign h]
  by_cases hx : x = name
  · simp [hx, Binding.isVariable]
  · simp [hx]

theorem mem_names_of_lookup {b : Binding} (h : env.lookup name = some b) : name ∈ env.names :=
  List.mem_map.2 ⟨_, mem_of_lookup h, rfl⟩

theorem mem_lost_iff : (name, kind) ∈ env.lost env' ↔ ∃ b x v, env.lookup name = some b ∧
    b.isVariable = false ∧ b.kind = kind ∧ env'.lookup name = some (.var x v) := by
  simp only [lost, List.mem_filterMap, List.mem_dedup]
  constructor
  · rintro ⟨x, -, h⟩
    split at h
    · rename_i b x v hb hv
      split at h
      · cases h
      · rename_i hvar
        cases h
        exact ⟨b, x, v, hb, by simpa using hvar, rfl, hv⟩
    · cases h
  · rintro ⟨b, x, v, hb, hvar, rfl, hv⟩
    exact ⟨name, mem_names_of_lookup hb, by simp [hb, hv, hvar]⟩

theorem nodup_lost (env env' : Environment) : ((env.lost env').map (·.1)).Nodup := by
  have hsub : ((env.lost env').map (·.1)).Sublist env.names.dedup := by
    unfold lost
    induction env.names.dedup with
    | nil => exact .slnil
    | cons x xs ih =>
      rw [List.filterMap_cons]
      split
      · exact ih.cons x
      · rename_i d hd
        split at hd
        · split at hd
          · cases hd
          · cases hd
            exact ih.cons_cons x
        · cases hd
  exact (List.nodup_dedup _).sublist hsub

end Environment

/-! ## Runs -/

namespace Trace

variable {env env' : Environment} {es : List Event}

/-- What a name was defined as is reported or still there, and never both. -/
theorem hidden_append (h : Trace env es env') (x : String) :
    (hiddenIn es).filter (·.1 == x) ++ (env'.definition? x).toList = (env.definition? x).toList := by
  induction h with
  | nil => rfl
  | called _ _ _ ih => exact ih
  | @assigned env mid _ es name value ha _ ih =>
    rw [hiddenIn_append, Environment.hiddenIn_hiding, List.filter_append, List.append_assoc]
    change _ ++ ((hiddenIn es).filter _ ++ _) = _
    rw [ih, Environment.definition?_of_assign ha]
    by_cases hx : x = name
    · subst hx
      unfold Environment.definition?
      cases env.hiddenKind? x <;> simp
    · unfold Environment.definition?
      cases env.hiddenKind? name <;> simp [hx, Ne.symm hx]

theorem filter_hiddenIn (h : Trace env es env') (x : String) : (hiddenIn es).filter (·.1 == x) =
    if (env'.definition? x).isSome then [] else (env.definition? x).toList := by
  rw [← h.hidden_append x]
  cases hafter : env'.definition? x with
  | none => simp
  | some d =>
    -- it is still there, and there is only one of it
    have hone := congrArg List.length (h.hidden_append x)
    have hle : (env.definition? x).toList.length ≤ 1 := by cases env.definition? x <;> simp
    rw [hafter, List.length_append] at hone
    exact List.eq_nil_of_length_eq_zero (by simp at hone; omega)

/-- What is reported is what was lost. -/
theorem mem_hiddenIn_iff (h : Trace env es env') {d : String × String} :
    d ∈ hiddenIn es ↔ d ∈ env.lost env' := by
  obtain ⟨x, kind⟩ := d
  have hfilter : (x, kind) ∈ hiddenIn es ↔ (x, kind) ∈ (hiddenIn es).filter (·.1 == x) := by simp
  rw [hfilter, h.filter_hiddenIn, Environment.mem_lost_iff]
  constructor
  · intro hmem
    split at hmem
    · cases hmem
    · rename_i hgone
      obtain ⟨b, hb, hvar, hkind⟩ := Environment.definition?_eq_some_iff.1 (Option.mem_toList.1 hmem)
      rcases h.lookup_cases x with hsame | ⟨v, hv⟩
      · rw [hb] at hsame
        exact absurd (Environment.definition?_eq_some_iff.2 ⟨b, hsame, hvar, rfl⟩)
          fun hstill => hgone (by rw [hstill]; rfl)
      · exact ⟨b, x, v, hb, hvar, hkind, hv⟩
  · rintro ⟨b, y, v, hb, hvar, hkind, hv⟩
    have hgone : env'.definition? x = none := by
      simp [Environment.definition?, Environment.hiddenKind?, hv, Binding.isVariable]
    rw [hgone]
    exact Option.mem_toList.2 (Environment.definition?_eq_some_iff.2 ⟨b, hb, hvar, hkind⟩)

theorem nodup_hiddenIn (h : Trace env es env') : (hiddenIn es).Nodup := by
  refine List.nodup_iff_count_le_one.2 fun d => ?_
  have hcount : (hiddenIn es).count d = ((hiddenIn es).filter (·.1 == d.1)).count d :=
    (List.count_filter (by simp)).symm
  rw [hcount, h.filter_hiddenIn]
  split
  · simp
  · cases env.definition? d.1 with
    | none => simp
    | some e => exact List.count_le_length.trans (Nat.le_refl 1)

theorem perm_lost (h : Trace env es env') : (hiddenIn es).Perm (env.lost env') :=
  (List.perm_ext_iff_of_nodup h.nodup_hiddenIn (.of_map _ (Environment.nodup_lost env env'))).2
    fun _ => h.mem_hiddenIn_iff

/-- The variable in the place of what is lost has the same name. -/
theorem mem_lost_iff (h : Trace env es env') (name kind : String) :
    (name, kind) ∈ env.lost env' ↔ ∃ b v, env.lookup name = some b ∧ b.isVariable = false ∧
      b.kind = kind ∧ env'.lookup name = some (.var name v) := by
  rw [Environment.mem_lost_iff]
  constructor
  · rintro ⟨b, x, v, hb, hvar, hkind, hv⟩
    rcases h.lookup_cases name with hsame | ⟨w, hw⟩
    · rw [hsame, hb] at hv
      cases hv
      cases hvar
    · exact ⟨b, w, hb, hvar, hkind, hw⟩
  · rintro ⟨b, v, hrest⟩
    exact ⟨b, name, v, hrest⟩

end Trace

/-- Whatever comes of a run, it gives as many warnings as there are names bound to a constant or
function before it and to a variable after it, and each of these is named, with the kind that it had,
in exactly one of them. -/
theorem run_reports_lost (p : Pool) (text : String) (maxDepth : Int) (s : Session) :
    ∃ events, (p.run text maxDepth s).2.2.events = s.events ++ events ∧
      (recordsAt .warning events).length = (s.env.lost (p.run text maxDepth s).2.2.env).length ∧
      recordsAt .warning events = (hiddenIn events).map hidingRecord ∧
      (hiddenIn events).Perm (s.env.lost (p.run text maxDepth s).2.2.env) ∧
      ((hiddenIn events).map (·.1)).Nodup ∧
      ∀ name kind, (name, kind) ∈ s.env.lost (p.run text maxDepth s).2.2.env ↔
        ∃ b v, s.env.lookup name = some b ∧ b.isVariable = false ∧ b.kind = kind ∧
          (p.run text maxDepth s).2.2.env.lookup name = some (.var name v) := by
  obtain ⟨events, hevents, htrace, -⟩ := (p.interpreter maxDepth).exists_trace "program" text
    (.ran text) (fun _ => rfl) s
  rcases hprocess : (p.interpreter maxDepth).process "program" text (.ran text) s with ⟨r, i, t⟩
  have hrun : p.run text maxDepth s = (r, p.store maxDepth i, t) := Pool.process_eq rfl hprocess
  rw [hprocess] at hevents htrace
  rw [hrun]
  have hperm := htrace.perm_lost
  rw [hiddenIn_filter_isStep] at hperm
  have hrecords := recordsAt_warning events
  refine ⟨events, hevents, ?_, hrecords, hperm, ?_, htrace.mem_lost_iff⟩
  · rw [hrecords, List.length_map]
    exact hperm.length_eq
  · exact (hperm.map _).nodup_iff.2 (Environment.nodup_lost _ _)

end Reckon
