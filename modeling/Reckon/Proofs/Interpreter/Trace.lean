import Reckon.Proofs.Environment.History
import Reckon.Proofs.Interpreter.Related

/-!
# What a run does to the environment

The steps that a run notes lead from the environment before it to the one after it (`Trace`),
whatever comes of the run (`exists_trace`), and they assign only to names that are targets in its
tree (`keeps_of_formed`). An assignment puts a variable in the place of its name or at the end. So
the rest of the environment is as it was (`run_frame`).
-/

namespace Reckon

open Arithmetic

/-! ## Traces -/

/-- The name that the event tells to be assigned to. -/
def Event.assignedName? : Event → Option String
  | .assigned name _ => some name
  | _ => none

/-- The names assigned to, in order. -/
def assignedNames (events : List Event) : List String := events.filterMap Event.assignedName?

/-- Is the event noted by a step of an evaluation? -/
def Event.isStep : Event → Bool
  | .called _ _ | .shadowed _ _ | .assigned _ _ => true
  | _ => false

theorem assignedNames_filter_isStep (es : List Event) :
    assignedNames (es.filter Event.isStep) = assignedNames es := by
  unfold assignedNames
  rw [List.filterMap_filter]
  refine List.filterMap_congr fun e _ => ?_
  cases e <;> rfl

/-- What is noted if an assignment to the name hides a constant or function. -/
def Environment.hiding (env : Environment) (name : String) : List Event :=
  (env.hiddenKind? name).toList.map (.shadowed name)

/-- The events of an evaluation that leads from one environment to another. -/
inductive Trace : Environment → List Event → Environment → Prop
  | nil (env : Environment) : Trace env [] env
  | called {env env' : Environment} {es : List Event} (name : String) (values : List Number)
      (h : Trace env es env') : Trace env (.called name values :: es) env'
  | assigned {env mid env' : Environment} {es : List Event} {name : String} {value : Number}
      (ha : env.assign name value = .ok mid) (h : Trace mid es env') :
      Trace env (env.hiding name ++ .assigned name value :: es) env'

theorem assignedNames_hiding (env : Environment) (name : String) :
    assignedNames (env.hiding name) = [] := by
  unfold Environment.hiding assignedNames
  cases env.hiddenKind? name <;> rfl

theorem assignedNames_append (es es' : List Event) :
    assignedNames (es ++ es') = assignedNames es ++ assignedNames es' := List.filterMap_append

theorem assignedNames_assigned (env : Environment) (name : String) (value : Number)
    (es : List Event) : assignedNames (env.hiding name ++ .assigned name value :: es) =
      name :: assignedNames es := by
  rw [assignedNames_append, assignedNames_hiding]
  rfl

namespace Environment

variable {env env' : Environment} {name : String} {value : Number}

theorem bindings_of_assign (h : env.assign name value = .ok env') :
    env'.bindings = put env.bindings name (.var name value) := by
  unfold assign at h
  split at h
  · cases h
  · cases h
    rfl

theorem lookup_of_assign (h : env.assign name value = .ok env') (x : String) :
    env'.lookup x = if x = name then some (.var name value) else env.lookup x := by
  unfold lookup
  rw [bindings_of_assign h, lookup_put]

theorem names_put (table : List (String × Binding)) (name : String) (b : Binding) :
    (put table name b).map (·.1) =
      table.map (·.1) ++ if name ∈ table.map (·.1) then [] else [name] := by
  induction table with
  | nil => rfl
  | cons q rest ih =>
    unfold put
    by_cases hq : q.1 = name
    · simp [hq]
    · have hne : name ≠ q.1 := fun h => hq h.symm
      rw [if_neg (by simpa using hq), List.map_cons, ih, List.map_cons, List.cons_append]
      simp only [List.mem_cons, hne, false_or]

theorem names_of_assign (h : env.assign name value = .ok env') :
    env'.names = env.names ++ if name ∈ env.names then [] else [name] := by
  unfold names
  rw [bindings_of_assign h, names_put]

end Environment

namespace Trace

variable {env mid env' : Environment} {es es' : List Event}

theorem append (h : Trace env es mid) (h' : Trace mid es' env') : Trace env (es ++ es') env' := by
  induction h with
  | nil => exact h'
  | called name values _ ih => exact .called name values (ih h')
  | assigned ha _ ih =>
    rw [List.append_assoc]
    exact .assigned ha (ih h')

theorem filter_isStep (h : Trace env es env') : es.filter Event.isStep = es := by
  rw [List.filter_eq_self]
  induction h with
  | nil => exact nofun
  | called _ _ _ ih => exact List.forall_mem_cons.2 ⟨rfl, ih⟩
  | @assigned env _ _ _ name _ _ _ ih =>
    refine List.forall_mem_append.2 ⟨fun e he => ?_, List.forall_mem_cons.2 ⟨rfl, ih⟩⟩
    obtain ⟨kind, -, rfl⟩ := List.mem_map.1 he
    rfl

theorem lookup_of_not_mem (h : Trace env es env') {x : String} (hx : x ∉ assignedNames es) :
    env'.lookup x = env.lookup x := by
  induction h with
  | nil => rfl
  | called _ _ _ ih => exact ih hx
  | assigned ha _ ih =>
    rw [assignedNames_assigned, List.mem_cons, not_or] at hx
    rw [ih hx.2, Environment.lookup_of_assign ha, if_neg hx.1]

theorem lookup_cases (h : Trace env es env') (x : String) :
    env'.lookup x = env.lookup x ∨ ∃ v, env'.lookup x = some (.var x v) := by
  induction h with
  | nil => exact .inl rfl
  | called _ _ _ ih => exact ih
  | @assigned env _ _ _ name value ha _ ih =>
    rcases ih with h | h
    · rw [h, Environment.lookup_of_assign ha]
      by_cases hx : x = name
      · exact .inr ⟨value, by rw [if_pos hx, hx]⟩
      · exact .inl (if_neg hx)
    · exact .inr h

/-- New names come after the old ones, in the order in which they are first assigned to. -/
theorem names_eq (h : Trace env es env') :
    env'.names = env.names ++ ((assignedNames es).filter (· ∉ env.names)).eraseDups := by
  induction h with
  | nil => simp [assignedNames]
  | called _ _ _ ih => exact ih
  | @assigned env _ _ _ name value ha _ ih =>
    have hnames := Environment.names_of_assign ha
    rw [ih, hnames, assignedNames_assigned]
    by_cases hname : name ∈ env.names
    · rw [if_pos hname, List.append_nil, List.filter_cons_of_neg (by simp [hname])]
    · have hfilter (xs : List String) : xs.filter (· ∉ env.names ++ [name]) =
          (xs.filter (· ∉ env.names)).filter (!· == name) := by
        rw [List.filter_filter]
        refine List.filter_congr fun x _ => ?_
        by_cases hx : x = name <;> simp [hx]
      rw [if_neg hname, hfilter, List.filter_cons_of_pos (by simp [hname]), List.eraseDups_cons,
        List.append_assoc, List.singleton_append]

end Trace

/-- The session goes on from an earlier one by a trace, with assignments to names in `T` only. -/
def Session.Follows (T : String → Prop) (s t : Session) : Prop :=
  ∃ es, t.events = s.events ++ es ∧ Trace s.env es t.env ∧ ∀ x ∈ assignedNames es, T x

namespace Session

variable {T : String → Prop} {s t u : Session}

theorem events_note (s : Session) (e : Event) : (s.note e).events = s.events ++ [e] :=
  List.reverse_cons

theorem Follows.refl (s : Session) : Follows T s s :=
  ⟨[], (List.append_nil _).symm, .nil _, nofun⟩

theorem Follows.trans (h : Follows T s t) (h' : Follows T t u) : Follows T s u := by
  obtain ⟨es, he, htrace, hT⟩ := h
  obtain ⟨es', he', htrace', hT'⟩ := h'
  refine ⟨es ++ es', by rw [he', he, List.append_assoc], htrace.append htrace', ?_⟩
  rw [assignedNames_append]
  exact List.forall_mem_append.2 ⟨hT, hT'⟩

theorem follows_called (s : Session) (name : String) (values : List Number) :
    Follows T s (s.note (.called name values)) :=
  ⟨[.called name values], events_note _ _, .called _ _ (.nil _), nofun⟩

theorem events_assign {name : String} {value : Number} (h : s.assign name value = .ok t) :
    t.events = s.events ++ (s.env.hiding name ++ [.assigned name value]) := by
  unfold assign at h
  split at h
  · cases h
  · cases h
    rw [events_note, ← List.append_assoc]
    congr 1
    unfold events noteHidden Environment.hiding
    cases s.env.hiddenKind? name with
    | none => exact (List.append_nil _).symm
    | some kind => exact List.reverse_cons

theorem follows_assign {name : String} {value : Number} (hname : T name)
    (h : s.assign name value = .ok t) : Follows T s t := by
  refine ⟨_, events_assign h, .assigned (Interpreter.env_of_assign h) (.nil _), ?_⟩
  rw [assignedNames_assigned]
  exact List.forall_mem_singleton.2 hname

end Session

/-! ## Visits -/

/-- The name is assigned to in the tree. -/
def Node.Targets (n : Node) (x : String) : Prop :=
  ∃ m name : Node, m.Within n ∧ m.rule = "assign_exp_assign" ∧ m.children.head? = some name ∧
    name.source = x

theorem Node.Targets.of_child {n c : Node} {x : String} (hc : c ∈ n.children) (h : c.Targets x) :
    n.Targets x := by
  obtain ⟨m, name, hm, hrest⟩ := h
  exact ⟨m, name, .child hc hm, hrest⟩

namespace Interpreter

variable {P : Session → Prop} {T : String → Prop} {d : Int} {α : Type}

/-- What holds of the session is kept by noting a call, and by assigning to a name in `T`. -/
structure Allows (P : Session → Prop) (T : String → Prop) : Prop where
  called {s : Session} (name : String) (values : List Number) (hs : P s) :
    P (s.note (.called name values))
  assigned {s t : Session} {name : String} {value : Number} (hname : T name)
    (ha : s.assign name value = .ok t) (hs : P s) : P t

theorem keeps_pure (a : α) : Keeps P (pure a) := fun _ _ hs => hs

theorem keeps_fail (e : Fault) : Keeps P (Visit.fail e : Visit Session α) := fun _ _ hs => hs

theorem keeps_orFail (e : Fault) (a : Option Number) : Keeps P (orFail e a) := by
  cases a with
  | none => exact keeps_fail e
  | some a => exact keeps_pure (some a)

theorem keeps_step {p : Step α} (h : ∀ s, P s → P (p.outcome s).2) : Keeps P p.visit := by
  intro k s hs
  rw [p.run_visit]
  exact h s hs

theorem Allows.store (hP : Allows P T) {name : String} (hname : T name) (value : Number) :
    Keeps P (Step.store name value).visit := by
  refine keeps_step fun s hs => ?_
  unfold Step.outcome
  simp only
  split
  · rename_i t ht
    exact hP.assigned hname ht hs
  · exact hs

theorem keeps_construct {n : Node} {ns : List Node} {c : Construct}
    (hc : construct? n.rule = some c) (hn : n.children = ns)
    (h : Keeps P (action c n (ns.map (operation d).branch))) :
    Keeps P ((operation d).branch n).visit := by
  obtain ⟨a, ha, hbody⟩ := dispatch_of_construct hc
  have hiter : n.isIteration = false := beq_false_of_ne (rule_ne_of_construct hc).2
  rw [Operation.branch_visit, Operation.branches_eq_map, hn]
  refine Keeps.visitNode ?_
  rw [Operation.visitBody_of_dispatch hiter ha, hbody]
  exact h

theorem keeps_arguments (rule : String) : ∀ {bs : List (Branch Session (Option Number))},
    (∀ b ∈ bs, Keeps P b.visit) → Keeps P (arguments rule bs)
  | [], _ => keeps_pure []
  | b :: bs, h => by
    obtain ⟨hb, hbs⟩ := List.forall_mem_cons.1 h
    refine hb.bind fun r => ?_
    cases r with
    | none => exact keeps_fail _
    | some a => exact (keeps_arguments rule hbs).bind fun _ => keeps_pure _

theorem keeps_inOrder : ∀ {bs : List (Branch Session (Option Number))},
    (∀ b ∈ bs, Keeps P b.visit) → ∀ last, Keeps P (inOrder last bs)
  | [], _, last => keeps_pure last
  | b :: bs, h, _ => by
    obtain ⟨hb, hbs⟩ := List.forall_mem_cons.1 h
    exact hb.bind fun r => keeps_inOrder hbs r

theorem rule_of_assign {rule : String} (h : construct? rule = some .assign) :
    rule = "assign_exp_assign" := by
  unfold construct? at h
  split at h <;> cases h
  rfl

theorem keeps_assign (hP : Allows P T) {n : Node} {x p b : Branch Session (Option Number)}
    (hx : T x.node.source) (hb : Keeps P b.visit) : Keeps P (assign n [x, p, b]) := by
  rw [assign_eq]
  refine hb.bind fun r => ?_
  cases r with
  | none => exact keeps_fail _
  | some a => exact (hP.store hx a).bind fun _ => keeps_pure _

theorem keeps_call (hP : Allows P T) {n : Node} {f p list q : Branch Session (Option Number)}
    (h : ∀ b ∈ list.children, Keeps P b.visit) : Keeps P (call n [f, p, list, q]) := by
  rw [call_eq]
  refine (keeps_step fun s hs => hs).bind fun g => (keeps_arguments n.rule h).bind fun values => ?_
  exact (keeps_step fun s hs => hP.called _ values hs).bind fun _ => keeps_orFail _ _

/-- The visit of an expression keeps what assignments to its targets keep. -/
theorem keeps_of_formed (hP : Allows P T) {n : Node} (h : Formed n) (hT : ∀ x, n.Targets x → T x) :
    Keeps P ((operation d).branch n).visit := by
  induction h with
  | @delegate n m hc hn hm ih =>
    have hm : m ∈ n.children := by simp [hn]
    exact keeps_construct hc hn (ih fun x hx => hT x (hx.of_child hm))
  | @paren n p m q hc hn _ _ hm ih =>
    have hm : m ∈ n.children := by simp [hn]
    exact keeps_construct hc hn (ih fun x hx => hT x (hx.of_child hm))
  | @sign n p m negative hc hn _ hm ih =>
    have hm : m ∈ n.children := by simp [hn]
    refine keeps_construct hc hn ((ih fun x hx => hT x (hx.of_child hm)).bind fun r => ?_)
    cases r with
    | none => exact keeps_fail _
    | some a => exact keeps_pure _
  | @binary n l p r op hc hn _ hl hr ihl ihr =>
    have hl : l ∈ n.children := by simp [hn]
    have hr : r ∈ n.children := by simp [hn]
    refine keeps_construct hc hn ((ihl fun x hx => hT x (hx.of_child hl)).bind fun a =>
      (ihr fun x hx => hT x (hx.of_child hr)).bind fun b => ?_)
    rcases a with _ | a <;> rcases b with _ | b
    all_goals first | exact keeps_orFail _ _ | exact keeps_fail _
  | @assign n x p m hc hn _ _ hm ih =>
    have hm : m ∈ n.children := by simp [hn]
    have hx : T x.source := hT _ ⟨n, x, .self n, rule_of_assign hc, by simp [hn], rfl⟩
    refine keeps_construct hc hn (keeps_assign (p := (operation d).branch p) hP ?_
      (ih fun x hx => hT x (hx.of_child hm)))
    rwa [Operation.branch_node]
  | @call n f p list q hc hn _ _ _ hl _ ih =>
    have hlist : list ∈ n.children := by simp [hn]
    refine keeps_construct hc hn
      (keeps_call (p := (operation d).branch p) (q := (operation d).branch q) hP ?_)
    rw [Operation.branch_children, Operation.branches_eq_map]
    exact List.forall_mem_map.2 fun m hm =>
      ih m hm fun x hx => hT x ((hx.of_child hm).of_child hlist)
  | @name n hc hn =>
    refine keeps_construct hc hn ?_
    change Keeps P (identifier n [])
    rw [identifier_eq]
    exact (keeps_step fun s hs => hs).bind fun _ => keeps_pure _
  | @number n hc hn =>
    refine keeps_construct hc hn ?_
    change Keeps P (numeral n [])
    unfold numeral
    simp only
    cases Decimal.unsigned? n.source.toList with
    | none => exact keeps_fail _
    | some a => exact keeps_pure _

/-- The visit of a matched text keeps what assignments to its targets keep. -/
theorem keeps_of_parse (hP : Allows P T) {start text : String} {n : Node}
    (h : parse start text = .ok n) (hT : ∀ x, n.Targets x → T x) :
    Keeps P ((operation d).branch n).visit := by
  obtain ⟨rule, hs, hn⟩ := exists_start_of_parse_ok h
  obtain ⟨ts, -, hsp⟩ := accepts_of_parse_ok hs hn
  obtain hform | ⟨hrule, list, hch, -, hes⟩ := formed_or_program hs hsp
  · exact keeps_of_formed hP hform hT
  · obtain ⟨hdisp, hiter, -⟩ := program_node hrule hch
    have hlist : list ∈ n.children := by simp [hch]
    rw [Operation.branch_visit, Operation.branches_eq_map, hch]
    refine Keeps.visitNode ?_
    rw [Operation.visitBody_of_dispatch hiter hdisp]
    change Keeps P (inOrder none ((operation d).branch list).children)
    rw [Operation.branch_children, Operation.branches_eq_map]
    exact keeps_inOrder (List.forall_mem_map.2 fun m hm =>
      keeps_of_formed hP (hes m hm) fun x hx => hT x ((hx.of_child hm).of_child hlist)) none

theorem allows_follows (T : String → Prop) (s : Session) : Allows (Session.Follows T s) T where
  called name values hs := hs.trans (Session.follows_called _ name values)
  assigned hname ha hs := hs.trans (Session.follows_assign hname ha)

end Interpreter

/-! ## Runs -/

theorem events_of_unmatched {start text : String} {e : MatchError}
    (h : parse start text = .error e) (s : Session) :
    ∃ events, (s.parse start text).2.events = s.events ++ events ∧
      events.filter Event.isStep = [] := by
  unfold Session.parse
  rw [h]
  cases e with
  | refused e => exact ⟨[], (List.append_nil _).symm, rfl⟩
  | failed f => exact ⟨[.matchFailed f], Session.events_note _ _, rfl⟩

namespace Interpreter

/-- The steps noted while a text is processed are a trace, and assign to the targets of its tree. -/
theorem exists_trace (i : Interpreter) (start text : String) (report : Option Float → Event)
    (hreport : ∀ v, (report v).isStep = false) (s : Session) :
    ∃ events, (i.process start text report s).2.2.events = s.events ++ events ∧
      Trace s.env (events.filter Event.isStep) (i.process start text report s).2.2.env ∧
      ∀ x ∈ assignedNames events, ∃ n, parse start text = .ok n ∧ n.Targets x := by
  rcases hparse : parse start text with e | n
  · obtain ⟨events, hevents, hnone⟩ := events_of_unmatched hparse s
    rw [process_of_error hparse]
    refine ⟨events, hevents, ?_, ?_⟩
    · rw [hnone, env_parse]
      exact .nil _
    · rw [← assignedNames_filter_isStep, hnone]
      exact nofun
  · have hkeeps : Session.Follows n.Targets (s.note (.matched start text n))
        (i.interpret n (s.note (.matched start text n))).2.2 :=
      keeps_of_parse (allows_follows _ _) hparse (fun _ hx => hx) i.depth _ (.refl _)
    obtain ⟨es, hevents, htrace, htargets⟩ := hkeeps
    rw [Session.events_note, List.append_assoc] at hevents
    obtain ⟨more, hmore, hprocess, henv⟩ : ∃ more, more.filter Event.isStep = [] ∧
        (i.process start text report s).2.2.events =
          (i.interpret n (s.note (.matched start text n))).2.2.events ++ more ∧
        (i.process start text report s).2.2.env =
          (i.interpret n (s.note (.matched start text n))).2.2.env := by
      unfold process
      rw [parse_of_ok hparse]
      simp only
      rcases i.interpret n (s.note (.matched start text n)) with ⟨e | v, j, t⟩
      · exact ⟨[], rfl, (List.append_nil _).symm, rfl⟩
      · refine ⟨[report (double v)], ?_, Session.events_note _ _, rfl⟩
        rw [List.filter_cons_of_neg (by simp [hreport]), List.filter_nil]
    have hsteps : ([Event.matched start text n] ++ es ++ more).filter Event.isStep = es := by
      rw [List.filter_append, List.filter_append, hmore, htrace.filter_isStep, List.append_nil]
      rfl
    refine ⟨[.matched start text n] ++ es ++ more, ?_, ?_, fun x hx => ⟨n, rfl, htargets x ?_⟩⟩
    · rw [hprocess, hevents, List.append_assoc, List.append_assoc]
    · rw [hsteps, henv]
      exact htrace
    · rwa [← hsteps, assignedNames_filter_isStep]

end Interpreter

/-- Whatever comes of a run, no name is removed and new names come last, in the order in which they
are first assigned to; names that are no targets of an assignment in the text stay bound as they
were, and others become variables. A text that does not match changes nothing. -/
theorem run_frame (p : Pool) (text : String) (maxDepth : Int) (s : Session) :
    ∃ events, (p.run text maxDepth s).2.2.events = s.events ++ events ∧
      Trace s.env (events.filter Event.isStep) (p.run text maxDepth s).2.2.env ∧
      (p.run text maxDepth s).2.2.env.names = s.env.names ++
        ((assignedNames events).filter (· ∉ s.env.names)).eraseDups ∧
      (∀ x, (∀ n, parse "program" text = .ok n → ¬ n.Targets x) →
        (p.run text maxDepth s).2.2.env.lookup x = s.env.lookup x) ∧
      (∀ x, (p.run text maxDepth s).2.2.env.lookup x = s.env.lookup x ∨
        ∃ v, (p.run text maxDepth s).2.2.env.lookup x = some (.var x v)) ∧
      ∀ e, (p.run text maxDepth s).1 = .error (.unmatched e) →
        (p.run text maxDepth s).2.2.env = s.env := by
  obtain ⟨events, hevents, htrace, htargets⟩ := (p.interpreter maxDepth).exists_trace "program" text
    (.ran text) (fun _ => rfl) s
  rcases hprocess : (p.interpreter maxDepth).process "program" text (.ran text) s with ⟨r, i, t⟩
  have hrun : p.run text maxDepth s = (r, p.store maxDepth i, t) := Pool.process_eq rfl hprocess
  rw [hprocess] at hevents htrace
  rw [hrun]
  refine ⟨events, hevents, htrace, ?_, fun x hx => htrace.lookup_of_not_mem ?_,
    htrace.lookup_cases, ?_⟩
  · rw [← assignedNames_filter_isStep]
    exact htrace.names_eq
  · rw [assignedNames_filter_isStep]
    intro hmem
    obtain ⟨n, hn, htarget⟩ := htargets x hmem
    exact hx n hn htarget
  · rintro e rfl
    rcases hparse : parse "program" text with f | n
    · rw [Interpreter.process_of_error hparse] at hprocess
      have henv := Interpreter.env_parse s "program" text
      rw [(Prod.mk.inj (Prod.mk.inj hprocess).2).2] at henv
      exact henv
    · rcases hrun : (p.interpreter maxDepth).interpret n (s.note (.matched "program" text n)) with
        ⟨r, j, u⟩
      obtain ⟨v, hok, -⟩ := Interpreter.process_of_interpret hparse (.ran text) hrun
      rw [hok] at hprocess
      cases r <;> cases (Prod.mk.inj hprocess).1

end Reckon
