import Reckon.Proofs.Arithmetic.Sentence
import Reckon.Proofs.Match.Places

/-!
# Callees

Whether a name is that of a function can be seen without parsing: in a text of arithmetic a name
stands before an opening parenthesis if and only if it is the callee of a call (`calls_iff`). A call
begins with the two, and each node has its tokens side by side (`Spells.exists_stretch`). Conversely
all other rules have an opening parenthesis at their beginning only or after a literal (`isShut`), so
what comes before it in the text is no name (`calledIn_of_pair`).
-/

namespace Reckon

/-- The node of a token tells all of it but its terminal. -/
theorem Node.ofToken_inj {a b : Token} (ht : a.terminal = b.terminal)
    (h : Node.ofToken a = .ofToken b) : a = b := by
  obtain ⟨t, text, start, stop⟩ := a
  obtain ⟨t', text', start', stop'⟩ := b
  obtain rfl : t = t' := ht
  simpa [ofToken] using h

/-- The token is the callee of a call in the tree. -/
def Node.Calls (n : Node) (a : Token) : Prop :=
  ∃ m : Node, m.Within n ∧ m.rule = "pri_exp_call" ∧ m.children.head? = some (.ofToken a)

theorem Node.Calls.of_child {n c : Node} {a : Token} (hc : c ∈ n.children) (h : c.Calls a) :
    n.Calls a := by
  obtain ⟨m, hm, hcall⟩ := h
  exact ⟨m, .child hc hm, hcall⟩

/-- A callee stands in no literal between the items of a list. -/
theorem Node.Calls.isTerminal_of_strung {n : Node} {a : Token} (h : n.Calls a) {separator : String}
    {ns : List Node} (hs : Strung separator ns) (hn : n ∈ ns) : n.isTerminal = false := by
  refine (hs.item_or_between hn).resolve_right ?_
  rintro ⟨-, hnil, -⟩
  obtain ⟨m, hm, -, hfirst⟩ := h
  rw [hm.eq_of_nil hnil, hnil] at hfirst
  cases hfirst

/-! ## Neighbours -/

section Neighbours

variable {α : Type} {a b : α} {us vs : List α}

theorem pair_infix_cons_iff {c : α} :
    [a, b] <:+: c :: vs ↔ [a, b] <:+: vs ∨ c = a ∧ vs.head? = some b := by
  rw [List.infix_cons_iff, List.cons_prefix_cons, or_comm, eq_comm (a := a)]
  cases vs with
  | nil => simp
  | cons d vs => simp [List.cons_prefix_cons, eq_comm (a := b)]

/-- Neighbours in a row of two parts stand in one of them, or on the two sides of the border. -/
theorem pair_infix_append_iff : [a, b] <:+: us ++ vs ↔
    [a, b] <:+: us ∨ [a, b] <:+: vs ∨ us.getLast? = some a ∧ vs.head? = some b := by
  induction us with
  | nil => simp
  | cons c us ih =>
    rw [List.cons_append, pair_infix_cons_iff, ih, pair_infix_cons_iff]
    cases us with
    | nil => simp
    | cons d us => simp [List.getLast?_cons_cons, or_assoc, or_comm, or_left_comm]

theorem head?_of_pair_infix (h : [a, b] <:+: us ++ a :: vs) (hnodup : (us ++ a :: vs).Nodup) :
    vs.head? = some b := by
  obtain ⟨hus, hvs⟩ : a ∉ us ∧ a ∉ vs := by
    obtain ⟨-, havs, hdisjoint⟩ := List.nodup_append.1 hnodup
    exact ⟨fun ha => hdisjoint a ha a List.mem_cons_self rfl, (List.nodup_cons.1 havs).1⟩
  obtain ⟨xs, ys, h⟩ := h
  rw [List.append_assoc, List.cons_append, List.singleton_append] at h
  obtain ⟨-, -, rfl⟩ := (List.append_cons_inj_of_notMem hus hvs).1 h.symm
  rfl

end Neighbours

namespace Grammar

variable {g : Grammar}

theorem Spells.exists_of_lit {text : String} {is : List Item} {ns : List Node} {ts : List Token}
    (h : g.Spells (.lit text :: is) ns ts) : ∃ a us, ts = a :: us ∧ a.terminal = .literal text := by
  cases h with
  | lit ha _ _ => exact ⟨_, _, rfl, ha⟩

theorem Spells.exists_of_lexical {name : String} (hname : name ∈ g.lexicalNames) {is : List Item}
    {ns : List Node} {ts : List Token} (h : g.Spells (.ref name :: is) ns ts) :
    ∃ a ms us, ns = .ofToken a :: ms ∧ ts = a :: us ∧ a.terminal = .lexical name ∧
      g.Spells is ms us := by
  cases h with
  | lexical _ ha h => exact ⟨_, _, _, rfl, rfl, ha, h⟩
  | rule _ hs _ _ _ _ => exact absurd hname (not_mem_lexicalNames_of_syntactic hs)

/-- The node is the tree of an item, over some of the tokens side by side. -/
def SpellsStretch (g : Grammar) (m : Node) (ts : List Token) : Prop :=
  ∃ i us, us <:+: ts ∧ g.Spells [i] [m] us

theorem SpellsStretch.mono {m : Node} {us ts : List Token} (h : g.SpellsStretch m us)
    (hus : us <:+: ts) : g.SpellsStretch m ts := by
  obtain ⟨i, ws, hws, hm⟩ := h
  exact ⟨i, ws, hws.trans hus, hm⟩

/-- Each node of a tree has some of the tokens, side by side. -/
theorem Spells.exists_stretch {is : List Item} {ns : List Node} {ts : List Token}
    (h : g.Spells is ns ts) : ∀ n ∈ ns, ∀ m : Node, m.Within n → g.SpellsStretch m ts := by
  induction h with
  | nil => exact nofun
  | @lit _ a _ _ ts ha ht _ ih =>
    refine List.forall_mem_cons.2 ⟨fun m hm => ?_, fun n hn m hm =>
      (ih n hn m hm).mono (List.suffix_cons a ts).isInfix⟩
    obtain rfl := hm.eq_of_nil rfl
    exact ⟨_, _, (List.prefix_append [a] ts).isInfix, .lit ha ht .nil⟩
  | @lexical _ a _ _ ts hname ha _ ih =>
    refine List.forall_mem_cons.2 ⟨fun m hm => ?_, fun n hn m hm =>
      (ih n hn m hm).mono (List.suffix_cons a ts).isInfix⟩
    obtain rfl := hm.eq_of_nil rfl
    exact ⟨_, _, (List.prefix_append [a] ts).isInfix, .lexical hname ha .nil⟩
  | @rule _ _ _ _ _ us ts hr hs ha hn hb _ ihb ih =>
    have hleft := (List.prefix_append us ts).isInfix
    refine List.forall_mem_cons.2 ⟨fun m hm => ?_, fun n hn m hm =>
      (ih n hn m hm).mono (List.suffix_append us ts).isInfix⟩
    obtain rfl | ⟨c, hc, hm⟩ := Node.within_iff.1 hm
    · have hnode := Spells.rule hr hs ha hn hb .nil
      rw [List.append_nil] at hnode
      exact ⟨_, us, hleft, hnode⟩
    · exact (ihb c hc m hm).mono hleft
  | @list _ _ _ _ _ _ _ us ts hn hb hc _ ihb ih =>
    have hleft := (List.prefix_append us ts).isInfix
    refine List.forall_mem_cons.2 ⟨fun m hm => ?_, fun n hn m hm =>
      (ih n hn m hm).mono (List.suffix_append us ts).isInfix⟩
    obtain rfl | ⟨c, hcm, hm⟩ := Node.within_iff.1 hm
    · have hnode := Spells.list hn hb hc .nil
      rw [List.append_nil] at hnode
      exact ⟨_, us, hleft, hnode⟩
    · exact (ihb c (mem_of_mem_everyOther (hc ▸ hcm)) m hm).mono hleft

end Grammar

namespace Arithmetic

open Grammar

/-- The items of a call. -/
def callBody : List Item := [.ref "IDENT", .lit "(", .listOf "exp" ",", .lit ")"]

theorem mem_bodies {r : Rule} (hr : r ∈ grammar.rules) (hs : r.isLexical = false)
    {a : Alternative} (ha : a ∈ r.alternatives) : (r.name, a.body) ∈ bodies :=
  List.mem_flatMap.2 ⟨r, List.mem_filter.2 ⟨hr, by simp [hs]⟩, List.mem_map.2 ⟨a, ha, rfl⟩⟩

/-! ## From calls to parentheses -/

variable {is : List Item} {n : Node} {ns : List Node} {ts us vs : List Token} {a b : Token}

theorem exists_callee {i : Item} (h : grammar.Spells [i] [n] ts) (hn : n.rule = "pri_exp_call") :
    ∃ a b, n.children.head? = some (.ofToken a) ∧ a.terminal = .lexical "IDENT" ∧
      b.terminal = .literal "(" ∧ [a, b] <:+: ts := by
  have hcall : ∀ p ∈ bodies, p.1 = "pri_exp_call" → p.2 = callBody := by decide
  cases h with
  | lit ha _ _ =>
    rw [Node.ofToken, ha] at hn
    exact absurd (show Node.terminalName = "pri_exp_call" from hn) (by decide)
  | lexical hname ha _ =>
    rw [Node.ofToken, ha] at hn
    obtain rfl : _ = "pri_exp_call" := hn
    exact absurd hname (by rw [lexicalNames_eq]; decide)
  | list hlist _ _ _ =>
    rw [hlist] at hn
    exact absurd hn (by decide)
  | rule hr hs ha hname hu hnil =>
    have hbody := hcall _ (mem_bodies hr hs ha) (hname.symm.trans hn)
    simp only at hbody
    rw [hbody] at hu
    obtain ⟨a, ms, us, hms, rfl, ha, hu⟩ := hu.exists_of_lexical ident_mem
    obtain ⟨b, vs, rfl, hb⟩ := hu.exists_of_lit
    rw [hms]
    exact ⟨a, b, rfl, ha, hb, (List.prefix_append [a, b] _).isInfix⟩

/-! ## From parentheses to calls -/

/-- Nothing comes first, or a literal that is no opening parenthesis. -/
def startsShut : List Item → Bool
  | [] => true
  | .lit text :: _ => text != "("
  | _ => false

/-- No item but a literal comes before an opening parenthesis, in the row or between the items of a
list. -/
def isShut : List Item → Bool
  | [] => true
  | .lit _ :: is => isShut is
  | .listOf item separator :: is =>
    item != Node.terminalName && separator != "(" && startsShut is && isShut is
  | _ :: is => startsShut is && isShut is

theorem isShut_body : ∀ p ∈ bodies, isShut p.2 = true ∨ p = ("pri_exp_call", callBody) := by
  decide

/-- The row is that of a call, or no item but a literal comes before an opening parenthesis in it. -/
def Opening (is : List Item) : Prop := isShut is = true ∨ is = callBody

theorem Opening.tail {i : Item} (h : Opening (i :: is)) : isShut is = true := by
  rcases h with h | h
  · cases i <;> simp_all [isShut]
  · obtain ⟨-, rfl⟩ := List.cons.inj h
    rfl

/-- The token is a callee in one of the trees of the row, or of the row itself. -/
def CalledIn (is : List Item) (ns : List Node) (a : Token) : Prop :=
  (∃ n ∈ ns, n.Calls a) ∨ is = callBody ∧ ns.head? = some (.ofToken a)

theorem CalledIn.exists_calls (h : CalledIn is ns a) (his : isShut is = true) :
    ∃ n ∈ ns, n.Calls a := by
  rcases h with h | ⟨rfl, -⟩
  · exact h
  · cases his

theorem CalledIn.cons {i : Item} (h : CalledIn is ns a) (his : Opening (i :: is)) :
    CalledIn (i :: is) (n :: ns) a := by
  obtain ⟨m, hm, hcall⟩ := h.exists_calls his.tail
  exact .inl ⟨m, List.mem_cons_of_mem _ hm, hcall⟩

theorem startsShut_of_border {i : Item} (h : isShut (i :: is) = true) (hi : ∀ text, i ≠ .lit text) :
    startsShut is = true := by
  cases i with
  | lit text => exact absurd rfl (hi text)
  | ref | pattern | listOf => simp_all [isShut]

theorem terminal_ne_of_startsShut (h : grammar.Spells is ns ts) (his : startsShut is = true) :
    ∀ b ∈ ts.head?, b.terminal ≠ .literal "(" := by
  rintro b hb hopens
  cases is with
  | nil =>
    cases h
    cases hb
  | cons i is =>
    cases i with
    | ref | pattern | listOf => cases his
    | lit text =>
      obtain ⟨c, us, rfl, hc⟩ := h.exists_of_lit
      obtain rfl := Option.some.inj hb
      rw [hc] at hopens
      obtain rfl := Terminal.literal.inj hopens
      cases his

theorem isShut_repeated {item separator : String} (hi : item ≠ Node.terminalName)
    (hs : separator ≠ "(") : ∀ k, isShut (Item.repeated item separator k) = true
  | 0 => rfl
  | 1 => rfl
  | k + 2 => by
    have ih := isShut_repeated hi hs (k + 1)
    simp [Item.repeated, isShut, startsShut, hs, ih]

/-- A name before an opening parenthesis is a callee. -/
theorem calledIn_of_pair (h : grammar.Spells is ns ts) (ha : a.terminal = .lexical "IDENT")
    (hb : b.terminal = .literal "(") : Opening is → [a, b] <:+: ts → CalledIn is ns a := by
  -- the two stand in the tokens of the first node, in the others, or on the two sides of the border,
  -- where only the row of a call lets them
  induction h with
  | nil => exact fun _ hab => absurd hab (by simp)
  | @lit _ c _ _ ts hc _ _ ih =>
    intro hrow hab
    rcases pair_infix_cons_iff.1 hab with hab | ⟨rfl, -⟩
    · exact (ih (.inl hrow.tail) hab).cons hrow
    · rw [ha] at hc
      cases hc
  | @lexical _ c _ _ ts _ _ h ih =>
    intro hrow hab
    rcases pair_infix_cons_iff.1 hab with hab | ⟨rfl, hhead⟩
    · exact (ih (.inl hrow.tail) hab).cons hrow
    · rcases hrow with hrow | hrow
      · have hstarts := startsShut_of_border hrow nofun
        exact absurd hb (terminal_ne_of_startsShut h hstarts b hhead)
      · exact .inr ⟨hrow, rfl⟩
  | @rule r alt n _ _ us ts hr hs halt hn _ h ihu ih =>
    intro hrow hab
    rcases pair_infix_append_iff.1 hab with hab | hab | ⟨-, hhead⟩
    · refine .inl ⟨n, List.mem_cons_self, ?_⟩
      rcases isShut_body _ (mem_bodies hr hs halt) with hshut | hcall
      · obtain ⟨c, hc, hcall⟩ := (ihu (.inl hshut) hab).exists_calls hshut
        exact hcall.of_child hc
      · obtain ⟨hname, hbody⟩ := Prod.mk.inj hcall
        rcases ihu (.inr hbody) hab with ⟨c, hc, hcall⟩ | ⟨-, hfirst⟩
        · exact hcall.of_child hc
        · exact ⟨n, .self n, hn.trans hname, hfirst⟩
    · exact (ih (.inl hrow.tail) hab).cons hrow
    · rcases hrow with hrow | hrow
      · have hstarts := startsShut_of_border hrow nofun
        exact absurd hb (terminal_ne_of_startsShut h hstarts b hhead)
      · have hname : r.name = "IDENT" := Item.ref.inj (List.cons.inj hrow).1
        exact absurd (hname ▸ ident_mem) (not_mem_lexicalNames_of_syntactic hs)
  | @list item separator k n ms _ _ us ts hn hu hc h ihu ih =>
    intro hrow hab
    obtain hshut : isShut _ = true := hrow.resolve_right nofun
    rcases pair_infix_append_iff.1 hab with hab | hab | ⟨-, hhead⟩
    · obtain ⟨⟨⟨hi, hs⟩, -⟩, -⟩ : ((item ≠ Node.terminalName ∧ separator ≠ "(") ∧ _) ∧ _ := by
        simpa [isShut] using hshut
      have hitems := isShut_repeated hi hs k
      obtain ⟨m, hm, hcall⟩ := (ihu (.inl hitems) hab).exists_calls hitems
      exact .inl ⟨n, List.mem_cons_self, hcall.of_child (by
        rw [hc, ← hu.filter_repeated hi]
        exact List.mem_filter.2 ⟨hm, by simp [hcall.isTerminal_of_strung (hu.strung hi) hm]⟩)⟩
    · exact (ih (.inl hrow.tail) hab).cons hrow
    · have hstarts := startsShut_of_border hshut nofun
      exact absurd hb (terminal_ne_of_startsShut h hstarts b hhead)

/-- In the text of a tree a name stands before an opening parenthesis if and only if it is the callee
of a call. -/
theorem calls_iff {start : String} (h : grammar.Spells [.ref start] [n] (us ++ a :: vs))
    (hnodup : (us ++ a :: vs).Nodup) (ha : a.terminal = .lexical "IDENT") :
    n.Calls a ↔ ∃ b ∈ vs.head?, b.terminal = .literal "(" := by
  constructor
  · rintro ⟨m, hm, hcall, hfirst⟩
    obtain ⟨i, ws, hws, hm⟩ := h.exists_stretch n List.mem_cons_self m hm
    obtain ⟨c, b, hfirst', hc, hb, hcb⟩ := exists_callee hm hcall
    obtain rfl : c = a :=
      Node.ofToken_inj (hc.trans ha.symm) (Option.some.inj (hfirst'.symm.trans hfirst))
    exact ⟨b, head?_of_pair_infix (hcb.trans hws) hnodup, hb⟩
  · rintro ⟨b, hb, hopens⟩
    obtain ⟨vs, rfl⟩ := List.head?_eq_some_iff.1 hb
    have hab : [a, b] <:+: us ++ a :: b :: vs := ⟨us, vs, by simp⟩
    obtain ⟨m, hm, hcall⟩ := (calledIn_of_pair h ha hopens (.inl rfl) hab).exists_calls rfl
    rwa [List.mem_singleton.1 hm] at hcall

end Arithmetic

end Reckon
