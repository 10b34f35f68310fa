import Mathlib.Data.List.Forall2
import Mathlib.Data.List.TakeWhile
import Reckon.Proofs.Match.SyntaxTree
import Reckon.Proofs.Text.Quoted

/-!
# The outline of a tree

The stack lists a tree in pre-order, each node at its level (`toList_outline`). The levels alone
tell where the subtree of a node ends, since nothing that comes after it is deeper than the node
(`alike_of_preorder`). A line in turn tells the level, the rule name and the text of a leaf when
names are words: the blanks before the name, the name, and what follows a tab are three runs that
cannot run into each other (`shown_of_line`). So the text of a tree is shared only by trees that are
alike.
-/

namespace Reckon

/-! ## Rows and runs -/

/-- A text that starts with a run of characters of one kind tells where the run ends. -/
theorem append_inj_of_run {p : Char → Bool} {u v r s : List Char} (hu : ∀ c ∈ u, p c = true)
    (hv : ∀ c ∈ v, p c = true) (hr : ∀ c ∈ r.head?, p c = false) (hs : ∀ c ∈ s.head?, p c = false)
    (h : u ++ r = v ++ s) : u = v ∧ r = s := by
  have hrun : ∀ {r : List Char}, (∀ c ∈ r.head?, p c = false) → r.takeWhile p = [] := by
    intro r hr
    cases r with
    | nil => rfl
    | cons c r => exact List.takeWhile_cons_of_neg (by simp [hr c rfl])
  have htake := congrArg (List.takeWhile p) h
  rw [List.takeWhile_append_of_pos hu, List.takeWhile_append_of_pos hv, hrun hr, hrun hs,
    List.append_nil, List.append_nil] at htake
  exact ⟨htake, List.append_cancel_left (htake ▸ h)⟩

/-- Lines that hold no line feed are told by the text that they make. -/
theorem lines_inj {xs ys : List String} (hx : ∀ x ∈ xs, '\n' ∉ x.toList)
    (hy : ∀ y ∈ ys, '\n' ∉ y.toList) (hxs : xs ≠ []) (hys : ys ≠ [])
    (h : "\n".intercalate xs = "\n".intercalate ys) : xs = ys := by
  have hsplit : ∀ {zs : List String}, (∀ z ∈ zs, '\n' ∉ z.toList) → zs ≠ [] →
      ("\n".intercalate zs).toList.splitOn '\n' = zs.map String.toList := by
    intro zs hz hzs
    rw [String.toList_intercalate]
    exact List.splitOn_intercalate '\n' (List.forall_mem_map.2 hz) (by simpa using hzs)
  have hlines := hsplit hx hxs
  rw [h, hsplit hy hys] at hlines
  exact (List.map_injective_iff.2 (fun _ _ => String.toList_injective) hlines).symm

/-- Rows that one function maps to the same row are mapped so by another that tells no more. -/
theorem map_eq_of_map {α β γ : Type} {f : α → β} {g : α → γ} : ∀ {xs ys : List α},
    (∀ x ∈ xs, ∀ y ∈ ys, f x = f y → g x = g y) → xs.map f = ys.map f → xs.map g = ys.map g
  | [], [], _, _ => rfl
  | x :: xs, y :: ys, hfg, h => by
    obtain ⟨hhead, htail⟩ := List.cons.inj h
    rw [List.map_cons, List.map_cons, hfg x List.mem_cons_self y List.mem_cons_self hhead,
      map_eq_of_map (fun x hx y hy => hfg x (List.mem_cons_of_mem _ hx) y
        (List.mem_cons_of_mem _ hy)) htail]

namespace Node

/-! ## Pre-order -/

mutual

/-- The node at its level, and then, one level deeper, the trees of its children in order. -/
def preorder (level : Nat) : Node → List (Nat × Node)
  | ⟨rule, children, source, start, stop⟩ =>
    (level, ⟨rule, children, source, start, stop⟩) :: preorderEach (level + 1) children

def preorderEach (level : Nat) : List Node → List (Nat × Node)
  | [] => []
  | n :: ns => n.preorder level ++ preorderEach level ns

end

theorem preorder_eq (level : Nat) (n : Node) :
    n.preorder level = (level, n) :: preorderEach (level + 1) n.children := by
  obtain ⟨rule, children, source, start, stop⟩ := n
  rw [preorder]

theorem preorderEach_eq_flatMap (level : Nat) (ns : List Node) :
    preorderEach level ns = ns.flatMap (preorder level) := by
  induction ns with
  | nil => rw [preorderEach, List.flatMap_nil]
  | cons n ns ih => rw [preorderEach, ih, List.flatMap_cons]

mutual

theorem within_of_mem_preorder : ∀ {n : Node} {level : Nat} {e : Nat × Node},
    e ∈ n.preorder level → e.2.Within n
  | ⟨rule, children, source, start, stop⟩, level, e, h => by
    rw [preorder] at h
    rcases List.mem_cons.1 h with rfl | h
    · exact .self _
    · obtain ⟨c, hc, h⟩ := within_of_mem_preorderEach h
      exact .child hc h

theorem within_of_mem_preorderEach : ∀ {ns : List Node} {level : Nat} {e : Nat × Node},
    e ∈ preorderEach level ns → ∃ n ∈ ns, e.2.Within n
  | [], level, e, h => by
    rw [preorderEach] at h
    cases h
  | n :: ns, level, e, h => by
    rw [preorderEach] at h
    rcases List.mem_append.1 h with h | h
    · exact ⟨n, List.mem_cons_self, within_of_mem_preorder h⟩
    · obtain ⟨m, hm, h⟩ := within_of_mem_preorderEach h
      exact ⟨m, List.mem_cons_of_mem _ hm, h⟩

end

/-! ## The stack -/

/-- The stack is worked off from the top: each tree on it is listed before the next. -/
theorem toList_outline (indent : String) (stack : List (Nat × Node)) (lines : Array String) :
    (outline indent stack lines).toList = lines.toList ++
      (stack.flatMap fun e => e.2.preorder e.1).map fun e => line indent e.1 e.2 := by
  fun_induction outline indent stack lines with
  | case1 lines => simp
  | case2 lines level n stack ih =>
    rw [ih, stacked_eq, Array.toList_push, List.flatMap_append, List.flatMap_map, List.flatMap_cons,
      preorder_eq, preorderEach_eq_flatMap]
    simp

theorem pretty_eq (n : Node) (indent : String) :
    n.pretty indent = "\n".intercalate ((n.preorder 0).map fun e => line indent e.1 e.2) := by
  rw [pretty, toList_outline]
  simp

/-! ## Trees from their levels -/

/-- The trees have one shape, the same rule names, and the same texts at their leaves. -/
inductive Alike : Node → Node → Prop
  | intro {a b : Node} (rule : a.rule = b.rule) (source : a.children = [] → a.source = b.source)
      (children : List.Forall₂ Alike a.children b.children) : Alike a b

/-- The text of a node without children. -/
def leafText (n : Node) : Option String := if n.children.isEmpty then some n.source else none

/-- What the line of a node shows. -/
def shown (e : Nat × Node) : Nat × String × Option String := (e.1, e.2.rule, e.2.leafText)

/-- After the trees at a level comes nothing that is deeper. -/
theorem head?_preorderEach {level : Nat} {r : List (Nat × String × Option String)}
    (hr : ∀ e ∈ r.head?, e.1 < level) (ns : List Node) :
    ∀ e ∈ ((preorderEach level ns).map shown ++ r).head?, e.1 ≤ level := by
  cases ns with
  | nil => simpa [preorderEach] using fun a b c h => (hr (a, b, c) h).le
  | cons n ns => simp [preorderEach, preorder_eq, shown]

/-- What has come back from a level does not go on with a tree at it. -/
theorem ne_preorderEach_cons {level : Nat} {r s : List (Nat × String × Option String)}
    (hr : ∀ e ∈ r.head?, e.1 < level) (n : Node) (ns : List Node) :
    r ≠ (preorderEach level (n :: ns)).map shown ++ s := by
  rintro rfl
  have hlt := hr (shown (level, n)) (by simp [preorderEach, preorder_eq])
  exact absurd hlt (Nat.lt_irrefl level)

mutual

/-- The tree at the start of a listing ends where the listing comes back to its level. -/
theorem alike_of_preorder : ∀ {a b : Node} {level : Nat}
    {r s : List (Nat × String × Option String)},
    (∀ e ∈ r.head?, e.1 ≤ level) → (∀ e ∈ s.head?, e.1 ≤ level) →
      (a.preorder level).map shown ++ r = (b.preorder level).map shown ++ s → a.Alike b ∧ r = s
  | ⟨rule, children, source, start, stop⟩, b, level, r, s, hr, hs, h => by
    rw [preorder, preorder_eq] at h
    obtain ⟨hhead, hrest⟩ := List.cons.inj h
    simp only [shown, Prod.mk.injEq, true_and] at hhead
    obtain ⟨hrule, hsource⟩ := hhead
    obtain ⟨hchildren, htail⟩ := forall₂_alike_of_preorderEach
      (fun e he => Nat.lt_succ_of_le (hr e he)) (fun e he => Nat.lt_succ_of_le (hs e he)) hrest
    refine ⟨.intro hrule (fun hnil => ?_) hchildren, htail⟩
    -- a leaf of one tree stands against a leaf of the other
    change children = [] at hnil
    rw [hnil, List.forall₂_nil_left_iff] at hchildren
    simpa [leafText, hnil, hchildren] using hsource

theorem forall₂_alike_of_preorderEach : ∀ {as bs : List Node} {level : Nat}
    {r s : List (Nat × String × Option String)},
    (∀ e ∈ r.head?, e.1 < level) → (∀ e ∈ s.head?, e.1 < level) →
      (preorderEach level as).map shown ++ r = (preorderEach level bs).map shown ++ s →
        List.Forall₂ Alike as bs ∧ r = s
  | [], [], level, r, s, hr, hs, h => ⟨.nil, by simpa [preorderEach] using h⟩
  | [], b :: bs, level, r, s, hr, hs, h => by
    rw [preorderEach, List.map_nil, List.nil_append] at h
    exact absurd h (ne_preorderEach_cons hr b bs)
  | a :: as, [], level, r, s, hr, hs, h => by
    rw [preorderEach, List.map_nil, List.nil_append] at h
    exact absurd h.symm (ne_preorderEach_cons hs a as)
  | a :: as, b :: bs, level, r, s, hr, hs, h => by
    rw [preorderEach, preorderEach, List.map_append, List.map_append, List.append_assoc,
      List.append_assoc] at h
    obtain ⟨hhead, hrest⟩ :=
      alike_of_preorder (head?_preorderEach hr as) (head?_preorderEach hs bs) h
    obtain ⟨htail, hend⟩ := forall₂_alike_of_preorderEach hr hs hrest
    exact ⟨.cons hhead htail, hend⟩

end

mutual

theorem shown_of_alike : ∀ {a b : Node} {level : Nat}, a.Alike b →
    (a.preorder level).map shown = (b.preorder level).map shown
  | ⟨rule, children, source, start, stop⟩, b, level, .intro hrule hsource hchildren => by
    have hhead : shown (level, ⟨rule, children, source, start, stop⟩) = shown (level, b) := by
      cases children with
      | nil =>
        have hb : b.children = [] := List.forall₂_nil_left_iff.1 hchildren
        simp [shown, leafText, hb, ← hrule, ← hsource rfl]
      | cons c cs =>
        obtain ⟨d, ds, -, -, hb⟩ := List.forall₂_cons_left_iff.1 hchildren
        simp [shown, leafText, hb, ← hrule]
    rw [preorder, preorder_eq, List.map_cons, List.map_cons, hhead,
      shown_of_forall₂_alike hchildren]

theorem shown_of_forall₂_alike : ∀ {as bs : List Node} {level : Nat}, List.Forall₂ Alike as bs →
    (preorderEach level as).map shown = (preorderEach level bs).map shown
  | [], _, _, .nil => rfl
  | a :: as, _, _, .cons h hs => by
    rw [preorderEach, preorderEach, List.map_append, List.map_append, shown_of_alike h,
      shown_of_forall₂_alike hs]

end

theorem alike_iff {a b : Node} :
    a.Alike b ↔ (a.preorder 0).map shown = (b.preorder 0).map shown :=
  ⟨shown_of_alike, fun h => (alike_of_preorder (by simp) (by simp) (congrArg (· ++ []) h)).1⟩

/-! ## What a line shows -/

section Line

variable {m n : Node} {level level' : Nat}

/-- A name without other characters than ASCII letters, digits and underscores. -/
def IsWord (name : String) : Prop := ∀ c ∈ name.toList, (c.isAlphanum || c == '_') = true

/-- Every rule name in the tree is a word. -/
def Worded (n : Node) : Prop := ∀ m : Node, m.Within n → IsWord m.rule

theorem worded_mk {rule : String} {children : List Node} {source : String} {start stop : Nat} :
    Worded ⟨rule, children, source, start, stop⟩ ↔ IsWord rule ∧ ∀ c ∈ children, c.Worded := by
  constructor
  · exact fun h => ⟨h _ (.self _), fun c hc m hm => h m (.child hc hm)⟩
  · rintro ⟨hrule, hchildren⟩ m hm
    rcases within_iff.1 hm with rfl | ⟨c, hc, hm⟩
    · exact hrule
    · exact hchildren c hc m hm

theorem toList_indentation (level : Nat) :
    (indentation "  " level).toList = List.replicate (2 * level) ' ' := by
  induction level with
  | zero => rfl
  | succ level ih =>
    rw [indentation] at ih ⊢
    rw [List.replicate_succ, String.join_cons, String.toList_append, ih, Nat.mul_succ, Nat.add_comm,
      List.replicate_add]
    rfl

/-- What stands on a line behind the name. -/
def ending : Option String → List Char
  | some text => '\t' :: (quoted text).toList
  | none => []

theorem line_eq (indent : String) (level : Nat) (n : Node) :
    line indent level n =
      indentation indent level ++ n.rule ++ String.ofList (ending n.leafText) := by
  rw [line, leafText]
  split
  · simp [ending, String.append_assoc]
  · simp [ending]

theorem toList_line (level : Nat) (n : Node) : (line "  " level n).toList =
    List.replicate (2 * level) ' ' ++ (n.rule.toList ++ ending n.leafText) := by
  rw [line_eq, String.toList_append, String.toList_append, String.toList_ofList,
    toList_indentation, List.append_assoc]

theorem head?_ending : ∀ text : Option String, ∀ c ∈ (ending text).head?, c = '\t'
  | some _, _, h => (Option.some.inj h).symm
  | none, _, h => nomatch h

theorem ending_injective : Function.Injective ending
  | some _, some _, h =>
    congrArg some (quoted_injective (String.toList_injective (List.cons.inj h).2))
  | none, none, _ => rfl

theorem not_mem_ending : ∀ text : Option String, '\n' ∉ ending text
  | some text, h => by
    rcases List.mem_cons.1 h with h | h
    · cases h
    · exact absurd (isPrintable_of_mem_quoted h) (by decide)
  | none, h => nomatch h

theorem head?_entry {name : String} (h : IsWord name) (text : Option String) :
    ∀ c ∈ (name.toList ++ ending text).head?, c ≠ ' ' := by
  rintro c hc rfl
  rw [List.head?_append] at hc
  rcases Option.or_eq_some_iff.1 hc with hc | ⟨-, hc⟩
  · exact absurd (h _ (List.mem_of_mem_head? hc)) (by decide)
  · exact absurd (head?_ending text _ hc) (by decide)

/-- A line tells where its blanks end, where its name ends, and the text behind a tab. -/
theorem shown_of_line (hm : IsWord m.rule) (hn : IsWord n.rule)
    (h : line "  " level m = line "  " level' n) : shown (level, m) = shown (level', n) := by
  have hlists := congrArg String.toList h
  rw [toList_line, toList_line] at hlists
  obtain ⟨hblanks, hentries⟩ := append_inj_of_run (p := (· == ' ')) (by simp) (by simp)
    (fun c hc => beq_false_of_ne (head?_entry hm _ c hc))
    (fun c hc => beq_false_of_ne (head?_entry hn _ c hc)) hlists
  obtain ⟨hrule, hending⟩ := append_inj_of_run hm hn
    (fun c hc => by rw [head?_ending _ c hc]; rfl)
    (fun c hc => by rw [head?_ending _ c hc]; rfl) hentries
  have hlevel : 2 * level = 2 * level' := (List.replicate_inj.1 hblanks).1
  rw [shown, shown, ending_injective hending, String.toList_injective hrule,
    Nat.eq_of_mul_eq_mul_left Nat.two_pos hlevel]

theorem line_of_shown {indent : String} (h : shown (level, m) = shown (level', n)) :
    line indent level m = line indent level' n := by
  simp only [shown, Prod.mk.injEq] at h
  rw [line_eq, line_eq, h.1, h.2.1, h.2.2]

theorem not_mem_line (hn : IsWord n.rule) : '\n' ∉ (line "  " level n).toList := by
  rw [toList_line]
  intro h
  rcases List.mem_append.1 h with h | h
  · exact absurd (List.eq_of_mem_replicate h) (by decide)
  · rcases List.mem_append.1 h with h | h
    · exact absurd (hn _ h) (by decide)
    · exact not_mem_ending _ h

end Line

/-! ## The text -/

/-- Two trees with words for rule names have the same text if and only if they are alike. With any
indentation, the stack lists the nodes of a tree in pre-order, each on a line at its level. -/
theorem pretty_tells_tree :
    (∀ a b : Node, a.Worded → b.Worded → (a.pretty = b.pretty ↔ a.Alike b)) ∧
    ∀ (n : Node) (indent : String),
      (outline indent [(0, n)] #[]).toList =
        ((n.preorder 0).map fun e => line indent e.1 e.2) ∧
      n.pretty indent = "\n".intercalate ((n.preorder 0).map fun e => line indent e.1 e.2) := by
  refine ⟨fun a b ha hb => ?_, fun n indent => ⟨by simp [toList_outline], pretty_eq n indent⟩⟩
  have hword : ∀ {n : Node}, n.Worded → ∀ e ∈ n.preorder 0, IsWord e.2.rule :=
    fun hn e he => hn _ (within_of_mem_preorder he)
  have hlines : ∀ {n : Node}, n.Worded →
      ∀ s ∈ (n.preorder 0).map fun e => line "  " e.1 e.2, '\n' ∉ s.toList :=
    fun hn => List.forall_mem_map.2 fun e he => not_mem_line (hword hn e he)
  rw [pretty_eq, pretty_eq, alike_iff]
  constructor
  · intro h
    -- the text tells its lines, and each line what it shows
    exact map_eq_of_map (fun x hx y hy => shown_of_line (hword ha x hx) (hword hb y hy))
      (lines_inj (hlines ha) (hlines hb) (by simp [preorder_eq]) (by simp [preorder_eq]) h)
  · intro h
    rw [map_eq_of_map (fun x _ y _ => line_of_shown) h]

/-- A call without arguments, whose closing bracket stands at a place. -/
def emptyCall (source : String) (place : Nat) : Node :=
  ⟨"pri_exp_call", [⟨"IDENT", [], "f", 0, 1⟩, ⟨terminalName, [], "(", 1, 2⟩,
    ⟨iterationName, [], "", 2, 2⟩, ⟨terminalName, [], ")", place, place + 1⟩], source, 0, place + 1⟩

theorem worded_emptyCall (source : String) (place : Nat) : (emptyCall source place).Worded := by
  simp only [emptyCall, worded_mk, List.forall_mem_cons, List.not_mem_nil, false_implies,
    implies_true, and_true, IsWord, ← List.all_eq_true]
  decide

theorem pretty_tells_tree_call :
    (emptyCall "f()" 2).Worded ∧ (emptyCall "f( )" 3).Worded ∧
      (emptyCall "f()" 2).pretty = (emptyCall "f( )" 3).pretty ∧
      (emptyCall "f()" 2).Alike (emptyCall "f( )" 3) := by
  have hclose := worded_emptyCall "f()" 2
  have hwide := worded_emptyCall "f( )" 3
  have hpretty : (emptyCall "f()" 2).pretty = (emptyCall "f( )" 3).pretty := by
    rw [pretty_eq, pretty_eq]
    rfl
  exact ⟨hclose, hwide, hpretty, (pretty_tells_tree.1 _ _ hclose hwide).1 hpretty⟩

end Node

end Reckon
