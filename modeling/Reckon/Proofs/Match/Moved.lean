import Reckon.Proofs.Lexis.Slice
import Reckon.Proofs.Match.Span

/-!
# Trees further on in a text

A derivation tree makes the same nodes wherever its tokens stand, with all places moved alike
(`ofTree_moved`): those of a piece of a text are those of the whole text, counted from the start of
the piece. The end of the token before a tree has a say only in where empty lists stand, and none
at all if the tree begins with a token (`ofTree_after`).
-/

namespace Reckon

open Cfg Cfg.Tree

/-- The token `k` characters further on. -/
def Token.moved (k : Nat) (a : Token) : Token := { a with start := a.start + k, stop := a.stop + k }

theorem Token.moved_back {k : Nat} {a : Token} (h : k ≤ a.start) (h' : k ≤ a.stop) :
    (a.back k).moved k = a := by
  simp [Token.moved, Token.back, h, h']

/-! ## Reading further on -/

namespace Reads

variable {L : Terminal → List Char → Prop} {pos pos' : Nat} {cs rest : List Char} {ts : List Token}

theorem moved (k : Nat) (h : Reads L pos cs ts pos' rest) :
    Reads L (pos + k) cs (ts.map (·.moved k)) (pos' + k) rest := by
  induction h with
  | done => exact .done _ _
  | gap hc _ ih => exact .gap hc (by rwa [Nat.add_right_comm])
  | @token pos _ t u cs _ _ hu _ ih =>
    rw [Nat.add_right_comm] at ih
    have htoken : Token.moved k ⟨t, String.ofList u, pos, pos + u.length⟩
        = ⟨t, String.ofList u, pos + k, pos + k + u.length⟩ := by
      simp only [Token.moved, Token.mk.injEq, true_and]
      omega
    rw [List.map_cons, htoken]
    exact .token hu ih

/-- Tokens stand where the text is read. -/
theorem bounds (h : Reads L pos cs ts pos' rest) :
    pos ≤ pos' ∧ ∀ a ∈ ts, pos ≤ a.start ∧ a.start ≤ a.stop ∧ a.stop ≤ pos' := by
  induction h with
  | done => exact ⟨Nat.le_refl _, nofun⟩
  | gap _ _ ih => exact ⟨by omega, fun a ha => by have := ih.2 a ha; omega⟩
  | token _ _ ih =>
    refine ⟨by omega, List.forall_mem_cons.2 ⟨by simp only; omega, fun a ha => ?_⟩⟩
    have := ih.2 a ha
    omega

/-- No token stands before the first one of a row. -/
theorem head_le {us ws : List Token} {a : Token} (h : Reads L pos cs (us ++ ws) pos' rest)
    (ha : ws.head? = some a) : ∀ c ∈ ws, a.start ≤ c.start ∧ a.start ≤ c.stop := by
  obtain ⟨ws, rfl⟩ := List.head?_eq_some_iff.1 ha
  obtain ⟨mid, -, hfrom⟩ := h.exists_from
  intro c hc
  have := hfrom.bounds.2 c hc
  omega

end Reads

/-! ## Nodes further on -/

namespace Node

mutual

/-- The tree `k` characters further on. -/
def moved (k : Nat) : Node → Node
  | ⟨rule, children, source, start, stop⟩ =>
    ⟨rule, movedEach k children, source, start + k, stop + k⟩

def movedEach (k : Nat) : List Node → List Node
  | [] => []
  | n :: ns => n.moved k :: movedEach k ns

end

theorem movedEach_eq_map (k : Nat) (ns : List Node) : movedEach k ns = ns.map (moved k) := by
  induction ns with
  | nil => rw [movedEach, List.map_nil]
  | cons n ns ih => rw [movedEach, ih, List.map_cons]

theorem moved_eq (k : Nat) (n : Node) :
    n.moved k = ⟨n.rule, n.children.map (moved k), n.source, n.start + k, n.stop + k⟩ := by
  obtain ⟨rule, children, source, start, stop⟩ := n
  rw [moved, movedEach_eq_map]

mutual

theorem bare_moved (k : Nat) : ∀ n : Node, (n.moved k).bare = n.bare
  | ⟨rule, children, source, start, stop⟩ => by
    rw [moved, bare, bare, bareEach_movedEach k children]
    simp only [isLeaf, isIteration]
    cases children <;> rfl

theorem bareEach_movedEach (k : Nat) : ∀ ns : List Node, bareEach (movedEach k ns) = bareEach ns
  | [] => by rw [movedEach]
  | n :: ns => by rw [movedEach, bareEach, bareEach, bare_moved k n, bareEach_movedEach k ns]

end

theorem filter_map_moved (k : Nat) (ns : List Node) :
    (ns.map (moved k)).filter (!·.isTerminal) = (ns.filter (!·.isTerminal)).map (moved k) := by
  rw [List.filter_map]
  congr 2
  funext n
  simp [isTerminal, moved_eq]

/-- `piece` stands in `text` from place `k` on. -/
def StandsAt (k : Nat) (piece text : List Char) : Prop := piece <+: text.drop k

theorem StandsAt.left {k : Nat} {u v text : List Char} (h : StandsAt k (u ++ v) text) :
    StandsAt k u text :=
  (List.prefix_append u v).trans h

theorem StandsAt.right {k : Nat} {u v text : List Char} (h : StandsAt k (u ++ v) text) :
    StandsAt (k + u.length) v text := by
  obtain ⟨more, hmore⟩ := h
  exact ⟨more, by rw [← List.drop_drop, ← hmore, List.append_assoc, List.drop_left]⟩

section Piece

variable {k : Nat} {piece text : List Char} (hp : StandsAt k piece text)
include hp

theorem slice_moved (start : Nat) {stop : Nat} (h : stop ≤ piece.length) :
    slice text (start + k) (stop + k) = slice piece start stop := by
  obtain ⟨more, hmore⟩ := hp
  rw [slice, slice, Nat.add_sub_add_right, Nat.add_comm start k, ← List.drop_drop, ← hmore]
  -- a slice that starts past the end of the piece is empty in both
  by_cases hs : start ≤ piece.length
  · rw [List.drop_append_of_le_length hs, List.take_append_of_le_length]
    rw [List.length_drop]
    omega
  · rw [show stop - start = 0 by omega, List.take_zero, List.take_zero]

theorem spanning_moved (rule : String) {parts : List Node} (children : List Node) {last : Nat}
    (hparts : ∀ n ∈ parts, n.stop ≤ piece.length) (hlast : last ≤ piece.length) :
    spanning text rule (parts.map (moved k)) (children.map (moved k)) (last + k) =
      (spanning piece rule parts children last).moved k := by
  have hstart : ((parts.map (moved k)).head?.map (·.start)).getD (last + k) =
      (parts.head?.map (·.start)).getD last + k := by
    cases parts <;> simp [moved_eq]
  have hstop : ((parts.map (moved k)).getLast?.map (·.stop)).getD (last + k) =
      (parts.getLast?.map (·.stop)).getD last + k := by
    rw [List.getLast?_map]
    cases parts.getLast? <;> simp [moved_eq]
  have hle : (parts.getLast?.map (·.stop)).getD last ≤ piece.length := by
    rcases hl : parts.getLast? with _ | n
    · simpa using hlast
    · simpa using hparts n (List.mem_of_getLast? hl)
  simp only [spanning, hstart, hstop, slice_moved hp _ hle, moved_eq]

end Piece

mutual

/-- Nodes end where their tokens do, or where the token before them does. -/
theorem stop_le_of_ofTree (text : List Char) {b : Nat} :
    ∀ (t : Tree Token Category) {last : Nat}, (∀ a ∈ t.yield, a.stop ≤ b) → last ≤ b →
      (∀ n ∈ (ofTree text last t).1, n.stop ≤ b) ∧ (ofTree text last t).2 ≤ b
  | .leaf a, last, h, _ => by
    rw [yield] at h
    have ha := h a List.mem_cons_self
    rw [ofTree]
    exact ⟨List.forall_mem_singleton.2 ha, ha⟩
  | .node c ts, last, h, hlast => by
    rw [yield] at h
    obtain ⟨hparts, hend⟩ := stop_le_of_ofTrees text ts h hlast
    have hspan (rule : String) (children : List Node) : (spanning text rule
        (ofTrees text last ts).1 children (ofTrees text last ts).2).stop ≤ b := by
      rw [spanning]
      rcases hl : (ofTrees text last ts).1.getLast? with _ | n
      · simpa [hl] using hend
      · simpa [hl] using hparts n (List.mem_of_getLast? hl)
    rw [ofTree]
    -- items make no node of their own, and a list or a rule one that spans its parts
    cases c with
    | items => exact ⟨hparts, hend⟩
    | list | rule => exact ⟨List.forall_mem_singleton.2 (hspan _ _), hend⟩

theorem stop_le_of_ofTrees (text : List Char) {b : Nat} :
    ∀ (ts : List (Tree Token Category)) {last : Nat}, (∀ a ∈ yieldAll ts, a.stop ≤ b) → last ≤ b →
      (∀ n ∈ (ofTrees text last ts).1, n.stop ≤ b) ∧ (ofTrees text last ts).2 ≤ b
  | [], last, _, hlast => by
    rw [ofTrees]
    exact ⟨nofun, hlast⟩
  | t :: ts, last, h, hlast => by
    rw [yieldAll] at h
    obtain ⟨ht, hts⟩ := List.forall_mem_append.1 h
    obtain ⟨hn, hmid⟩ := stop_le_of_ofTree text t ht hlast
    obtain ⟨hns, hend⟩ := stop_le_of_ofTrees text ts hts hmid
    rw [ofTrees]
    exact ⟨List.forall_mem_append.2 ⟨hn, hns⟩, hend⟩

end

mutual

/-- The tree of a piece makes the nodes in the whole text that it makes in the piece. -/
theorem ofTree_moved {k : Nat} {piece text : List Char} (hp : StandsAt k piece text) :
    ∀ (t : Tree Token Category) {last : Nat}, (∀ a ∈ t.yield, a.stop ≤ piece.length) →
      last ≤ piece.length → ofTree text (last + k) (t.map (Token.moved k)) =
        ((ofTree piece last t).1.map (moved k), (ofTree piece last t).2 + k)
  | .leaf a, last, _, _ => by
    rw [Cfg.Tree.map, ofTree, ofTree, List.map_singleton, moved_eq]
    rfl
  | .node c ts, last, h, hlast => by
    rw [yield] at h
    obtain ⟨hparts, hend⟩ := stop_le_of_ofTrees piece ts h hlast
    have hmoved := ofTrees_moved hp ts h hlast
    rw [Cfg.Tree.map, ofTree, ofTree, hmoved]
    cases c with
    | items => rfl
    | list =>
      simp only [filter_map_moved, spanning_moved hp _ _ hparts hend, List.map_singleton]
    | rule => simp only [spanning_moved hp _ _ hparts hend, List.map_singleton]

theorem ofTrees_moved {k : Nat} {piece text : List Char} (hp : StandsAt k piece text) :
    ∀ (ts : List (Tree Token Category)) {last : Nat}, (∀ a ∈ yieldAll ts, a.stop ≤ piece.length) →
      last ≤ piece.length → ofTrees text (last + k) (mapAll (Token.moved k) ts) =
        ((ofTrees piece last ts).1.map (moved k), (ofTrees piece last ts).2 + k)
  | [], last, _, _ => by rw [mapAll, ofTrees, ofTrees, List.map_nil]
  | t :: ts, last, h, hlast => by
    rw [yieldAll] at h
    obtain ⟨ht, hts⟩ := List.forall_mem_append.1 h
    have hmid := (stop_le_of_ofTree piece t ht hlast).2
    rw [mapAll, ofTrees, ofTrees, ofTree_moved hp t ht hlast]
    simp only [ofTrees_moved hp ts hts hmid, List.map_append]

end

/-! ## What comes before a tree -/

section After

variable {E : Category → Bool} {ps : List (Production Terminal Category)}

mutual

/-- What begins with a token makes the same nodes whatever token comes before. -/
theorem ofTree_after (hE : Edged E ps) (text : List Char) {s : Cfg.Symbol Terminal Category}
    {t : Tree Token Category} :
    Tree.Derives ps Token.terminal s t → begins E (fun _ => true) s = true →
      ∀ last last', ofTree text last t = ofTree text last' t
  | .leaf a, _, last, last' => by rw [ofTree, ofTree]
  | @Tree.Derives.node _ _ _ _ _ p ts hp hts, hs, last, last' => by
    rw [ofTree, ofTree, ofTrees_after hE text hts (hE.head p hp hs) last last']

theorem ofTrees_after (hE : Edged E ps) (text : List Char)
    {ss : List (Cfg.Symbol Terminal Category)} {ts : List (Tree Token Category)} :
    Tree.DerivesAll ps Token.terminal ss ts → ss.head?.any (begins E fun _ => true) = true →
      ∀ last last', ofTrees text last ts = ofTrees text last' ts
  | .nil, hs, _, _ => by cases hs
  | .cons h _, hs, last, last' => by
    rw [ofTrees, ofTrees, ofTree_after hE text h hs last last']

end

end After

end Node

end Reckon
