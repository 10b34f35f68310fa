import Reckon.Decimal.Layout
import Reckon.Proofs.Checks
import Reckon.Shell.Console

/-!
# Texts that are printed

A text cannot be printed if it has to be cut and its clusters do not take as many columns as it does.
Only a character that acts on its neighbours makes such a difference. A text without any (`Unjoined`)
takes the columns of its characters, and so do its clusters (`totalColumns_ofChars`), so it is cut to
any width (`exists_cut`); and all that is laid out of it is without any again (`exists_layOut`).

A picture may bring such characters, but there is none in a text with one colon at most. So numbers
are printed (`exists_print_display`), and so are errors that name nothing unusual (`exists_print_error`).
-/

namespace Reckon

/-- No character of the text acts on its neighbours. -/
def Unjoined (cs : List Char) : Prop := ∀ c ∈ cs, c ≠ joiner ∧ c ≠ pictureSelector

instance (cs : List Char) : Decidable (Unjoined cs) :=
  List.decidableBAll (fun c => c ≠ joiner ∧ c ≠ pictureSelector) cs

theorem Unjoined.mono {cs ds : List Char} (h : Unjoined cs) (hsub : ds ⊆ cs) : Unjoined ds :=
  fun c hc => h c (hsub hc)

theorem unjoined_blank : ' ' ≠ joiner ∧ ' ' ≠ pictureSelector := by decide

/-! ## Columns -/

/-- The columns of characters that do not act on each other. -/
def sumColumns (cs : List Char) : Nat := (cs.map columns).foldr (· + ·) 0

theorem textColumns_eq {cs : List Char} (h : Unjoined cs) : textColumns cs = sumColumns cs := by
  have hafter (last : Option Char) : columnsAfter false last cs = sumColumns cs := by
    induction cs generalizing last with
    | nil => rfl
    | cons c cs ih =>
      obtain ⟨⟨hj, hs⟩, hcs⟩ := List.forall_mem_cons.1 h
      rw [columnsAfter, if_neg Bool.false_ne_true, if_neg hj, if_neg hs, ih hcs]
      rfl
  exact hafter none

namespace Cluster

theorem totalColumns_ofCharsAfter {cs : List Char} (h : Unjoined cs) (read : List Char) (width : Nat)
    (last : Option Char) :
    totalColumns (ofCharsAfter read width false last cs) = width + sumColumns cs := by
  induction cs generalizing read width last with
  | nil => rfl
  | cons c cs ih =>
    obtain ⟨⟨hj, hs⟩, hcs⟩ := List.forall_mem_cons.1 h
    have hsum : sumColumns (c :: cs) = Reckon.columns c + sumColumns cs := rfl
    rw [ofCharsAfter, if_neg (by simpa using hj), if_neg (by simp [hs]), hsum]
    split
    · rename_i hzero
      rw [ih hcs, hzero, Nat.zero_add]
    · exact congrArg (width + ·) (ih hcs _ _ _)

theorem totalColumns_ofChars {cs : List Char} (h : Unjoined cs) :
    totalColumns (ofChars cs) = textColumns cs := by
  rw [textColumns_eq h]
  cases cs with
  | nil => rfl
  | cons c cs => exact totalColumns_ofCharsAfter (List.forall_mem_cons.1 h).2 _ _ _

theorem unjoined_crop {ks : List Cluster} (h : Unjoined (text ks)) (width : Nat) :
    Unjoined (crop width ks) := by
  induction ks generalizing width with
  | nil => exact nofun
  | cons k ks ih =>
    have hk : Unjoined k.chars := h.mono (List.subset_append_left _ _)
    have hks : Unjoined (text ks) := h.mono (List.subset_append_right _ _)
    rw [crop]
    split
    · intro c hc
      rcases List.mem_append.1 hc with hc | hc
      · exact hk c hc
      · exact ih hks _ c hc
    · intro c hc
      rw [List.eq_of_mem_replicate hc]
      exact unjoined_blank

end Cluster

/-! ## Layout -/

/-- The text is without styles, and no character of it acts on its neighbours. -/
structure StyledText.Plain (t : StyledText) : Prop where
  unjoined : Unjoined t.chars
  spans_eq : t.spans = []

namespace StyledText.Plain

variable {t : StyledText}

theorem slice (h : t.Plain) (first last : Nat) : (t.slice first last).Plain where
  unjoined := h.unjoined.mono (List.Subset.trans (List.take_subset _ _) (List.drop_subset _ _))
  spans_eq := by simp [StyledText.slice, h.spans_eq]

theorem replace (h : t.Plain) {cs : List Char} (hcs : Unjoined cs) : (t.replace cs).Plain where
  unjoined := hcs
  spans_eq := by simp [StyledText.replace, h.spans_eq]

theorem slicesAfter (h : t.Plain) (cuts : List Nat) (first : Nat) :
    ∀ line ∈ t.slicesAfter first cuts, line.Plain := by
  induction cuts generalizing first with
  | nil => exact List.forall_mem_singleton.2 (h.slice _ _)
  | cons cut cuts ih => exact List.forall_mem_cons.2 ⟨h.slice _ _, ih cut⟩

theorem divide (h : t.Plain) (cuts : List Nat) : ∀ line ∈ t.divide cuts, line.Plain := by
  unfold StyledText.divide
  split
  · exact List.forall_mem_singleton.2 h
  · exact h.slicesAfter cuts 0

theorem linesAfter (h : t.Plain) (ls : List (List Char)) (first : Nat) :
    ∀ line ∈ t.linesAfter first ls, line.Plain := by
  induction ls generalizing first with
  | nil => exact nofun
  | cons l ls ih => exact List.forall_mem_cons.2 ⟨h.slice _ _, ih _⟩

theorem lines (h : t.Plain) : ∀ line ∈ t.lines, line.Plain := by
  unfold StyledText.lines
  split
  · exact List.forall_mem_singleton.2 h
  · exact h.linesAfter _ 0

theorem segments (h : t.Plain) : t.segments = [t.chars] := by
  have hafter (cs read : List Char) (index : Nat) :
      segmentsAfter [] index read cs = [read.reverse ++ cs] := by
    induction cs generalizing read index with
    | nil => simp [segmentsAfter]
    | cons c cs ih => simp [segmentsAfter, ih]
  rw [StyledText.segments, h.spans_eq]
  exact hafter t.chars [] 0

end StyledText.Plain

namespace Wrap

/-- What is too long is cut, for its clusters take as many columns as it does. -/
theorem exists_cut (width : Nat) {cs : List Char} (h : Unjoined cs) :
    ∃ ds, cut width cs = .ok ds ∧ Unjoined ds := by
  have hcrop : Unjoined (Cluster.crop width (Cluster.ofChars cs)) :=
    Cluster.unjoined_crop (by rwa [Cluster.text_ofChars]) width
  have htotal := Cluster.totalColumns_ofChars h
  simp only [cut, htotal]
  split
  · exact ⟨cs, rfl, h⟩
  · rw [if_neg (by omega), if_neg (by omega)]
    exact ⟨_, rfl, hcrop⟩

theorem exists_wrap (width : Nat) {t : StyledText} (h : t.Plain) :
    ∃ lines, wrap width t = .ok lines ∧ ∀ line ∈ lines, line.Plain := by
  refine exists_mapM (P := StyledText.Plain) (fun line hline => ?_) (h.divide _)
  have hdropped : Unjoined (dropBlanks width line.chars) := hline.unjoined.mono (List.take_subset _ _)
  have hline := hline.replace hdropped
  obtain ⟨ds, hcut, hds⟩ := exists_cut width hline.unjoined
  refine ⟨_, ?_, hline.replace hds⟩
  simp only [hcut]
  rfl

theorem exists_row (width : Nat) {t : StyledText} (h : t.Plain) :
    ∃ cs, row width t = .ok cs ∧ True := by
  obtain ⟨ds, hcut, -⟩ := exists_cut width h.unjoined
  simp only [row, h.segments, List.map_cons, List.map_nil, List.foldr_cons, List.foldr_nil]
  split
  · exact ⟨ds, by rw [cropSegments, if_neg (by omega), hcut], trivial⟩
  · exact ⟨t.chars, rfl, trivial⟩

end Wrap

namespace Console

theorem exists_layOut (width : Nat) {t : StyledText} (h : t.Plain) :
    ∃ text, layOut width t = .ok text := by
  obtain ⟨lines, hlines, hplain⟩ := exists_mapM (fun _ => Wrap.exists_wrap width) h.lines
  have hplain : ∀ line ∈ lines.flatten, line.Plain := by
    intro line hline
    obtain ⟨row, hrow, hline⟩ := List.mem_flatten.1 hline
    exact hplain row hrow line hline
  have hstyles : (lines.flatten.forM fun line => line.spans.forM checkStyle) = .ok () :=
    forM_eq_ok_iff.2 fun line hline => by
      rw [(hplain line hline).spans_eq]
      rfl
  obtain ⟨rows, hrows, -⟩ := exists_mapM (fun _ => Wrap.exists_row width) hplain
  refine ⟨String.join (rows.map fun row => String.ofList row ++ "\n"), ?_⟩
  unfold layOut
  rw [hlines]
  change (lines.flatten.forM fun line => line.spans.forM checkStyle) >>= _ = _
  rw [hstyles]
  change (lines.flatten.mapM (Wrap.row width)).mapError _ >>= _ = _
  rw [hrows]
  rfl

/-- Tabs become blanks. -/
theorem mem_expandTabs {c : Char} (column : Nat) (cell cs : List Char)
    (hc : c ∈ expandTabs column cell cs) : c ∈ cell ∨ c ∈ cs ∨ c = ' ' := by
  fun_induction expandTabs column cell cs with
  | case1 => exact .inl (List.mem_reverse.1 hc)
  | case2 column cell rest ih =>
    simp only [List.mem_append, List.mem_reverse, List.mem_cons] at hc ih ⊢
    tauto
  | case3 column cell rest filled place more _ ih =>
    simp only [filled, List.mem_append, List.mem_reverse, List.mem_cons, List.mem_replicate,
      List.not_mem_nil] at hc ih ⊢
    tauto
  | case4 column cell c rest _ _ ih =>
    simp only [List.mem_cons] at hc ih ⊢
    tauto

/-- A text without pictures is printed if no character of it acts on its neighbours. -/
theorem exists_print (width : Nat) {s : String} (hs : Shortcode.expand none s.toList = s.toList)
    (h : Unjoined s.toList) : ∃ text, print width s = .ok text := by
  refine exists_layOut width ⟨fun c hc => ?_, rfl⟩
  rcases mem_expandTabs 0 [] _ hc with hc | hc | rfl
  · exact absurd hc List.not_mem_nil
  · rw [shown, hs] at hc
    exact h c (List.mem_filter.1 hc).1
  · exact unjoined_blank

end Console

namespace Shortcode

theorem expand_of_notMem {cs : List Char} (h : ':' ∉ cs) : expand none cs = cs ∧
    ∀ name, expand (some name) cs = ':' :: (name.reverse ++ cs) := by
  induction cs with
  | nil => exact ⟨rfl, fun name => by simp [expand]⟩
  | cons c cs ih =>
    obtain ⟨hc, hcs⟩ := not_or.1 (mt List.mem_cons.2 h)
    obtain ⟨hnone, hsome⟩ := ih hcs
    refine ⟨by rw [expand, if_neg (Ne.symm hc), hnone], fun name => ?_⟩
    rw [expand, if_neg (Ne.symm hc)]
    split
    · rw [hnone, List.cons_append]
    · rw [hsome, List.reverse_cons, List.append_assoc]
      rfl

/-- One colon makes no shortcode. -/
theorem expand_eq_self {cs ds : List Char} (hcs : ':' ∉ cs) (hds : ':' ∉ ds) :
    expand none (cs ++ ':' :: ds) = cs ++ ':' :: ds := by
  induction cs with
  | nil => exact (expand_of_notMem hds).2 []
  | cons c cs ih =>
    obtain ⟨hc, hcs⟩ := not_or.1 (mt List.mem_cons.2 hcs)
    rw [List.cons_append, expand, if_neg (Ne.symm hc), ih hcs]

end Shortcode

/-! ## Numbers and errors -/

/-- The character belongs to no picture. -/
def Inert (c : Char) : Prop := c ≠ ':' ∧ c ≠ joiner ∧ c ≠ pictureSelector

instance (c : Char) : Decidable (Inert c) := inferInstanceAs (Decidable (_ ∧ _ ∧ _))

/-- All characters of the text are inert. -/
def InertText (s : String) : Prop := ∀ c ∈ s.toList, Inert c

instance (s : String) : Decidable (InertText s) := List.decidableBAll Inert s.toList

namespace InertText

theorem append {s t : String} (hs : InertText s) (ht : InertText t) : InertText (s ++ t) := by
  intro c hc
  rw [String.toList_append] at hc
  exact (List.mem_append.1 hc).elim (hs c) (ht c)

theorem ofList {cs : List Char} (h : ∀ c ∈ cs, Inert c) : InertText (String.ofList cs) := by
  rwa [InertText, String.toList_ofList]

theorem unjoined {s : String} (h : InertText s) : Unjoined s.toList := fun c hc => (h c hc).2

theorem notMem {s : String} (h : InertText s) : ':' ∉ s.toList := fun hc => (h _ hc).1 rfl

end InertText

theorem inert_of_isDigit {c : Char} (h : c.isDigit = true) : Inert c := by
  refine ⟨?_, ?_, ?_⟩ <;> rintro rfl <;> exact absurd h (by decide)

theorem inertText_nat (n : Nat) : InertText (toString n) := by
  intro c hc
  rw [Nat.toString_eq_repr, Nat.toList_repr] at hc
  exact inert_of_isDigit (Nat.isDigit_of_mem_toDigits (by decide) (by decide) hc)

theorem inertText_int : ∀ n : Int, InertText (toString n)
  | .ofNat n => inertText_nat n
  | .negSucc n => (show InertText "-" by decide).append (inertText_nat (n + 1))

namespace Decimal

theorem inertText_zeros (n : Nat) : InertText (zeros n) := by
  refine .ofList fun c hc => ?_
  rw [List.eq_of_mem_replicate hc]
  decide

theorem inertText_exponent (l : Layout) (e : Int) : InertText (l.exponent e) := by
  unfold Layout.exponent
  refine .append (.append (.append (by decide) ?_) (inertText_zeros _)) (inertText_nat _)
  split <;> decide

theorem inertText_render (l : Layout) (s : Scaled) : InertText (l.render s) := by
  have hdigits : ∀ c ∈ (toString s.digits).toList, Inert c := inertText_nat s.digits
  have hpoint : Inert '.' := by decide
  simp only [Layout.render]
  split
  · split
    · exact .append (.append (by decide) (inertText_zeros _)) (inertText_nat _)
    · split
      · exact .append (.append (inertText_nat _) (inertText_zeros _)) (by decide)
      · refine .ofList fun c hc => ?_
        rcases List.mem_append.1 hc with hc | hc
        · exact hdigits c (List.mem_of_mem_take hc)
        · rcases List.mem_cons.1 hc with rfl | hc
          · exact hpoint
          · exact hdigits c (List.mem_of_mem_drop hc)
  · split
    · exact inertText_exponent l _
    · rename_i d hd
      rw [hd] at hdigits
      exact .append (.ofList hdigits) (inertText_exponent l _)
    · rename_i d rest _ hd
      rw [hd] at hdigits
      obtain ⟨hd, hrest⟩ := List.forall_mem_cons.1 hdigits
      refine .append (.ofList ?_) (inertText_exponent l _)
      exact List.forall_mem_cons.2 ⟨hd, List.forall_mem_cons.2 ⟨hpoint, hrest⟩⟩

theorem inertText_write (x : Float) : InertText (write x) := by
  have hsign : InertText (if isNegative x.toBits then "-" else "") := by split <;> decide
  simp only [write]
  split
  · decide
  · split
    · exact hsign.append (by decide)
    · split
      · exact hsign.append (by decide)
      · exact hsign.append (inertText_render _ _)

theorem inertText_display (x : Float) : InertText (display x) := by
  unfold display
  split
  · exact inertText_write x
  · split
    · split
      · refine .append ?_ (inertText_nat _)
        split <;> decide
      · exact inertText_write x
    · exact inertText_write x

end Decimal

theorem exists_print_display (width : Nat) (x : Float) :
    ∃ text, Console.print width (Decimal.display x) = .ok text :=
  have h := Decimal.inertText_display x
  Console.exists_print width (Shortcode.expand_of_notMem h.notMem).1 h.unjoined

/-- A message with inert names is printed. -/
theorem exists_print_error (width : Nat) {s : String} (h : InertText s) :
    ∃ text, Console.print width ("Error: " ++ s) = .ok text := by
  have hchars : ("Error: " ++ s).toList = "Error".toList ++ ':' :: ' ' :: s.toList :=
    String.toList_append
  have hblank : ':' ∉ ' ' :: s.toList := by simpa using h.notMem
  have hunjoined : Unjoined ("Error: " ++ s).toList := by
    rw [String.toList_append]
    have herror : Unjoined "Error: ".toList := by decide
    exact List.forall_mem_append.2 ⟨herror, h.unjoined⟩
  refine Console.exists_print width ?_ hunjoined
  rw [hchars]
  exact Shortcode.expand_eq_self (by decide) hblank

/-! ## Marked up text -/

/-- A text without tags and pictures is shown as it is. -/
theorem Markup.styled_eq {cs : List Char} (hpieces : pieces cs = [.text cs])
    (hshown : (Canvas.write {} cs).shown = cs) : styled cs = .ok { chars := cs } := by
  have hspans : (Canvas.write {} cs).spans = [] := by simp [Canvas.spans, Canvas.write]
  simp only [styled, hpieces]
  change Except.ok ({ chars := (Canvas.write {} cs).shown, spans := (Canvas.write {} cs).spans } :
    StyledText) = _
  rw [hshown, hspans]

/-- Such a text is printed if nothing in it is emphasised. -/
theorem exists_printMarked (width : Nat) {s : String} (hpieces : Markup.pieces s.toList = [.text s.toList])
    (hshown : (Markup.Canvas.write {} s.toList).shown = s.toList)
    (hemphasis : emphasise { chars := s.toList } = { chars := s.toList }) (h : Unjoined s.toList) :
    ∃ text, Console.printMarked width s = .ok text := by
  simp only [Console.printMarked, Markup.styled_eq hpieces hshown, bind, Except.bind, Except.mapError,
    hemphasis]
  exact Console.exists_layOut width ⟨h, rfl⟩

end Reckon
