import Mathlib.Algebra.Group.Nat.Defs
import Mathlib.Data.List.DropRight
import Reckon.Decimal.Read
import Reckon.Proofs.Settings.Reached
import Reckon.Proofs.Table

/-!
# Requests to change settings

A request names a setting and gives a value. `change` carries it out in place, on the table of the
settings, where what is written before an error stays. Nothing is: a value is read before it is
written, so `change` does to the table what `set` does to the settings (`exists_outcome`), and a row of
requests does as well (`tableAfter_eq`). What is stored stays valid (`ValidTable.change`).

A request that is accepted writes one value, of which the text would be accepted again and would change
nothing (`Change.rewrites`). A file is loaded by such requests, one for each of its options, and fails
with the first that is refused (`load_eq_setEach`, `setEach_eq_error_iff`).
-/

namespace Reckon

/-! ## Reading back -/

/-- A text without quotes at its ends has none to take away. -/
theorem trimQuotes_trimQuotes (s : String) : trimQuotes (trimQuotes s) = trimQuotes s := by
  set p : Char → Bool := (· == '"')
  set body := s.toList.dropWhile p
  have htrim (u : String) : trimQuotes u = String.ofList ((u.toList.dropWhile p).rdropWhile p) := rfl
  have hstart : (body.rdropWhile p).dropWhile p = body.rdropWhile p := by
    rcases hleft : body.rdropWhile p with _ | ⟨c, cs⟩
    · rfl
    · obtain ⟨after, hafter⟩ := List.rdropWhile_prefix p body
      rw [hleft] at hafter
      have hhead : body.head? = some c := by rw [← hafter]; rfl
      have hnot := List.head?_dropWhile_not p s.toList
      rw [show s.toList.dropWhile p = body from rfl, hhead] at hnot
      exact List.dropWhile_cons_of_neg (by simpa using hnot)
  rw [htrim s, htrim, String.toList_ofList, hstart, List.rdropWhile_idempotent]

namespace Given

theorem toNat_of_isDigit {c : Char} (h : c.isDigit = true) : 48 ≤ c.toNat ∧ c.toNat ≤ 57 :=
  Char.isDigit_iff_toNat.1 h

theorem digitValue?_of_isDigit {c : Char} (h : c.isDigit = true) :
    digitValue? c = some (c.toNat - 48) := by
  have hcode := toNat_of_isDigit h
  rw [digitValue?, if_pos (by omega), if_pos h]

theorem isPadding_of_isDigit {c : Char} (h : c.isDigit = true) : isPadding c = false := by
  have hcode := toNat_of_isDigit h
  have hblank : isBlank c = false := by
    simp [isBlank]
    omega
  rw [isPadding, hblank, Bool.false_and]

/-- The value of digits is the number that they write. -/
theorem digits?_eq : ∀ {cs : List Char} {fresh : Bool} {count value : Nat},
    (∀ c ∈ cs, c.isDigit = true) → (cs = [] → fresh = false) →
      digits? fresh count value cs = some (count + cs.length, Nat.ofDigitChars 10 cs value)
  | [], fresh, count, value, _, hfresh => by simp [digits?, hfresh rfl]
  | c :: cs, fresh, count, value, hcs, _ => by
    obtain ⟨hc, hcs⟩ := List.forall_mem_cons.1 hcs
    rw [digits?, digitValue?_of_isDigit hc]
    simp only
    rw [digits?_eq hcs fun _ => rfl, Nat.ofDigitChars_cons, List.length_cons]
    simp only [Option.some.injEq, Prod.mk.injEq]
    exact ⟨by omega, rfl⟩

/-- An integer is a sign and digits, with padding around them. -/
theorem integerOfText?_eq (s : String) : integerOfText? s =
    let (negative, cs) := Decimal.spanSign ((s.toList.dropWhile isPadding).rdropWhile isPadding)
    match digits? true 0 0 cs with
    | some (count, n) =>
      if mostDigits < count then none else some (if negative then -(n : Int) else n)
    | none => none := rfl

theorem spanSign_of_isDigit {c : Char} (h : c.isDigit = true) (cs : List Char) :
    Decimal.spanSign (c :: cs) = (false, c :: cs) := by
  unfold Decimal.spanSign
  split
  · rename_i heq
    rw [(List.cons.inj heq).1] at h
    exact absurd h (by decide)
  · rename_i heq
    rw [(List.cons.inj heq).1] at h
    exact absurd h (by decide)
  · rfl

theorem integerOfText?_toString {n : Nat} (h : n < 10 ^ mostDigits) :
    integerOfText? (toString n) = some (n : Int) := by
  have hlist : (toString n).toList = Nat.toDigits 10 n := by
    rw [Nat.toString_eq_repr, Nat.toList_repr]
  have hdigits : ∀ c ∈ Nat.toDigits 10 n, c.isDigit = true := fun c hc =>
    Nat.isDigit_of_mem_toDigits (by decide) (by decide) hc
  have hread : digits? true 0 0 (Nat.toDigits 10 n) = some ((Nat.toDigits 10 n).length, n) := by
    rw [digits?_eq hdigits fun hnil => absurd hnil Nat.toDigits_ne_nil, Nat.zero_add,
      Nat.ofDigitChars_ten_toDigits]
  have hlength : ¬ mostDigits < (Nat.toDigits 10 n).length :=
    Nat.not_lt.2 ((Nat.length_toDigits_le_iff (by decide) (by decide)).2 h)
  have hpadding : ∀ c ∈ Nat.toDigits 10 n, isPadding c = false := fun c hc =>
    isPadding_of_isDigit (hdigits c hc)
  have hstart : (Nat.toDigits 10 n).dropWhile isPadding = Nat.toDigits 10 n :=
    List.dropWhile_eq_self_iff.2 fun hl => by simp [hpadding _ (List.getElem_mem hl)]
  have hend : (Nat.toDigits 10 n).rdropWhile isPadding = Nat.toDigits 10 n :=
    List.rdropWhile_eq_self_iff.2 fun hl => by simp [hpadding _ (List.getLast_mem hl)]
  rw [integerOfText?_eq, hlist, hstart, hend]
  obtain ⟨c, cs, hcs⟩ := List.exists_cons_of_ne_nil (Nat.toDigits_ne_nil (n := n) (b := 10))
  rw [hcs] at hread hlength hdigits ⊢
  rw [spanSign_of_isDigit (hdigits c List.mem_cons_self)]
  simp only [hread, if_neg hlength, Bool.false_eq_true, if_false]

end Given

namespace Settings

/-! ## Requests in place -/

/-- The table with another value under a name that stands in it. -/
def write (name : String) (v : Given) (table : List (String × Given)) : List (String × Given) :=
  table.map fun o => if o.1 = name then (name, v) else o

/-- What works on a table of settings and may end with an error; what was written up to then stays. -/
abbrev InPlace : Type → Type := EStateM SettingError (List (String × Given))

/-- A value that may be missing for a reason, on the way to be written. -/
def orThrow {α : Type} : Except SettingError α → InPlace α
  | .ok a => pure a
  | .error e => throw e

def setFlag (name : String) (v : Given) : InPlace String := do
  let b ← orThrow v.toBool
  modify (write name (.text (yesNo b)))
  return name ++ " mode: " ++ yesNo b

def setDepth (v : Given) : InPlace String :=
  match v.toInt? with
  | some n =>
    if 1 ≤ n ∧ n ≤ greatestMaxDepth then do
      modify (write "MaxDepth" (.integer n))
      return "MaxDepth: " ++ toString n
    else throw .notDepth
  | none => throw .notDepth

def setStyle (v : Given) : InPlace String := do
  modify (write "Style" (.text (trimQuotes v.toText)))
  return "Style: " ++ trimQuotes v.toText

/-- What sets the setting of a name, if there is such a setting. -/
def setter? (name : String) : Option (Given → InPlace String) :=
  if name ∈ flagNames then some (setFlag name)
  else if name = "MaxDepth" then some setDepth
  else if name = "Style" then some setStyle
  else none

/-- Carries out a request: the name must have a setter, and it must stand in the table. -/
def change (name : String) (v : Given) : InPlace String := do
  match setter? name, (← get).lookup name with
  | some set, some _ => set v
  | _, _ => throw (.unknown name)

/-- The table that a request leaves, be it refused or not. -/
def left {α : Type} : EStateM.Result SettingError (List (String × Given)) α → List (String × Given)
  | .ok _ table => table
  | .error _ table => table

/-- The table that a row of requests makes of the defaults. -/
def tableAfter (requests : List (String × String)) : List (String × Given) :=
  requests.foldl (fun d r => left ((change r.1 (.text r.2)).run d)) ({} : Settings).table

/-- The settings after a request, those before it if it is refused. -/
def request (s : Settings) (name value : String) : Settings :=
  match s.set name (.text value) with
  | .ok (t, _) => t
  | .error _ => s

/-- The settings that a row of requests makes of the defaults. -/
def settingsAfter (requests : List (String × String)) : Settings :=
  requests.foldl (fun s r => s.request r.1 r.2) {}

variable {s t : Settings} {name : String} {v : Given}

theorem lookup_write_of_ne {other : String} (h : other ≠ name) (d : List (String × Given)) :
    (write name v d).lookup other = d.lookup other := by
  induction d with
  | nil => rfl
  | cons o d ih =>
    rw [write, List.map_cons, lookup_cons, lookup_cons, ← write, ih]
    by_cases ho : o.1 = name
    · rw [if_pos ho, if_neg h, if_neg (by rwa [ho])]
    · rw [if_neg ho]

theorem lookup_write_self {d : List (String × Given)} (h : name ∈ d.map (·.1)) :
    (write name v d).lookup name = some v := by
  induction d with
  | nil => cases h
  | cons o d ih =>
    rw [write, List.map_cons, lookup_cons, ← write]
    by_cases ho : o.1 = name
    · simp [ho]
    · rw [if_neg ho, if_neg (Ne.symm ho)]
      exact ih ((List.mem_cons.1 h).resolve_left (Ne.symm ho))

theorem map_fst_table (s : Settings) :
    s.table.map (·.1) = ["Echo", "Log", "MaxDepth", "ProtectBuiltins", "Style"] := rfl

theorem run_setFlag_of_ok {b : Bool} (hb : v.toBool = .ok b) (d : List (String × Given)) :
    (setFlag name v).run d =
      .ok (name ++ " mode: " ++ yesNo b) (write name (.text (yesNo b)) d) := by
  rw [setFlag, hb]
  rfl

theorem run_setFlag_of_error {e : SettingError} (he : v.toBool = .error e)
    (d : List (String × Given)) : (setFlag name v).run d = .error e d := by
  rw [setFlag, he]
  rfl

/-- Whoever has a setter stands in the table, so the second check refuses nothing that the first
accepts. -/
theorem mem_table_of_setter {f : Given → InPlace String} (h : setter? name = some f) (s : Settings) :
    name ∈ s.table.map (·.1) := by
  rw [map_fst_table]
  unfold setter? at h
  split_ifs at h with hflag hdepth hstyle
  · simp only [flagNames, List.mem_cons, List.not_mem_nil, or_false] at hflag
    rcases hflag with rfl | rfl | rfl <;> simp
  · simp [hdepth]
  · simp [hstyle]

theorem run_change (name : String) (v : Given) (d : List (String × Given)) :
    (change name v).run d =
      (match setter? name, d.lookup name with
        | some f, some _ => f v
        | _, _ => throw (.unknown name) : InPlace String).run d := rfl

theorem run_change_of_setter {f : Given → InPlace String} (h : setter? name = some f) (s : Settings) :
    (change name v).run s.table = (f v).run s.table := by
  obtain ⟨w, hw⟩ := Option.isSome_iff_exists.1 (isSome_lookup_iff.2 (mem_table_of_setter h s))
  rw [run_change, h, hw]

theorem run_change_of_unknown (h : setter? name = none) (d : List (String × Given)) :
    (change name v).run d = .error (.unknown name) d := by
  rw [run_change, h]
  rfl

theorem run_setDepth_of_ok {n : Int} (hv : v.toInt? = some n) (hn : 1 ≤ n ∧ n ≤ greatestMaxDepth)
    (d : List (String × Given)) : (setDepth v).run d =
      .ok ("MaxDepth: " ++ toString n) (write "MaxDepth" (.integer n) d) := by
  rw [setDepth, hv]
  simp only [if_pos hn]
  rfl

theorem run_setDepth_of_refused
    (h : ∀ n, v.toInt? = some n → ¬ (1 ≤ n ∧ n ≤ greatestMaxDepth)) (d : List (String × Given)) :
    (setDepth v).run d = .error .notDepth d := by
  rw [setDepth]
  rcases hv : v.toInt? with _ | n
  · rfl
  · simp only [if_neg (h n hv)]
    rfl

theorem run_setStyle (v : Given) (d : List (String × Given)) : (setStyle v).run d =
    .ok ("Style: " ++ trimQuotes v.toText) (write "Style" (.text (trimQuotes v.toText)) d) := rfl

/-! ### What is stored stays valid -/

theorem mem_names_of_lookup {d : List (String × Given)} (h : d.lookup name = some v) :
    name ∈ d.map (·.1) := isSome_lookup_iff.1 (by rw [h]; rfl)

section ValidTable

variable {d : List (String × Given)} (h : ValidTable d)

include h

theorem ValidTable.write_flag (hname : name ∈ flagNames) (b : Bool) :
    ValidTable (write name (.text (yesNo b)) d) where
  words other hother := by
    by_cases heq : other = name
    · subst heq
      obtain ⟨w, hw, -⟩ := h.words other hother
      exact ⟨yesNo b, lookup_write_self (mem_names_of_lookup hw), yesNo_cases b⟩
    · rw [lookup_write_of_ne heq]
      exact h.words other hother
  maxDepth := by
    have hne : "MaxDepth" ≠ name := by
      rintro rfl
      exact absurd hname (by decide)
    rw [lookup_write_of_ne hne]
    exact h.maxDepth

/-- What is written under no flag leaves the flags as they are. -/
theorem ValidTable.words_write (hname : name ∉ flagNames) (v : Given) :
    ∀ other ∈ flagNames, ∃ w, (write name v d).lookup other = some (.text w) ∧
      (w = "Yes" ∨ w = "No") := by
  intro other hother
  rw [lookup_write_of_ne (ne_of_mem_of_not_mem hother hname)]
  exact h.words other hother

/-- Whatever is requested, and whether it is refused or not, the table stays valid. -/
theorem ValidTable.change (name : String) (v : Given) :
    ValidTable (left ((change name v).run d)) := by
  rw [run_change]
  split
  · rename_i f _ hf _
    unfold setter? at hf
    split_ifs at hf with hflag hdepth hstyle <;> obtain rfl := Option.some.inj hf
    · rcases hb : v.toBool with e | b
      · rwa [run_setFlag_of_error hb]
      · rw [run_setFlag_of_ok hb]
        exact h.write_flag hflag b
    · by_cases hv : ∃ n, v.toInt? = some n ∧ 1 ≤ n ∧ n ≤ greatestMaxDepth
      · obtain ⟨n, hn, hrange⟩ := hv
        obtain ⟨m, hm, -⟩ := h.maxDepth
        rw [run_setDepth_of_ok hn hrange]
        exact ⟨h.words_write (by decide) _, n, lookup_write_self (mem_names_of_lookup hm), hrange⟩
      · rwa [run_setDepth_of_refused fun n hn hrange => hv ⟨n, hn, hrange⟩]
    · obtain ⟨n, hn, hrange⟩ := h.maxDepth
      have hother : "MaxDepth" ≠ "Style" := by decide
      rw [run_setStyle]
      exact ⟨h.words_write (by decide) _, n, (lookup_write_of_ne hother d).trans hn, hrange⟩
  · exact h

end ValidTable

theorem validTable_tableAfter (requests : List (String × String)) :
    ValidTable (tableAfter requests) :=
  List.foldlRecOn requests _ valid_default fun _ h r _ => h.change r.1 (.text r.2)

/-- A request that the settings accept writes one value into the table. -/
theorem Change.run_change {r : Settings × String} (h : Change s v name r) :
    (change name v).run s.table = .ok r.2 r.1.table := by
  cases h with
  | echo hb | log hb | protectBuiltins hb =>
    rw [run_change_of_setter (f := setFlag _) rfl, run_setFlag_of_ok hb]
    simp [write, table]
  | maxDepth hv hn =>
    rw [run_change_of_setter (f := setDepth) rfl, run_setDepth_of_ok hv hn]
    simp [write, table]
  | style =>
    rw [run_change_of_setter (f := setStyle) rfl, run_setStyle]
    simp [write, table]

/-- Why a request is refused. What the settings are plays no part. -/
inductive Refused (v : Given) : String → SettingError → Prop
  | flag {name : String} (hname : name ∈ flagNames) {e : SettingError} (h : v.toBool = .error e) :
      Refused v name e
  | maxDepth (h : ∀ n, v.toInt? = some n → ¬ (1 ≤ n ∧ n ≤ greatestMaxDepth)) :
      Refused v "MaxDepth" .notDepth
  | unknown {name : String} (h : setter? name = none) : Refused v name (.unknown name)

theorem toBool_of_bind_eq_error {e : SettingError} {f : Bool → Settings × String}
    (h : (do let b ← v.toBool; return f b : Except SettingError (Settings × String)) = .error e) :
    v.toBool = .error e := by
  rcases hb : v.toBool with e' | b
  · rw [hb] at h
    exact congrArg Except.error (Except.error.inj h)
  · rw [hb] at h
    cases h

theorem refused_of_set_eq_error {e : SettingError} (h : s.set name v = .error e) :
    Refused v name e := by
  unfold set at h
  split at h
  · exact .flag (by simp [flagNames]) (toBool_of_bind_eq_error h)
  · exact .flag (by simp [flagNames]) (toBool_of_bind_eq_error h)
  · exact .flag (by simp [flagNames]) (toBool_of_bind_eq_error h)
  · split at h
    · rename_i n hv
      split at h
      · cases h
      · rename_i hn
        cases h
        refine .maxDepth fun m hm => ?_
        rw [hv] at hm
        cases hm
        exact hn
    · rename_i hv
      cases h
      exact .maxDepth fun m hm => by
        rw [hv] at hm
        cases hm
  · cases h
  · rename_i hecho hlog hprotect hdepth hstyle
    cases h
    have hflags : name ∉ flagNames := by
      simp [flagNames]
      exact ⟨hecho, hlog, hprotect⟩
    exact .unknown (by rw [setter?, if_neg hflags, if_neg hdepth, if_neg hstyle])

/-- A request that the settings refuse leaves the table as it was. -/
theorem Refused.run_change {e : SettingError} (h : Refused v name e) (s : Settings) :
    (change name v).run s.table = .error e s.table := by
  cases h with
  | flag hname he =>
    rw [run_change_of_setter (if_pos hname), run_setFlag_of_error he]
  | maxDepth hrefused =>
    rw [run_change_of_setter (f := setDepth) rfl, run_setDepth_of_refused hrefused]
  | unknown hnone => rw [run_change_of_unknown hnone]

/-! ## Setting again what is stored -/

theorem toBool_yesNo (b : Bool) : (Given.text (yesNo b)).toBool = .ok b := by
  cases b <;> decide +kernel

theorem toInt?_toText {n : Int} (hn : 1 ≤ n ∧ n ≤ greatestMaxDepth) :
    (Given.text (Given.integer n).toText).toInt? = some n := by
  obtain ⟨m, rfl⟩ := Int.eq_ofNat_of_zero_le (by omega : 0 ≤ n)
  have hsize : m < 10 ^ mostDigits := by
    have hle : m ≤ 5000 := Int.ofNat_le.1 hn.2
    calc m < 10 ^ 4 := by omega
      _ ≤ 10 ^ mostDigits := Nat.pow_le_pow_right (by decide) (by decide)
  have htext : (Given.integer (m : Int)).toText = toString m := rfl
  have hread : (Given.text (toString m)).toInt? = Given.integerOfText? (toString m) := rfl
  rw [htext, hread]
  exact Given.integerOfText?_toString hsize

theorem Change.mem_table {r : Settings × String} (h : Change s v name r) :
    name ∈ s.table.map (·.1) := by
  cases h <;> simp [map_fst_table]

/-- What an accepted request writes is accepted again, and leaves the settings as they are. -/
theorem Change.rewrites {r : Settings × String} (h : Change s v name r) : ∃ w,
    r.1.table = write name w s.table ∧ ∃ again, r.1.set name (.text w.toText) = .ok (r.1, again) := by
  cases h with
  | @echo b =>
    exact ⟨.text (yesNo b), by simp [write, table], _, set_eq_ok_iff.2 (.echo (toBool_yesNo b))⟩
  | @log b =>
    exact ⟨.text (yesNo b), by simp [write, table], _, set_eq_ok_iff.2 (.log (toBool_yesNo b))⟩
  | @protectBuiltins b =>
    exact ⟨.text (yesNo b), by simp [write, table], _,
      set_eq_ok_iff.2 (.protectBuiltins (toBool_yesNo b))⟩
  | @maxDepth n hv hn =>
    exact ⟨.integer n, by simp [write, table], _, set_eq_ok_iff.2 (.maxDepth (toInt?_toText hn) hn)⟩
  | style =>
    refine ⟨.text (trimQuotes v.toText), by simp [write, table], "Style: " ++ trimQuotes v.toText,
      set_eq_ok_iff.2 ?_⟩
    have hstyle := Change.style (s := { s with style := trimQuotes v.toText })
      (v := .text (trimQuotes v.toText))
    rwa [Given.toText, trimQuotes_trimQuotes] at hstyle

/-- What becomes of the settings when a request is made: it is refused and nothing is changed, or one
value is written that could be written again. -/
theorem exists_outcome (s : Settings) (name : String) (v : Given) :
    (∃ e, s.set name v = .error e ∧ (change name v).run s.table = .error e s.table) ∨
    ∃ t said, s.set name v = .ok (t, said) ∧ (change name v).run s.table = .ok said t.table ∧
      (∀ other, other ≠ name → t.table.lookup other = s.table.lookup other) ∧
      ∃ w again, t.table.lookup name = some w ∧ t.set name (.text w.toText) = .ok (t, again) := by
  rcases hset : s.set name v with e | ⟨t, said⟩
  · exact .inl ⟨e, rfl, (refused_of_set_eq_error hset).run_change s⟩
  · have hchange := set_eq_ok_iff.1 hset
    obtain ⟨w, hwrite, again, hagain⟩ := hchange.rewrites
    refine .inr ⟨t, said, rfl, hchange.run_change, fun other hother => ?_, w, again, ?_, hagain⟩
    · rw [hwrite, lookup_write_of_ne hother]
    · rw [hwrite, lookup_write_self hchange.mem_table]

/-- A row of requests does to the table what it does to the settings. -/
theorem tableAfter_eq (requests : List (String × String)) :
    tableAfter requests = (settingsAfter requests).table := by
  induction requests using List.reverseRecOn with
  | nil => rfl
  | append_singleton requests r ih =>
    rw [tableAfter, settingsAfter, List.foldl_append, List.foldl_append, ← tableAfter,
      ← settingsAfter, ih, List.foldl_cons, List.foldl_nil, List.foldl_cons, List.foldl_nil, request]
    rcases exists_outcome (settingsAfter requests) r.1 (.text r.2) with
      ⟨e, hset, hrun⟩ | ⟨t, said, hset, hrun, -⟩
    · rw [hset, hrun, left]
    · rw [hset, hrun, left]

/-! ## Loading -/

/-- Requests one after another, the values without the quotes around them. -/
def setEach (s : Settings) (options : List (String × String)) : Except SettingError Settings :=
  options.foldlM (fun s o => (s.set o.1 (.text (trimQuotes o.2))).map (·.1)) s

/-- The section of a file's text has these options, with the references in their values replaced. -/
def Yields (text : String) (options : List (String × String)) : Prop :=
  ∃ file raw, Ini.read text = .ok file ∧ Ini.section? file sectionName = some raw ∧
    raw.mapM (fun o => (Ini.expand raw Ini.greatestDepth o.2.toList).map
      fun v => (o.1, String.ofList v)) = .ok options

theorem setOption_eq {raw : List (String × String)} {o : String × String} {v : List Char}
    (h : Ini.expand raw Ini.greatestDepth o.2.toList = .ok v) : setOption raw s o =
      ((s.set o.1 (.text (trimQuotes (String.ofList v)))).map (·.1)).mapError .setting := by
  unfold setOption
  rw [h]
  change ((s.set o.1 (.text (trimQuotes (String.ofList v)))).mapError LoadError.setting >>=
    fun r => pure r.1) = _
  cases s.set o.1 (.text (trimQuotes (String.ofList v))) <;> rfl

/-- Options that can be read are set one after another, as requests are. -/
theorem foldlM_setOption {raw : List (String × String)} :
    ∀ {rest : List (String × String)} {options : List (String × String)} {s : Settings},
      rest.mapM (fun o => (Ini.expand raw Ini.greatestDepth o.2.toList).map
        fun v => (o.1, String.ofList v)) = .ok options →
      rest.foldlM (setOption raw) s = (setEach s options).mapError .setting
  | [], options, s, h => by
    cases h
    rfl
  | o :: rest, options, s, h => by
    rw [List.mapM_cons] at h
    obtain ⟨p, hp, h⟩ := bind_eq_ok_iff.1 h
    obtain ⟨ps, hps, h⟩ := bind_eq_ok_iff.1 h
    cases h
    rcases hv : Ini.expand raw Ini.greatestDepth o.2.toList with e | v
    · rw [hv] at hp
      cases hp
    · rw [hv] at hp
      cases hp
      rcases hset : (s.set o.1 (.text (trimQuotes (String.ofList v)))).map (·.1) with e | t
      · rw [foldlM_cons_of_error (by rw [setOption_eq hv, hset]; rfl), setEach,
          foldlM_cons_of_error hset]
        rfl
      · rw [foldlM_cons_of_ok (by rw [setOption_eq hv, hset]; rfl), foldlM_setOption hps, setEach,
          setEach, foldlM_cons_of_ok hset]

theorem load_eq_setEach {text : String} {options : List (String × String)} (h : Yields text options) :
    load (some text) = (setEach {} options).mapError .setting := by
  obtain ⟨file, raw, hread, hsection, hoptions⟩ := h
  rw [load, hread]
  change ofFile file = _
  rw [ofFile, hsection]
  exact foldlM_setOption hoptions

/-- Requests one after another fail with the first that is refused. -/
theorem setEach_eq_error_iff {options : List (String × String)} {e : SettingError} :
    setEach s options = .error e ↔ ∃ before name value after t,
      options = before ++ (name, value) :: after ∧ setEach s before = .ok t ∧
        t.set name (.text (trimQuotes value)) = .error e := by
  rw [setEach, foldlM_eq_error_iff]
  constructor
  · rintro ⟨before, ⟨name, value⟩, after, t, heq, hbefore, h⟩
    refine ⟨before, name, value, after, t, heq, hbefore, ?_⟩
    rcases hset : t.set name (.text (trimQuotes value)) with e' | r
    · rw [hset] at h
      cases h
      rfl
    · rw [hset] at h
      cases h
  · rintro ⟨before, name, value, after, t, heq, hbefore, h⟩
    exact ⟨before, (name, value), after, t, heq, hbefore, by rw [h]; rfl⟩

/-- Whatever requests were made of the defaults, a further one is refused and changes nothing, or
changes no setting but the one that it names, and setting that one again to the text of what is stored
is accepted and changes nothing. A settings file is loaded by requests, one for each option, the value
without the quotes around it, and fails when one of them is refused. -/
theorem requests_atomic :
    (∀ (requests : List (String × String)) (name value : String),
      tableAfter requests = (settingsAfter requests).table ∧
      ((∃ e, (settingsAfter requests).set name (.text value) = .error e ∧
        (change name (.text value)).run (tableAfter requests) = .error e (tableAfter requests)) ∨
      ∃ t said, (settingsAfter requests).set name (.text value) = .ok (t, said) ∧
        (change name (.text value)).run (tableAfter requests) = .ok said t.table ∧
        (∀ other, other ≠ name → t.table.lookup other = (tableAfter requests).lookup other) ∧
        ∃ w again, t.table.lookup name = some w ∧
          t.set name (.text w.toText) = .ok (t, again))) ∧
    ∀ (text : String) (options : List (String × String)), Yields text options →
      load (some text) = (setEach {} options).mapError .setting ∧
      ∀ e, load (some text) = .error e ↔ ∃ before name value after s refusal,
        options = before ++ (name, value) :: after ∧ setEach {} before = .ok s ∧
          s.set name (.text (trimQuotes value)) = .error refusal ∧ e = .setting refusal := by
  constructor
  · intro requests name value
    rw [tableAfter_eq]
    exact ⟨rfl, exists_outcome _ name (.text value)⟩
  · intro text options h
    have hload := load_eq_setEach h
    refine ⟨hload, fun e => ?_⟩
    rw [hload]
    constructor
    · intro he
      rcases heach : setEach {} options with refusal | t
      · rw [heach] at he
        cases he
        obtain ⟨before, name, value, after, s, heq, hbefore, hset⟩ := setEach_eq_error_iff.1 heach
        exact ⟨before, name, value, after, s, refusal, heq, hbefore, hset, rfl⟩
      · rw [heach] at he
        cases he
    · rintro ⟨before, name, value, after, s, refusal, heq, hbefore, hset, rfl⟩
      rw [setEach_eq_error_iff.2 ⟨before, name, value, after, s, heq, hbefore, hset⟩]
      rfl

/-- A file with a reference in a quoted value, and a limit of nesting that is out of range. -/
def echoFile : String :=
  "[ENV]\nEcho = off\nStyle = \"echo-%(Echo)s\"\nMaxDepth = 0\nLog = on\n"

/-- The options of `echoFile` before the one that is refused. -/
def echoOptions : List (String × String) := [("Echo", "off"), ("Style", "\"echo-off\"")]

/-- What the file asks before the limit of nesting is done, and the file fails with the limit. -/
theorem requests_atomic_echoFile :
    Yields echoFile (echoOptions ++ [("MaxDepth", "0"), ("Log", "on")]) ∧
      setEach {} echoOptions = .ok { echo := false, style := "echo-off" } ∧
      load (some echoFile) = .error (.setting .notDepth) := by
  have hyields : Yields echoFile (echoOptions ++ [("MaxDepth", "0"), ("Log", "on")]) :=
    ⟨_, _, rfl, rfl, rfl⟩
  have hbefore : setEach {} echoOptions = .ok { echo := false, style := "echo-off" } := by
    decide +kernel
  have hrefused : ({ echo := false, style := "echo-off" } : Settings).set "MaxDepth"
      (.text (trimQuotes "0")) = .error .notDepth := by
    decide +kernel
  obtain ⟨-, hfails⟩ := requests_atomic.2 _ _ hyields
  exact ⟨hyields, hbefore, (hfails (.setting .notDepth)).2 ⟨echoOptions, "MaxDepth", "0",
    [("Log", "on")], _, .notDepth, rfl, hbefore, hrefused, rfl⟩⟩

end Settings

end Reckon
