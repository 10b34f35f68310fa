import Reckon.Proofs.Checks
import Reckon.Proofs.Table
import Reckon.Settings.Load

/-!
# Settings that come about

Settings are changed one at a time, and `Change` says what becomes of them (`set_eq_ok_iff`). What is
stored of them is a table, with a word for each truth value (`table`). From the defaults no row of
changes leads to other words than `Yes` and `No`, nor to a limit of nesting out of range, and neither
does a settings file (`Reached.valid`).
-/

namespace Reckon.Settings

variable {s t : Settings} {name : String} {v : Given}

/-- A setting of the given name is changed: the settings after it, and what is said. -/
inductive Change (s : Settings) (v : Given) : String → Settings × String → Prop
  | echo {b : Bool} (hb : v.toBool = .ok b) :
      Change s v "Echo" ({ s with echo := b }, "Echo mode: " ++ yesNo b)
  | log {b : Bool} (hb : v.toBool = .ok b) :
      Change s v "Log" ({ s with log := b }, "Log mode: " ++ yesNo b)
  | protectBuiltins {b : Bool} (hb : v.toBool = .ok b) :
      Change s v "ProtectBuiltins"
        ({ s with protectBuiltins := b }, "ProtectBuiltins mode: " ++ yesNo b)
  | maxDepth {n : Int} (hv : v.toInt? = some n) (hn : 1 ≤ n ∧ n ≤ greatestMaxDepth) :
      Change s v "MaxDepth" ({ s with maxDepth := n }, "MaxDepth: " ++ toString n)
  | style :
      Change s v "Style"
        ({ s with style := trimQuotes v.toText }, "Style: " ++ trimQuotes v.toText)

theorem set_eq_ok_iff {r : Settings × String} : s.set name v = .ok r ↔ Change s v name r := by
  constructor
  · intro h
    unfold set at h
    split at h
    · obtain ⟨b, hb, hr⟩ := bind_eq_ok_iff.1 h
      cases hr
      exact .echo hb
    · obtain ⟨b, hb, hr⟩ := bind_eq_ok_iff.1 h
      cases hr
      exact .log hb
    · obtain ⟨b, hb, hr⟩ := bind_eq_ok_iff.1 h
      cases hr
      exact .protectBuiltins hb
    · split at h
      · rename_i n hv
        split at h
        · rename_i hn
          cases h
          exact .maxDepth hv hn
        · cases h
      · cases h
    · cases h
      exact .style
    · cases h
  · intro h
    cases h with
    | echo hb | log hb | protectBuiltins hb =>
      simp only [set, hb]
      rfl
    | maxDepth hv hn => simp only [set, hv, if_pos hn]
    | style => rfl

/-- The settings as a table: under each name the value that is stored. -/
def table (s : Settings) : List (String × Given) := [
  ("Echo", .text (yesNo s.echo)),
  ("Log", .text (yesNo s.log)),
  ("MaxDepth", .integer s.maxDepth),
  ("ProtectBuiltins", .text (yesNo s.protectBuiltins)),
  ("Style", .text s.style)]

/-- The settings that are words for yes and no. -/
def flagNames : List String := ["Echo", "Log", "ProtectBuiltins"]

/-- One of two words is stored for each truth value, and a limit of nesting in range. -/
structure ValidTable (d : List (String × Given)) : Prop where
  words : ∀ name ∈ flagNames, ∃ w, d.lookup name = some (.text w) ∧ (w = "Yes" ∨ w = "No")
  maxDepth : ∃ n : Int, d.lookup "MaxDepth" = some (.integer n) ∧ 1 ≤ n ∧ n ≤ 5000

/-- What is stored of the settings is valid. -/
def Valid (s : Settings) : Prop := ValidTable s.table

theorem yesNo_cases (b : Bool) : yesNo b = "Yes" ∨ yesNo b = "No" := by
  cases b <;> simp [yesNo]

theorem yesNo_beq_yes (b : Bool) : (yesNo b == "Yes") = b := by
  cases b <;> rfl

theorem valid_iff : s.Valid ↔ 1 ≤ s.maxDepth ∧ s.maxDepth ≤ 5000 := by
  constructor
  · rintro ⟨-, n, hn, hrange⟩
    obtain rfl : s.maxDepth = n := Given.integer.inj (Option.some.inj hn)
    exact hrange
  · refine fun h => ⟨fun name hname => ?_, s.maxDepth, rfl, h⟩
    simp only [flagNames, List.mem_cons, List.not_mem_nil, or_false] at hname
    rcases hname with rfl | rfl | rfl
    · exact ⟨_, rfl, yesNo_cases s.echo⟩
    · exact ⟨_, rfl, yesNo_cases s.log⟩
    · exact ⟨_, rfl, yesNo_cases s.protectBuiltins⟩

theorem valid_default : Valid {} := valid_iff.2 (by decide)

theorem Valid.change (h : s.Valid) {r : Settings × String} (hr : Change s v name r) :
    r.1.Valid := by
  rw [valid_iff] at h ⊢
  cases hr with
  | maxDepth _ hn => exact hn
  | echo | log | protectBuiltins | style => exact h

/-- The settings that come about: the defaults, those of a file, and those that a change leaves. -/
inductive Reached : Settings → Prop
  | initial : Reached {}
  | loaded {file : Option String} {s : Settings} (h : load file = .ok s) : Reached s
  | set {s t : Settings} {name said : String} {v : Given} (h : Reached s)
      (hs : s.set name v = .ok (t, said)) : Reached t

theorem Valid.setOption (h : s.Valid) {options : List (String × String)} {o : String × String}
    (ho : setOption options s o = .ok t) : t.Valid := by
  obtain ⟨_, -, ho⟩ := bind_eq_ok_iff.1 ho
  obtain ⟨r, hr, ho⟩ := bind_eq_ok_iff.1 ho
  cases ho
  exact h.change (set_eq_ok_iff.1 (mapError_eq_ok_iff.1 hr))

theorem valid_of_load {file : Option String} (h : load file = .ok s) : s.Valid := by
  unfold load at h
  split at h
  · cases h
    exact valid_default
  · obtain ⟨f, -, h⟩ := bind_eq_ok_iff.1 h
    unfold ofFile at h
    split at h
    · cases h
      exact valid_default
    · exact foldlM_keeps (fun _ _ _ hs ho => hs.setOption ho) valid_default h

theorem Reached.valid (h : s.Reached) : s.Valid := by
  induction h with
  | initial => exact valid_default
  | loaded h => exact valid_of_load h
  | set _ hs ih => exact ih.change (set_eq_ok_iff.1 hs)

end Reckon.Settings
