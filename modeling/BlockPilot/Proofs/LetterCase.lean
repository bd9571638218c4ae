import BlockPilot.Text.Blank
import BlockPilot.Text.Lowercase

/-!
# Lower case and ASCII

Full lower case is the lower case of ASCII wherever it comes out in ASCII without the letter k
(`lowercaseFrom_of_ascii`): the only characters outside ASCII whose lower case has an ASCII letter are the
Kelvin sign, which maps to k, and the dotted capital I, which maps to an i with a combining dot.
-/

namespace BlockPilot.Text

/-! ## White space -/

theorem trimChars_eq_self {s : List Char} (h : ∀ c ∈ s, isBlank c = false) : trimChars s = s := by
  have keeps {t : List Char} (ht : ∀ c ∈ t, isBlank c = false) : t.dropWhile isBlank = t := by
    cases t with
    | nil => rfl
    | cons c t => rw [List.dropWhile_cons_of_neg (by simp [ht c List.mem_cons_self])]
  rw [trimChars, dropEndWhile, keeps h, keeps (fun c hc => h c (List.mem_reverse.1 hc)), List.reverse_reverse]

/-! ## Single characters -/

/-- In front of the letters a character is its own lower case. -/
theorem lowercaseChar_eq_self {c : Char} (h : c.toNat < 65) : lowercaseChar c = c := by
  have hruns : ∀ run ∈ lowercaseRuns, 65 ≤ run.first := by decide +kernel
  have hnone : lowercaseRuns.find? (·.covers c.toNat) = none := by
    rw [List.find?_eq_none]
    intro run hrun
    have := hruns run hrun
    simp [CaseRun.covers]
    omega
  rw [lowercaseChar, hnone]

/-- The characters of ASCII in upper case map to ASCII, the Kelvin sign to k, and all other characters to
characters outside ASCII. -/
theorem mem_lowercaseRuns {run : CaseRun} (h : run ∈ lowercaseRuns) :
    run.last ≤ 0x5A ∨ run.first = 0x212A ∧ run.last = 0x212A ∧ run.target = 0x6B ∨
      128 ≤ run.target ∧ (run.target + (run.last - run.first) < 0xD800 ∨
        0xDFFF < run.target ∧ run.target + (run.last - run.first) < 0x110000) := by
  revert run
  decide +kernel

theorem toNat_ofNat {n : Nat} (h : n < 0xD800 ∨ 0xDFFF < n ∧ n < 0x110000) : (Char.ofNat n).toNat = n := by
  have hvalid : n.isValidChar := h
  rw [Char.ofNat, dif_pos hvalid]
  rfl

/-- A character whose lower case is in ASCII and no k is in ASCII itself. -/
theorem ascii_of_lowercaseChar {c : Char} (h : (lowercaseChar c).toNat < 128) (hk : lowercaseChar c ≠ 'k') :
    c.toNat < 128 := by
  unfold lowercaseChar at h hk
  split at h
  · rename_i run hrun
    have hcovers : run.covers c.toNat = true := by simpa using List.find?_some hrun
    simp only [CaseRun.covers, Bool.and_eq_true, decide_eq_true_eq] at hcovers
    obtain ⟨⟨hfirst, hlast⟩, -⟩ := hcovers
    rcases mem_lowercaseRuns (List.mem_of_find?_eq_some hrun) with
      hupper | ⟨hkelvin, hsame, htarget⟩ | ⟨hforeign, hvalid⟩
    · omega
    · have hzero : c.toNat - run.first = 0 := by omega
      rw [hrun] at hk
      simp only [htarget, hzero] at hk
      exact absurd rfl hk
    · rw [toNat_ofNat (by omega)] at h
      omega
  · exact h

/-- In ASCII the full lower case is that of ASCII. -/
theorem lowercaseChar_of_ascii {c : Char} (h : c.toNat < 128) : lowercaseChar c = c.toLower := by
  have hall : ∀ n < 128, lowercaseChar (Char.ofNat n) = (Char.ofNat n).toLower := by decide +kernel
  have hc := hall c.toNat h
  rwa [Char.ofNat_toNat] at hc

/-- Outside of ASCII a character is its own lower case of ASCII. -/
theorem toLower_of_not_ascii {c : Char} (h : 128 ≤ c.toNat) : c.toLower = c := by
  unfold Char.toLower
  split
  · rename_i hupper
    have hz : c.toNat ≤ 'Z'.toNat := hupper.2
    have : 'Z'.toNat = 90 := rfl
    omega
  · rfl

/-- What holds of ASCII and of every character that is its own lower case holds of all characters. -/
theorem of_toLower {P : Char → Prop} (hascii : ∀ n < 128, P (Char.ofNat n)) (hself : ∀ c, c.toLower = c → P c)
    (c : Char) : P c := by
  by_cases h : c.toNat < 128
  · simpa using hascii c.toNat h
  · exact hself c (toLower_of_not_ascii (by omega))

@[simp] theorem toLower_toLower (c : Char) : c.toLower.toLower = c.toLower := by
  revert c
  refine of_toLower (by decide +kernel) ?_
  intro c h
  rw [h, h]

@[simp] theorem toUpper_toLower (c : Char) : c.toLower.toUpper = c.toUpper := by
  revert c
  refine of_toLower (by decide +kernel) ?_
  intro c h
  rw [h]

@[simp] theorem isBlank_toLower (c : Char) : isBlank c.toLower = isBlank c := by
  revert c
  refine of_toLower (by decide +kernel) ?_
  intro c h
  rw [h]

theorem toLower_eq_underscore (c : Char) : c.toLower = '_' ↔ c = '_' := by
  revert c
  refine of_toLower (by decide +kernel) ?_
  intro c h
  rw [h]

/-! ## Texts -/

/-- The case of a text does not matter to the white space around it. -/
theorem trimChars_toLower (s : List Char) : trimChars (s.map Char.toLower) = (trimChars s).map Char.toLower := by
  have hblank : isBlank ∘ Char.toLower = isBlank := funext isBlank_toLower
  rw [trimChars, trimChars, dropEndWhile, dropEndWhile, List.dropWhile_map, hblank, ← List.map_reverse,
    List.dropWhile_map, hblank, List.map_reverse]

/-- In front of the letters a text begins as its lower case does. -/
theorem lowercase_head {c : Char} (h : c.toNat < 65) (t : List Char) :
    ∃ u, lowercase (String.ofList (c :: t)) = String.ofList (c :: u) := by
  have hsigma : c ≠ 'Σ' := by
    rintro rfl
    exact absurd h (by decide)
  have hdotted : c ≠ 'İ' := by
    rintro rfl
    exact absurd h (by decide)
  refine ⟨lowercaseFrom [c] t, ?_⟩
  rw [lowercase, String.toList_ofList, lowercaseFrom, if_neg hsigma, if_neg hdotted, lowercaseChar_eq_self h]
  rfl

/-- Where the full lower case is in ASCII and has no k, it is that of ASCII. -/
theorem lowercaseFrom_of_ascii (before s : List Char)
    (h : ∀ c ∈ lowercaseFrom before s, c.toNat < 128 ∧ c ≠ 'k') :
    lowercaseFrom before s = s.map Char.toLower := by
  induction s generalizing before with
  | nil => rfl
  | cons c rest ih =>
    rw [lowercaseFrom] at h ⊢
    have hrest : lowercaseFrom (c :: before) rest = rest.map Char.toLower :=
      ih (c :: before) fun x hx => h x (List.mem_append_right _ hx)
    have hsigma : c ≠ 'Σ' := by
      rintro rfl
      cases hfinal : meetsCased before && !meetsCased rest
      all_goals
        simp only [hfinal] at h
        exact absurd (h _ List.mem_cons_self).1 (by decide)
    have hdotted : c ≠ 'İ' := by
      rintro rfl
      exact absurd (h (Char.ofNat 0x307) (by simp)).1 (by decide)
    rw [if_neg hsigma, if_neg hdotted] at h ⊢
    obtain ⟨hascii, hk⟩ := h (lowercaseChar c) List.mem_cons_self
    rw [hrest, lowercaseChar_of_ascii (ascii_of_lowercaseChar hascii hk)]
    rfl

theorem lowercase_of_ascii {s : String} (h : ∀ c ∈ (lowercase s).toList, c.toNat < 128 ∧ c ≠ 'k') :
    lowercase s = lowercaseAscii s := by
  rw [lowercase, String.toList_ofList] at h
  rw [lowercase, lowercaseAscii, lowercaseFrom_of_ascii [] s.toList h]

end BlockPilot.Text
