import BlockPilot.Storage.Files

/-!
# Bytes of ASCII

A character of ASCII is one byte in UTF-8, so that such texts are in the order of their bytes and are read
back byte by byte.
-/

namespace BlockPilot

theorem utf8EncodeChar_of_ascii {c : Char} (h : c.toNat < 128) :
    String.utf8EncodeChar c = [c.val.toUInt8] := by
  refine String.utf8EncodeChar_eq_singleton (Char.utf8Size_eq_one_iff.2 ?_)
  rw [UInt32.le_iff_toNat_le]
  exact Nat.le_of_lt_succ h

theorem toNat_byte {c : Char} (h : c.toNat < 128) : c.val.toUInt8.toNat = c.toNat := by
  have h : c.val.toNat < 128 := h
  rw [UInt32.toNat_toUInt8]
  exact Nat.mod_eq_of_lt (by omega)

/-- The bytes of a character beyond ASCII are no bytes of ASCII. -/
theorem utf8EncodeChar_of_not_ascii {c : Char} (h : 128 ≤ c.toNat) :
    ∀ b ∈ String.utf8EncodeChar c, 128 ≤ b.toNat := by
  have hval : ¬ c.val.toNat ≤ 127 := by
    have : 128 ≤ c.val.toNat := h
    omega
  intro b hb
  simp only [String.utf8EncodeChar, hval, if_false] at hb
  split at hb
  · simp only [List.mem_cons, List.not_mem_nil, or_false] at hb
    rcases hb with rfl | rfl <;> rw [UInt8.toNat_ofNat'] <;> omega
  · split at hb
    · simp only [List.mem_cons, List.not_mem_nil, or_false] at hb
      rcases hb with rfl | rfl | rfl <;> rw [UInt8.toNat_ofNat'] <;> omega
    · simp only [List.mem_cons, List.not_mem_nil, or_false] at hb
      rcases hb with rfl | rfl | rfl | rfl <;> rw [UInt8.toNat_ofNat'] <;> omega

/-- A text has the characters of its bytes of ASCII. -/
theorem mem_of_byte {c : Char} (hc : c.toNat < 128) {s : List Char}
    (h : c.val.toUInt8 ∈ s.flatMap String.utf8EncodeChar) : c ∈ s := by
  obtain ⟨d, hd, hbyte⟩ := List.mem_flatMap.1 h
  rcases Nat.lt_or_ge d.toNat 128 with hascii | hbeyond
  · rw [utf8EncodeChar_of_ascii hascii, List.mem_singleton] at hbyte
    have hsame : c.toNat = d.toNat := by rw [← toNat_byte hc, hbyte, toNat_byte hascii]
    rwa [Char.toNat_inj.1 hsame]
  · have := utf8EncodeChar_of_not_ascii hbeyond _ hbyte
    rw [toNat_byte hc] at this
    omega

theorem toNat_lt_of_isAlphanum {c : Char} (h : c.isAlphanum = true) : c.toNat < 128 := by
  have h : ((decide (c.val ≥ 'A'.val ∧ c.val ≤ 'Z'.val) || c.val ≥ 'a'.val && c.val ≤ 'z'.val) ||
      c.val ≥ '0'.val && c.val ≤ '9'.val) = true := h
  have hends : 'Z'.val.toNat = 90 ∧ 'z'.val.toNat = 122 ∧ '9'.val.toNat = 57 := ⟨rfl, rfl, rfl⟩
  simp only [Bool.or_eq_true, Bool.and_eq_true, decide_eq_true_eq, UInt32.le_iff_toNat_le] at h
  show c.val.toNat < 128
  omega

/-- Texts of ASCII are in the order of their bytes. -/
theorem bytesOfText_lt {a b : String} (ha : ∀ c ∈ a.toList, c.toNat < 128)
    (hb : ∀ c ∈ b.toList, c.toNat < 128) (h : a < b) : bytesOfText a < bytesOfText b := by
  rw [String.lt_iff] at h
  unfold bytesOfText
  generalize a.toList = as at *
  generalize b.toList = bs at *
  induction as generalizing bs with
  | nil =>
    cases bs with
    | nil => cases h
    | cons d bs =>
      rw [List.flatMap_cons, utf8EncodeChar_of_ascii (hb d (by simp))]
      exact .nil
  | cons c as ih =>
    cases bs with
    | nil => cases h
    | cons d bs =>
      have hc := ha c (by simp)
      have hd := hb d (by simp)
      rw [List.flatMap_cons, List.flatMap_cons, utf8EncodeChar_of_ascii hc, utf8EncodeChar_of_ascii hd]
      simp only [List.cons_append, List.nil_append, List.cons_lt_cons_iff] at h ⊢
      rcases h with hlt | ⟨rfl, hrest⟩
      · left
        rw [UInt8.lt_iff_toNat_lt, toNat_byte hc, toNat_byte hd]
        exact hlt
      · exact Or.inr ⟨rfl, ih (fun x hx => ha x (by simp [hx])) bs (fun x hx => hb x (by simp [hx])) hrest⟩

/-- The text whose characters are the bytes. -/
def asciiText (bytes : List UInt8) : List Char := bytes.map fun b => Char.ofNat b.toNat

theorem asciiText_append (a b : List UInt8) : asciiText (a ++ b) = asciiText a ++ asciiText b :=
  List.map_append

theorem asciiText_char {c : Char} (h : c.toNat < 128) : asciiText (String.utf8EncodeChar c) = [c] := by
  rw [utf8EncodeChar_of_ascii h, asciiText, List.map_singleton, toNat_byte h, Char.ofNat_toNat]

/-- A text of ASCII is read back from its bytes. -/
theorem asciiText_bytes {s : List Char} (h : ∀ c ∈ s, c.toNat < 128) :
    asciiText (s.flatMap String.utf8EncodeChar) = s := by
  induction s with
  | nil => rfl
  | cons c s ih =>
    rw [List.flatMap_cons, asciiText_append, asciiText_char (h c (by simp)),
      ih fun d hd => h d (by simp [hd])]
    rfl

end BlockPilot
