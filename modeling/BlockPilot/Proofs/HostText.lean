import BlockPilot.Proofs.AsciiBytes
import BlockPilot.Url.Host

/-!
# Controls in hosts

No host holds a space or a control of ASCII. Such a character stays what it is through all that is done to a
domain name, the decoding, the mapping, the composition, and Punycode in both directions, until it is refused
(`Domain.toAscii?_eq_none`). An address in brackets ends with its bracket. So a text that ends with such a
character names no host (`Host.parse_blank`).
-/

namespace BlockPilot

/-! ## Composition -/

namespace Text

/-- No composition takes or makes a control of ASCII or a space. -/
theorem compositions_spec : ∀ entry ∈ compositions, 0x20 < entry.1 ∧ ∀ n ∈ entry.2, 0x20 < n := by
  decide +kernel

theorem parts_of_le {n : Nat} (h : n ≤ 0x20) (depth : Nat) : parts depth n = [n] := by
  have hsyllable : syllableParts? n = none := if_pos (Or.inl (by unfold firstSyllable; omega))
  have hlookup : compositions.lookup n = none := by
    rw [List.lookup_eq_none_iff]
    intro entry hentry
    have := (compositions_spec entry hentry).1
    simp
    omega
  cases depth with
  | zero => rfl
  | succ depth => rw [parts, hsyllable, hlookup]

theorem mem_insertMark {m n : Nat} {s : List Nat} : m ∈ insertMark n s ↔ m = n ∨ m ∈ s := by
  induction s with
  | nil => simp [insertMark]
  | cons d s ih =>
    rw [insertMark]
    split
    · exact List.mem_cons
    · rw [List.mem_cons, ih, List.mem_cons]
      exact or_left_comm

theorem mem_foldr_insertMark {m : Nat} {s : List Nat} : m ∈ s.foldr insertMark [] ↔ m ∈ s := by
  induction s with
  | nil => rfl
  | cons d s ih => rw [List.foldr_cons, mem_insertMark, ih, List.mem_cons]

/-- The two characters that make up a single one are behind the space. -/
theorem lt_of_pair? {a b both : Nat} (h : pair? a b = some both) : 0x20 < a ∧ 0x20 < b := by
  rw [pair?, Option.or_eq_some_iff] at h
  rcases h with h | ⟨-, h⟩
  · unfold syllable? firstLead firstVowel leads vowels firstSyllable noTail tails at h
    split at h
    · omega
    · split at h
      · omega
      · cases h
  · obtain ⟨entry, hentry, -⟩ := Option.map_eq_some_iff.1 h
    have hparts : entry.2 = [a, b] := by simpa using List.find?_some hentry
    have hspec := (compositions_spec entry (List.mem_of_find?_eq_some hentry)).2
    exact ⟨hspec a (by simp [hparts]), hspec b (by simp [hparts])⟩

theorem mem_joinFrom {n : Nat} (hn : n ≤ 0x20) {rest : List Nat} {starter : Nat} {marks : List Nat}
    (h : n = starter ∨ n ∈ marks ∨ n ∈ rest) : n ∈ joinFrom starter marks rest := by
  induction rest generalizing starter marks with
  | nil =>
    rw [joinFrom.eq_def]
    simpa using h
  | cons d rest ih =>
    rw [joinFrom.eq_def]
    dsimp only
    split
    · -- the two that are joined are other characters
      rename_i both hboth
      have := lt_of_pair? (Option.ite_none_left_eq_some.1 hboth).2
      rw [List.mem_cons] at h
      rcases h with rfl | h | rfl | h
      · omega
      · exact ih (Or.inr (Or.inl h))
      · omega
      · exact ih (Or.inr (Or.inr h))
    · rw [List.mem_cons] at h
      split
      · simp only [List.cons_append, List.mem_cons, List.mem_append, List.mem_reverse]
        rcases h with h | h | h | h
        · exact Or.inl h
        · exact Or.inr (Or.inl h)
        · exact Or.inr (Or.inr (ih (Or.inl h)))
        · exact Or.inr (Or.inr (ih (Or.inr (Or.inr h))))
      · refine ih ?_
        rcases h with h | h | h | h <;> simp [h]

variable {c : Char} {s : List Char}

/-- A composed text has the controls of ASCII and the spaces that it had. -/
theorem mem_composed (hc : c.toNat ≤ 0x20) (h : c ∈ s) : c ∈ composed s := by
  have hcode : c.toNat ∈ (s.map Char.toNat).flatMap (parts partsDepth) := by
    refine List.mem_flatMap.2 ⟨c.toNat, List.mem_map_of_mem h, ?_⟩
    rw [parts_of_le hc]
    exact List.mem_singleton_self _
  have hsorted := mem_foldr_insertMark.2 hcode
  refine List.mem_map.2 ⟨c.toNat, ?_, Char.ofNat_toNat c⟩
  rw [composedCodes]
  split
  · rename_i hnil
    rw [hnil] at hsorted
    cases hsorted
  · rename_i n rest hcons
    rw [hcons, List.mem_cons] at hsorted
    exact mem_joinFrom hc (hsorted.imp_right Or.inr)

end Text

namespace Url

/-! ## Punycode -/

namespace Punycode

theorem digitChar_spec {n : Nat} (h : n < 36) : 0x20 < (digitChar n).toNat := by
  have hall : ∀ n < 36, 0x20 < (digitChar n).toNat := by decide
  exact hall n h

theorem threshold_spec (bias place : Nat) : 1 ≤ threshold bias place ∧ threshold bias place ≤ 26 := by
  unfold threshold
  omega

theorem mem_writeSteps {c : Char} {bias place steps : Nat} (h : c ∈ writeSteps bias place steps) :
    0x20 < c.toNat := by
  obtain ⟨hlow, hhigh⟩ := threshold_spec bias place
  rw [writeSteps] at h
  split at h
  · obtain rfl := List.mem_singleton.1 h
    exact digitChar_spec (by omega)
  · rcases List.mem_cons.1 h with rfl | h
    · refine digitChar_spec ?_
      have := Nat.mod_lt (steps - threshold bias place) (by omega : 0 < 36 - threshold bias place)
      omega
    · exact mem_writeSteps h
termination_by steps
decreasing_by
  exact Nat.lt_of_le_of_lt (Nat.div_le_self ..) (by omega)

theorem mem_writeCode {c : Char} {code : Nat} {label : List Nat} {steps length : Nat} {walk : Walk}
    (h : c ∈ (writeCode code label steps length walk).1) : 0x20 < c.toNat := by
  induction label generalizing steps length walk with
  | nil => cases h
  | cons d label ih =>
    rw [writeCode] at h
    split at h
    · exact ih h
    · split at h
      · rcases List.mem_append.1 h with h | h
        · exact mem_writeSteps h
        · exact ih h
      · exact ih h

theorem mem_writeAll {c : Char} {label codes : List Nat} {steps length : Nat} {walk : Walk}
    (h : c ∈ writeAll label codes steps length walk) : 0x20 < c.toNat := by
  induction codes generalizing steps length walk with
  | nil => cases h
  | cons code codes ih =>
    rw [writeAll] at h
    rcases List.mem_append.1 h with h | h
    · exact mem_writeCode h
    · exact ih h

/-- The controls of ASCII and the spaces in a written label are those of the label. -/
theorem mem_write {c : Char} (hc : c.toNat ≤ 0x20) {label : List Char} : c ∈ write label ↔ c ∈ label := by
  have hascii : c.toNat < 0x80 := by omega
  rw [write, List.mem_append, List.mem_append, List.mem_filter]
  constructor
  · rintro ((h | h) | h)
    · exact h.1
    · split at h
      · cases h
      · obtain rfl := List.mem_singleton.1 h
        exact absurd hc (by decide)
    · have := mem_writeAll h
      omega
  · exact fun h => Or.inl (Or.inl ⟨h, decide_eq_true hascii⟩)

end Punycode

/-! ## Domain names -/

/-- Each element of a list gives one of the list that they all give. -/
theorem exists_of_mapM {α β : Type} {f : α → Option β} {xs : List α} {ys : List β} (h : xs.mapM f = some ys)
    {x : α} (hx : x ∈ xs) : ∃ y ∈ ys, f x = some y := by
  induction xs generalizing ys with
  | nil => cases hx
  | cons a xs ih =>
    simp only [List.mapM_cons, Option.bind_eq_bind, Option.bind_eq_some_iff, Option.pure_def,
      Option.some.injEq] at h
    obtain ⟨y, hy, zs, hzs, rfl⟩ := h
    rcases List.mem_cons.1 hx with rfl | hx
    · exact ⟨y, List.mem_cons_self, hy⟩
    · obtain ⟨z, hz, hfz⟩ := ih hzs hx
      exact ⟨z, List.mem_cons_of_mem y hz, hfz⟩

/-- The characters between separators, and the separator. -/
theorem mem_intercalate {sep c : Char} {parts : List (List Char)} (hne : c ≠ sep) :
    c ∈ List.intercalate [sep] parts ↔ ∃ part ∈ parts, c ∈ part := by
  induction parts with
  | nil => simp
  | cons part parts ih =>
    cases parts with
    | nil => simp
    | cons next parts =>
      rw [List.intercalate_cons_cons, List.mem_append, List.mem_append, ih]
      simp [hne]

namespace Domain

variable {c : Char} {s t : List Char}

theorem toLower_of_le (hc : c.toNat ≤ 0x20) : c.toLower = c := by
  refine dif_neg ?_
  rintro ⟨hge, -⟩
  have : 65 ≤ c.toNat := UInt32.le_iff_toNat_le.1 hge
  omega

theorem mapChar_of_le (hc : c.toNat ≤ 0x20) : mapChar c = some [c] := by
  have hascii : isAscii c = true := decide_eq_true (by omega)
  rw [mapChar, if_pos hascii, toLower_of_le hc]

theorem mem_mapped? (hc : c.toNat ≤ 0x20) (h : mapped? s = some t) (hmem : c ∈ s) : c ∈ t := by
  obtain ⟨parts, hparts, rfl⟩ := Option.map_eq_some_iff.1 h
  obtain ⟨part, hpart, hchar⟩ := exists_of_mapM hparts hmem
  rw [mapChar_of_le hc, Option.some.injEq] at hchar
  subst hchar
  exact Text.mem_composed hc (List.mem_flatten.2 ⟨[c], hpart, List.mem_singleton_self c⟩)

theorem mem_readLabel (hc : c.toNat ≤ 0x20) (h : readLabel t = some s) (hmem : c ∈ t) : c ∈ s := by
  unfold readLabel at h
  split at h
  · rename_i hmark
    obtain ⟨code, rfl⟩ := List.isPrefixOf_iff_prefix.1 hmark
    simp only [List.drop_left, Option.bind_eq_bind, Option.bind_eq_some_iff] at h
    obtain ⟨label, -, hlabel⟩ := h
    split at hlabel
    · rename_i hwritten
      obtain rfl := Option.some.inj hlabel
      rw [List.mem_append, ← hwritten.2.2] at hmem
      rcases hmem with hmem | hmem
      · have hall : mark.all (fun d => decide (0x20 < d.toNat)) = true := by decide
        have := of_decide_eq_true (List.all_eq_true.1 hall c hmem)
        omega
      · exact (Punycode.mem_write hc).1 hmem
    · cases hlabel
  · rwa [Option.some.inj h] at hmem

theorem mem_writeLabel (hc : c.toNat ≤ 0x20) (hmem : c ∈ s) : c ∈ writeLabel s := by
  unfold writeLabel
  split
  · exact hmem
  · exact List.mem_append_right mark ((Punycode.mem_write hc).2 hmem)

/-- A name with a space or a control of ASCII is no domain name. -/
theorem toAscii?_eq_none (hc : c.toNat ≤ 0x20) (hmem : c ∈ s) : toAscii? s = none := by
  have hdot : c ≠ '.' := by
    rintro rfl
    exact absurd hc (by decide)
  have hrefused {result : List Char} (hresult : c ∈ result) :
      (if result.any isForbidden then none else some result : Option (List Char)) = none :=
    if_pos (List.any_eq_true.2 ⟨c, hresult, by simp [isForbidden, hc]⟩)
  unfold toAscii?
  split
  · exact hrefused (List.mem_map.2 ⟨c, hmem, toLower_of_le hc⟩)
  · rw [Option.eq_none_iff_forall_ne_some]
    intro ascii h
    simp only [Option.bind_eq_bind, Option.bind_eq_some_iff] at h
    obtain ⟨text, htext, labels, hlabels, h⟩ := h
    have hin : c ∈ List.intercalate ['.'] (List.splitOn '.' text) := by
      rw [List.intercalate_splitOn]
      exact mem_mapped? hc htext hmem
    obtain ⟨part, hpart, hin⟩ := (mem_intercalate hdot).1 hin
    obtain ⟨label, hlabel, hread⟩ := exists_of_mapM hlabels hpart
    have hresult := (mem_intercalate hdot).2
      ⟨_, List.mem_map_of_mem hlabel, mem_writeLabel hc (mem_readLabel hc hread hin)⟩
    split at h
    · rw [Option.bind_some, hrefused hresult] at h
      cases h
    · cases h

end Domain

/-! ## Decoded texts -/

/-- A character that has no part in a percent sign with two digits is decoded to its bytes. -/
theorem mem_decode {c : Char} (hdigit : Json.hexValue? c = none) (hpercent : c ≠ '%') {s : List Char}
    (h : c ∈ s) {b : UInt8} (hb : b ∈ String.utf8EncodeChar c) : b ∈ decode s := by
  have hne {x : Char} {n : Nat} (hx : Json.hexValue? x = some n) : c ≠ x := by
    rintro rfl
    rw [hdigit] at hx
    cases hx
  fun_induction decode s with
  | case1 x y rest m n hm hn ih =>
    simp only [List.mem_cons, hpercent, hne hm, hne hn, false_or] at h
    exact List.mem_cons_of_mem _ (ih h)
  | case2 x y rest hnone ih =>
    exact List.mem_append_right _ (ih ((List.mem_cons.1 h).resolve_left hpercent))
  | case3 d rest hnone ih =>
    rcases List.mem_cons.1 h with rfl | h
    · exact List.mem_append_left _ hb
    · exact List.mem_append_right _ (ih h)
  | case4 => cases h

theorem hexValue?_of_le {c : Char} (hc : c.toNat ≤ 0x20) : Json.hexValue? c = none := by
  have hlow {d : Char} (hd : 0x20 < d.toNat) : ¬ d ≤ c := by
    rw [Char.le_def, UInt32.le_iff_toNat_le]
    exact Nat.not_le_of_lt (Nat.lt_of_le_of_lt hc hd)
  rw [Json.hexValue?, if_neg fun h => hlow (by decide) h.1, if_neg fun h => hlow (by decide) h.1,
    if_neg fun h => hlow (by decide) h.1]

/-- A text in UTF-8 has the bytes of its characters. -/
theorem textOf?_eq_some {bytes : List UInt8} {s : List Char} (h : textOf? bytes = some s) :
    s.flatMap String.utf8EncodeChar = bytes := by
  obtain ⟨text, htext, rfl⟩ := Option.map_eq_some_iff.1 h
  unfold String.fromUTF8? at htext
  split at htext
  · obtain rfl := Option.some.inj htext
    exact List.toByteArray_inj.1 String.utf8Encode_toList
  · cases htext

/-! ## Hosts -/

namespace Host

variable {c : Char} {s : List Char}

/-- A text that ends with a space or a control of ASCII names no host. -/
theorem parse_blank (hlast : s.getLast? = some c) (hc : c.toNat ≤ 0x20) (host : Host) :
    parse s ≠ .ok host := by
  have hmem : c ∈ s := List.mem_of_getLast? hlast
  intro h
  unfold parse at h
  split at h
  · have hbracket : s.getLast? ≠ some ']' := by
      rw [hlast]
      rintro heq
      obtain rfl := Option.some.inj heq
      exact absurd hc (by decide)
    rw [bracketed, if_neg hbracket] at h
    cases h
  · have hnone : (textOf? (decode s)).bind Domain.toAscii? = none := by
      rw [Option.bind_eq_none_iff]
      intro name hname
      refine Domain.toAscii?_eq_none hc (mem_of_byte (by omega) ?_)
      rw [textOf?_eq_some hname]
      refine mem_decode (hexValue?_of_le hc) ?_ hmem ?_
      · rintro rfl
        exact absurd hc (by decide)
      · rw [utf8EncodeChar_of_ascii (by omega)]
        exact List.mem_singleton_self _
    rw [hnone] at h
    cases h

end Host

end Url

end BlockPilot
