import BlockPilot.Url.Basic

/-!
# Reading forms

What a form shows is read back: a query is cut at its ampersands, each part at its first equals sign, and
of the two texts every plus sign is a space and every percent sign with two digits a byte. The text of a name
or a value gives its bytes in UTF-8 (`formBytes_formText`), and a pair that is added to an address is the
last pair of its query, behind those that were there (`Url.pairs_addPair`).
-/

namespace BlockPilot.Url

/-! ## Reading -/

/-- The bytes that a name or a value in a form stands for. -/
def formBytes (s : List Char) : List UInt8 :=
  decode (s.map fun c => if c = '+' then ' ' else c)

/-- The pair that a part of a form gives; without an equals sign its value is empty. -/
def formPair (part : List Char) : List UInt8 × List UInt8 :=
  (formBytes (part.takeWhile (· != '=')), formBytes ((part.dropWhile (· != '=')).drop 1))

/-- The pairs of a form in bytes; empty parts give none. -/
def formPairs (query : List Char) : List (List UInt8 × List UInt8) :=
  ((List.splitOn '&' query).filter (· ≠ [])).map formPair

/-- The pairs in the query of an address. -/
def pairs (u : Url) : List (List UInt8 × List UInt8) :=
  (u.query.map formPairs).getD []

/-! ## Bytes -/

/-- The digits of a byte are those of numbers, and none of the signs that a form knows. -/
theorem upperHexDigit_spec {n : Nat} (h : n < 16) : Json.hexValue? (upperHexDigit n) = some n ∧
    upperHexDigit n ≠ '+' ∧ upperHexDigit n ≠ '&' ∧ upperHexDigit n ≠ '=' := by
  have hall : ∀ n < 16, Json.hexValue? (upperHexDigit n) = some n ∧ upperHexDigit n ≠ '+' ∧
      upperHexDigit n ≠ '&' ∧ upperHexDigit n ≠ '=' := by decide
  exact hall n h

theorem encodeByte_digits (b : UInt8) : b.toNat / 16 < 16 ∧ b.toNat % 16 < 16 := by
  have := b.toNat_lt
  omega

theorem decode_encodeByte (b : UInt8) (rest : List Char) :
    decode (encodeByte b ++ rest) = b :: decode rest := by
  obtain ⟨hhigh, hlow⟩ := encodeByte_digits b
  simp only [encodeByte, List.cons_append, List.nil_append, decode, (upperHexDigit_spec hhigh).1,
    (upperHexDigit_spec hlow).1, Nat.div_add_mod, UInt8.ofNat_toNat]

theorem decode_encodeBytes (bytes : List UInt8) (rest : List Char) :
    decode (bytes.flatMap encodeByte ++ rest) = bytes ++ decode rest := by
  induction bytes with
  | nil => rfl
  | cons b bytes ih => rw [List.flatMap_cons, List.append_assoc, decode_encodeByte, ih, List.cons_append]

theorem decode_cons {c : Char} (h : c ≠ '%') (rest : List Char) :
    decode (c :: rest) = String.utf8EncodeChar c ++ decode rest := by
  rw [decode.eq_def]
  split
  · rename_i heq
    cases heq
    exact absurd rfl h
  · rename_i heq
    cases heq
    rfl
  · rename_i heq
    cases heq

/-! ## One text -/

theorem formChar_of_isFormChar {c : Char} (h : isFormChar c = true) : formChar c = [c] := by
  rw [formChar, if_pos h]

theorem formText_cons (c : Char) (s : List Char) : formText (c :: s) = formChar c ++ formText s :=
  List.flatMap_cons

/-- A text of characters that stay is shown as it is. -/
theorem formText_eq_self {s : List Char} (h : ∀ c ∈ s, isFormChar c = true) : formText s = s := by
  induction s with
  | nil => rfl
  | cons c s ih =>
    rw [formText_cons, formChar_of_isFormChar (h c (by simp)), ih fun d hd => h d (by simp [hd])]
    rfl

/-- The signs that a form is cut at are in no text, nor is a plus sign but for a space. -/
theorem mem_formChar {c d : Char} (h : d ∈ formChar c) : d ≠ '&' ∧ d ≠ '=' ∧ (d = '+' → c = ' ') := by
  unfold formChar at h
  split at h
  · rename_i hc
    obtain rfl : d = c := by simpa using h
    refine ⟨?_, ?_, ?_⟩ <;> rintro rfl <;> revert hc <;> decide
  · split at h
    · rename_i hc
      obtain rfl : d = '+' := by simpa using h
      exact ⟨by decide, by decide, fun _ => hc⟩
    · obtain ⟨b, -, hd⟩ := List.mem_flatMap.1 h
      obtain ⟨hhigh, hlow⟩ := encodeByte_digits b
      simp only [encodeByte, List.mem_cons, List.not_mem_nil, or_false] at hd
      rcases hd with rfl | rfl | rfl
      · exact ⟨by decide, by decide, fun hd => absurd hd (by decide)⟩
      · obtain ⟨-, hplus, hamp, hequals⟩ := upperHexDigit_spec hhigh
        exact ⟨hamp, hequals, fun hd => absurd hd hplus⟩
      · obtain ⟨-, hplus, hamp, hequals⟩ := upperHexDigit_spec hlow
        exact ⟨hamp, hequals, fun hd => absurd hd hplus⟩

theorem not_mem_formText {s : List Char} : '&' ∉ formText s ∧ '=' ∉ formText s := by
  refine ⟨fun h => ?_, fun h => ?_⟩
  · obtain ⟨c, -, hc⟩ := List.mem_flatMap.1 h
    exact (mem_formChar hc).1 rfl
  · obtain ⟨c, -, hc⟩ := List.mem_flatMap.1 h
    exact (mem_formChar hc).2.1 rfl

/-- One character is read back. -/
theorem decode_formChar (c : Char) (rest : List Char) :
    decode ((formChar c).map (fun d => if d = '+' then ' ' else d) ++ rest) =
      String.utf8EncodeChar c ++ decode rest := by
  by_cases hspace : c = ' '
  · subst hspace
    exact decode_cons (by decide) rest
  · have hplain : (formChar c).map (fun d => if d = '+' then ' ' else d) = formChar c := by
      refine (List.map_congr_left fun d hd => if_neg ?_).trans (List.map_id _)
      exact fun hplus => hspace ((mem_formChar hd).2.2 hplus)
    rw [hplain, formChar, if_neg hspace]
    split
    · rename_i hc
      refine decode_cons ?_ rest
      rintro rfl
      revert hc
      decide
    · exact decode_encodeBytes _ rest

/-- A text is read back from a form as its bytes. -/
theorem formBytes_formText (s : List Char) : formBytes (formText s) = s.flatMap String.utf8EncodeChar := by
  unfold formBytes
  induction s with
  | nil => rfl
  | cons c s ih => rw [formText_cons, List.map_append, decode_formChar, ih, List.flatMap_cons]

/-! ## Pairs -/

theorem formPair_pair (name value : List Char) : formPair (formText name ++ '=' :: formText value) =
    (name.flatMap String.utf8EncodeChar, value.flatMap String.utf8EncodeChar) := by
  have hname : ∀ c ∈ formText name, (c != '=') = true := by
    intro c hc
    have : c ≠ '=' := fun he => not_mem_formText.2 (he ▸ hc)
    simpa using this
  rw [formPair, List.takeWhile_append_of_pos hname, List.dropWhile_append_of_pos hname]
  simp [formBytes_formText]

theorem formPairs_nil : formPairs [] = [] := by decide

/-- A part behind an ampersand is read last. -/
theorem formPairs_append (query : List Char) {part : List Char} (hamp : '&' ∉ part) (hne : part ≠ []) :
    formPairs (query ++ '&' :: part) = formPairs query ++ [formPair part] := by
  have hsplit : List.splitOn '&' (query ++ '&' :: part) = List.splitOn '&' query ++ [part] := by
    rw [List.splitOn_append_cons_self, List.splitOn_eq_singleton hamp]
  simp [formPairs, hsplit, hne]

theorem formPairs_singleton {part : List Char} (hamp : '&' ∉ part) (hne : part ≠ []) :
    formPairs part = [formPair part] := by
  simp [formPairs, List.splitOn_eq_singleton hamp, hne]

/-- A pair that is added is the last. -/
theorem pairs_addPair (u : Url) (name value : List Char) : (u.addPair name value).pairs =
    u.pairs ++ [(name.flatMap String.utf8EncodeChar, value.flatMap String.utf8EncodeChar)] := by
  have hamp : '&' ∉ formText name ++ '=' :: formText value := by simp [not_mem_formText.1]
  have hne : formText name ++ '=' :: formText value ≠ [] := by simp
  rw [← formPair_pair]
  unfold pairs addPair extendQuery
  cases u.query with
  | none => simp [formPairs_singleton hamp hne]
  | some query =>
    cases query with
    | nil => simp [formPairs_singleton hamp hne, formPairs_nil]
    | cons c query => exact formPairs_append (c :: query) hamp hne

/-! ## Queries -/

/-- A pair as a query shows it. -/
def pairText (pair : List Char × List Char) : List Char :=
  formText pair.1 ++ '=' :: formText pair.2

theorem extendQuery_some {query : List Char} (hne : query ≠ []) (part : List Char) :
    extendQuery (some query) part = query ++ '&' :: part := by
  obtain ⟨c, t, rfl⟩ := List.exists_cons_of_ne_nil hne
  rfl

theorem extendQuery_extendQuery (query : Option (List Char)) {part : List Char} (hne : part ≠ [])
    (next : List Char) :
    extendQuery (some (extendQuery query part)) next = extendQuery query (part ++ '&' :: next) := by
  obtain ⟨c, t, rfl⟩ := List.exists_cons_of_ne_nil hne
  rcases query with _ | _ | ⟨d, query⟩
  · rfl
  · rfl
  · simp [extendQuery]

/-- More pairs are one more part of a query. -/
theorem query_addPairs (u : Url) (pair : List Char × List Char) (ps : List (List Char × List Char)) :
    (u.addPairs (pair :: ps)).query =
      some (extendQuery u.query (List.intercalate ['&'] ((pair :: ps).map pairText))) := by
  induction ps generalizing u pair with
  | nil => rw [List.map_singleton, List.intercalate_singleton]; rfl
  | cons next ps ih =>
    have hstep : u.addPairs (pair :: next :: ps) = (u.addPair pair.1 pair.2).addPairs (next :: ps) := rfl
    have hquery : (u.addPair pair.1 pair.2).query = some (extendQuery u.query (pairText pair)) := rfl
    rw [hstep, ih, hquery, extendQuery_extendQuery _ (by simp [pairText]), List.map_cons, List.map_cons,
      List.map_cons, List.intercalate_cons_cons]
    simp

end BlockPilot.Url
