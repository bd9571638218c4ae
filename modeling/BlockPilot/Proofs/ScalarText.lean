import BlockPilot.Json.Printer
import BlockPilot.Json.Reader

/-!
# Scalars in JSON texts

What a reader of numbers reads does not depend on what follows the number, as long as that does not
go on the number (`ReadsUpTo`). So a binary number that its own text gives back (`ReadsBack`) is given
back wherever that text stands. Integers of 64 bits and strings are given back in any case.
-/

namespace BlockPilot.Json

/-- Two steps give a result when both do. -/
theorem bind_eq_ok {ε α β : Type} {x : Except ε α} {f : α → Except ε β} {b : β} :
    (x >>= f) = .ok b ↔ ∃ a, x = .ok a ∧ f a = .ok b := by
  cases x <;> simp [bind, Except.bind]

@[simp] theorem ok_bind {ε α β : Type} (a : α) (f : α → Except ε β) :
    ((Except.ok a : Except ε α) >>= f) = f a := rfl

/-! ## What does not go on a number -/

/-- A text that begins with no digit. -/
def NoDigit (t : List Char) : Prop := ∀ c ∈ t.head?, isDigit c = false

/-- A text that goes on no number in front of it. -/
structure Ends (t : List Char) : Prop where
  digit : NoDigit t
  point : '.' ∉ t.head?
  exponent : 'e' ∉ t.head? ∧ 'E' ∉ t.head?

theorem Ends.nil : Ends [] := ⟨by simp [NoDigit], by simp, by simp⟩

theorem Ends.cons {c : Char} {t : List Char} (hd : isDigit c = false) (hp : c ≠ '.') (he : c ≠ 'e')
    (hE : c ≠ 'E') : Ends (c :: t) :=
  ⟨by simpa [NoDigit] using hd, by simpa using hp, by simpa using ⟨he, hE⟩⟩

theorem Ends.not_exponent {c : Char} {t : List Char} (h : Ends (c :: t)) : ¬(c = 'e' ∨ c = 'E') := by
  rintro (rfl | rfl)
  · exact h.exponent.1 rfl
  · exact h.exponent.2 rfl

theorem takeWhile_digits {ds t : List Char} (hd : ∀ c ∈ ds, isDigit c = true) (ht : NoDigit t) :
    (ds ++ t).takeWhile isDigit = ds := by
  rw [List.takeWhile_append_of_pos hd]
  cases t with
  | nil => simp
  | cons c t => simp [ht c rfl]

theorem dropWhile_digits {ds t : List Char} (hd : ∀ c ∈ ds, isDigit c = true) (ht : NoDigit t) :
    (ds ++ t).dropWhile isDigit = t := by
  rw [List.dropWhile_append_of_pos hd]
  cases t with
  | nil => rfl
  | cons c t => simp [ht c rfl]

theorem mem_takeWhile_isDigit {s : List Char} : ∀ c ∈ s.takeWhile isDigit, isDigit c = true :=
  List.all_eq_true.1 List.all_takeWhile

theorem noDigit_dropWhile (s : List Char) : NoDigit (s.dropWhile isDigit) := by
  intro c hc
  have := List.head?_dropWhile_not isDigit s
  rw [Option.mem_def.1 hc] at this
  simpa using this

/-! ## Reading in context -/

/-- A reader has read `s` up to `rest`, and reads the same whatever else follows, unless it goes on
the number. -/
def ReadsUpTo {α : Type} (read : Reader α) (value : α) (s rest : List Char) : Prop :=
  ∃ a, s = a ++ rest ∧ ∀ t, Ends t → read (a ++ t) = .ok (value, t)

/-- A sign stays in front of whatever begins with a digit. -/
theorem takeSign_split (s : List Char) :
    ∃ sign, s = sign ++ (takeSign s).2 ∧
      ∀ c u, isDigit c = true → takeSign (sign ++ c :: u) = ((takeSign s).1, c :: u) := by
  have plain {c : Char} {u : List Char} (hc : isDigit c = true) : takeSign (c :: u) = (false, c :: u) := by
    unfold takeSign
    split
    · rename_i h
      cases h
      cases hc
    · rename_i h
      cases h
      cases hc
    · rfl
  unfold takeSign
  split
  · exact ⟨['-'], rfl, fun c u _ => rfl⟩
  · exact ⟨['+'], rfl, fun c u _ => rfl⟩
  · exact ⟨[], rfl, fun c u hc => plain hc⟩

theorem readExponent_upTo {s rest : List Char} {e : Int} (h : readExponent s = .ok (e, rest)) :
    ReadsUpTo readExponent e s rest := by
  obtain ⟨sign, hs, hsign⟩ := takeSign_split s
  unfold readExponent at h
  split at h
  rename_i negative body hbody
  rw [hbody] at hs hsign
  split at h
  · cases h
  · rename_i c body'
    split at h
    · rename_i hc
      obtain ⟨rfl, rfl⟩ : _ = e ∧ _ = rest := by simpa using h
      have hd : ∀ d ∈ (c :: body').takeWhile isDigit, isDigit d = true := mem_takeWhile_isDigit
      have htake : (c :: body').takeWhile isDigit = c :: body'.takeWhile isDigit := by simp [hc]
      refine ⟨sign ++ (c :: body').takeWhile isDigit, ?_, fun t ht => ?_⟩
      · rw [List.append_assoc, List.takeWhile_append_dropWhile]
        exact hs
      · have htext : sign ++ (c :: body').takeWhile isDigit ++ t =
            sign ++ c :: (body'.takeWhile isDigit ++ t) := by
          rw [htake, List.append_assoc, List.cons_append]
        have hagain : c :: (body'.takeWhile isDigit ++ t) = (c :: body').takeWhile isDigit ++ t := by
          rw [htake, List.cons_append]
        simp only [readExponent, htext, hsign c _ hc, hc, if_true]
        rw [hagain, takeWhile_digits hd ht.digit, dropWhile_digits hd ht.digit]
    · cases h

section

variable {negative : Bool} {significand dropped : Nat} {exponent : Int} {s rest : List Char}
  {n : JsonNumber}

/-- Behind its letter, an exponent is read up to its end. -/
theorem readScale_exponent {c : Char} (hc : c = 'e' ∨ c = 'E')
    (h : readScale negative significand exponent (c :: s) = .ok (n, rest)) :
    ∃ a, s = a ++ rest ∧
      ∀ t, Ends t → readScale negative significand exponent (c :: (a ++ t)) = .ok (n, t) := by
  rw [readScale, if_pos hc] at h
  obtain ⟨⟨e, behind⟩, he, h⟩ := bind_eq_ok.1 h
  obtain ⟨m, hn, h⟩ := bind_eq_ok.1 h
  obtain ⟨rfl, rfl⟩ : m = n ∧ behind = rest := by simpa using h
  obtain ⟨a, hs, ha⟩ := readExponent_upTo he
  refine ⟨a, hs, fun t ht => ?_⟩
  simp [readScale, hc, ha t ht, hn]

/-- A number without an exponent ends where nothing goes on it. -/
theorem readScale_ends {t : List Char} (hn : binaryOf negative significand exponent = .ok n)
    (ht : Ends t) : readScale negative significand exponent t = .ok (n, t) := by
  cases t with
  | nil =>
    rw [readScale, hn]
    rfl
  | cons c t => simp [readScale, ht.not_exponent, hn]

theorem readScale_upTo (h : readScale negative significand exponent s = .ok (n, rest)) :
    ReadsUpTo (readScale negative significand exponent) n s rest := by
  -- without an exponent nothing is taken
  have plain (h : (do
      let n ← binaryOf negative significand exponent
      .ok (n, s)) = Except.ok (n, rest)) :
      ReadsUpTo (readScale negative significand exponent) n s rest := by
    obtain ⟨m, hn, h⟩ := bind_eq_ok.1 h
    obtain ⟨rfl, rfl⟩ : m = n ∧ s = rest := by simpa using h
    exact ⟨[], rfl, fun t ht => readScale_ends hn ht⟩
  cases s with
  | nil => exact plain h
  | cons c s =>
    by_cases hc : c = 'e' ∨ c = 'E'
    · obtain ⟨a, hs, hread⟩ := readScale_exponent hc h
      exact ⟨c :: a, by rw [hs]; rfl, hread⟩
    · rw [readScale, if_neg hc] at h
      exact plain h

/-- What stands in front of the end of a number keeps its digits apart from what follows. -/
theorem NoDigit.append_ends {a rest t : List Char} (h : NoDigit (a ++ rest)) (ht : Ends t) :
    NoDigit (a ++ t) := by
  cases a with
  | nil => exact ht.digit
  | cons c a => exact h

theorem readFraction_upTo (h : readFraction negative significand exponent s = .ok (n, rest)) :
    ReadsUpTo (readFraction negative significand exponent) n s rest := by
  have hdigits : ∀ c ∈ s.takeWhile isDigit, isDigit c = true := mem_takeWhile_isDigit
  have hrest : NoDigit (s.dropWhile isDigit) := noDigit_dropWhile s
  rw [readFraction] at h
  split at h
  · cases h
  · rename_i digits hne
    obtain ⟨a, ha, hscale⟩ := readScale_upTo h
    rw [ha] at hrest
    refine ⟨s.takeWhile isDigit ++ a, ?_, fun t ht => ?_⟩
    · rw [List.append_assoc, ← ha, List.takeWhile_append_dropWhile]
    · have ht' : NoDigit (a ++ t) := hrest.append_ends ht
      rw [List.append_assoc, readFraction, takeWhile_digits hdigits ht', dropWhile_digits hdigits ht']
      split
      · exact absurd ‹_› hne
      · exact hscale t ht

theorem readWhole_zero {t : List Char} (ht : NoDigit t) : readWhole ('0' :: t) = .ok (['0'], t) := by
  cases t with
  | nil => rfl
  | cons c t => simp [readWhole, ht c rfl]

theorem readWhole_digits {c : Char} {ds t : List Char} (hc : c ≠ '0')
    (hd : ∀ d ∈ c :: ds, isDigit d = true) (ht : NoDigit t) :
    readWhole (c :: ds ++ t) = .ok (c :: ds, t) := by
  rw [List.cons_append, readWhole]
  · rw [if_pos (hd c (by simp)), ← List.cons_append, takeWhile_digits hd ht, dropWhile_digits hd ht]
  · exact hc

/-- The digits in front of the point are read up to the first character that is none. -/
theorem readWhole_upTo {s digits rest : List Char} (h : readWhole s = .ok (digits, rest)) :
    s = digits ++ rest ∧ NoDigit rest ∧ ∀ t, NoDigit t → readWhole (digits ++ t) = .ok (digits, t) := by
  unfold readWhole at h
  split at h
  · cases h
  · split at h
    · rename_i c rest'
      split at h
      · cases h
      · rename_i hc
        obtain ⟨rfl, rfl⟩ : ['0'] = digits ∧ c :: rest' = rest := by simpa using h
        exact ⟨rfl, by simpa [NoDigit] using hc, fun t ht => readWhole_zero ht⟩
    · obtain ⟨rfl, rfl⟩ : ['0'] = digits ∧ [] = rest := by simpa using h
      exact ⟨rfl, by simp [NoDigit], fun t ht => readWhole_zero ht⟩
  · rename_i c s' hzero
    split at h
    · rename_i hc
      obtain ⟨rfl, rfl⟩ : (c :: s').takeWhile isDigit = digits ∧ (c :: s').dropWhile isDigit = rest := by
        simpa using h
      have hd : ∀ d ∈ (c :: s').takeWhile isDigit, isDigit d = true := mem_takeWhile_isDigit
      have htake : (c :: s').takeWhile isDigit = c :: s'.takeWhile isDigit := by simp [hc]
      refine ⟨List.takeWhile_append_dropWhile.symm, noDigit_dropWhile _, fun t ht => ?_⟩
      rw [htake] at hd ⊢
      exact readWhole_digits hzero hd ht
    · cases h

/-- What follows the digits in front of the point. -/
def readBehind (negative : Bool) (significand dropped : Nat) : Reader JsonNumber
  | '.' :: rest => readFraction negative significand dropped rest
  | c :: rest =>
    if c = 'e' ∨ c = 'E' then readScale negative significand dropped (c :: rest)
    else do
      let n ← wholeNumber negative significand dropped
      .ok (n, c :: rest)
  | [] => do
    let n ← wholeNumber negative significand dropped
    .ok (n, [])

theorem readNumber_of_readWhole {digits : List Char} (h : readWhole s = .ok (digits, rest)) :
    readNumber negative s = readBehind negative (gather 0 digits).1 (gather 0 digits).2 rest := by
  simp only [readNumber, h, ok_bind]
  split
  · rfl
  · simp [readBehind]
  · rfl

/-- A number without point and exponent ends where nothing goes on it. -/
theorem readBehind_ends {t : List Char} (hn : wholeNumber negative significand dropped = .ok n)
    (ht : Ends t) : readBehind negative significand dropped t = .ok (n, t) := by
  unfold readBehind
  split
  · exact absurd rfl ht.point
  · simp [ht.not_exponent, hn]
  · simp [hn]

theorem readBehind_upTo (h : readBehind negative significand dropped s = .ok (n, rest)) :
    ReadsUpTo (readBehind negative significand dropped) n s rest := by
  have whole (h : (do
      let n ← wholeNumber negative significand dropped
      .ok (n, s)) = Except.ok (n, rest)) :
      ReadsUpTo (readBehind negative significand dropped) n s rest := by
    obtain ⟨m, hn, h⟩ := bind_eq_ok.1 h
    obtain ⟨rfl, rfl⟩ : m = n ∧ s = rest := by simpa using h
    exact ⟨[], rfl, fun t ht => readBehind_ends hn ht⟩
  unfold readBehind at h
  split at h
  · obtain ⟨a, ha, hf⟩ := readFraction_upTo h
    exact ⟨'.' :: a, by rw [ha]; rfl, hf⟩
  · rename_i c s' hpoint
    split at h
    · rename_i hc
      obtain ⟨a, ha, hf⟩ := readScale_exponent hc h
      refine ⟨c :: a, by rw [ha]; rfl, fun t ht => ?_⟩
      rw [List.cons_append, readBehind]
      · rw [if_pos hc]
        exact hf t ht
      · exact hpoint
    · exact whole h
  · exact whole h

theorem readNumber_upTo (h : readNumber negative s = .ok (n, rest)) :
    ReadsUpTo (readNumber negative) n s rest := by
  obtain ⟨⟨digits, behind⟩, hw, -⟩ := bind_eq_ok.1 h
  obtain ⟨hs, hbehind, hwhole⟩ := readWhole_upTo hw
  rw [readNumber_of_readWhole hw] at h
  obtain ⟨a, ha, hread⟩ := readBehind_upTo h
  refine ⟨digits ++ a, by rw [hs, ha, List.append_assoc], fun t ht => ?_⟩
  rw [ha] at hbehind
  rw [List.append_assoc, readNumber_of_readWhole (hwhole _ (hbehind.append_ends ht))]
  exact hread t ht

end

/-! ## Values that are numbers -/

theorem readScalar_digit {c : Char} (hc : isDigit c = true) (s : List Char) :
    readScalar (c :: s) =
      readNumber false (c :: s) >>= fun (n, rest) => .ok (.number n, rest) := by
  have hne {d : Char} (hd : isDigit d = false) : c ≠ d := by
    rintro rfl
    exact absurd (hc.symm.trans hd) (by simp)
  rw [readScalar]
  · rw [if_pos hc]
  all_goals exact hne rfl

theorem readWord_ne_number {v : Json} {w s rest : List Char} {n : JsonNumber} (hv : v ≠ .number n) :
    readWord v w s ≠ .ok (.number n, rest) := by
  induction w generalizing s with
  | nil => simp [readWord, hv]
  | cons d w ih =>
    cases s with
    | nil => simp [readWord]
    | cons c s =>
      simp only [readWord]
      split
      · exact ih
      · simp

theorem readScalar_upTo {s rest : List Char} {n : JsonNumber}
    (h : readScalar s = .ok (.number n, rest)) : ReadsUpTo readScalar (.number n) s rest := by
  unfold readScalar at h
  split at h
  · cases h
  · exact absurd h (readWord_ne_number (by simp))
  · exact absurd h (readWord_ne_number (by simp))
  · exact absurd h (readWord_ne_number (by simp))
  · obtain ⟨⟨x, behind⟩, -, h⟩ := bind_eq_ok.1 h
    cases h
  · obtain ⟨⟨m, behind⟩, hm, h⟩ := bind_eq_ok.1 h
    obtain ⟨rfl, rfl⟩ : m = n ∧ behind = rest := by simpa using h
    obtain ⟨a, ha, hread⟩ := readNumber_upTo hm
    refine ⟨'-' :: a, by rw [ha]; rfl, fun t ht => ?_⟩
    simp [readScalar, hread t ht]
  · rename_i c s' _ _ _ _ _
    split at h
    · rename_i hc
      obtain ⟨⟨m, behind⟩, hm, h⟩ := bind_eq_ok.1 h
      obtain ⟨rfl, rfl⟩ : m = n ∧ behind = rest := by simpa using h
      obtain ⟨a, ha, hread⟩ := readNumber_upTo hm
      -- no number is read without its first digit
      cases a with
      | nil => cases hread [] Ends.nil
      | cons d a =>
        obtain ⟨rfl, -⟩ : c = d ∧ s' = a ++ behind := by simpa using ha
        refine ⟨c :: a, ha, fun t ht => ?_⟩
        rw [List.cons_append, readScalar_digit hc, ← List.cons_append, hread t ht]
        rfl
    · cases h

/-- A value that begins with no space and opens nothing is a scalar, with any room. -/
theorem readValue_scalar {c : Char} (hs : isSpace c = false) (hl : c ≠ '[') (ho : c ≠ '\x7b')
    (room : Nat) (s : List Char) : readValue room (c :: s) = readScalar (c :: s) := by
  have hskip : skipSpace (c :: s) = c :: s := by simp [skipSpace, hs]
  unfold readValue
  rw [hskip]
  split
  · rename_i h
    cases h
    exact absurd rfl hl
  · rename_i h
    cases h
    exact absurd rfl ho
  · rfl

end BlockPilot.Json

namespace BlockPilot

/-- A binary number that its JSON text gives back. -/
def Binary64.ReadsBack (x : Binary64) : Prop := Json.parse x.toJsonText = .ok (.number (.binary x))

namespace Json

/-- A text without spaces. -/
def Spaceless (s : List Char) : Prop := ∀ c ∈ s, isSpace c = false

@[simp] theorem spaceless_nil : Spaceless [] := by simp [Spaceless]

@[simp] theorem spaceless_cons (c : Char) (s : List Char) :
    Spaceless (c :: s) ↔ isSpace c = false ∧ Spaceless s := by
  simp [Spaceless]

@[simp] theorem spaceless_append (s t : List Char) :
    Spaceless (s ++ t) ↔ Spaceless s ∧ Spaceless t := by
  simp [Spaceless, or_imp, forall_and]

theorem skipSpace_eq_self {s : List Char} (h : Spaceless s) : skipSpace s = s := by
  cases s with
  | nil => rfl
  | cons c s => simp [skipSpace, h c (by simp)]

/-- A value that is a number is a scalar. -/
theorem readScalar_of_number {room : Nat} {s rest : List Char} {n : JsonNumber}
    (h : readValue room s = .ok (.number n, rest)) :
    readScalar (skipSpace s) = .ok (.number n, rest) ∧
      '[' ∉ (skipSpace s).head? ∧ '\x7b' ∉ (skipSpace s).head? := by
  unfold readValue at h
  split at h
  · cases room with
    | zero => cases h
    | succ room =>
      obtain ⟨⟨items, behind⟩, -, h⟩ := bind_eq_ok.1 h
      cases h
  · cases room with
    | zero => cases h
    | succ room =>
      obtain ⟨⟨members, behind⟩, -, h⟩ := bind_eq_ok.1 h
      cases h
  · rename_i hl ho
    refine ⟨h, ?_, ?_⟩
    · intro hc
      obtain ⟨s', hs⟩ := List.head?_eq_some_iff.1 hc
      exact hl s' hs
    · intro hc
      obtain ⟨s', hs⟩ := List.head?_eq_some_iff.1 hc
      exact ho s' hs

/-- A number that is a whole text is read up to the end, also where more follows. -/
theorem readValue_of_parse {text : List Char} {n : JsonNumber}
    (h : parse (String.ofList text) = .ok (.number n)) (hs : Spaceless text) (room : Nat)
    {t : List Char} (ht : Ends t) : readValue room (text ++ t) = .ok (.number n, t) := by
  obtain ⟨⟨v, rest⟩, hv, h⟩ := bind_eq_ok.1 h
  rw [String.toList_ofList] at hv
  simp only at h
  split at h
  · rename_i hrest
    obtain rfl : v = .number n := by simpa using h
    obtain ⟨hread, hl, ho⟩ := readScalar_of_number hv
    rw [skipSpace_eq_self hs] at hread hl ho
    obtain ⟨a, ha, hlocal⟩ := readScalar_upTo hread
    obtain rfl : rest = [] := by
      rw [← hrest, skipSpace_eq_self]
      exact fun c hc => hs c (by rw [ha]; simp [hc])
    obtain rfl : text = a := by simpa using ha
    cases text with
    | nil => cases hread
    | cons c text =>
      rw [List.cons_append, readValue_scalar (hs c (by simp)), ← List.cons_append, hlocal t ht]
      · rintro rfl
        exact hl rfl
      · rintro rfl
        exact ho rfl
  · cases h

/-! ## Texts of numbers -/

theorem isDigit_decimalText (n : Nat) : ∀ c ∈ decimalText n, isDigit c = true := by
  intro c hc
  have h : c.isDigit = true := Nat.isDigit_of_mem_toDigits (by decide) (by decide) hc
  simpa [Char.isDigit, isDigit, Char.le_def] using h

theorem decimalText_head (n : Nat) : ∃ c t, decimalText n = c :: t ∧ isDigit c = true := by
  have hd := isDigit_decimalText n
  cases htext : decimalText n with
  | nil => exact absurd htext Nat.toDigits_ne_nil
  | cons c t => exact ⟨c, t, rfl, hd c (by simp [htext])⟩

theorem isSpace_of_isDigit {c : Char} (h : isDigit c = true) : isSpace c = false := by
  cases hs : isSpace c with
  | false => rfl
  | true =>
    have hc : c = ' ' ∨ c = '\n' ∨ c = '\t' ∨ c = '\r' := by simpa [isSpace, or_assoc] using hs
    rcases hc with rfl | rfl | rfl | rfl <;> cases h

theorem spaceless_decimalText (n : Nat) : Spaceless (decimalText n) :=
  fun c hc => isSpace_of_isDigit (isDigit_decimalText n c hc)

theorem spaceless_zeros (n : Nat) : Spaceless (List.replicate n '0') := by
  intro c hc
  obtain rfl : c = '0' := List.eq_of_mem_replicate hc
  rfl

theorem spaceless_positional (l : Layout) (d : Decimal) : Spaceless (l.positional d) := by
  have htake (n : Nat) : Spaceless ((decimalText d.digits).take n) :=
    fun c hc => spaceless_decimalText d.digits c (List.mem_of_mem_take hc)
  have hdrop (n : Nat) : Spaceless ((decimalText d.digits).drop n) :=
    fun c hc => spaceless_decimalText d.digits c (List.mem_of_mem_drop hc)
  have hpoint : Spaceless (if l.pointed then ['.', '0'] else []) := by
    split <;> simp [isSpace]
  unfold Layout.positional
  simp only
  split
  · simp [spaceless_decimalText, spaceless_zeros, hpoint]
  · split
    · simp [htake, hdrop, isSpace]
    · simp [spaceless_decimalText, spaceless_zeros, isSpace]

theorem spaceless_scientific (d : Decimal) : Spaceless (Layout.scientific d) := by
  have hsign : isSpace (if d.position - 1 < 0 then '-' else '+') = false := by
    split <;> rfl
  have hdigits := spaceless_decimalText d.digits
  unfold Layout.scientific
  simp only [spaceless_append, spaceless_cons, hsign, spaceless_decimalText]
  refine ⟨?_, rfl, trivial, trivial⟩
  split
  · exact spaceless_nil
  · rename_i digit heq
    rwa [heq] at hdigits
  · rename_i digit rest _ heq
    rw [heq] at hdigits
    simpa [isSpace] using hdigits

/-- No number has a space in its text. -/
theorem spaceless_toJsonText (x : Binary64) : Spaceless x.toJsonText.toList := by
  cases x with
  | nan | infinite => simp [Binary64.toJsonText, isSpace]
  | finite negative mantissa scale canonical =>
    have hsign : Spaceless (if negative then ['-'] else []) := by
      cases negative <;> simp [isSpace]
    simp only [Binary64.toJsonText, String.toList_ofList, Layout.finiteText]
    split
    · exact (spaceless_append _ _).2 ⟨hsign, spaceless_positional _ _⟩
    · refine (spaceless_append _ _).2 ⟨hsign, ?_⟩
      split
      · exact spaceless_positional _ _
      · exact spaceless_scientific _

/-! ## Integers -/

/-- Digits are all gathered when their number fits in 64 bits. -/
theorem gather_digits {digits : List Char} {m : Nat}
    (h : Nat.ofDigitChars 10 digits m < UInt64.size) :
    gather m digits = (Nat.ofDigitChars 10 digits m, 0) := by
  induction digits generalizing m with
  | nil => rfl
  | cons c digits ih =>
    have hstep : m * 10 + digitValue c = 10 * m + (c.toNat - '0'.toNat) := by
      rw [digitValue, Nat.mul_comm]
    rw [Nat.ofDigitChars_cons] at h ⊢
    have hle : 10 * m + (c.toNat - '0'.toNat) < UInt64.size := by
      refine Nat.lt_of_le_of_lt ?_ h
      rw [Nat.ofDigitChars_eq_ofDigitChars_zero]
      exact Nat.le_add_right_of_le (Nat.le_mul_of_pos_left _ (Nat.pow_pos (by decide)))
    rw [gather, hstep, if_pos hle, ih h]

theorem head_decimalText {n : Nat} (hn : 0 < n) : (decimalText n).head? ≠ some '0' := by
  induction n using Nat.strongRecOn with
  | ind n ih =>
    rw [decimalText, Nat.toDigits_eq_if (by decide)]
    split
    · simpa using Nat.ne_of_gt hn
    · rename_i hge
      have hpos : 0 < n / 10 := Nat.div_pos (Nat.le_of_not_lt hge) (by decide)
      have := ih (n / 10) (Nat.div_lt_self hn (by decide)) hpos
      cases htext : Nat.toDigits 10 (n / 10) with
      | nil => exact absurd htext Nat.toDigits_ne_nil
      | cons c ds => simpa [decimalText, htext] using this

theorem readWhole_decimalText (n : Nat) {t : List Char} (ht : NoDigit t) :
    readWhole (decimalText n ++ t) = .ok (decimalText n, t) := by
  have hd := isDigit_decimalText n
  rcases Nat.eq_zero_or_pos n with rfl | hn
  · exact readWhole_zero ht
  · have hhead := head_decimalText hn
    obtain ⟨c, ds, htext, -⟩ := decimalText_head n
    rw [htext] at hd hhead ⊢
    exact readWhole_digits (by simpa using hhead) hd ht

theorem readNumber_decimalText {negative : Bool} {n : Nat} {m : JsonNumber} (hn : n < UInt64.size)
    (hm : wholeNumber negative n 0 = .ok m) {t : List Char} (ht : Ends t) :
    readNumber negative (decimalText n ++ t) = .ok (m, t) := by
  have hvalue : Nat.ofDigitChars 10 (decimalText n) 0 = n := Nat.ofDigitChars_ten_toDigits
  have hgather : gather 0 (decimalText n) = (n, 0) := by
    rw [gather_digits (by rwa [hvalue]), hvalue]
  rw [readNumber_of_readWhole (readWhole_decimalText n ht.digit), hgather]
  exact readBehind_ends hm ht

/-- An integer of 64 bits is given back by its text. -/
theorem readScalar_integerText {n : Int} (hlow : Int64.minValue.toInt ≤ n) (hhigh : n < UInt64.size)
    {t : List Char} (ht : Ends t) : readScalar (integerText n ++ t) = .ok (.number (.integer n), t) := by
  unfold integerText
  split
  · rename_i hneg
    have hm : wholeNumber true n.natAbs 0 = .ok (.integer n) := by
      have habs : -(n.natAbs : Int) = n := by omega
      have hrange : 0 < n.natAbs ∧ Int64.minValue.toInt ≤ n := ⟨by omega, hlow⟩
      simp only [wholeNumber, ne_eq, not_true_eq_false, if_false, Bool.not_true, Bool.false_eq_true, habs]
      rw [if_pos hrange]
    have hsize : n.natAbs < UInt64.size := by
      have : Int64.minValue.toInt = -9223372036854775808 := by decide
      rw [UInt64.size]
      omega
    rw [List.cons_append, readScalar, readNumber_decimalText hsize hm ht]
    rfl
  · rename_i hneg
    have hm : wholeNumber false n.natAbs 0 = .ok (.integer n) := by
      have habs : (n.natAbs : Int) = n := by omega
      simp [wholeNumber, habs]
    have hread := readNumber_decimalText (show n.natAbs < UInt64.size by omega) hm ht
    obtain ⟨c, ds, htext, hc⟩ := decimalText_head n.natAbs
    rw [htext, List.cons_append] at hread ⊢
    rw [readScalar_digit hc, hread]
    rfl

theorem integerText_head (n : Int) :
    ∃ c t, integerText n = c :: t ∧ isSpace c = false ∧ c ≠ '[' ∧ c ≠ ']' ∧ c ≠ '\x7b' := by
  unfold integerText
  split
  · exact ⟨_, _, rfl, rfl, by decide, by decide, by decide⟩
  · obtain ⟨c, t, htext, hc⟩ := decimalText_head n.natAbs
    refine ⟨c, t, htext, isSpace_of_isDigit hc, ?_, ?_, ?_⟩ <;> rintro rfl <;> cases hc

theorem readValue_integerText {n : Int} (hlow : Int64.minValue.toInt ≤ n) (hhigh : n < UInt64.size)
    (room : Nat) {t : List Char} (ht : Ends t) :
    readValue room (integerText n ++ t) = .ok (.number (.integer n), t) := by
  have hread := readScalar_integerText hlow hhigh ht
  obtain ⟨c, text, htext, hs, hl, -, ho⟩ := integerText_head n
  rw [htext, List.cons_append] at hread ⊢
  rw [readValue_scalar hs hl ho, hread]

/-! ## Strings -/

theorem hexValue?_digitChar : ∀ d < 16, hexValue? (Nat.digitChar d) = some d := by decide

/-- The escape of a control character, behind its backslash. -/
theorem readEscape_control {c : Char} (hc : c.toNat < 0x20) (rest : List Char) :
    readEscape ('u' :: '0' :: '0' :: Nat.digitChar (c.toNat / 16) :: Nat.digitChar (c.toNat % 16) :: rest) =
      .ok (c, rest) := by
  have hzero : hexValue? '0' = some 0 := by decide
  have hhigh := hexValue?_digitChar (c.toNat / 16) (by omega)
  have hlow := hexValue?_digitChar (c.toNat % 16) (by omega)
  have hvalue : c.toNat / 16 * 16 + c.toNat % 16 = c.toNat := by omega
  have hhex : readHex4 ('0' :: '0' :: Nat.digitChar (c.toNat / 16) :: Nat.digitChar (c.toNat % 16) :: rest) =
      .ok (c.toNat, rest) := by
    simp [readHex4, hzero, hhigh, hlow, hvalue]
  have hplain : isLowSurrogate c.toNat = false ∧ isHighSurrogate c.toNat = false := by
    simp only [isLowSurrogate, isHighSurrogate, Bool.and_eq_false_iff, decide_eq_false_iff_not]
    omega
  simp [readEscape, readCodePoint, hhex, hplain]

theorem readStringChars_escapeChar (fuel : Nat) (c : Char) (s : List Char) :
    readStringChars (fuel + 1) (escapeChar c ++ s) =
      readStringChars fuel s >>= fun (chars, rest) => .ok (c :: chars, rest) := by
  -- an escape of one letter
  have letter {l : Char} (h : plainEscape? l = some c) (hu : l ≠ 'u') :
      readStringChars (fuel + 1) ('\\' :: l :: s) =
        readStringChars fuel s >>= fun (chars, rest) => .ok (c :: chars, rest) := by
    have hescape : readEscape (l :: s) = .ok (c, s) := by
      rw [readEscape]
      · rw [h]
      · exact fun h => hu h
    rw [readStringChars, hescape]
    rfl
  by_cases hquote : c = '"'
  · subst c
    exact letter rfl (by decide)
  by_cases hbackslash : c = '\\'
  · subst c
    exact letter rfl (by decide)
  by_cases hbackspace : c = '\x08'
  · subst c
    exact letter rfl (by decide)
  by_cases hfeed : c = '\x0C'
  · subst c
    exact letter rfl (by decide)
  by_cases hline : c = '\n'
  · subst c
    exact letter rfl (by decide)
  by_cases hcarriage : c = '\r'
  · subst c
    exact letter rfl (by decide)
  by_cases htab : c = '\t'
  · subst c
    exact letter rfl (by decide)
  rw [escapeChar, if_neg hquote, if_neg hbackslash, if_neg hbackspace, if_neg hfeed, if_neg hline,
    if_neg hcarriage, if_neg htab]
  split
  · rename_i hc
    rw [List.cons_append, readStringChars]
    simp only [List.cons_append, List.nil_append, readEscape_control hc, ok_bind]
  · rename_i hc
    rw [List.cons_append, readStringChars]
    · rw [if_neg hc]
      rfl
    · exact hquote
    · exact hbackslash

/-- No character is lost in its escape. -/
theorem length_le_escape (cs : List Char) : cs.length ≤ (cs.flatMap escapeChar).length := by
  have one (c : Char) : 1 ≤ (escapeChar c).length := by
    unfold escapeChar
    repeat' split
    all_goals simp
  induction cs with
  | nil => simp
  | cons c cs ih =>
    rw [List.flatMap_cons, List.length_append, List.length_cons, Nat.add_comm]
    exact Nat.add_le_add (one c) ih

/-- A string is given back by its text. -/
theorem readString_stringText (s : String) (rest : List Char) :
    readString (s.toList.flatMap escapeChar ++ '"' :: rest) = .ok (s, rest) := by
  have chars (cs : List Char) (fuel : Nat) (hfuel : cs.length < fuel) :
      readStringChars fuel (cs.flatMap escapeChar ++ '"' :: rest) = .ok (cs, rest) := by
    induction cs generalizing fuel with
    | nil =>
      cases fuel with
      | zero => cases hfuel
      | succ fuel => rfl
    | cons c cs ih =>
      cases fuel with
      | zero => cases hfuel
      | succ fuel =>
        rw [List.flatMap_cons, List.append_assoc, readStringChars_escapeChar,
          ih fuel (Nat.lt_of_succ_lt_succ hfuel)]
        rfl
  have hlength := length_le_escape s.toList
  rw [readString, chars s.toList]
  · simp
  · simp only [List.length_append]
    omega

theorem readValue_stringText (s : String) (room : Nat) (rest : List Char) :
    readValue room (stringText s ++ rest) = .ok (.string s, rest) := by
  have htext : stringText s ++ rest = '"' :: (s.toList.flatMap escapeChar ++ '"' :: rest) := by
    simp [stringText]
  rw [htext, readValue_scalar rfl (by decide) (by decide), readScalar, readString_stringText]
  rfl

end Json

theorem Binary64.ReadsBack.readValue {x : Binary64} (h : x.ReadsBack) (room : Nat) {t : List Char}
    (ht : Json.Ends t) :
    Json.readValue room (x.toJsonText.toList ++ t) = .ok (.number (.binary x), t) :=
  Json.readValue_of_parse (by rwa [String.ofList_toList]) (Json.spaceless_toJsonText x) room ht

/-- A number is given back if its text is read as that number up to its end. -/
theorem Binary64.ReadsBack.of_readNumber {x : Binary64} {c : Char} {s : List Char}
    (htext : x.toJsonText = String.ofList (c :: s)) (hc : isDigit c = true)
    (h : Json.readNumber false (c :: s) = .ok (.binary x, [])) : x.ReadsBack := by
  have hlist : c ≠ '[' ∧ c ≠ '\x7b' := by
    constructor <;> rintro rfl <;> cases hc
  rw [ReadsBack, htext, Json.parse, Json.readText, String.toList_ofList,
    Json.readValue_scalar (Json.isSpace_of_isDigit hc) hlist.1 hlist.2, Json.readScalar_digit hc, h]
  rfl

/-- The text of a number that is given back begins like no space and closes no list. -/
theorem Binary64.ReadsBack.head {x : Binary64} (h : x.ReadsBack) :
    ∃ c t, x.toJsonText.toList = c :: t ∧ Json.isSpace c = false ∧ c ≠ ']' := by
  have hread := h.readValue 0 Json.Ends.nil
  have hspace := Json.spaceless_toJsonText x
  cases htext : x.toJsonText.toList with
  | nil =>
    rw [htext] at hread
    cases hread
  | cons c t =>
    rw [htext] at hread hspace
    refine ⟨c, t, rfl, hspace c (by simp), ?_⟩
    rintro rfl
    cases hread

/-- Only a finite number is given back by its text. -/
theorem Binary64.ReadsBack.isFinite {x : Binary64} (h : x.ReadsBack) : x.isFinite = true := by
  have hnull : Json.parse "null" ≠ .ok (.number (.binary x)) := by
    have : Json.parse "null" = .ok .null := by rfl
    simp [this]
  cases x with
  | nan => exact absurd h hnull
  | infinite negative => exact absurd h hnull
  | finite => rfl

end BlockPilot
