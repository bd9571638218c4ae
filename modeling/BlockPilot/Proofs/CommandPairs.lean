import BlockPilot.Proofs.AsciiBytes
import BlockPilot.Proofs.FormPairs
import BlockPilot.Proofs.PlainText
import BlockPilot.Robot.CommandUrl

/-!
# Commands in addresses

Whatever pairs the address of a robot has, those of a command stand behind them, and the command and its
number are read off the last ones (`Command.ofPairs?`). So no two commands or numbers give the same address
(`commands_encoded_without_loss`). As a text, the pairs are one more part of the query
(`query_addPairs_command`).
-/

namespace BlockPilot

/-- The text of an address that counts: without the white space around it, and then without the slashes at
its end. -/
def addressText (address : String) : List Char :=
  Text.dropEndWhile (· == '/') (Text.trimChars address.toList)

/-! ## Addresses with more pairs -/

namespace Url

/-- More pairs change nothing but the query. -/
theorem addPairs_frame (u : Url) (ps : List (List Char × List Char)) :
    u.addPairs ps = { u with query := (u.addPairs ps).query } := by
  induction ps generalizing u with
  | nil => rfl
  | cons p ps ih => exact ih (u.addPair p.1 p.2)

theorem pairs_addPairs (u : Url) (ps : List (List Char × List Char)) : (u.addPairs ps).pairs =
    u.pairs ++ ps.map fun p => (p.1.flatMap String.utf8EncodeChar, p.2.flatMap String.utf8EncodeChar) := by
  induction ps generalizing u with
  | nil => simp [addPairs]
  | cons p ps ih =>
    have hstep : u.addPairs (p :: ps) = (u.addPair p.1 p.2).addPairs ps := rfl
    rw [hstep, ih, pairs_addPair, List.map_cons, List.append_assoc]
    rfl

theorem tailText_injective (sign : Char) : Function.Injective (tailText sign) := by
  intro a b h
  cases a <;> cases b <;> simp_all [tailText]

/-- What is added to an address is read off its text. -/
theorem pairs_of_text {u : Url} {ps ps' : List (List Char × List Char)}
    (h : (u.addPairs ps).text = (u.addPairs ps').text) : (u.addPairs ps).pairs = (u.addPairs ps').pairs := by
  rw [addPairs_frame u ps, addPairs_frame u ps', text, text] at h
  have hquery : (u.addPairs ps).query = (u.addPairs ps').query :=
    tailText_injective '?' (List.append_cancel_left (List.append_cancel_right h))
  rw [pairs, pairs, hquery]

end Url

/-! ## The characters of commands -/

theorem toNat_lt_of_isFormChar {c : Char} (h : Url.isFormChar c = true) : c.toNat < 128 := by
  simp only [Url.isFormChar, Bool.or_eq_true, beq_iff_eq] at h
  rcases h with (((h | rfl) | rfl) | rfl) | rfl
  · exact toNat_lt_of_isAlphanum h
  all_goals decide

theorem isFormChar_name (a : Action) : ∀ c ∈ a.name.toList, Url.isFormChar c = true :=
  List.all_eq_true.1 (by cases a <;> decide)

theorem isFormChar_digit {c : Char} (h : isDigit c = true) : Url.isFormChar c = true := by
  obtain ⟨hlow, hhigh⟩ := isDigit_iff.1 h
  have hdigit : c.isDigit = true := by
    rw [Char.isDigit, Bool.and_eq_true, decide_eq_true_iff, decide_eq_true_iff, ge_iff_le,
      UInt32.le_iff_toNat_le, UInt32.le_iff_toNat_le]
    exact ⟨hlow, hhigh⟩
  simp [Url.isFormChar, Char.isAlphanum, hdigit]

theorem isFormChar_decimal (n : Nat) : ∀ c ∈ decimalText n, Url.isFormChar c = true :=
  fun c hc => isFormChar_digit (Json.isDigit_decimalText n c hc)

theorem isFormChar_integer (n : Int) : ∀ c ∈ Json.integerText n, Url.isFormChar c = true := by
  intro c hc
  unfold Json.integerText at hc
  split at hc
  · rcases List.mem_cons.1 hc with rfl | hc
    · decide
    · exact isFormChar_decimal _ c hc
  · exact isFormChar_decimal _ c hc

/-- The pairs of a command are shown in a form as they are. -/
theorem isFormChar_pairs (c : Command) (nonce : Int) : ∀ p ∈ c.pairs nonce,
    (∀ x ∈ p.1, Url.isFormChar x = true) ∧ ∀ x ∈ p.2, Url.isFormChar x = true := by
  have haction : "action".toList.all Url.isFormChar = true := by decide
  have hvalue : "value".toList.all Url.isFormChar = true := by decide
  have hnonce : "t".toList.all Url.isFormChar = true := by decide
  intro p hp
  simp only [Command.pairs, List.mem_append, List.mem_singleton, Option.mem_toList,
    Option.map_eq_some_iff] at hp
  rcases hp with (rfl | ⟨n, -, rfl⟩) | rfl
  · exact ⟨List.all_eq_true.1 haction, isFormChar_name c.action⟩
  · exact ⟨List.all_eq_true.1 hvalue, isFormChar_decimal n⟩
  · exact ⟨List.all_eq_true.1 hnonce, isFormChar_integer nonce⟩

/-! ## Reading a command -/

/-- The integer that a sign and digits stand for. -/
def integerOf (s : List Char) : Int :=
  if (takeSign s).1 then -(ofDigits (takeSign s).2 : Int) else ofDigits (takeSign s).2

theorem integerOf_integerText (n : Int) : integerOf (Json.integerText n) = n := by
  unfold Json.integerText
  split
  · simp only [integerOf, takeSign, if_true, ofDigits_decimalText]
    omega
  · rename_i hsign
    obtain ⟨c, t, htext, hc⟩ := Json.decimalText_head n.natAbs
    have hnone : takeSign (decimalText n.natAbs) = (false, decimalText n.natAbs) := by
      rw [htext, takeSign.eq_def]
      split
      · rename_i heq
        cases heq
        cases hc
      · rename_i heq
        cases heq
        cases hc
      · rfl
    simp only [integerOf, hnone, Bool.false_eq_true, if_false, ofDigits_decimalText]
    omega

/-- The action with a name. -/
def Action.ofName? (name : List Char) : Option Action :=
  (names.find? (·.1.toList == name)).map (·.2)

theorem Action.ofName?_name (a : Action) : ofName? a.name.toList = some a := by
  cases a <;> decide

namespace Command

/-- The command and the number that texts of pairs give, the last pair first. -/
def ofTexts? : List (List Char × List Char) → Option (Command × Int)
  | nonce :: last :: rest =>
    if last.1 = "value".toList then
      rest.head?.bind fun first =>
        (Action.ofName? first.2).map fun a => (⟨a, some (ofDigits last.2)⟩, integerOf nonce.2)
    else (Action.ofName? last.2).map fun a => (⟨a, none⟩, integerOf nonce.2)
  | _ => none

/-- The command and the number that the last pairs of a query give. -/
def ofPairs? (pairs : List (List UInt8 × List UInt8)) : Option (Command × Int) :=
  ofTexts? (pairs.map fun p => (asciiText p.1, asciiText p.2)).reverse

theorem ofTexts?_pairs (front : List (List Char × List Char)) (c : Command) (nonce : Int) :
    ofTexts? (front ++ c.pairs nonce).reverse = some (c, nonce) := by
  obtain ⟨action, value⟩ := c
  cases value with
  | none => simp [pairs, ofTexts?, Action.ofName?_name, integerOf_integerText]
  | some n => simp [pairs, ofTexts?, Action.ofName?_name, integerOf_integerText]

theorem ascii_pairs (c : Command) (nonce : Int) :
    ∀ p ∈ c.pairs nonce, (∀ x ∈ p.1, x.toNat < 128) ∧ ∀ x ∈ p.2, x.toNat < 128 := by
  intro p hp
  obtain ⟨hname, hvalue⟩ := isFormChar_pairs c nonce p hp
  exact ⟨fun x hx => toNat_lt_of_isFormChar (hname x hx), fun x hx => toNat_lt_of_isFormChar (hvalue x hx)⟩

/-- A command and its number are read off the pairs that they were written as, whatever pairs stand in front
of them. -/
theorem ofPairs?_pairs (front : List (List UInt8 × List UInt8)) (c : Command) (nonce : Int) :
    ofPairs? (front ++ (c.pairs nonce).map fun p =>
      (p.1.flatMap String.utf8EncodeChar, p.2.flatMap String.utf8EncodeChar)) = some (c, nonce) := by
  have hback : (c.pairs nonce).map (fun p => (asciiText (p.1.flatMap String.utf8EncodeChar),
      asciiText (p.2.flatMap String.utf8EncodeChar))) = c.pairs nonce := by
    refine (List.map_congr_left fun p hp => ?_).trans (List.map_id _)
    obtain ⟨hname, hvalue⟩ := ascii_pairs c nonce p hp
    rw [asciiText_bytes hname, asciiText_bytes hvalue]
    rfl
  simp only [ofPairs?, List.map_append, List.map_map, Function.comp_def, hback]
  exact ofTexts?_pairs _ c nonce

end Command

/-! ## The address of a command -/

variable {address : String} {c : Command} {nonce : Int} {u : Url}

/-- A command is put into the query of the address that the robot's address gives with the path `cmd`. -/
theorem commandUrl_eq_ok : commandUrl address c nonce = .ok u ↔
    ∃ base, Url.parseHttp (addressText address ++ ['/', 'c', 'm', 'd']) = .ok base ∧
      u = base.addPairs (c.pairs nonce) := by
  have hbase : commandBase address = addressText address ++ ['/', 'c', 'm', 'd'] := rfl
  rw [commandUrl, hbase]
  cases Url.parseHttp (addressText address ++ ['/', 'c', 'm', 'd']) with
  | error fault => simp
  | ok base => simp [eq_comm]

theorem exists_of_isOk {ε α : Type} {x : Except ε α} (h : x.isOk = true) : ∃ a, x = .ok a := by
  cases x with
  | ok a => exact ⟨a, rfl⟩
  | error e => cases h

theorem toString_decimal (n : Nat) : (toString n).toList = decimalText n := by
  simp [toString, Nat.repr, decimalText]

theorem toString_integer (n : Int) : (toString n).toList = Json.integerText n := by
  cases n with
  | ofNat m => exact (toString_decimal m).trans (by simp [Json.integerText])
  | negSucc m =>
    have hrepr : toString (Int.negSucc m) = "-" ++ toString (m + 1) := rfl
    rw [hrepr, String.toList_append, toString_decimal, Json.integerText, if_pos (Int.negSucc_lt_zero m),
      Int.natAbs_negSucc]
    rfl

/-! ## The query of a command -/

/-- The query of a command. -/
def Command.queryText (c : Command) (nonce : Int) : String :=
  "action=" ++ c.action.name ++ (match c.value with | some n => "&value=" ++ toString n | none => "") ++
    "&t=" ++ toString nonce

/-- The query of a command is one more part of the query that is there. -/
theorem query_addPairs_command (u : Url) (c : Command) (nonce : Int) :
    (u.addPairs (c.pairs nonce)).query = some (Url.extendQuery u.query (c.queryText nonce).toList) := by
  have haction : Url.pairText ("action".toList, c.action.name.toList) =
      "action=".toList ++ c.action.name.toList := by
    rw [Url.pairText, Url.formText_eq_self (isFormChar_name c.action)]
    rfl
  have hvalue (n : Nat) : Url.pairText ("value".toList, decimalText n) =
      "value=".toList ++ decimalText n := by
    rw [Url.pairText, Url.formText_eq_self (isFormChar_decimal n)]
    rfl
  have hnonce : Url.pairText ("t".toList, Json.integerText nonce) =
      "t=".toList ++ Json.integerText nonce := by
    rw [Url.pairText, Url.formText_eq_self (isFormChar_integer nonce)]
    rfl
  refine (Url.query_addPairs u _ _).trans (congrArg (fun text => some (Url.extendQuery u.query text)) ?_)
  rw [Command.queryText, String.toList_append, String.toList_append, String.toList_append,
    String.toList_append, toString_integer]
  cases c.value with
  | none =>
    show List.intercalate ['&'] [Url.pairText ("action".toList, c.action.name.toList),
      Url.pairText ("t".toList, Json.integerText nonce)] = _
    rw [haction, hnonce]
    simp
  | some n =>
    show List.intercalate ['&'] [Url.pairText ("action".toList, c.action.name.toList),
      Url.pairText ("value".toList, decimalText n), Url.pairText ("t".toList, Json.integerText nonce)] = _
    rw [haction, hvalue, hnonce, String.toList_append, toString_decimal]
    simp

/-! ## Commands read off an address -/

/-- The pairs of a command in bytes. -/
theorem bytes_pairs (c : Command) (nonce : Int) : (c.pairs nonce).map (fun p =>
    (p.1.flatMap String.utf8EncodeChar, p.2.flatMap String.utf8EncodeChar)) =
    [(bytesOfText "action", bytesOfText c.action.name)] ++
      (c.value.map fun n => (bytesOfText "value", bytesOfText (toString n))).toList ++
      [(bytesOfText "t", bytesOfText (toString nonce))] := by
  simp only [Command.pairs, bytesOfText, toString_decimal, toString_integer]
  cases c.value <;> rfl

/-- **Commands are encoded without loss.** Whether there is an address for a command, and which, depends on
the address of the robot only through the text that counts, and whether there is one does not depend on the
command and its number. The pairs of the query end with the action, the value if there is one, and the number,
and the command and the number are read off them. So no other command or number gives the same text. -/
theorem commands_encoded_without_loss :
    (∀ a b c nonce, addressText a = addressText b →
      (commandUrl a c nonce).toOption = (commandUrl b c nonce).toOption) ∧
    (∀ a c nonce c' nonce', (commandUrl a c nonce).isOk = (commandUrl a c' nonce').isOk) ∧
    (∀ a c nonce u, commandUrl a c nonce = .ok u →
      (∃ front, u.pairs = front ++ ([(bytesOfText "action", bytesOfText c.action.name)] ++
        (c.value.map fun n => (bytesOfText "value", bytesOfText (toString n))).toList ++
        [(bytesOfText "t", bytesOfText (toString nonce))])) ∧
      Command.ofPairs? u.pairs = some (c, nonce)) ∧
    ∀ a c nonce c' nonce' u u', commandUrl a c nonce = .ok u → commandUrl a c' nonce' = .ok u' →
      u.text = u'.text → c = c' ∧ nonce = nonce' := by
  refine ⟨fun a b c nonce hab => ?_, fun a c nonce c' nonce' => ?_, fun a c nonce u hu => ?_,
    fun a c nonce c' nonce' u u' hu hu' htext => ?_⟩
  · have hbase : commandBase a = commandBase b := congrArg (· ++ ['/', 'c', 'm', 'd']) hab
    rw [commandUrl, commandUrl, hbase]
    cases Url.parseHttp (commandBase b) <;> rfl
  · rw [commandUrl, commandUrl]
    cases Url.parseHttp (commandBase a) <;> rfl
  · obtain ⟨base, -, rfl⟩ := commandUrl_eq_ok.1 hu
    rw [Url.pairs_addPairs]
    exact ⟨⟨base.pairs, by rw [bytes_pairs]⟩, Command.ofPairs?_pairs base.pairs c nonce⟩
  · obtain ⟨base, hbase, rfl⟩ := commandUrl_eq_ok.1 hu
    obtain ⟨base', hbase', rfl⟩ := commandUrl_eq_ok.1 hu'
    obtain rfl : base = base' := Except.ok.inj (hbase.symm.trans hbase')
    have hpairs := Url.pairs_of_text htext
    rw [Url.pairs_addPairs, Url.pairs_addPairs] at hpairs
    have hread := Command.ofPairs?_pairs base.pairs c nonce
    rw [hpairs, Command.ofPairs?_pairs, Option.some.injEq, Prod.mk.injEq] at hread
    exact ⟨hread.1.symm, hread.2.symm⟩

/-- At an address that has a query, a speed and a number with a minus sign are read off the address that gives
them, and it is not the address of another command. -/
theorem speed_encoded_without_loss :
    addressText " http://10.0.0.1/?a=b//" = addressText "http://10.0.0.1/?a=b" ∧
    ∃ u u', commandUrl "http://10.0.0.1/?a=b" ⟨.speed, some 800⟩ (-7) = .ok u ∧
      commandUrl "http://10.0.0.1/?a=b" ⟨.speed, none⟩ 7 = .ok u' ∧
      (commandUrl " http://10.0.0.1/?a=b//" ⟨.speed, some 800⟩ (-7)).toOption = some u ∧
      Command.ofPairs? u.pairs = some (⟨.speed, some 800⟩, -7) ∧ u.text ≠ u'.text := by
  have hsame : addressText " http://10.0.0.1/?a=b//" = addressText "http://10.0.0.1/?a=b" := by
    decide +kernel
  have hok : (commandUrl "http://10.0.0.1/?a=b" ⟨.speed, none⟩ 7).isOk = true := by decide +kernel
  obtain ⟨hdepends, hsuccess, hpairs, hinjective⟩ := commands_encoded_without_loss
  obtain ⟨u', hu'⟩ := exists_of_isOk hok
  obtain ⟨u, hu⟩ := exists_of_isOk ((hsuccess _ ⟨.speed, some 800⟩ (-7) ⟨.speed, none⟩ 7).trans hok)
  refine ⟨hsame, u, u', hu, hu', (hdepends _ _ _ _ hsame).trans (by rw [hu]; rfl), (hpairs _ _ _ u hu).2,
    fun htext => ?_⟩
  exact absurd (hinjective _ _ _ _ _ u u' hu hu' htext).2 (by decide)

end BlockPilot
