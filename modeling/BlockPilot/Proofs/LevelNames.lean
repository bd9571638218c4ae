import BlockPilot.Logging.Options
import BlockPilot.Proofs.PlainText

/-!
# Names of levels

A configuration is checked by the full lower case of its level, and its level is read without the white space
around it, as a number or by the lower case of ASCII. Both agree on every text that passes the check, since it
is made of letters of ASCII (`Level.ofText?_of_lowercase`). So a valid configuration always gives options for
log lines (`Config.valid_gives_options`).
-/

namespace BlockPilot

namespace Level

variable {text : String} {l : Level}

theorem name_letters (l : Level) : ∀ c ∈ l.name.toList, 97 ≤ c.toNat ∧ c.toNat < 128 ∧ c ≠ 'k' := by
  have hall : l.name.toList.all (fun c => 97 ≤ c.toNat && (c.toNat < 128 && c != 'k')) = true := by
    cases l <;> decide
  simpa only [List.all_eq_true, Bool.and_eq_true, decide_eq_true_eq, bne_iff_ne] using hall

theorem find_name (l : Level) : all.find? (·.name == l.name) = some l := by
  cases l <;> decide

/-- A text whose full lower case is the name of a level differs from it by the case of ASCII only. -/
theorem lowercaseAscii_of_lowercase (h : Text.lowercase text = l.name) : Text.lowercaseAscii text = l.name := by
  rw [← h, Text.lowercase_of_ascii]
  intro c hc
  rw [h] at hc
  exact (name_letters l c hc).2

/-- What is a letter in lower case is one. -/
theorem letter_of_toLower {c : Char} (hlow : 97 ≤ c.toLower.toNat) (hhigh : c.toLower.toNat < 128) :
    65 ≤ c.toNat ∧ c.toNat < 128 := by
  constructor
  · by_contra hsmall
    have hsame : c.toLower = c := by
      rw [← Text.lowercaseChar_of_ascii (by omega), Text.lowercaseChar_eq_self (by omega)]
    rw [hsame] at hlow
    omega
  · by_contra hforeign
    rw [Text.toLower_of_not_ascii (by omega)] at hhigh
    omega

theorem letters_of_lowercaseAscii (h : Text.lowercaseAscii text = l.name) :
    ∀ c ∈ text.toList, 65 ≤ c.toNat ∧ c.toNat < 128 := by
  intro c hc
  have hmem : c.toLower ∈ l.name.toList := by
    rw [← h, Text.lowercaseAscii, String.toList_ofList]
    exact List.mem_map_of_mem hc
  obtain ⟨hlow, hhigh, -⟩ := name_letters l _ hmem
  exact letter_of_toLower hlow hhigh

/-- Such a text has no white space around it. -/
theorem trim_eq_self (h : ∀ c ∈ text.toList, 65 ≤ c.toNat ∧ c.toNat < 128) : Text.trim text = text := by
  have hblank : ∀ c ∈ text.toList, Text.isBlank c = false := by
    intro c hc
    have := h c hc
    simp only [Text.isBlank]
    simp
    omega
  rw [Text.trim, Text.trimChars_eq_self hblank, String.ofList_toList]

/-- Such a text is no number. -/
theorem number?_eq_none (h : ∀ c ∈ text.toList, 65 ≤ c.toNat ∧ c.toNat < 128) : number? text = none := by
  unfold number?
  cases htext : text.toList with
  | nil => simp
  | cons c rest =>
    obtain ⟨hc, -⟩ := h c (htext ▸ List.mem_cons_self)
    have hdigit : isDigit c = false := by
      rw [Bool.eq_false_iff, Ne, isDigit_iff]
      omega
    split
    · rename_i heq
      obtain ⟨rfl, -⟩ := List.cons.inj heq
      exact absurd hc (by decide)
    · simp [hdigit]

/-- A text whose full lower case is the name of a level names this level. -/
theorem ofText?_of_lowercase (h : Text.lowercase text = l.name) : ofText? text = some l := by
  have hascii := lowercaseAscii_of_lowercase h
  have hletters := letters_of_lowercaseAscii hascii
  rw [ofText?, trim_eq_self hletters, ofName?, number?_eq_none hletters, hascii]
  exact find_name l

end Level

/-- **A valid configuration gives options for log lines.** Whatever text its level is, if it passes the check
of the configuration it names the level by whose name it passes, and differs from that name by the case of
ASCII only. Spans and places are told of exactly at the two levels that tell most. -/
theorem Config.valid_gives_options {c : Config} (h : c.problem? = none) :
    ∃ o, LogOptions.ofConfig? c = some o ∧
      Level.ofText? c.application.logLevel = some o.level ∧
      Text.lowercase c.application.logLevel = o.level.name ∧
      Text.lowercaseAscii c.application.logLevel = o.level.name ∧
      o.format = c.application.logFormat ∧
      (o.tellsSpans = true ↔ o.level = .debug ∨ o.level = .trace) ∧
      (o.tellsPlace = true ↔ o.level = .debug ∨ o.level = .trace) := by
  obtain ⟨l, hlower⟩ : ∃ l : Level, Text.lowercase c.application.logLevel = l.name := by
    unfold Config.problem? at h
    split at h
    · cases h
    · rename_i hlevel
      simp only [Config.isLevel, Bool.not_eq_true', Bool.not_eq_false, List.any_eq_true, beq_iff_eq] at hlevel
      obtain ⟨l, -, hl⟩ := hlevel
      exact ⟨l, hl.symm⟩
  have hread := Level.ofText?_of_lowercase hlower
  have hverbose : l.isVerbose = true ↔ l = .debug ∨ l = .trace := by cases l <;> decide
  refine ⟨⟨l, c.application.logFormat, l.isVerbose, l.isVerbose⟩, ?_, hread, hlower,
    Level.lowercaseAscii_of_lowercase hlower, rfl, hverbose, hverbose⟩
  rw [LogOptions.ofConfig?, hread]
  rfl

/-- A level in mixed case; with a dotted capital I, or with white space around it, it is not valid. -/
theorem Config.valid_gives_options_of_mixed_case :
    let c (level : String) : Config :=
      { Config.defaults with application := { Config.defaults.application with logLevel := level } }
    (c "dEBuG").problem? = none ∧
      (∃ o, LogOptions.ofConfig? (c "dEBuG") = some o ∧ o.level = .debug ∧ o.tellsSpans = true) ∧
      (c "İnfo").problem? = some (.unknownLevel "İnfo") ∧
      (c " info").problem? = some (.unknownLevel " info") ∧ Level.ofText? " info" = some .info := by
  intro c
  have hvalid : (c "dEBuG").problem? = none := by decide +kernel
  obtain ⟨o, ho, hlevel, -, -, -, hspans, -⟩ := Config.valid_gives_options hvalid
  have hdebug : Level.ofText? (c "dEBuG").application.logLevel = some .debug := by decide +kernel
  have hlevel : o.level = .debug := Option.some.inj (hlevel.symm.trans hdebug)
  refine ⟨hvalid, ⟨o, ho, hlevel, hspans.2 (Or.inl hlevel)⟩, ?_, ?_, ?_⟩
  all_goals decide +kernel

end BlockPilot
