import BlockPilot.Proofs.HostText
import BlockPilot.Proofs.PlainText
import BlockPilot.Url.Basic
import Mathlib.Data.List.DropRight

/-!
# Parts of addresses

What is read of an address up to the first sign that ends its authority does not depend on what follows: the
user, the host and the port are those of the front (`Url.ofAuthority_append`), and the path, the query and the
fragment those of the rest (`Url.goOn_tails`). An authority does not end with a control or a space
(`Url.ofAuthority_blank`). In front of the authority, the scheme is that of the text up to its colon
(`Url.scheme?_append`), and what is cleaned away at the end of a text depends on whether anything follows
(`Url.clean_append`).
-/

namespace BlockPilot.Url

/-- A text in which the authority does not end. -/
def IsAuthority (s : List Char) : Prop :=
  ∀ c ∈ s, endsAuthority true c = false

/-- A text behind the authority, which may be the end of the address. -/
def IsBehind (t : List Char) : Prop :=
  ∀ c ∈ t.head?, endsAuthority true c = true

theorem isBehind_nil : IsBehind [] := by simp [IsBehind]

variable {s t user host : List Char}

/-! ## Users -/

theorem takeWhile_authority (hs : IsAuthority s) (ht : IsBehind t) :
    (s ++ t).takeWhile (!endsAuthority true ·) = s := by
  rw [List.takeWhile_append_of_pos fun c hc => by rw [hs c hc]; rfl]
  cases t with
  | nil => rw [List.takeWhile_nil, List.append_nil]
  | cons c t => rw [List.takeWhile_cons_of_neg (by rw [ht c rfl]; decide), List.append_nil]

theorem splitUser_none (hs : IsAuthority s) (ht : IsBehind t) (hat : '@' ∉ s) :
    splitUser true (s ++ t) = .ok ([], s ++ t) := by
  have hcontains : s.contains '@' = false := by simpa using hat
  simp only [splitUser, takeWhile_authority hs ht, hcontains, Bool.false_eq_true, if_false]

theorem splitUser_some (hs : IsAuthority (user ++ '@' :: host)) (ht : IsBehind t) (hat : '@' ∉ host) :
    splitUser true (user ++ '@' :: host ++ t) =
      if user = [] ∧ host = [] ∧ t ≠ [] then .error .emptyHost else .ok (userText user, host ++ t) := by
  have hcontains : (user ++ '@' :: host).contains '@' = true := by simp
  have hhost : ((user ++ '@' :: host).reverse.takeWhile (· != '@')).reverse = host := by
    have hkeep : ∀ c ∈ host.reverse, (c != '@') = true := by
      intro c hc
      have : c ≠ '@' := fun h => hat (h ▸ List.mem_reverse.1 hc)
      simpa using this
    rw [List.reverse_append, List.reverse_cons, List.append_assoc, List.takeWhile_append_of_pos hkeep]
    simp
  have huser : (user ++ '@' :: host).take ((user ++ '@' :: host).length - host.length - 1) = user := by
    have hlength : (user ++ '@' :: host).length - host.length - 1 = user.length := by simp; omega
    rw [hlength, List.take_left]
  have hrest : (user ++ '@' :: host ++ t).drop (user.length + 1) = host ++ t := by
    rw [List.append_assoc, ← List.drop_drop, List.drop_left]
    rfl
  have hempty : (user = [] ∧ host = [] ∧ host ++ t ≠ []) ↔ (user = [] ∧ host = [] ∧ t ≠ []) := by
    constructor
    · rintro ⟨hu, rfl, h⟩
      exact ⟨hu, rfl, h⟩
    · rintro ⟨hu, rfl, h⟩
      exact ⟨hu, rfl, h⟩
  simp only [splitUser, takeWhile_authority hs ht, hcontains, if_true, hhost, huser, hrest, hempty]

/-- A text has the sign behind the user, at its last place, or has not. -/
theorem exists_last_at (s : List Char) : '@' ∉ s ∨ ∃ user host, s = user ++ '@' :: host ∧ '@' ∉ host := by
  by_cases hat : '@' ∈ s
  · obtain ⟨host, user, hreverse, hhost⟩ := List.eq_append_cons_of_mem (List.mem_reverse.2 hat)
    refine Or.inr ⟨user.reverse, host.reverse, ?_, by simpa using hhost⟩
    rw [← List.reverse_reverse s, hreverse]
    simp
  · exact Or.inl hat

/-! ## Hosts -/

theorem splitHost_append (hs : IsAuthority s) (ht : IsBehind t) (bracket : Bool) :
    splitHost true bracket (s ++ t) = ((splitHost true bracket s).1, (splitHost true bracket s).2 ++ t) := by
  induction s generalizing bracket with
  | nil =>
    cases t with
    | nil => rfl
    | cons c t =>
      have hends : (endsAuthority true c || (c == ':' && !bracket)) = true := by rw [ht c rfl]; rfl
      show splitHost true bracket (c :: t) = ([], c :: t)
      rw [splitHost, if_pos hends]
  | cons c s ih =>
    rw [List.cons_append, splitHost, splitHost]
    split
    · rfl
    · simp only [ih fun d hd => hs d (List.mem_cons_of_mem c hd)]

theorem splitHost_parts (slashes bracket : Bool) (s : List Char) :
    (splitHost slashes bracket s).1 ++ (splitHost slashes bracket s).2 = s := by
  induction s generalizing bracket with
  | nil => rfl
  | cons c s ih =>
    rw [splitHost]
    split
    · rfl
    · exact congrArg (c :: ·) (ih _)

/-- A host ends with its authority or at a colon. -/
theorem splitHost_rest (hs : IsAuthority s) (bracket : Bool) :
    (splitHost true bracket s).2 = [] ∨ ∃ port, (splitHost true bracket s).2 = ':' :: port := by
  induction s generalizing bracket with
  | nil => exact Or.inl rfl
  | cons c s ih =>
    rw [splitHost]
    split
    · rename_i hends
      rw [hs c List.mem_cons_self, Bool.false_or, Bool.and_eq_true, beq_iff_eq] at hends
      exact Or.inr ⟨s, by rw [hends.1]⟩
    · exact ih (fun d hd => hs d (List.mem_cons_of_mem c hd)) _

theorem isAuthority_rest (hs : IsAuthority s) (bracket : Bool) :
    IsAuthority (splitHost true bracket s).2 := by
  intro c hc
  refine hs c ?_
  rw [← splitHost_parts true bracket s]
  exact List.mem_append_right _ hc

/-! ## Ports -/

theorem isDigit_of_endsAuthority {c : Char} (h : endsAuthority true c = true) : isDigit c = false := by
  simp only [endsAuthority, Bool.true_and, Bool.or_eq_true, beq_iff_eq] at h
  rcases h with ((rfl | rfl) | rfl) | rfl <;> decide

/-- What is no digit does not end a port. -/
theorem readPort_of_other {ds : List Char} (hds : ∀ c ∈ ds, isDigit c = true) {c : Char}
    (hc : isDigit c = false) (hends : endsAuthority true c = false) :
    readPort (ds ++ c :: s) = .error .invalidPort := by
  have hneg : ¬ isDigit c = true := by rw [hc]; decide
  simp only [readPort, List.takeWhile_append_of_pos hds, List.dropWhile_append_of_pos hds,
    List.takeWhile_cons_of_neg hneg, List.dropWhile_cons_of_neg hneg, List.append_nil, hends]
  split
  · rfl
  · rfl

theorem readPort_digits {ds : List Char} (hds : ∀ c ∈ ds, isDigit c = true) (ht : IsBehind t) :
    readPort (ds ++ t) = if 65535 < ofDigits ds then .error .invalidPort
      else .ok (if ds = [] then none else some (ofDigits ds), t) := by
  cases t with
  | nil =>
    simp only [readPort, List.append_nil, List.takeWhile_eq_self_iff.2 hds, List.dropWhile_eq_nil_iff.2 hds]
  | cons c t =>
    have hneg : ¬ isDigit c = true := by rw [isDigit_of_endsAuthority (ht c rfl)]; decide
    simp only [readPort, List.takeWhile_append_of_pos hds, List.dropWhile_append_of_pos hds,
      List.takeWhile_cons_of_neg hneg, List.dropWhile_cons_of_neg hneg, List.append_nil, ht c rfl, if_true]

/-- A text is digits, or digits and another character behind them. -/
theorem exists_digits (s : List Char) : (∀ c ∈ s, isDigit c = true) ∨
    ∃ ds c r, s = ds ++ c :: r ∧ (∀ d ∈ ds, isDigit d = true) ∧ isDigit c = false := by
  induction s with
  | nil => exact Or.inl (by simp)
  | cons c s ih =>
    by_cases hc : isDigit c = true
    · rcases ih with ih | ⟨ds, d, r, rfl, hds, hd⟩
      · exact Or.inl (List.forall_mem_cons.2 ⟨hc, ih⟩)
      · exact Or.inr ⟨c :: ds, d, r, rfl, List.forall_mem_cons.2 ⟨hc, hds⟩, hd⟩
    · exact Or.inr ⟨[], c, s, rfl, by simp, Bool.eq_false_iff.2 hc⟩

theorem readPort_append (hs : IsAuthority s) (ht : IsBehind t) :
    readPort (s ++ t) = (readPort s).map fun p => (p.1, t) := by
  rcases exists_digits s with hds | ⟨ds, c, r, rfl, hds, hc⟩
  · have hs := readPort_digits hds isBehind_nil
    rw [List.append_nil] at hs
    rw [readPort_digits hds ht, hs]
    split <;> rfl
  · have hends := hs c (by simp)
    rw [List.append_assoc, List.cons_append, readPort_of_other hds hc hends, readPort_of_other hds hc hends]
    rfl

/-- The port in front of a path is the one at the end of an address. -/
theorem splitPort_append (hs : IsAuthority s) (ht : IsBehind t) (hrest : s = [] ∨ ∃ port, s = ':' :: port) :
    splitPort (s ++ t) = (splitPort s).map fun p => (p.1, t) := by
  rcases hrest with rfl | ⟨port, rfl⟩
  · rw [List.nil_append, splitPort.eq_def]
    split
    · rename_i rest
      exact absurd (ht ':' rfl) (by decide)
    · rfl
  · exact readPort_append (fun c hc => hs c (List.mem_cons_of_mem ':' hc)) ht

/-! ## Authorities -/

theorem ofHost_append (scheme user : List Char) (hs : IsAuthority s) (ht : IsBehind t) :
    ofHost scheme user (s ++ t) = (ofHost scheme user s).map (·.goOn t) := by
  have hport := splitPort_append (isAuthority_rest hs false) ht (splitHost_rest hs false)
  rw [ofHost, ofHost, splitHost_append hs ht]
  simp only [hport]
  split
  · rfl
  · cases Host.parse (splitHost true false s).1 with
    | error fault => rfl
    | ok host =>
      cases splitPort (splitHost true false s).2 with
      | error fault => rfl
      | ok port => rfl

/-- **What is read of an authority does not depend on what follows it.** -/
theorem ofAuthority_append (scheme : List Char) (hs : IsAuthority s) (ht : IsBehind t) :
    ofAuthority scheme (s ++ t) = (ofAuthority scheme s).map (·.goOn t) := by
  rcases exists_last_at s with hat | ⟨user, host, rfl, hat⟩
  · have hplain := splitUser_none hs isBehind_nil hat
    rw [List.append_nil] at hplain
    rw [ofAuthority, ofAuthority, splitUser_none hs ht hat, hplain]
    exact ofHost_append scheme [] hs ht
  · have hplain := splitUser_some hs isBehind_nil hat
    rw [List.append_nil, List.append_nil, if_neg fun h => h.2.2 rfl] at hplain
    rw [ofAuthority, ofAuthority, splitUser_some hs ht hat, hplain]
    have hhost : IsAuthority host := fun c hc => hs c (by simp [hc])
    split
    · -- a lonely sign is refused in front of a path, and without one as an empty host
      rename_i hempty
      obtain ⟨rfl, rfl, -⟩ := hempty
      rfl
    · exact ofHost_append scheme (userText user) hhost ht

theorem ofAuthority_append_eq_ok {scheme : List Char} (hs : IsAuthority s) (ht : IsBehind t) {u : Url}
    (h : ofAuthority scheme (s ++ t) = .ok u) : ∃ a, ofAuthority scheme s = .ok a ∧ u = a.goOn t := by
  rw [ofAuthority_append scheme hs ht] at h
  cases ha : ofAuthority scheme s with
  | error fault =>
    rw [ha] at h
    cases h
  | ok a =>
    rw [ha] at h
    exact ⟨a, rfl, (Except.ok.inj h).symm⟩

/-- What an address behind its user is made of. -/
theorem ofHost_eq_ok {scheme user s : List Char} {u : Url} (h : ofHost scheme user s = .ok u) :
    ∃ host port rest, Host.parse (splitHost true false s).1 = .ok host ∧
      splitPort (splitHost true false s).2 = .ok (port, rest) ∧
      u = goOn ⟨scheme, user, host, if port = defaultPort (String.ofList scheme) then none else port,
        [], none, none⟩ rest := by
  simp only [ofHost] at h
  split at h
  · cases h
  · cases hhost : Host.parse (splitHost true false s).1 with
    | error fault =>
      rw [hhost] at h
      cases h
    | ok host =>
      cases hport : splitPort (splitHost true false s).2 with
      | error fault =>
        rw [hhost, hport] at h
        cases h
      | ok parts =>
        rw [hhost, hport] at h
        exact ⟨host, parts.1, parts.2, rfl, rfl, (Except.ok.inj h).symm⟩

theorem ofAuthority_eq_ok {scheme s : List Char} {u : Url} (h : ofAuthority scheme s = .ok u) :
    ∃ user rest, ofHost scheme user rest = .ok u := by
  unfold ofAuthority at h
  cases huser : splitUser true s with
  | error fault =>
    rw [huser] at h
    cases h
  | ok parts =>
    rw [huser] at h
    exact ⟨parts.1, parts.2, h⟩

theorem scheme_of_ofAuthority {scheme s : List Char} {u : Url} (h : ofAuthority scheme s = .ok u) :
    u.scheme = scheme := by
  obtain ⟨user, rest, hhost⟩ := ofAuthority_eq_ok h
  obtain ⟨host, port, rest, -, -, rfl⟩ := ofHost_eq_ok hhost
  rfl

/-! ## Controls at the end -/

/-- The last character of a text stands behind a sign that it is not. -/
theorem getLast?_behind {c sign : Char} (hne : sign ≠ c) (h : (s ++ sign :: t).getLast? = some c) :
    t.getLast? = some c := by
  rw [List.getLast?_append_cons] at h
  cases t with
  | nil => exact absurd (Option.some.inj h) hne
  | cons d t => rwa [List.getLast?_cons_cons] at h

/-- A port that ends with something else than a digit is none. -/
theorem splitPort_blank {port : List Char} (hport : IsAuthority port) {c : Char}
    (hlast : port.getLast? = some c) (hc : c.toNat ≤ 0x20) : splitPort (':' :: port) = .error .invalidPort := by
  rcases exists_digits port with hdigits | ⟨ds, d, r, rfl, hds, hd⟩
  · have := isDigit_iff.1 (hdigits c (List.mem_of_getLast? hlast))
    omega
  · exact readPort_of_other hds hd (hport d (by simp))

/-- The host or the port ends at the last character of an authority, which is then no space and no control of
ASCII. -/
theorem ofHost_blank (scheme user : List Char) (hs : IsAuthority s) {c : Char} (hlast : s.getLast? = some c)
    (hc : c.toNat ≤ 0x20) (u : Url) : ofHost scheme user s ≠ .ok u := by
  intro h
  obtain ⟨host, port, rest, hhost, hport, -⟩ := ofHost_eq_ok h
  have hparts := splitHost_parts true false s
  rcases splitHost_rest hs false with hrest | ⟨digits, hrest⟩
  · rw [hrest, List.append_nil] at hparts
    exact Host.parse_blank (hparts.symm ▸ hlast) hc host hhost
  · have hcolon : ':' ≠ c := by
      rintro rfl
      exact absurd hc (by decide)
    rw [hrest] at hparts
    have hdigits : digits.getLast? = some c := getLast?_behind hcolon (hparts.symm ▸ hlast)
    have hauthority : IsAuthority digits := fun d hd =>
      isAuthority_rest hs false d (hrest.symm ▸ List.mem_cons_of_mem ':' hd)
    rw [hrest, splitPort_blank hauthority hdigits hc] at hport
    cases hport

theorem ofAuthority_blank (scheme : List Char) (hs : IsAuthority s) {c : Char} (hlast : s.getLast? = some c)
    (hc : c.toNat ≤ 0x20) (u : Url) : ofAuthority scheme s ≠ .ok u := by
  rcases exists_last_at s with hat | ⟨user, host, rfl, hat⟩
  · have hplain := splitUser_none hs isBehind_nil hat
    rw [List.append_nil] at hplain
    rw [ofAuthority, hplain]
    exact ofHost_blank scheme [] hs hlast hc u
  · have hplain := splitUser_some hs isBehind_nil hat
    rw [List.append_nil, List.append_nil, if_neg fun h => h.2.2 rfl] at hplain
    have hsign : '@' ≠ c := by
      rintro rfl
      exact absurd hc (by decide)
    rw [ofAuthority, hplain]
    exact ofHost_blank scheme (userText user) (fun c hc => hs c (by simp [hc])) (getLast?_behind hsign hlast) hc u

/-! ## Paths, queries and fragments -/

/-- Every text is what stands in front of a sign and, if it has the sign, what stands behind the first one. -/
theorem exists_tail (sign : Char) (s : List Char) :
    ∃ front tail, s = front ++ tailText sign tail ∧ sign ∉ front := by
  by_cases hsign : sign ∈ s
  · obtain ⟨front, tail, rfl, hfront⟩ := List.eq_append_cons_of_mem hsign
    exact ⟨front, some tail, rfl, hfront⟩
  · exact ⟨s, none, (List.append_nil s).symm, hsign⟩

/-- Every text behind an authority is a path with a query and a fragment, or without. -/
theorem exists_tails (s : List Char) : ∃ path query fragment,
    s = path ++ tailText '?' query ++ tailText '#' fragment ∧ '?' ∉ path ∧
      '#' ∉ path ++ tailText '?' query := by
  obtain ⟨front, fragment, rfl, hfront⟩ := exists_tail '#' s
  obtain ⟨path, query, rfl, hpath⟩ := exists_tail '?' front
  exact ⟨path, query, fragment, rfl, hpath, hfront⟩

theorem span_tail {sign : Char} {front : List Char} (h : sign ∉ front) (tail : Option (List Char)) :
    (front ++ tailText sign tail).takeWhile (· != sign) = front ∧
      (front ++ tailText sign tail).dropWhile (· != sign) = tailText sign tail := by
  have hkeep : ∀ c ∈ front, (c != sign) = true := by
    intro c hc
    have : c ≠ sign := fun heq => h (heq ▸ hc)
    simpa using this
  rw [List.takeWhile_append_of_pos hkeep, List.dropWhile_append_of_pos hkeep]
  cases tail <;> simp [tailText]

theorem tails_tailText {query : Option (List Char)} (hquery : '#' ∉ tailText '?' query)
    (fragment : Option (List Char)) : tails (tailText '?' query ++ tailText '#' fragment) =
      (query.map (encode querySet), fragment.map (encode fragmentSet)) := by
  cases query with
  | none => cases fragment <;> rfl
  | some query =>
    have hinner := (span_tail (fun h => hquery (List.mem_cons_of_mem '?' h)) fragment).1
    have hfragment := (span_tail hquery fragment).2
    have hcons : tailText '?' (some query) ++ tailText '#' fragment =
        '?' :: (query ++ tailText '#' fragment) := rfl
    rw [hcons] at hfragment ⊢
    rw [tails, hfragment]
    simp only [hinner]
    cases fragment <;> rfl

/-- The address behind an authority is read in its parts. -/
theorem goOn_tails (u : Url) {path : List Char} {query : Option (List Char)} (hpath : '?' ∉ path)
    (hfront : '#' ∉ path ++ tailText '?' query) (fragment : Option (List Char)) :
    u.goOn (path ++ tailText '?' query ++ tailText '#' fragment) =
      { u with
        path := Path.parse path.tail
        query := query.map (encode querySet)
        fragment := fragment.map (encode fragmentSet) } := by
  rw [List.mem_append, not_or] at hfront
  have hkeep : ∀ c ∈ path, (c != '?' && c != '#') = true := by
    intro c hc
    have hmark : c ≠ '?' := fun heq => hpath (heq ▸ hc)
    have hhash : c ≠ '#' := fun heq => hfront.1 (heq ▸ hc)
    simp [hmark, hhash]
  have htake : (path ++ (tailText '?' query ++ tailText '#' fragment)).takeWhile
      (fun c => c != '?' && c != '#') = path := by
    rw [List.takeWhile_append_of_pos hkeep]
    cases query <;> cases fragment <;> simp [tailText]
  rw [List.append_assoc, goOn, htake, List.drop_left, tails_tailText hfront.2]

/-! ## Paths -/

namespace Path

/-- The last segment is put behind those that the others leave. -/
theorem normalize_append (segments parts : List (List Char)) (last : List Char) :
    ∃ front, normalize segments (parts ++ [last]) = append front last true := by
  induction parts generalizing segments with
  | nil => exact ⟨segments, rfl⟩
  | cons part parts ih =>
    obtain ⟨front, hfront⟩ := ih (append segments part false)
    refine ⟨front, ?_⟩
    rw [← hfront, List.cons_append]
    cases parts <;> rfl

/-- A path that a segment is written behind ends with it, whatever segments its dots take away. -/
theorem parse_append (s : List Char) {name : List Char} (hslash : ∀ c ∈ name, isSlash c = false)
    (hencode : encode pathSet name = name) (hdot : undotted name ≠ ['.'])
    (hdots : undotted name ≠ ['.', '.']) :
    ∃ front, parse (s ++ '/' :: name) = front ++ [name] := by
  have hsplit : (s ++ '/' :: name).splitOnP isSlash =
      s.splitOnP isSlash ++ [name] := by
    rw [List.splitOnP_append_cons _ _ (by decide), List.splitOnP_eq_singleton hslash]
  rw [parse, hsplit, List.map_append, List.map_singleton, hencode]
  obtain ⟨front, hfront⟩ := normalize_append [] ((s.splitOnP isSlash).map (encode pathSet)) name
  refine ⟨front, ?_⟩
  rw [hfront, append]
  split
  · exact absurd ‹_› hdot
  · exact absurd ‹_› hdots
  · rfl

end Path

/-! ## Whole addresses -/

/-- The scheme of an address does not depend on what follows its colon. -/
theorem scheme?_append {s t name rest : List Char} (ht : ':' ∉ t) (h : scheme? (s ++ t) = some (name, rest)) :
    ∃ r, rest = r ++ t ∧ ∀ t, scheme? (s ++ t) = some (name, r ++ t) := by
  have hcolon : ¬ isSchemeChar ':' = true := by decide
  obtain ⟨shown, htext, hchars, hread⟩ : ∃ shown, s ++ t = shown ++ ':' :: rest ∧
      (∀ c ∈ shown, isSchemeChar c = true) ∧ ∀ rest, scheme? (shown ++ ':' :: rest) = some (name, rest) := by
    have hparts := List.takeWhile_append_dropWhile (p := isSchemeChar) (l := s ++ t)
    have hchars : ∀ c ∈ (s ++ t).takeWhile isSchemeChar, isSchemeChar c = true :=
      fun c hc => List.mem_takeWhile_imp hc
    unfold scheme? at h
    simp only at h
    split at h
    · rename_i c rest' hhead hrest
      split at h
      · rename_i halpha
        obtain ⟨hname, rfl⟩ := Prod.mk.inj (Option.some.inj h)
        rw [hrest] at hparts
        refine ⟨_, hparts.symm, hchars, fun rest => ?_⟩
        simp only [scheme?, List.takeWhile_append_of_pos hchars, List.dropWhile_append_of_pos hchars,
          List.takeWhile_cons_of_neg hcolon, List.dropWhile_cons_of_neg hcolon, List.append_nil, hhead,
          halpha, if_true, hname]
      · cases h
    · cases h
  -- the colon stands in front of the text without one
  rcases List.append_eq_append_iff.1 htext with ⟨more, -, htail⟩ | ⟨more, rfl, htail⟩
  · refine absurd ?_ ht
    rw [htail]
    exact List.mem_append_right _ List.mem_cons_self
  · cases more with
    | nil =>
      rw [List.nil_append] at htail
      exact absurd (htail ▸ List.mem_cons_self) ht
    | cons c r =>
      obtain ⟨rfl, rfl⟩ := List.cons.inj htail
      refine ⟨r, rfl, fun t => ?_⟩
      rw [List.append_assoc, List.cons_append]
      exact hread (r ++ t)

theorem parseHttp_of_scheme {text rest : List Char} (h : scheme? (clean text) = some ("http".toList, rest)) :
    parseHttp text = ofAuthority "http".toList (rest.dropWhile Path.isSlash) := by
  have hkind : schemeKind "http" = .hosted := by decide
  simp only [parseHttp, h, String.ofList_toList, hkind, if_true]
  cases ofAuthority "http".toList (rest.dropWhile Path.isSlash) <;> rfl

theorem scheme_of_parseHttp {text : List Char} {u : Url} (h : parseHttp text = .ok u) :
    ∃ rest, scheme? (clean text) = some ("http".toList, rest) := by
  unfold parseHttp at h
  split at h
  · cases h
  · rename_i scheme rest hscheme
    suffices hhttp : String.ofList scheme = "http" by
      refine ⟨rest, ?_⟩
      rw [hscheme, ← hhttp, String.toList_ofList]
    simp only at h
    split at h
    · cases hurl : ofAuthority scheme (rest.dropWhile Path.isSlash) with
      | error fault =>
        rw [hurl] at h
        cases h
      | ok url =>
        by_contra hne
        simp [hurl, Except.bind, bind, hne] at h
    · cases hfile : checkFile rest <;> rw [hfile] at h <;> cases h
    · cases hunknown : checkUnknown rest <;> rw [hunknown] at h <;> cases h

theorem isBreak_of_not_padding {c : Char} (h : isPadding c = false) : isBreak c = false := by
  rw [Bool.eq_false_iff]
  intro hbreak
  simp only [isBreak, Bool.or_eq_true, beq_iff_eq] at hbreak
  rcases hbreak with (rfl | rfl) | rfl <;> cases h

/-- Nothing is cleaned away of a text without controls and spaces, nor in front of it from the end. -/
theorem clean_append_plain (s : List Char) {tail : List Char} (hne : tail ≠ [])
    (htail : ∀ c ∈ tail, isPadding c = false) :
    clean (s ++ tail) = (s.dropWhile isPadding).filter (!isBreak ·) ++ tail := by
  have hstart : (s ++ tail).dropWhile isPadding = s.dropWhile isPadding ++ tail := by
    obtain ⟨c, t, rfl⟩ := List.exists_cons_of_ne_nil hne
    rw [List.dropWhile_append, List.dropWhile_cons_of_neg (by rw [htail c List.mem_cons_self]; decide)]
    split
    · rename_i hempty
      rw [List.isEmpty_iff.1 hempty, List.nil_append]
    · rfl
  have hend : Text.dropEndWhile isPadding (s.dropWhile isPadding ++ tail) =
      s.dropWhile isPadding ++ tail := by
    obtain ⟨t, c, rfl⟩ := (List.eq_nil_or_concat' tail).resolve_left hne
    rw [← List.append_assoc]
    exact List.rdropWhile_concat_neg _ _ c (by rw [htail c (by simp)]; decide)
  have hkept : tail.filter (!isBreak ·) = tail := by
    rw [List.filter_eq_self]
    intro c hc
    rw [isBreak_of_not_padding (htail c hc)]
    rfl
  rw [clean, hstart, hend, List.filter_append, hkept]

/-- Cleaning leaves what stands in front of slashes or of a path, and in front of a path the controls at its
end as well. -/
theorem clean_append (s path : List Char) {slashes : List Char} (hslashes : ∀ c ∈ slashes, c = '/')
    (hne : path ≠ []) (hpath : ∀ c ∈ path, isPadding c = false) :
    ∃ front gap, (∀ c ∈ gap, isPadding c = true) ∧ clean (s ++ slashes) = front ++ slashes ∧
      clean (s ++ path) = front ++ gap ++ path := by
  rw [clean_append_plain s hne hpath]
  by_cases hnone : slashes = []
  · have hparts : s.dropWhile isPadding = Text.dropEndWhile isPadding (s.dropWhile isPadding) ++
        (s.dropWhile isPadding).rtakeWhile isPadding := List.rdropWhile_append_rtakeWhile.symm
    refine ⟨clean s, ((s.dropWhile isPadding).rtakeWhile isPadding).filter (!isBreak ·), ?_,
      by simp [hnone], ?_⟩
    · exact fun c hc => List.mem_rtakeWhile_imp (List.mem_filter.1 hc).1
    · rw [clean, ← List.filter_append, ← hparts]
  · have hplain : ∀ c ∈ slashes, isPadding c = false := by
      intro c hc
      rw [hslashes c hc]
      decide
    exact ⟨_, [], by simp, clean_append_plain s hnone hplain, by rw [List.append_nil]⟩

end BlockPilot.Url
