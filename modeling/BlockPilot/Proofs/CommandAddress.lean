import BlockPilot.Proofs.AddressParts
import BlockPilot.Proofs.CommandPairs

/-!
# Where commands go

The path of commands is put behind the text of an address before that is read, so that it need not stand where
a path stands. Behind an address without a query and a fragment it is the end of the path, and the query is
that of the command alone. Behind others it is part of the query or of the fragment, and an address of slashes
alone gets it for its host. In all other cases the user, the host and the port are those of the address
(`commandUrl_parts`).
-/

namespace BlockPilot

/-! ## The path behind an address -/

namespace Url

/-- The path to which commands are sent. -/
def commandPath : List Char := ['/', 'c', 'm', 'd']

theorem isBehind_commandPath : IsBehind commandPath := by
  rintro c hc
  obtain rfl : '/' = c := Option.some.inj hc
  decide

theorem isPadding_commandPath : ∀ c ∈ commandPath, isPadding c = false := by
  simp [commandPath, isPadding]

theorem isBehind_slashes {slashes : List Char} (hslashes : ∀ c ∈ slashes, c = '/') : IsBehind slashes := by
  intro c hc
  rw [hslashes c (List.mem_of_head? hc)]
  decide

theorem endsAuthority_of_padding {c : Char} (h : isPadding c = true) : endsAuthority true c = false := by
  rw [Bool.eq_false_iff]
  intro hends
  simp only [endsAuthority, Bool.true_and, Bool.or_eq_true, beq_iff_eq] at hends
  rcases hends with ((rfl | rfl) | rfl) | rfl <;> cases h

/-- Every text is one in which the authority does not end, and one behind it that is empty or ends it. -/
theorem exists_authority (s : List Char) :
    ∃ front tail, s = front ++ tail ∧ IsAuthority front ∧ IsBehind tail := by
  refine ⟨_, _, (List.takeWhile_append_dropWhile (p := (!endsAuthority true ·))).symm, fun c hc => ?_,
    fun c hc => ?_⟩
  · simpa using List.mem_takeWhile_imp hc
  · have := List.head?_dropWhile_not (!endsAuthority true ·) s
    rw [hc] at this
    simpa using this

/-- Controls and spaces at the end of an authority would have to belong to its host or its port. -/
theorem gap_eq_nil {scheme s t gap : List Char} (hs : IsAuthority s) (ht : IsBehind t)
    (hgap : ∀ c ∈ gap, isPadding c = true) {u : Url} (h : ofAuthority scheme (s ++ gap ++ t) = .ok u) :
    gap = [] := by
  by_contra hne
  obtain ⟨more, c, rfl⟩ := (List.eq_nil_or_concat' gap).resolve_left hne
  have hauthority : IsAuthority (s ++ (more ++ [c])) := by
    intro d hd
    rcases List.mem_append.1 hd with hd | hd
    · exact hs d hd
    · exact endsAuthority_of_padding (hgap d hd)
  have hlast : (s ++ (more ++ [c])).getLast? = some c := by simp
  obtain ⟨a, ha, -⟩ := ofAuthority_append_eq_ok hauthority ht h
  exact ofAuthority_blank scheme hauthority hlast (of_decide_eq_true (hgap c (by simp))) a ha

/-- The path behind an authority changes only what is read behind it. -/
theorem ofAuthority_command {scheme s gap slashes : List Char} (hgap : ∀ c ∈ gap, isPadding c = true)
    (hslashes : ∀ c ∈ slashes, c = '/') {base : Url}
    (h : ofAuthority scheme (s ++ gap ++ commandPath) = .ok base) :
    ∃ a tail, ofAuthority scheme (s ++ slashes) = .ok (goOn a (tail ++ slashes)) ∧
      base = goOn a (tail ++ gap ++ commandPath) := by
  obtain ⟨front, tail, rfl, hfront, htail⟩ := exists_authority s
  cases tail with
  | nil =>
    rw [List.append_nil] at h ⊢
    obtain rfl := gap_eq_nil hfront isBehind_commandPath hgap h
    rw [List.append_nil] at h
    obtain ⟨a, ha, rfl⟩ := ofAuthority_append_eq_ok hfront isBehind_commandPath h
    refine ⟨a, [], ?_, rfl⟩
    rw [ofAuthority_append scheme hfront (isBehind_slashes hslashes), ha]
    rfl
  | cons c tail =>
    have hbehind (t : List Char) : IsBehind (c :: tail ++ t) := htail
    rw [List.append_assoc, List.append_assoc] at h
    obtain ⟨a, ha, rfl⟩ := ofAuthority_append_eq_ok hfront (hbehind _) h
    refine ⟨a, c :: tail, ?_, by rw [List.append_assoc]⟩
    rw [List.append_assoc, ofAuthority_append scheme hfront (hbehind _), ha]
    rfl

/-- **The address with the path of commands** is the address with other parts behind its authority, unless
there is nothing in front of the path but slashes, which then make its segment the host. -/
theorem parseHttp_command (s : List Char) {slashes : List Char} (hslashes : ∀ c ∈ slashes, c = '/')
    {base : Url} (h : parseHttp (s ++ commandPath) = .ok base) :
    (parseHttp (s ++ slashes) = .error .emptyHost ∧
      base = ⟨"http".toList, [], .domain "cmd".toList, none, [[]], none, none⟩) ∨
    ∃ a tail gap, (∀ c ∈ gap, isPadding c = true) ∧
      parseHttp (s ++ slashes) = .ok (goOn a (tail ++ slashes)) ∧
      base = goOn a (tail ++ gap ++ commandPath) := by
  obtain ⟨front, gap, hgap, hplain, hcommand⟩ :=
    clean_append s commandPath hslashes (by decide) isPadding_commandPath
  obtain ⟨rest, hscheme⟩ := scheme_of_parseHttp h
  rw [parseHttp_of_scheme hscheme] at h
  rw [hcommand, List.append_assoc] at hscheme
  have hcolon : ':' ∉ gap ++ commandPath := by
    rw [List.mem_append]
    rintro (hmem | hmem)
    · exact absurd (hgap _ hmem) (by decide)
    · exact absurd hmem (by decide)
  obtain ⟨r, rfl, hany⟩ := scheme?_append hcolon hscheme
  rw [parseHttp_of_scheme (hplain ▸ hany slashes)]
  rw [List.dropWhile_append] at h ⊢
  by_cases hempty : (r.dropWhile Path.isSlash).isEmpty = true
  · rw [if_pos hempty] at h ⊢
    have hnothing : slashes.dropWhile Path.isSlash = [] := by
      rw [List.dropWhile_eq_nil_iff]
      intro c hc
      rw [hslashes c hc]
      decide
    have hhost : ofAuthority "http".toList [] = .error .emptyHost := rfl
    rw [hnothing, hhost]
    cases gap with
    | nil =>
      have hcmd : ofAuthority "http".toList "cmd".toList =
          .ok ⟨"http".toList, [], .domain "cmd".toList, none, [[]], none, none⟩ := by rfl
      exact Or.inl ⟨rfl, (Except.ok.inj (hcmd.symm.trans h)).symm⟩
    | cons c gap =>
      -- the gap is an authority that ends with a control or a space
      have hslash : ¬ Path.isSlash c = true := by
        have := endsAuthority_of_padding (hgap c List.mem_cons_self)
        simp only [endsAuthority, Bool.true_and, Bool.or_eq_false_iff] at this
        simp [Path.isSlash, this.1.1.1, this.2]
      rw [List.cons_append, List.dropWhile_cons_of_neg hslash, ← List.cons_append] at h
      have hnone : ∀ c ∈ ([] : List Char), c = '/' := by simp
      obtain ⟨a, tail, hnone, -⟩ := ofAuthority_command (s := []) hgap hnone h
      rw [List.nil_append, hhost] at hnone
      cases hnone
  · rw [if_neg hempty, ← List.append_assoc] at h
    rw [if_neg hempty]
    obtain ⟨a, tail, hok, hbase⟩ := ofAuthority_command hgap hslashes h
    exact Or.inr ⟨a, tail, gap, hgap, hok, hbase⟩

end Url

/-! ## Where the path stands -/

namespace Url

variable {gap slashes : List Char}

theorem not_mem_command (hgap : ∀ c ∈ gap, isPadding c = true) :
    '?' ∉ gap ++ commandPath ∧ '#' ∉ gap ++ commandPath := by
  simp only [List.mem_append, not_or]
  exact ⟨⟨fun h => absurd (hgap _ h) (by decide), by decide⟩,
    fun h => absurd (hgap _ h) (by decide), by decide⟩

theorem not_mem_slashes (hslashes : ∀ c ∈ slashes, c = '/') : '?' ∉ slashes ∧ '#' ∉ slashes :=
  ⟨fun h => absurd (hslashes _ h) (by decide), fun h => absurd (hslashes _ h) (by decide)⟩

/-- A path that the path of commands is put behind ends with its segment. -/
theorem parse_commandPath (path : List Char) :
    ∃ front, Path.parse (path ++ commandPath).tail = front ++ ["cmd".toList] := by
  cases path with
  | nil => exact ⟨[], by rfl⟩
  | cons c path => exact Path.parse_append path (by simp [Path.isSlash]) (by decide) (by decide) (by decide)

theorem encode_commandPath (s : List Char) :
    encode querySet (s ++ commandPath) = encode querySet s ++ "/cmd".toList ∧
      encode fragmentSet (s ++ commandPath) = encode fragmentSet s ++ "/cmd".toList := by
  have hquery : encode querySet commandPath = "/cmd".toList := by decide
  have hfragment : encode fragmentSet commandPath = "/cmd".toList := by decide
  constructor
  · rw [← hquery]
    exact List.flatMap_append
  · rw [← hfragment]
    exact List.flatMap_append

variable {path x : List Char} {query : Option (List Char)}

/-- What is put behind a fragment belongs to it. -/
theorem goOn_behind_fragment (a : Url) (hpath : '?' ∉ path) (hfront : '#' ∉ path ++ tailText '?' query)
    (fragment x : List Char) : a.goOn (path ++ tailText '?' query ++ tailText '#' (some fragment) ++ x) =
      { a with
        path := Path.parse path.tail
        query := query.map (encode querySet)
        fragment := some (encode fragmentSet (fragment ++ x)) } := by
  rw [List.append_assoc]
  exact goOn_tails a hpath hfront (some (fragment ++ x))

/-- What is put behind a query belongs to it if it begins no fragment. -/
theorem goOn_behind_query (a : Url) (hpath : '?' ∉ path) {query : List Char}
    (hfront : '#' ∉ path ++ tailText '?' (some query)) (hx : '#' ∉ x) :
    a.goOn (path ++ tailText '?' (some query) ++ tailText '#' none ++ x) =
      { a with
        path := Path.parse path.tail
        query := some (encode querySet (query ++ x))
        fragment := none } := by
  have hlonger : path ++ tailText '?' (some query) ++ tailText '#' none ++ x =
      path ++ tailText '?' (some (query ++ x)) ++ tailText '#' none := by simp [tailText]
  have hinner : '#' ∉ path ++ tailText '?' (some (query ++ x)) := by
    simp only [tailText, List.mem_append, List.mem_cons, not_or] at hfront ⊢
    exact ⟨hfront.1, hfront.2.1, hfront.2.2, hx⟩
  rw [hlonger]
  exact goOn_tails a hpath hinner none

/-- What is put behind a path belongs to it if it begins neither a query nor a fragment. -/
theorem goOn_behind_path (a : Url) (hpath : '?' ∉ path) (hfront : '#' ∉ path ++ tailText '?' none)
    (hx : '?' ∉ x ∧ '#' ∉ x) : a.goOn (path ++ tailText '?' none ++ tailText '#' none ++ x) =
      { a with
        path := Path.parse (path ++ x).tail
        query := none
        fragment := none } := by
  have hlonger : path ++ tailText '?' none ++ tailText '#' none ++ x =
      path ++ x ++ tailText '?' none ++ tailText '#' none := by simp [tailText]
  simp only [tailText, List.append_nil] at hfront
  have hinner : '?' ∉ path ++ x := by
    rw [List.mem_append, not_or]
    exact ⟨hpath, hx.1⟩
  have houter : '#' ∉ path ++ x ++ tailText '?' none := by
    rw [tailText, List.append_nil, List.mem_append, not_or]
    exact ⟨hfront, hx.2⟩
  rw [hlonger]
  exact goOn_tails a hinner houter none

/-- **Where the path of commands stands.** Behind an address that has a fragment it is in the fragment, and
behind one that has only a query in the query; the path is that of the address then. -/
theorem goOn_command (a : Url) (tail : List Char) (hgap : ∀ c ∈ gap, isPadding c = true)
    (hslashes : ∀ c ∈ slashes, c = '/') :
    let plain := a.goOn (tail ++ slashes)
    let base := a.goOn (tail ++ gap ++ commandPath)
    (plain.query = none → plain.fragment = none → (∃ front, base.path = front ++ ["cmd".toList]) ∧
      base.query = none ∧ base.fragment = none) ∧
    (∀ query, plain.query = some query → plain.fragment = none → base.path = plain.path ∧
      (∃ front, base.query = some (front ++ "/cmd".toList)) ∧ base.fragment = none) ∧
    ∀ fragment, plain.fragment = some fragment → base.path = plain.path ∧ base.query = plain.query ∧
      ∃ front, base.fragment = some (front ++ "/cmd".toList) := by
  obtain ⟨path, query, fragment, rfl, hpath, hfront⟩ := exists_tails tail
  have hcommand := not_mem_command hgap
  have hslash := not_mem_slashes hslashes
  rw [List.append_assoc _ gap]
  cases fragment with
  | some fragment =>
    rw [goOn_behind_fragment a hpath hfront, goOn_behind_fragment a hpath hfront,
      ← List.append_assoc fragment, (encode_commandPath _).2]
    exact ⟨nofun, nofun, fun _ _ => ⟨rfl, rfl, _, rfl⟩⟩
  | none =>
    cases query with
    | some query =>
      rw [goOn_behind_query a hpath hfront hslash.2, goOn_behind_query a hpath hfront hcommand.2,
        ← List.append_assoc query, (encode_commandPath _).1]
      exact ⟨nofun, fun _ _ _ => ⟨rfl, ⟨_, rfl⟩, rfl⟩, nofun⟩
    | none =>
      rw [goOn_behind_path a hpath hfront hslash, goOn_behind_path a hpath hfront hcommand,
        ← List.append_assoc path]
      exact ⟨fun _ _ => ⟨parse_commandPath _, rfl, rfl⟩, nofun, nofun⟩

end Url

/-- The text of an address that counts, and the slashes behind it. -/
theorem trimChars_eq (address : String) : ∃ slashes, (∀ c ∈ slashes, c = '/') ∧
    Text.trimChars address.toList = addressText address ++ slashes := by
  refine ⟨(Text.trimChars address.toList).rtakeWhile (· == '/'), fun c hc => ?_,
    List.rdropWhile_append_rtakeWhile.symm⟩
  have hslash := List.mem_rtakeWhile_imp hc
  exact beq_iff_eq.1 hslash

/-- **Where the parts of an address are found again.** An address of commands is one of the scheme `http`. It
was made of an address without a host, and the path of commands has become the host, or of one that can be
read, and the user, the host and the port are those of that one. Without a query and a fragment in it, the path
ends with the segment of commands, and the query is that of the command and nothing else. A query takes the
path of commands up, and a fragment does so before a query; the path is then the one of the address. -/
theorem commandUrl_parts {address : String} {c : Command} {nonce : Int} {u : Url}
    (h : commandUrl address c nonce = .ok u) :
    u.scheme = "http".toList ∧
    ((Url.parseHttp (Text.trimChars address.toList) = .error .emptyHost ∧
        u.host = .domain "cmd".toList ∧ u.path = [[]] ∧ u.query = some (c.queryText nonce).toList ∧
        u.fragment = none) ∨
      ∃ a, Url.parseHttp (Text.trimChars address.toList) = .ok a ∧
        u.user = a.user ∧ u.host = a.host ∧ u.port = a.port ∧
        (a.query = none → a.fragment = none → (∃ front, u.path = front ++ ["cmd".toList]) ∧
          u.query = some (c.queryText nonce).toList ∧ u.fragment = none) ∧
        (∀ query, a.query = some query → a.fragment = none → u.path = a.path ∧
          (∃ front, u.query = some (front ++ "/cmd&".toList ++ (c.queryText nonce).toList)) ∧
          u.fragment = none) ∧
        ∀ fragment, a.fragment = some fragment → u.path = a.path ∧
          u.query = some (Url.extendQuery a.query (c.queryText nonce).toList) ∧
          ∃ front, u.fragment = some (front ++ "/cmd".toList)) := by
  obtain ⟨base, hbase, rfl⟩ := commandUrl_eq_ok.1 h
  obtain ⟨slashes, hslashes, htext⟩ := trimChars_eq address
  rw [htext, Url.addPairs_frame]
  have hquery := query_addPairs_command base c nonce
  have hscheme : base.scheme = "http".toList := by
    obtain ⟨rest, hrest⟩ := Url.scheme_of_parseHttp hbase
    rw [Url.parseHttp_of_scheme hrest] at hbase
    exact Url.scheme_of_ofAuthority hbase
  refine ⟨hscheme, ?_⟩
  rcases Url.parseHttp_command (addressText address) hslashes hbase with
    ⟨hempty, rfl⟩ | ⟨a, tail, gap, hgap, hplain, rfl⟩
  · exact Or.inl ⟨hempty, rfl, rfl, hquery, rfl⟩
  · obtain ⟨hpath, hinQuery, hinFragment⟩ := Url.goOn_command a tail hgap hslashes
    refine Or.inr ⟨_, hplain, rfl, rfl, rfl, fun hq hf => ?_, fun query hq hf => ?_, fun fragment hf => ?_⟩
    · obtain ⟨hlast, hnone, hfragment⟩ := hpath hq hf
      exact ⟨hlast, by rw [hquery, hnone]; rfl, hfragment⟩
    · obtain ⟨hsame, ⟨front, hfront⟩, hfragment⟩ := hinQuery query hq hf
      refine ⟨hsame, ⟨front, ?_⟩, hfragment⟩
      rw [hquery, hfront, Url.extendQuery_some (by simp)]
      simp
    · obtain ⟨hsame, hq, hfront⟩ := hinFragment fragment hf
      exact ⟨hsame, by rw [hquery, hq], hfront⟩

/-- A command below an address with a user, a port and a path. -/
theorem commandUrl_parts_of_robot :
    ∃ u, commandUrl " http://a:b@10.0.0.1:8080/robot//" ⟨.speed, some 800⟩ 7 = .ok u ∧
      u.scheme = "http".toList ∧ u.host = .ipv4 0x0A000001 ∧ u.port = some 8080 ∧
      (∃ front, u.path = front ++ ["cmd".toList]) ∧
      u.query = some "action=speed&value=800&t=7".toList ∧ u.fragment = none := by
  have hok : (commandUrl " http://a:b@10.0.0.1:8080/robot//" ⟨.speed, some 800⟩ 7).isOk = true := by
    decide +kernel
  have hparts : (Url.parseHttp (Text.trimChars " http://a:b@10.0.0.1:8080/robot//".toList)).toOption.map
      (fun a => (a.host, a.port, a.query, a.fragment)) = some (.ipv4 0x0A000001, some 8080, none, none) := by
    decide +kernel
  obtain ⟨u, hu⟩ := exists_of_isOk hok
  obtain ⟨hscheme, ⟨hempty, -⟩ | ⟨a, ha, -, hhost, hport, hpath, -, -⟩⟩ := commandUrl_parts hu
  · rw [hempty] at hparts
    cases hparts
  · rw [ha] at hparts
    simp only [Except.toOption, Option.map_some, Option.some.injEq, Prod.mk.injEq] at hparts
    obtain ⟨hlast, hquery, hfragment⟩ := hpath hparts.2.2.1 hparts.2.2.2
    exact ⟨u, hu, hscheme, hhost.trans hparts.1, hport.trans hparts.2.1, hlast, hquery, hfragment⟩

/-- Without a host in the address commands go to a host that has the name of their path. With a query in it
they go to the path of the address with more than their own query, and with a fragment they go there too. -/
theorem command_path_misplaced :
    (Url.parseHttp "http://".toList).toOption.isNone = true ∧
    (commandUrl "http://" ⟨.stop, none⟩ 42).toOption.map Url.text =
      some "http://cmd/?action=stop&t=42".toList ∧
    (commandUrl "http://192.168.4.1?x=1" ⟨.stop, none⟩ 42).toOption.map (fun u => (u.path, u.query)) =
      some ([[]], some "x=1/cmd&action=stop&t=42".toList) ∧
    (commandUrl "http://192.168.4.1#a" ⟨.stop, none⟩ 42).toOption.map (fun u => (u.path, u.fragment)) =
      some ([[]], some "a/cmd".toList) := by
  decide +kernel

end BlockPilot
