import BlockPilot.Storage.Tree

/-!
# Files in trees

What a path leads to, and what making directories and writing a file do to it. A change is framed by the
paths that it may touch (`Tree.Leaves`): every other path leads to the same file as before, or to none as
before. The names that stay where they are do not matter there (`Path.plain`).
-/

namespace BlockPilot

/-- The names of a path that lead on. -/
def Path.plain (names : List FileName) : List FileName := names.filter (!·.stays)

theorem Path.plain_stays {name : FileName} (h : name.stays = true) (rest : List FileName) :
    plain (name :: rest) = plain rest := by
  simp [plain, h]

theorem Path.plain_cons {name : FileName} (h : name.stays = false) (rest : List FileName) :
    plain (name :: rest) = name :: plain rest := by
  simp [plain, h]

theorem Path.plain_append (a b : List FileName) : plain (a ++ b) = plain a ++ plain b :=
  List.filter_append ..

namespace Tree

variable {t u : Tree} {names rest : List FileName} {name : FileName} {entries : List (FileName × Tree)}

/-! ## Entries -/

@[simp] theorem lookup_enter_self (name : FileName) (t : Tree) (entries : List (FileName × Tree)) :
    (enter name t entries).lookup name = some t :=
  List.lookup_cons_self

theorem lookup_enter_of_ne {other : FileName} (h : other ≠ name) (t : Tree)
    (entries : List (FileName × Tree)) : (enter other t entries).lookup name = entries.lookup name := by
  have behind (e : FileName × Tree) (he : e.1 = other) (rest : List (FileName × Tree)) :
      (e :: rest).lookup name = rest.lookup name := by
    rw [List.lookup_cons, beq_eq_false_iff_ne.2 fun hname => h (he.symm.trans hname.symm)]
  rw [enter, behind (other, t) rfl]
  induction entries with
  | nil => rfl
  | cons e entries ih =>
    by_cases he : e.1 = other
    · rw [List.filter_cons_of_neg (by simpa using he), behind e he, ih]
    · rw [List.filter_cons_of_pos (by simpa using he), List.lookup_cons, List.lookup_cons, ih]

/-- There is an entry of a name if the name is among those of the entries. -/
theorem exists_lookup_iff : (∃ t, entries.lookup name = some t) ↔ name ∈ entries.map (·.1) := by
  rw [← Option.isSome_iff_exists, List.lookup_isSome_iff, List.mem_map]
  exact exists_congr fun e => and_congr_right fun _ => beq_iff_eq.trans eq_comm

theorem nodup_enter (h : (entries.map (·.1)).Nodup) (name : FileName) (t : Tree) :
    ((enter name t entries).map (·.1)).Nodup := by
  refine List.nodup_cons.2 ⟨fun hmem => ?_, (List.filter_sublist.map _).nodup h⟩
  obtain ⟨e, he, rfl⟩ := List.mem_map.1 hmem
  simpa using (List.mem_filter.1 he).2

/-! ## Following names -/

theorem find_append (a b : List FileName) (t : Tree) : find (a ++ b) t = find a t >>= find b := by
  induction a generalizing t with
  | nil => rfl
  | cons name a ih =>
    cases t with
    | file bytes => rfl
    | directory entries =>
      simp only [List.cons_append, find]
      split
      · exact ih _
      · split
        · rfl
        · split
          · exact ih _
          · rfl

theorem find_stays (h : name.stays = true) (rest : List FileName) (entries : List (FileName × Tree)) :
    find (name :: rest) (.directory entries) = find rest (.directory entries) := by
  simp [find, h]

/-- What is found behind a name is found in the entry of that name. -/
theorem find_child (hname : name.stays = false) (hlong : name.isTooLong = false) {v : Tree} :
    find (name :: rest) (.directory entries) = .ok v ↔
      ∃ child, entries.lookup name = some child ∧ find rest child = .ok v := by
  simp only [find, hname, hlong, Bool.false_eq_true, if_false]
  cases entries.lookup name <;> simp

/-- One name leads to the entry of that name. -/
theorem find_singleton (hname : name.stays = false) (hlong : name.isTooLong = false) :
    find [name] (.directory entries) = (entries.lookup name).elim (.error .notFound) .ok := by
  simp only [find, hname, hlong, Bool.false_eq_true, if_false]
  cases entries.lookup name <;> rfl

/-- Only a directory leads to a directory. -/
theorem directory_of_find {found : List (FileName × Tree)} (h : find names t = .ok (.directory found)) :
    ∃ entries, t = .directory entries := by
  cases t with
  | directory entries => exact ⟨entries, rfl⟩
  | file bytes => cases names <;> cases h

/-- An empty directory leads nowhere else. -/
theorem find_empty {v : Tree} (h : find names empty = .ok v) : v = empty := by
  induction names with
  | nil => exact (Except.ok.inj h).symm
  | cons name rest ih =>
    simp only [empty, find] at h
    split at h
    · exact ih h
    · split at h <;> cases h

/-! ## What a change leaves alone -/

/-- Behind a change, paths that are not touched lead to the files that they led to. -/
def Leaves (touched : List FileName → Prop) (t u : Tree) : Prop :=
  ∀ names bytes, ¬ touched (Path.plain names) →
    (find names u = .ok (.file bytes) ↔ find names t = .ok (.file bytes))

namespace Leaves

variable {touched : List FileName → Prop}

theorem refl (t : Tree) : Leaves touched t t := fun _ _ _ => Iff.rfl

theorem trans {v : Tree} (h : Leaves touched t u) (h' : Leaves touched u v) : Leaves touched t v :=
  fun names bytes hn => (h' names bytes hn).trans (h names bytes hn)

theorem weaken (h : Leaves (fun _ => False) t u) : Leaves touched t u :=
  fun names bytes _ => h names bytes (by simp)

/-- An entry is changed and leaves alone what it has to behind its name. -/
theorem enter (hname : name.stays = false) (hlong : name.isTooLong = false)
    (h : ∀ rest bytes, ¬ touched (name :: Path.plain rest) →
      (find rest u = .ok (.file bytes) ↔
        ∃ child, entries.lookup name = some child ∧ find rest child = .ok (.file bytes))) :
    Leaves touched (.directory entries) (.directory (Tree.enter name u entries)) := by
  intro names bytes hn
  induction names with
  | nil => simp [find]
  | cons first rest ih =>
    cases hfirst : first.stays with
    | true =>
      rw [find_stays hfirst, find_stays hfirst]
      exact ih (by rwa [Path.plain_stays hfirst] at hn)
    | false =>
      rw [Path.plain_cons hfirst] at hn
      by_cases hsame : first = name
      · subst hsame
        rw [find_child hname hlong, find_child hname hlong, lookup_enter_self, ← h rest bytes hn]
        simp
      · simp only [find, hfirst, Bool.false_eq_true, if_false, lookup_enter_of_ne (Ne.symm hsame)]

end Leaves

/-! ## Making directories -/

/-- Directories that are there need not be made. -/
theorem makeNames_of_find {found : List (FileName × Tree)} (h : find names t = .ok (.directory found)) :
    (makeNames names t).1 = .ok () := by
  induction names generalizing t with
  | nil =>
    cases h
    rfl
  | cons name rest ih =>
    obtain ⟨entries, rfl⟩ := directory_of_find h
    simp only [find] at h
    simp only [makeNames]
    split
    · rename_i hstays
      rw [if_pos hstays] at h
      exact ih h
    · rename_i hstays
      rw [if_neg hstays] at h
      split
      · rename_i hlong
        simp [hlong] at h
      · rename_i hlong
        rw [if_neg hlong] at h
        cases hl : entries.lookup name with
        | none => simp [hl] at h
        | some child =>
          rw [hl] at h
          exact ih h

/-- Directories that are made are there, with what was in them, and no file is touched. -/
theorem makeNames_ok (h : makeNames names t = (.ok (), u)) :
    (∃ found, find names u = .ok (.directory found) ∧
      (find names t = .ok (.directory found) ∨ find names t = .error .notFound ∧ found = [])) ∧
    Leaves (fun _ => False) t u := by
  induction names generalizing t u with
  | nil =>
    cases t with
    | file bytes => cases h
    | directory entries =>
      cases h
      exact ⟨⟨entries, rfl, Or.inl rfl⟩, .refl _⟩
  | cons name rest ih =>
    cases t with
    | file bytes => cases h
    | directory entries =>
      simp only [makeNames] at h
      split at h
      · rename_i hstays
        obtain ⟨⟨found, hu, ht⟩, hleaves⟩ := ih h
        obtain ⟨entries', rfl⟩ := directory_of_find hu
        refine ⟨⟨found, ?_, ?_⟩, hleaves⟩
        · rwa [find_stays hstays]
        · rwa [find_stays hstays]
      · rename_i hstays
        have hstays : name.stays = false := by simpa using hstays
        split at h
        · cases h
        · rename_i hlong
          have hlong : name.isTooLong = false := by simpa using hlong
          obtain ⟨hmade, rfl⟩ : (makeNames rest ((entries.lookup name).getD empty)).1 = .ok () ∧
              .directory (enter name
                (makeNames rest ((entries.lookup name).getD empty)).2 entries) = u := by
            simpa using h
          obtain ⟨⟨found, hu, ht⟩, hleaves⟩ := ih (Prod.ext hmade rfl)
          refine ⟨⟨found, ?_, ?_⟩, .enter hstays hlong fun rest' bytes _ => ?_⟩
          · exact (find_child hstays hlong).2 ⟨_, lookup_enter_self .., hu⟩
          · cases hl : entries.lookup name with
            | some child =>
              simp only [hl, Option.getD_some] at ht
              simpa [find, hstays, hlong, hl] using ht
            | none =>
              right
              simp only [hl, Option.getD_none] at ht
              refine ⟨by simp [find, hstays, hlong, hl], ?_⟩
              rcases ht with ht | ⟨-, hfound⟩
              · simpa [empty] using find_empty ht
              · exact hfound
          · rw [hleaves rest' bytes (by simp)]
            cases hl : entries.lookup name with
            | some child => simp
            | none =>
              simp only [Option.getD_none, reduceCtorEq, false_and, exists_false, iff_false]
              exact fun hfile => by simpa [empty] using find_empty hfile

/-- A path with names and without a NUL is followed by its names. -/
theorem follow_eq {path : Path} (hnul : path.hasNul = false) (hnames : path.names ≠ []) :
    t.follow path = find path.names t := by
  rw [follow, hnul, if_neg Bool.false_ne_true, if_neg hnames]

theorem hasNul_of_follow {path : Path} (h : t.follow path ≠ .error .nulInPath) : path.hasNul = false := by
  cases hnul : path.hasNul with
  | false => rfl
  | true => exact absurd (by rw [follow, hnul, if_pos rfl]) h

theorem makeAll_eq {path : Path} (hnul : path.hasNul = false) : t.makeAll path = makeNames path.names t := by
  rw [makeAll, hnul, if_neg Bool.false_ne_true]

/-- A directory that is there can be made, and there is nothing to do. -/
theorem makeAll_of_follow {path : Path} {found : List (FileName × Tree)} (hnames : path.names ≠ [])
    (h : t.follow path = .ok (.directory found)) : (t.makeAll path).1 = .ok () := by
  have hnul : path.hasNul = false := hasNul_of_follow (t := t) (by simp [h])
  rw [follow_eq hnul hnames] at h
  rw [makeAll_eq hnul]
  exact makeNames_of_find h

/-- A directory that is made is there, with what was in it, and no file is touched. -/
theorem makeAll_ok {path : Path} (hnames : path.names ≠ []) (h : t.makeAll path = (.ok (), u)) :
    (∃ found, u.follow path = .ok (.directory found) ∧
      (t.follow path = .ok (.directory found) ∨ t.follow path = .error .notFound ∧ found = [])) ∧
    Leaves (fun _ => False) t u := by
  have hnul : path.hasNul = false := by
    cases hnul : path.hasNul with
    | false => rfl
    | true => simp [makeAll, hnul] at h
  rw [makeAll_eq hnul] at h
  rw [follow_eq hnul hnames, follow_eq hnul hnames]
  exact makeNames_ok h

/-! ## Writing a file -/

theorem update_cons {change : FileName → List (FileName × Tree) → Except FileFault (List (FileName × Tree))}
    (h : rest ≠ []) :
    update change (name :: rest) (.directory entries) =
      if name.stays then update change rest (.directory entries)
      else if name.isTooLong then .error .nameTooLong
      else match entries.lookup name with
        | some t => (update change rest t).map fun t => .directory (enter name t entries)
        | none => .error .notFound := by
  cases rest with
  | nil => exact absurd rfl h
  | cons => rfl

/-- A file is written into a directory that is there, unless a directory stands in its place. No other
file is touched. -/
theorem update_putFile {base : List FileName} {file : FileName} (bytes : List UInt8)
    (hbase : find base t = .ok (.directory entries)) (hfile : file.stays = false)
    (hlong : file.isTooLong = false) (hfree : ∀ found, entries.lookup file ≠ some (.directory found)) :
    ∃ u, update (putFile bytes) (base ++ [file]) t = .ok u ∧
      find base u = .ok (.directory (enter file (.file bytes) entries)) ∧
      Leaves (· = Path.plain base ++ [file]) t u := by
  induction base generalizing t with
  | nil =>
    cases hbase
    have hput : putFile bytes file entries = .ok (enter file (.file bytes) entries) := by
      unfold putFile
      split
      · rename_i found hl
        exact absurd hl (hfree found)
      · rfl
    refine ⟨.directory (enter file (.file bytes) entries), ?_, rfl, .enter hfile hlong ?_⟩
    · simp only [List.nil_append, update, hfile, hlong, Bool.false_eq_true, if_false, hput]
      rfl
    · -- behind the file itself there was nothing, and there is nothing
      intro rest content hrest
      cases rest with
      | nil => exact absurd rfl hrest
      | cons first rest =>
        constructor
        · intro h
          cases h
        · rintro ⟨child, hl, hchild⟩
          cases child with
          | file => cases hchild
          | directory found => exact absurd hl (hfree found)
  | cons name rest ih =>
    obtain ⟨top, rfl⟩ := directory_of_find hbase
    rw [List.cons_append, update_cons (by simp)]
    cases hstays : name.stays with
    | true =>
      rw [find_stays hstays] at hbase
      obtain ⟨u, hu, hfound, hleaves⟩ := ih hbase
      obtain ⟨_, rfl⟩ := directory_of_find hfound
      exact ⟨_, by rw [if_pos rfl, hu], by rw [find_stays hstays, hfound], by rwa [Path.plain_stays hstays]⟩
    | false =>
      have hname : name.isTooLong = false := by
        cases hl : name.isTooLong with
        | false => rfl
        | true => simp [find, hstays, hl] at hbase
      obtain ⟨child, hl, hchild⟩ := (find_child hstays hname).1 hbase
      obtain ⟨u, hu, hfound, hleaves⟩ := ih hchild
      refine ⟨.directory (enter name u top), ?_, ?_, .enter hstays hname fun rest' content hn => ?_⟩
      · simp [hname, hl, hu, Except.map]
      · exact (find_child hstays hname).2 ⟨u, lookup_enter_self .., hfound⟩
      · rw [Path.plain_cons hstays] at hn
        rw [hleaves rest' content (by simpa using hn), hl]
        simp

end Tree

end BlockPilot
