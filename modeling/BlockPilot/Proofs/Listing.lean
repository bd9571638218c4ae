import BlockPilot.Proofs.SlotStore

/-!
# Listing and loading

A listing takes the names in a directory apart, whatever bytes they are, and a load puts the name of a file
together. They agree whatever the directory of the slots holds (`Slots.list_agrees_with_load`): a slot is
listed if and only if it is not missing when it is loaded.

A directory that is the empty text is the exception. A slot is kept there in the directory in which the
program works, but the listing finds no directory (`Slots.saved_but_not_listed`).
-/

namespace BlockPilot.Slots

variable {s : Slots} {t : Tree} {name : String} {limit : Nat}

/-! ## Reading the directory -/

/-- What the directory of the slots gives when it is read. -/
theorem list_directory (hdir : s.directory ≠ "") : t.list (.ofText s.directory) =
    match s.place t with
    | .ok (.directory entries) => .ok (entries.map (·.1))
    | .ok (.file _) => .error .notDirectory
    | .error fault => .error fault := by
  rw [Tree.list]
  rcases follow_directory hdir (t := t) with h | h <;> rw [h] <;> cases s.place t with
  | error fault => rfl
  | ok v => cases v <;> rfl

/-- A load says that its slot is missing where the file is not found, and only there. -/
theorem ofContent_eq_slotNotFound {content : Except FileFault String} :
    ofContent name content = .error (.slotNotFound name) ↔ content = .error .notFound := by
  cases content with
  | error fault => cases fault <;> simp [ofContent]
  | ok text =>
    simp only [ofContent]
    cases Program.parse text <;> simp

theorem ofContent_of_ne_notFound {fault : FileFault} (h : fault ≠ .notFound) :
    ofContent name (.error fault) = .error (.io fault) := by
  cases fault <;> first | rfl | exact absurd rfl h

theorem textOfBytes_ne_notFound (bytes : List UInt8) : textOfBytes bytes ≠ .error .notFound := by
  unfold textOfBytes
  split <;> simp

/-- The file of a slot in a directory is not found if there is no entry of its name. -/
theorem content_eq_notFound {entries : List (FileName × Tree)} (hdir : s.directory ≠ "")
    (hname : isValid name = true) (hshort : name.utf8ByteSize ≤ 250)
    (found : t.follow (.ofText s.directory) = .ok (.directory entries)) :
    (t.read (.ofText (s.path name)) >>= textOfBytes) = .error .notFound ↔ fileOf name ∉ entries.map (·.1) := by
  rw [← Tree.exists_lookup_iff, Tree.read, follow_path hdir hname, (follow_eq_directory hdir).1 found,
    Json.ok_bind, Tree.find_singleton (stays_fileOf name) (isTooLong_fileOf hshort)]
  cases entries.lookup (fileOf name) with
  | none => simp [bind, Except.bind]
  | some v =>
    cases v with
    | directory _ => simp [bind, Except.bind]
    | file bytes => simpa [bind, Except.bind] using textOfBytes_ne_notFound bytes

/-! ## Listing against loading -/

/-- A directory that is not there has no slots, and no slot can be loaded from it. -/
theorem list_missing (hdir : s.directory ≠ "") (missing : t.follow (.ofText s.directory) = .error .notFound) :
    list Tree.files s t = (.ok [], t) ∧
      ∀ name, isValid name = true → load Tree.files s name t = (.error (.slotNotFound name), t) := by
  have hplace := place_of_missing hdir missing
  refine ⟨?_, fun name hname => ?_⟩
  · rw [list_eq, list_directory hdir, hplace]
  · rw [load_eq hname, Tree.read, follow_path hdir hname, hplace]
    rfl

/-- A directory that cannot be read fails a listing and a load in the same way. -/
theorem list_failing {fault : FileFault} (hdir : s.directory ≠ "") (hfault : fault ≠ .notFound)
    (failing : t.list (.ofText s.directory) = .error fault) :
    list Tree.files s t = (.error (.io fault), t) ∧
      ∀ name, isValid name = true → load Tree.files s name t = (.error (.io fault), t) := by
  refine ⟨?_, fun name hname => ?_⟩
  · rw [list_eq, failing]
    cases fault <;> first | rfl | exact absurd rfl hfault
  · have hread : (t.read (.ofText (s.path name)) >>= textOfBytes) = .error fault := by
      rw [list_directory hdir] at failing
      rw [Tree.read, follow_path hdir hname]
      cases hplace : s.place t with
      | error reason =>
        rw [hplace] at failing
        cases failing
        rfl
      | ok v =>
        rw [hplace] at failing
        cases v with
        | directory entries => cases failing
        | file bytes =>
          cases failing
          rfl
    rw [load_eq hname, hread, ofContent_of_ne_notFound hfault]

/-- A directory lists the slots whose files are in it, and they are the slots that are not missing. -/
theorem list_present {entries : List (FileName × Tree)} (hdir : s.directory ≠ "")
    (found : t.follow (.ofText s.directory) = .ok (.directory entries))
    (distinct : (entries.map (·.1)).Nodup) :
    ∃ names, list Tree.files s t = (.ok names, t) ∧
      (names.Pairwise fun a b => bytesOfText a < bytesOfText b) ∧
      (∀ name, name ∈ names ↔ isValid name = true ∧ fileOf name ∈ entries.map (·.1)) ∧
      ∀ name, isValid name = true → name.utf8ByteSize ≤ 250 →
        (load Tree.files s name t = (.error (.slotNotFound name), t) ↔ name ∉ names) := by
  refine ⟨ofFiles (entries.map (·.1)), ?_, ?_, fun name => mem_ofFiles, fun name hname hshort => ?_⟩
  · rw [list_eq, list_directory hdir, (follow_eq_directory hdir).1 found]
  · refine (ofFiles_ordered distinct).imp_of_mem fun ha hb hlt => ?_
    exact bytesOfText_lt (ascii_of_isValid (mem_ofFiles.1 ha).1) (ascii_of_isValid (mem_ofFiles.1 hb).1) hlt
  · rw [load_eq hname, Prod.mk.injEq, and_iff_left rfl, ofContent_eq_slotNotFound,
      content_eq_notFound hdir hname hshort found, mem_ofFiles, not_and]
    exact ⟨fun h _ => h, fun h => h hname⟩

/-- Where the directory is the empty text, nothing is ever listed, but the files are read where the program
works. -/
theorem list_here (hdir : s.directory = "") :
    list Tree.files s t = (.ok [], t) ∧ ∀ name, isValid name = true → load Tree.files s name t =
      (ofContent name (t.read (.ofText (name ++ suffix)) >>= textOfBytes), t) := by
  refine ⟨?_, fun name hname => ?_⟩
  · rw [list_eq, hdir]
    rfl
  · have hpath : s.path name = name ++ suffix := by simp [path, join, hdir]
    rw [load_eq hname, hpath]

/-! ## Paths that are too long -/

theorem list_within : list (Tree.files.within limit) s t =
    if (Path.ofText s.directory).isTooLong limit then (.error (.io .nameTooLong), t)
    else list Tree.files s t := by
  simp only [list, Files.within, Files.bounded]
  split <;> rfl

theorem load_within (hname : isValid name = true) : load (Tree.files.within limit) s name t =
    if (Path.ofText (s.path name)).isTooLong limit then (.error (.io .nameTooLong), t)
    else load Tree.files s name t := by
  simp only [load, hname, if_true, Files.readText, Files.within, Files.bounded]
  split <;> rfl

/-- In a directory whose path is too long, so is the path of every slot. -/
theorem isTooLong_path (hname : isValid name = true) (h : (Path.ofText s.directory).isTooLong limit = true) :
    (Path.ofText (s.path name)).isTooLong limit = true := by
  simp only [Path.isTooLong, Path.length_bytes_ofText, Bool.and_eq_true, Bool.not_eq_true',
    decide_eq_true_eq] at h ⊢
  have hdir : s.directory ≠ "" := by
    intro hempty
    rw [hempty] at h
    exact Nat.not_lt_zero _ h.2
  have hlonger : s.directory.utf8ByteSize ≤ (s.path name).utf8ByteSize := by
    rw [← length_bytesOfText, ← length_bytesOfText, path, bytes_join hdir]
    rcases bytes_directory s with hbytes | hbytes <;> simp [hbytes]
  exact ⟨(hasNul_path hdir hname).trans h.1, Nat.lt_of_lt_of_le h.2 hlonger⟩

/-- **Listing and loading agree.** Let the system take paths of at most `limit` bytes, and let the directory of
the slots have a name. If it is not there, no slot is listed, and each is missing when it is loaded. If it is
there, with any files and directories in it, the listing has the slots whose files are among its entries, in
the strict order of their bytes, and a slot with a name of at most 250 bytes is missing when it is loaded if and
only if it is not listed. If it cannot be read, both fail with the same fault. All this is said of the slots
whose paths the system takes; a path that is too long makes either fail. Nothing is changed. A directory without
a name lists nothing, while its slots are loaded from the files where the program works. -/
theorem list_agrees_with_load (limit : Nat) (s : Slots) (t : Tree) :
    let files := Tree.files.within limit
    let directory := Path.ofText s.directory
    let Fits := fun name => (Path.ofText (s.path name)).isTooLong limit = false
    (s.directory ≠ "" → directory.isTooLong limit = false →
      (t.follow directory = .error .notFound → list files s t = (.ok [], t) ∧
        ∀ name, isValid name = true → Fits name → load files s name t = (.error (.slotNotFound name), t)) ∧
      (∀ entries, t.follow directory = .ok (.directory entries) → (entries.map (·.1)).Nodup →
        ∃ names, list files s t = (.ok names, t) ∧
          (names.Pairwise fun a b => bytesOfText a < bytesOfText b) ∧
          (∀ name, name ∈ names ↔ isValid name = true ∧ bytesOfText (name ++ ".json") ∈ entries.map (·.1)) ∧
          ∀ name, isValid name = true → name.utf8ByteSize ≤ 250 → Fits name →
            (load files s name t = (.error (.slotNotFound name), t) ↔ name ∉ names)) ∧
      (∀ fault, fault ≠ .notFound → t.list directory = .error fault →
        list files s t = (.error (.io fault), t) ∧
          ∀ name, isValid name = true → Fits name → load files s name t = (.error (.io fault), t))) ∧
    (directory.isTooLong limit = true → list files s t = (.error (.io .nameTooLong), t) ∧
      ∀ name, isValid name = true → ¬ Fits name) ∧
    (∀ name, isValid name = true → ¬ Fits name → load files s name t = (.error (.io .nameTooLong), t)) ∧
    (s.directory = "" → list files s t = (.ok [], t) ∧
      ∀ name, isValid name = true → Fits name → load files s name t =
        (ofContent name (t.read (.ofText (name ++ ".json")) >>= textOfBytes), t)) := by
  intro files directory Fits
  have hload (name : String) (hname : isValid name = true) (hfits : Fits name) :
      load files s name t = load Tree.files s name t := by
    rw [load_within hname, if_neg (Bool.eq_false_iff.1 hfits)]
  have hlist (hshort : directory.isTooLong limit = false) : list files s t = list Tree.files s t := by
    rw [list_within, if_neg (Bool.eq_false_iff.1 hshort)]
  refine ⟨fun hdir hshort => ⟨fun missing => ?_, fun entries found distinct => ?_, fun fault hfault failing => ?_⟩,
    fun hlong => ⟨?_, fun name hname hfits => ?_⟩, fun name hname hfits => ?_, fun hdir => ?_⟩
  · obtain ⟨hnone, hmissing⟩ := list_missing hdir missing
    exact ⟨(hlist hshort).trans hnone, fun name hname hfits => (hload name hname hfits).trans (hmissing name hname)⟩
  · obtain ⟨names, hnames, hordered, hmem, hfound⟩ := list_present hdir found distinct
    refine ⟨names, (hlist hshort).trans hnames, hordered, hmem, fun name hname hbytes hfits => ?_⟩
    rw [hload name hname hfits]
    exact hfound name hname hbytes
  · obtain ⟨hfails, hfailing⟩ := list_failing hdir hfault failing
    exact ⟨(hlist hshort).trans hfails, fun name hname hfits => (hload name hname hfits).trans (hfailing name hname)⟩
  · rw [list_within, if_pos hlong]
  · exact absurd (isTooLong_path hname hlong) (Bool.eq_false_iff.1 hfits)
  · rw [load_within hname, if_pos (by simpa [Fits] using hfits)]
  · have hshort : directory.isTooLong limit = false := by
      show (Path.ofText s.directory).isTooLong limit = false
      rw [hdir]
      rfl
    obtain ⟨hnone, hread⟩ := list_here (t := t) hdir
    exact ⟨(hlist hshort).trans hnone, fun name hname hfits => (hload name hname hfits).trans (hread name hname)⟩

/-- Two slots, of which one is a directory, among files that are called almost like slots, two of them by no
text. -/
theorem list_agrees_with_load_among_others :
    let s : Slots := ⟨"slots/"⟩
    let entries : List (FileName × Tree) := [(bytesOfText ".json", .file []),
      (bytesOfText "B.json", .file [123, 125]), (bytesOfText "a.JSON", .file []),
      (bytesOfText "a.b.json", .file []), (bytesOfText "b.json", .directory []),
      (bytesOfText "c.json.bak", .file []), (255 :: bytesOfText ".json", .file []),
      (bytesOfText "a." ++ [255], .file [])]
    let t : Tree := .directory [(bytesOfText "slots", .directory entries)]
    let files := Tree.files.within 4095
    t.follow (.ofText s.directory) = .ok (.directory entries) ∧ (entries.map (·.1)).Nodup ∧
      ∃ names, list files s t = (.ok names, t) ∧ "B" ∈ names ∧ "b" ∈ names ∧ "a" ∉ names ∧
        load files s "a" t = (.error (.slotNotFound "a"), t) ∧
        load files s "b" t ≠ (.error (.slotNotFound "b"), t) := by
  intro s entries t files
  have found : t.follow (.ofText s.directory) = .ok (.directory entries) := by
    have hnames : Path.ofText s.directory = ⟨[bytesOfText "slots", []]⟩ := by decide +kernel
    rw [hnames]
    rfl
  have distinct : (entries.map (·.1)).Nodup := by decide +kernel
  obtain ⟨names, hlist, -, hmem, hload⟩ :=
    ((list_agrees_with_load 4095 s t).1 (by decide) (by decide +kernel)).2.1 entries found distinct
  have hsmall : "b" ∈ names := (hmem "b").2 (by decide +kernel)
  have hmissing : "a" ∉ names := fun h => absurd ((hmem "a").1 h) (by decide +kernel)
  refine ⟨found, distinct, names, hlist, (hmem "B").2 (by decide +kernel), hsmall, hmissing, ?_, fun h => ?_⟩
  · exact (hload "a" (by decide +kernel) (by decide +kernel) (by decide +kernel)).2 hmissing
  · exact (hload "b" (by decide +kernel) (by decide +kernel) (by decide +kernel)).1 h hsmall

/-- A slot is saved where the program works, and can be loaded, but it is not listed. -/
theorem saved_but_not_listed :
    let s : Slots := ⟨""⟩
    let saved := save Tree.files s "a" (Program.stops 1) .empty
    isValid "a" = true ∧ saved.1.toOption = some "a.json" ∧
      (list Tree.files s saved.2).1.toOption = some [] ∧
      (load Tree.files s "a" saved.2).1.toOption.map (·.same (Program.stops 1)) = some true := by
  decide +kernel

end BlockPilot.Slots
