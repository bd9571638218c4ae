import BlockPilot.Proofs.Builders
import BlockPilot.Proofs.SlotFiles

/-!
# Slots as a map

The slots of a directory that is not there yet are used like a finite map from names to programs: what
each save, load and list answers is what the map answers (`Slots.refines_map`). The map is a keyed list;
`Slots.Holds` says how the directory holds it. A save touches the file of its own slot and no other.

What is loaded is what the text of the saved program reads as. That is the program itself if its numbers
are read back from their texts, and a number of more than fifteen digits need not be
(`Slots.load_of_unsteady`).
-/

namespace BlockPilot.Slots

open BlockPilot.Tree (find)

/-! ## Using the slots -/

inductive Request where
  | save (name : String) (p : Program)
  | load (name : String)
  | list

inductive Answer where
  | saved (outcome : Except Failure String)
  | loaded (outcome : Except Failure Program)
  | listed (outcome : Except Failure (List String))

/-- The name of the slot that is asked for. -/
def Request.name? : Request → Option String
  | .save name _ | .load name => some name
  | .list => none

/-- What the slots in a tree of files answer, and the tree that is left. -/
def ask (s : Slots) (t : Tree) : Request → Answer × Tree
  | .save name p => (save Tree.files s name p t).map .saved id
  | .load name => (load Tree.files s name t).map .loaded id
  | .list => (list Tree.files s t).map .listed id

/-- The tree that some requests leave. -/
def serve (s : Slots) (t : Tree) (requests : List Request) : Tree :=
  requests.foldl (fun t r => (s.ask t r).2) t

/-! ## The map -/

/-- The map behind a request. -/
def Request.keep (kept : List (String × Program)) : Request → List (String × Program)
  | .save name p => if isValid name then Keyed.insert name p kept else kept
  | .load _ | .list => kept

/-- What the map answers. -/
def Request.answer (s : Slots) (kept : List (String × Program)) : Request → Answer
  | .save name _ => .saved (if isValid name then .ok (s.path name) else .error (.invalidSlot name))
  | .load name => .loaded <|
    if isValid name then match Keyed.lookup name kept with
      | some p => ofContent name (.ok p.pretty)
      | none => .error (.slotNotFound name)
    else .error (.invalidSlot name)
  | .list => .listed (.ok (kept.map (·.1)))

/-- The map behind some requests: each name with the program that was last saved under it. -/
def keptBy (requests : List Request) : List (String × Program) :=
  requests.foldl Request.keep []

/-! ## The directory -/

variable {s : Slots} {t : Tree} {name : String} {entries : List (FileName × Tree)}

/-- What stands in the place of the directory of the slots. -/
def place (s : Slots) (t : Tree) : Except FileFault Tree :=
  if (Path.ofText s.directory).hasNul then .error .nulInPath else find s.base t

theorem place_eq_ok {v : Tree} :
    s.place t = .ok v ↔ (Path.ofText s.directory).hasNul = false ∧ find s.base t = .ok v := by
  unfold place
  split <;> simp [*]

/-- The path of a slot leads to its file in the directory. -/
theorem follow_path (hdir : s.directory ≠ "") (hname : isValid name = true) :
    t.follow (.ofText (s.path name)) = s.place t >>= find [fileOf name] := by
  have hne : s.base ++ [fileOf name] ≠ [] := by simp
  rw [Tree.follow, hasNul_path hdir hname, names_path hdir hname, if_neg hne, Tree.find_append, place]
  split <;> rfl

theorem base_ne_nil (s : Slots) : s.base ≠ [] := by
  cases hfront : s.front with
  | nil => simp [base, Path.before, hfront]
  | cons b rest =>
    simp only [base, Path.before, hfront, Path.ofBytes, reduceCtorEq, if_false]
    split
    · simp
    · exact List.splitOn_ne_nil _ _

theorem names_directory_ne_nil (hdir : s.directory ≠ "") : (Path.ofText s.directory).names ≠ [] := by
  rcases names_directory hdir with h | h <;> simp [h, base_ne_nil]

/-- A slash at the end of its path demands that the directory be one. -/
theorem follow_directory (hdir : s.directory ≠ "") :
    t.follow (.ofText s.directory) = s.place t ∨ t.follow (.ofText s.directory) = s.place t >>= find [[]] := by
  rw [Tree.follow, if_neg (names_directory_ne_nil hdir), place]
  rcases names_directory hdir with h | h
  · exact Or.inl (by rw [h])
  · right
    rw [h, Tree.find_append]
    split <;> rfl

theorem follow_eq_directory (hdir : s.directory ≠ "") :
    t.follow (.ofText s.directory) = .ok (.directory entries) ↔ s.place t = .ok (.directory entries) := by
  rcases follow_directory hdir (t := t) with h | h
  · rw [h]
  · rw [h]
    cases s.place t with
    | error fault => simp [bind, Except.bind]
    | ok v => cases v <;> simp [bind, Except.bind, find, FileName.stays]

theorem place_of_missing (hdir : s.directory ≠ "") (h : t.follow (.ofText s.directory) = .error .notFound) :
    s.place t = .error .notFound := by
  rcases follow_directory hdir (t := t) with hd | hd
  · rwa [hd] at h
  · rw [hd] at h
    cases hp : s.place t with
    | error fault => simpa [hp, bind, Except.bind] using h
    | ok v => cases v <;> simp [hp, bind, Except.bind, find, FileName.stays] at h

/-! ## How a directory holds a map -/

/-- The directory of the slots is not there and can be made, or it has the file of each slot of the map
and nothing else. -/
inductive Stored (s : Slots) (t : Tree) (kept : List (String × Program)) : Prop
  | absent (missing : t.follow (.ofText s.directory) = .error .notFound)
      (writable : (t.makeAll (.ofText s.directory)).1 = .ok ()) (empty : kept = [])
  | present (entries : List (FileName × Tree)) (found : s.place t = .ok (.directory entries))
      (distinct : (entries.map (·.1)).Nodup)
      (files : ∀ file v, entries.lookup file = some v ↔
        ∃ name p, Keyed.lookup name kept = some p ∧ file = fileOf name ∧ v = .file (bytesOfText p.pretty))

/-- The slots in a tree hold a map, whose names are those of slots. -/
structure Holds (s : Slots) (t : Tree) (kept : List (String × Program)) : Prop where
  ordered : Keyed.Ordered kept
  valid : ∀ e ∈ kept, isValid e.1 = true
  stored : s.Stored t kept

variable {kept : List (String × Program)} {p : Program}

theorem read_eq_ok {path : Path} {bytes : List UInt8} :
    t.read path = .ok bytes ↔
      path.hasNul = false ∧ path.names ≠ [] ∧ find path.names t = .ok (.file bytes) := by
  rw [Tree.read, Tree.follow]
  cases hnul : path.hasNul with
  | true => simp [bind, Except.bind]
  | false =>
    by_cases hnames : path.names = []
    · simp [hnames, bind, Except.bind]
    · simp only [Bool.false_eq_true, if_false, if_neg hnames]
      cases find path.names t with
      | error fault => simp [bind, Except.bind]
      | ok v => cases v <;> simp [bind, Except.bind, hnames]

namespace Stored

/-- The file of a slot holds the program of the slot, and is missing if there is none. -/
theorem read (h : s.Stored t kept) (hdir : s.directory ≠ "") (hname : isValid name = true)
    (hshort : name.utf8ByteSize ≤ 250) :
    t.read (.ofText (s.path name)) = match Keyed.lookup name kept with
      | some p => .ok (bytesOfText p.pretty)
      | none => .error .notFound := by
  rw [Tree.read, follow_path hdir hname]
  cases h with
  | absent missing writable empty =>
    rw [place_of_missing hdir missing, empty]
    rfl
  | present entries found distinct files =>
    rw [found, Json.ok_bind, Tree.find_singleton (stays_fileOf name) (isTooLong_fileOf hshort)]
    cases hkept : Keyed.lookup name kept with
    | some p =>
      have hentry := (files (fileOf name) _).2 ⟨name, p, hkept, rfl, rfl⟩
      rw [hentry]
      rfl
    | none =>
      cases hentry : entries.lookup (fileOf name) with
      | none => rfl
      | some v =>
        obtain ⟨other, p, hother, hfile, -⟩ := (files _ _).1 hentry
        rw [← fileOf_inj hfile, hkept] at hother
        cases hother

/-- Before a save the directory is made, unless it is there; the map stays what it is. -/
theorem make (h : s.Stored t kept) (hdir : s.directory ≠ "") :
    ∃ u entries, t.makeAll (.ofText s.directory) = (.ok (), u) ∧ s.place u = .ok (.directory entries) ∧
      (entries.map (·.1)).Nodup ∧
      (∀ file v, entries.lookup file = some v ↔
        ∃ name p, Keyed.lookup name kept = some p ∧ file = fileOf name ∧ v = .file (bytesOfText p.pretty)) ∧
      Tree.Leaves (fun _ => False) t u := by
  have hnames := names_directory_ne_nil hdir
  cases h with
  | absent missing writable empty =>
    obtain ⟨⟨entries, hfound, hbefore⟩, hleaves⟩ := Tree.makeAll_ok hnames (Prod.ext writable rfl)
    obtain rfl : entries = [] := by
      rcases hbefore with hbefore | ⟨-, hempty⟩
      · rw [hbefore] at missing
        cases missing
      · exact hempty
    refine ⟨_, [], Prod.ext writable rfl, (follow_eq_directory hdir).1 hfound, List.nodup_nil, fun file v => ?_,
      hleaves⟩
    simp [empty]
  | present entries found distinct files =>
    have hthere := (follow_eq_directory hdir).2 found
    have hmade := Tree.makeAll_of_follow hnames hthere
    obtain ⟨⟨entries', hfound, hbefore⟩, hleaves⟩ := Tree.makeAll_ok hnames (Prod.ext hmade rfl)
    obtain rfl : entries' = entries := by
      rcases hbefore with hbefore | ⟨hmissing, -⟩
      · simpa using hbefore.symm.trans hthere
      · rw [hmissing] at hthere
        cases hthere
    exact ⟨_, entries', Prod.ext hmade rfl, (follow_eq_directory hdir).1 hfound, distinct, files, hleaves⟩

end Stored

/-! ## Each request -/

theorem save_written {u v : Tree} (hname : isValid name = true)
    (hmade : t.makeAll (.ofText s.directory) = (.ok (), u))
    (hwritten : u.write (.ofText (s.path name)) (bytesOfText p.pretty) = (.ok (), v)) :
    save Tree.files s name p t = (.ok (s.path name), v) := by
  simp only [save, hname, if_true, bind, StateT.bind, Tree.files, hmade, Files.writeText, hwritten]
  rfl

theorem save_invalid (hname : isValid name = false) :
    save Tree.files s name p t = (.error (.invalidSlot name), t) := by
  simp only [save, hname, Bool.false_eq_true, if_false]
  rfl

theorem load_eq (hname : isValid name = true) :
    load Tree.files s name t = (ofContent name (t.read (.ofText (s.path name)) >>= textOfBytes), t) := by
  simp only [load, hname, if_true]
  rfl

theorem load_invalid (hname : isValid name = false) :
    load Tree.files s name t = (.error (.invalidSlot name), t) := by
  simp only [load, hname, Bool.false_eq_true, if_false]
  rfl

theorem list_eq : list Tree.files s t =
    (match t.list (.ofText s.directory) with
      | .error .notFound => .ok []
      | .error fault => .error (.io fault)
      | .ok names => .ok (ofFiles names), t) := by
  simp only [list, bind, StateT.bind, Tree.files]
  cases t.list (.ofText s.directory) with
  | ok names => rfl
  | error fault => cases fault <;> rfl

namespace Holds

/-- A save puts its program into the map, and touches no file but that of its slot. -/
theorem save (h : s.Holds t kept) (hdir : s.directory ≠ "") (hname : isValid name = true)
    (hshort : name.utf8ByteSize ≤ 250) (p : Program) :
    ∃ u, Slots.save Tree.files s name p t = (.ok (s.path name), u) ∧
      s.Holds u (Keyed.insert name p kept) ∧
      Tree.Leaves (· = Path.plain s.base ++ [fileOf name]) t u := by
  obtain ⟨u, entries, hmade, hplace, hdistinct, hfiles, hleaves⟩ := h.stored.make hdir
  obtain ⟨hnul, hfound⟩ := place_eq_ok.1 hplace
  have hfree : ∀ found, entries.lookup (fileOf name) ≠ some (.directory found) := by
    intro found hl
    obtain ⟨other, q, -, -, hfile⟩ := (hfiles _ _).1 hl
    cases hfile
  obtain ⟨v, hwritten, hput, hframe⟩ :=
    Tree.update_putFile (bytesOfText p.pretty) hfound (stays_fileOf name) (isTooLong_fileOf hshort) hfree
  have hwrite : u.write (.ofText (s.path name)) (bytesOfText p.pretty) = (.ok (), v) := by
    rw [Tree.write, Tree.change, hasNul_path hdir hname, hnul, names_path hdir hname,
      if_neg Bool.false_ne_true, hwritten]
    rfl
  refine ⟨v, ?_, ⟨h.ordered.insert, ?_, ?_⟩, hleaves.weaken.trans hframe⟩
  · exact save_written hname hmade hwrite
  · intro e he
    rcases Keyed.mem_insert he with rfl | he
    · exact hname
    · exact h.valid e he
  · refine .present _ (place_eq_ok.2 ⟨hnul, hput⟩) (Tree.nodup_enter hdistinct _ _) fun file w => ?_
    by_cases hfile : fileOf name = file
    · subst hfile
      rw [Tree.lookup_enter_self]
      constructor
      · intro hw
        exact ⟨name, p, Keyed.lookup_insert_self .., rfl, (Option.some.inj hw).symm⟩
      · rintro ⟨other, q, hq, hother, rfl⟩
        rw [← fileOf_inj hother, Keyed.lookup_insert_self] at hq
        rw [Option.some.inj hq]
    · rw [Tree.lookup_enter_of_ne hfile, hfiles]
      -- the other slots have other names
      refine exists_congr fun other => exists_congr fun q => and_congr_left fun ⟨hother, _⟩ => ?_
      have hne : name ≠ other := by
        rintro rfl
        exact hfile hother.symm
      rw [Keyed.lookup_insert_of_ne hne]

theorem load (h : s.Holds t kept) (hdir : s.directory ≠ "") (hname : isValid name = true)
    (hshort : name.utf8ByteSize ≤ 250) :
    Slots.load Tree.files s name t =
      (match Keyed.lookup name kept with
        | some p => ofContent name (.ok p.pretty)
        | none => .error (.slotNotFound name), t) := by
  rw [load_eq hname, h.stored.read hdir hname hshort]
  cases Keyed.lookup name kept with
  | none => rfl
  | some p => simp only [Json.ok_bind, textOfBytes_bytesOfText]

theorem list (h : s.Holds t kept) (hdir : s.directory ≠ "") :
    Slots.list Tree.files s t = (.ok (kept.map (·.1)), t) := by
  rw [list_eq]
  cases h.stored with
  | absent missing writable empty =>
    have hlist : t.list (.ofText s.directory) = .error .notFound := by
      rw [Tree.list, missing]
      rfl
    rw [hlist, empty]
    rfl
  | present entries found distinct files =>
    have hlist : t.list (.ofText s.directory) = .ok (entries.map (·.1)) := by
      rw [Tree.list, (follow_eq_directory hdir).2 found]
      rfl
    have hmem : ∀ file, file ∈ entries.map (·.1) ↔ ∃ name ∈ kept.map (·.1), file = fileOf name := by
      intro file
      simp only [← Tree.exists_lookup_iff, ← Keyed.exists_lookup_iff, files]
      constructor
      · rintro ⟨_, name, p, hp, rfl, -⟩
        exact ⟨name, ⟨p, hp⟩, rfl⟩
      · rintro ⟨name, ⟨p, hp⟩, rfl⟩
        exact ⟨_, name, p, hp, rfl, rfl⟩
    have hvalid : ∀ name ∈ kept.map (·.1), isValid name = true := by
      intro name hname
      obtain ⟨e, he, rfl⟩ := List.mem_map.1 hname
      exact h.valid e he
    rw [hlist]
    simp only
    rw [ofFiles_eq distinct (List.pairwise_map.2 h.ordered) hvalid hmem]

/-- **One request.** The slots answer what the map answers and hold the map behind it. Only a save
touches a file, that of its own slot, and only if the slot can have its name. -/
theorem ask (h : s.Holds t kept) (hdir : s.directory ≠ "") {r : Request}
    (hshort : ∀ name ∈ r.name?, name.utf8ByteSize ≤ 250) :
    (s.ask t r).1 = r.answer s kept ∧ s.Holds (s.ask t r).2 (r.keep kept) ∧
      ((s.ask t r).2 = t ∨ ∃ name p, r = .save name p ∧ isValid name = true ∧
        Tree.Leaves (· = Path.plain s.base ++ [fileOf name]) t (s.ask t r).2) := by
  cases r with
  | save name p =>
    cases hname : isValid name with
    | false => simp [Slots.ask, save_invalid hname, Request.answer, Request.keep, hname, h]
    | true =>
      obtain ⟨u, hsave, hholds, hleaves⟩ := h.save hdir hname (hshort name rfl) p
      simp only [Slots.ask, hsave, Request.answer, Request.keep, hname, if_true]
      exact ⟨rfl, hholds, Or.inr ⟨name, p, rfl, hname, hleaves⟩⟩
  | load name =>
    cases hname : isValid name with
    | false => simp [Slots.ask, load_invalid hname, Request.answer, Request.keep, hname, h]
    | true =>
      simp only [Slots.ask, h.load hdir hname (hshort name rfl), Request.answer, hname, if_true]
      exact ⟨rfl, h, Or.inl rfl⟩
  | list =>
    simp only [Slots.ask, h.list hdir, Request.answer]
    exact ⟨rfl, h, Or.inl rfl⟩

end Holds

/-- **Any number of requests.** The slots hold the map that the requests make. -/
theorem holds_serve (hdir : s.directory ≠ "") (missing : t.follow (.ofText s.directory) = .error .notFound)
    (writable : (t.makeAll (.ofText s.directory)).1 = .ok ()) (requests : List Request)
    (hshort : ∀ r ∈ requests, ∀ name ∈ r.name?, name.utf8ByteSize ≤ 250) :
    s.Holds (s.serve t requests) (keptBy requests) := by
  have go (requests : List Request) (hshort : ∀ r ∈ requests, ∀ name ∈ r.name?, name.utf8ByteSize ≤ 250)
      (t : Tree) (kept : List (String × Program)) (h : s.Holds t kept) :
      s.Holds (s.serve t requests) (requests.foldl Request.keep kept) := by
    induction requests generalizing t kept with
    | nil => exact h
    | cons r requests ih =>
      obtain ⟨hr, hrest⟩ := List.forall_mem_cons.1 hshort
      exact ih hrest _ _ (h.ask hdir hr).2.1
  exact go requests hshort t [] ⟨List.Pairwise.nil, by simp, .absent missing writable rfl⟩

/-! ## Histories -/

/-- Requests that do not save under a name leave there what was there. -/
theorem lookup_foldl_keep {requests : List Request} (h : ∀ q, .save name q ∉ requests)
    (kept : List (String × Program)) :
    Keyed.lookup name (requests.foldl Request.keep kept) = Keyed.lookup name kept := by
  induction requests generalizing kept with
  | nil => rfl
  | cons r requests ih =>
    rw [List.foldl_cons, ih fun q hq => h q (List.mem_cons_of_mem _ hq)]
    cases r with
    | load | list => rfl
    | save other q =>
      have hne : other ≠ name := by
        rintro rfl
        exact h q List.mem_cons_self
      simp only [Request.keep]
      split
      · exact Keyed.lookup_insert_of_ne hne q kept
      · rfl

/-- The map has under a name what was last saved under it. -/
theorem lookup_keptBy_of_saved {early late : List Request} (hname : isValid name = true)
    (hlast : ∀ q, .save name q ∉ late) :
    Keyed.lookup name (keptBy (early ++ .save name p :: late)) = some p := by
  rw [keptBy, List.foldl_append, List.foldl_cons, lookup_foldl_keep hlast]
  simp [Request.keep, hname]

theorem lookup_keptBy_of_unsaved {requests : List Request} (h : ∀ q, .save name q ∉ requests) :
    Keyed.lookup name (keptBy requests) = none :=
  lookup_foldl_keep h []

/-- Of the saves under a name one is the last. -/
theorem exists_last_save {requests : List Request} (h : ∃ p, .save name p ∈ requests) :
    ∃ early late p, requests = early ++ .save name p :: late ∧ ∀ q, .save name q ∉ late := by
  induction requests with
  | nil => simp at h
  | cons r requests ih =>
    by_cases hlater : ∃ p, .save name p ∈ requests
    · obtain ⟨early, late, p, hrequests, hlast⟩ := ih hlater
      exact ⟨r :: early, late, p, by rw [hrequests]; rfl, hlast⟩
    · obtain ⟨p, hp⟩ := h
      rcases List.mem_cons.1 hp with rfl | hp
      · exact ⟨[], requests, p, rfl, fun q hq => hlater ⟨q, hq⟩⟩
      · exact absurd ⟨p, hp⟩ hlater

/-- The names of the map are those that something was saved under. -/
theorem mem_keptBy {requests : List Request} (h : s.Holds t (keptBy requests)) :
    name ∈ (keptBy requests).map (·.1) ↔ isValid name = true ∧ ∃ p, .save name p ∈ requests := by
  rw [← Keyed.exists_lookup_iff]
  constructor
  · rintro ⟨p, hp⟩
    refine ⟨h.valid _ (Keyed.mem_of_lookup hp), ?_⟩
    by_cases hsaved : ∃ p, .save name p ∈ requests
    · exact hsaved
    · rw [lookup_keptBy_of_unsaved fun q hq => hsaved ⟨q, hq⟩] at hp
      cases hp
  · rintro ⟨hname, hsaved⟩
    obtain ⟨early, late, p, rfl, hlast⟩ := exists_last_save hsaved
    exact ⟨p, lookup_keptBy_of_saved hname hlast⟩

/-- What was built and what was read from a text can be written. -/
theorem regular_of_made (h : p.Built ∨ ∃ text, Program.parse text = .ok p) : p.Regular := by
  intro c hc
  rcases h with h | ⟨text, h⟩
  · exact (h.flat c hc).regular
  · exact (Program.kept_parse h c hc).regular

/-- A name that no slot can have is refused, and nothing changes. -/
theorem ask_invalid {r : Request} (hr : name ∈ r.name?) (hname : isValid name = false) :
    (s.ask t r).2 = t ∧ ((s.ask t r).1 = .saved (.error (.invalidSlot name)) ∨
      (s.ask t r).1 = .loaded (.error (.invalidSlot name))) := by
  cases r with
  | list => cases hr
  | save other p =>
    obtain rfl : other = name := Option.some.inj hr
    simp only [ask, save_invalid hname]
    exact ⟨rfl, Or.inl rfl⟩
  | load other =>
    obtain rfl : other = name := Option.some.inj hr
    simp only [ask, load_invalid hname]
    exact ⟨rfl, Or.inr rfl⟩

/-- The map gives a program back whose text reads as the program. -/
theorem answer_load_of_saved {early late : List Request} (hname : isValid name = true)
    (hlast : ∀ q, .save name q ∉ late) (regular : p.Regular) (hdepth : p.toJson.depth ≤ Json.depthLimit)
    (back : ∀ x ∈ p.toJson.numbers, x.ReadsBack) :
    (Request.load name).answer s (keptBy (early ++ .save name p :: late)) = .loaded (.ok p) := by
  have hparse : Program.parse p.pretty = .ok p := (Program.parse_pretty regular back).trans (if_pos hdepth)
  simp [Request.answer, hname, lookup_keptBy_of_saved hname hlast, ofContent, hparse]

theorem answer_load_of_unsaved {requests : List Request} (hname : isValid name = true)
    (h : ∀ q, .save name q ∉ requests) :
    (Request.load name).answer s (keptBy requests) = .loaded (.error (.slotNotFound name)) := by
  simp [Request.answer, hname, lookup_keptBy_of_unsaved h]

/-- The names of the directory that lead on are the same in either form of its path. -/
theorem plain_directory (hdir : s.directory ≠ "") :
    Path.plain (Path.ofText s.directory).names = Path.plain s.base := by
  rcases names_directory hdir with h | h
  · rw [h]
  · rw [h, Path.plain_append, Path.plain_stays rfl]
    exact List.append_nil _

/-- A request touches no file but that of the slot that it saves. -/
theorem Holds.read_ask (h : s.Holds t kept) (hdir : s.directory ≠ "") {r : Request}
    (hshort : ∀ name ∈ r.name?, name.utf8ByteSize ≤ 250) {path : Path}
    (hpath : ∀ name p, r = .save name p → isValid name = true →
      Path.plain path.names ≠ Path.plain (Path.ofText s.directory).names ++ [fileOf name])
    (bytes : List UInt8) : (s.ask t r).2.read path = .ok bytes ↔ t.read path = .ok bytes := by
  obtain ⟨-, -, hsame | ⟨name, p, hsave, hname, hleaves⟩⟩ := h.ask hdir hshort
  · rw [hsame]
  · have hother := hpath name p hsave hname
    rw [plain_directory hdir] at hother
    rw [read_eq_ok, read_eq_ok, hleaves path.names bytes hother]

/-- **The slots are a map.** Let the directory of the slots be missing and let it be possible to make it.
Behind any requests with names of at most 250 bytes, the slots answer the next request as the map does that
the requests before it make; the map has the names that something was saved under, in strictly increasing
order. A load gives what the text of the program reads as that was last saved under the name, and that is
the program itself if it can be written, if its text is not nested too deeply, and if its numbers are read
back from their texts; if nothing was saved under the name, it says so. A name that no slot can have is
refused, and nothing changes. The only file that a request touches is that of the slot that it saves, in the
directory of the slots. -/
theorem refines_map (s : Slots) (t : Tree) (hdir : s.directory ≠ "")
    (missing : t.follow (.ofText s.directory) = .error .notFound)
    (writable : (t.makeAll (.ofText s.directory)).1 = .ok ()) (before : List Request) (r : Request)
    (short : ∀ q ∈ before ++ [r], ∀ name ∈ q.name?, name.utf8ByteSize ≤ 250) :
    let now := s.serve t before
    ((s.ask now r).1 = r.answer s (keptBy before) ∧ ((keptBy before).map (·.1)).Pairwise (· < ·) ∧
      ∀ name, name ∈ (keptBy before).map (·.1) ↔ isValid name = true ∧ ∃ p, .save name p ∈ before) ∧
    (∀ name, r = .load name → isValid name = true →
      (∀ early late p, before = early ++ .save name p :: late → (∀ q, .save name q ∉ late) → p.Regular →
        p.toJson.depth ≤ Json.depthLimit → (∀ x ∈ p.toJson.numbers, x.ReadsBack) →
        (s.ask now r).1 = .loaded (.ok p)) ∧
      ((∀ p, .save name p ∉ before) → (s.ask now r).1 = .loaded (.error (.slotNotFound name)))) ∧
    (∀ name ∈ r.name?, isValid name = false → (s.ask now r).2 = now ∧
      ((s.ask now r).1 = .saved (.error (.invalidSlot name)) ∨
        (s.ask now r).1 = .loaded (.error (.invalidSlot name)))) ∧
    (∀ path bytes, (∀ name p, r = .save name p → isValid name = true →
        Path.plain path.names ≠
          Path.plain (Path.ofText s.directory).names ++ [bytesOfText (name ++ ".json")]) →
      ((s.ask now r).2.read path = .ok bytes ↔ now.read path = .ok bytes)) ∧
    ∀ p : Program, p.Built ∨ (∃ text, Program.parse text = .ok p) → p.Regular := by
  intro now
  obtain ⟨hshort, hr⟩ := List.forall_mem_append.1 short
  have hr : ∀ name ∈ r.name?, name.utf8ByteSize ≤ 250 := hr r (List.mem_singleton_self r)
  have hholds : s.Holds now (keptBy before) := holds_serve hdir missing writable before hshort
  have hanswer := (hholds.ask hdir hr).1
  refine ⟨⟨hanswer, List.pairwise_map.2 hholds.ordered, fun name => mem_keptBy hholds⟩, ?_,
    fun name hmem hname => ask_invalid hmem hname,
    fun path bytes hpath => hholds.read_ask hdir hr hpath bytes, fun p hp => regular_of_made hp⟩
  rintro name rfl hname
  rw [hanswer]
  refine ⟨fun early late p hbefore hlast regular hdepth back => ?_, answer_load_of_unsaved hname⟩
  rw [hbefore]
  exact answer_load_of_saved hname hlast regular hdepth back

/-- Whether nothing is found. -/
def isMissing : Except FileFault Tree → Bool
  | .error .notFound => true
  | _ => false

theorem eq_notFound {found : Except FileFault Tree} (h : isMissing found = true) : found = .error .notFound := by
  unfold isMissing at h
  split at h
  · rfl
  · cases h

theorem eq_ok {outcome : Except FileFault Unit} (h : outcome.toOption = some ()) : outcome = .ok () := by
  cases outcome with
  | ok => rfl
  | error => cases h

/-- Two slots in a directory beside another file, and one of them saved twice. -/
theorem refines_map_behind_saves :
    let s : Slots := ⟨"robot/slots/"⟩
    let t : Tree := .directory [(bytesOfText "notes.txt", .file [104, 105])]
    let before : List Request := [.save "b" (Program.stops 1), .save "a-1" (Program.stops 2), .list,
      .save "../b" Program.waiting, .save "b" Program.waiting]
    t.follow (.ofText s.directory) = .error .notFound ∧ (t.makeAll (.ofText s.directory)).1 = .ok () ∧
      (s.ask (s.serve t before) .list).1 = .listed (.ok ["a-1", "b"]) ∧
      (s.ask (s.serve t before) (.load "b")).1 = .loaded (.ok Program.waiting) := by
  intro s t before
  have missing : t.follow (.ofText s.directory) = .error .notFound := eq_notFound (by decide +kernel)
  have writable : (t.makeAll (.ofText s.directory)).1 = .ok () := eq_ok (by decide +kernel)
  have hshort (r : Request) (hr : ∀ name ∈ r.name?, name.utf8ByteSize ≤ 250) :
      ∀ q ∈ before ++ [r], ∀ name ∈ q.name?, name.utf8ByteSize ≤ 250 := by
    have hbefore : (before.all fun q => q.name?.all fun name => decide (name.utf8ByteSize ≤ 250)) = true := by
      decide +kernel
    refine List.forall_mem_append.2 ⟨fun q hq name hname => ?_, List.forall_mem_singleton.2 hr⟩
    have := List.all_eq_true.1 hbefore q hq
    simpa [Option.mem_def.1 hname] using this
  have hback : ∀ x ∈ Program.waiting.toJson.numbers, x.ReadsBack := by
    have hnumbers : ∀ x ∈ Program.waiting.toJson.numbers, x = .ofNat 5 := by decide +kernel
    intro x hx
    rw [hnumbers x hx]
    exact Program.readsBack_five
  have hlist := refines_map s t (by decide) missing writable before .list
    (hshort .list (by simp [Request.name?]))
  have hload := refines_map s t (by decide) missing writable before (.load "b")
    (hshort (.load "b") (by simp [Request.name?]; decide +kernel))
  have hregular := hload.2.2.2.2 Program.waiting (Or.inl Program.built_waiting)
  refine ⟨missing, writable, ?_, ?_⟩
  · rw [hlist.1.1]
    have hnames : (keptBy before).map (·.1) = ["a-1", "b"] := by decide +kernel
    simp only [Request.answer, hnames]
  · exact (hload.2.1 "b" rfl (by decide +kernel)).1 (before.take 4) [] Program.waiting rfl (by simp) hregular
      (by decide +kernel) hback

/-- A wait of a little less than a tenth of a second. -/
def unsteady : Program :=
  .ofChains [.link [.wait (.ofRatio false 9999999999999999 100000000000000000)]]

/-- A program of the builders with a finite number is saved, and a program with another number is loaded. -/
theorem load_of_unsteady :
    let s : Slots := ⟨"slots"⟩
    Tree.empty.follow (.ofText s.directory) = .error .notFound ∧
      (Tree.empty.makeAll (.ofText s.directory)).1 = .ok () ∧ isValid "a" = true ∧
      unsteady.Built ∧ unsteady.toJson.depth ≤ Json.depthLimit ∧
      ∃ q, (s.ask (s.serve .empty [.save "a" unsteady]) (.load "a")).1 = .loaded (.ok q) ∧
        q.same unsteady = false := by
  intro s
  have missing : Tree.empty.follow (.ofText s.directory) = .error .notFound :=
    eq_notFound (by decide +kernel)
  have writable : (Tree.empty.makeAll (.ofText s.directory)).1 = .ok () := eq_ok (by decide +kernel)
  have hvalid : isValid "a" = true := by decide +kernel
  have hbuilt : unsteady.Built := by
    refine @Program.Built.fromSequences [[.wait _]] fun c hc d hd => ?_
    rw [List.mem_singleton.1 hc] at hd
    rw [List.mem_singleton.1 hd]
    exact .wait (by decide +kernel)
  refine ⟨missing, writable, hvalid, hbuilt, by decide +kernel, ?_⟩
  have hparse : (Program.parse unsteady.pretty).toOption.map (·.same unsteady) = some false := by
    decide +kernel
  obtain ⟨q, hq, hsame⟩ := Program.exists_of_toOption_map hparse
  have hholds := holds_serve (by decide) missing writable [.save "a" unsteady] (by decide +kernel)
  refine ⟨q, ?_, hsame⟩
  rw [(hholds.ask (by decide) (r := .load "a") (by decide +kernel)).1]
  have hkept : Keyed.lookup "a" (keptBy ([] ++ [.save "a" unsteady])) = some unsteady :=
    lookup_keptBy_of_saved hvalid (by simp)
  rw [List.nil_append] at hkept
  simp [Request.answer, hvalid, hkept, ofContent, hq]

end BlockPilot.Slots
