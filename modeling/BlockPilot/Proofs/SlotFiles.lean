import BlockPilot.Program.Slots
import BlockPilot.Proofs.AsciiBytes
import BlockPilot.Proofs.TreeFiles

/-!
# The files of slots

A slot has one file in the directory of the slots, and no other slot has it: the name of the slot and the
name of the file give each other, whatever bytes the name of a file is (`Slots.ofFile?_eq_some`), and neither
leads out of the directory (`Slots.names_path`). A program is written as bytes and read back as the text that
it was (`textOfBytes_eq_ok`).
-/

namespace BlockPilot

/-! ## Texts and their bytes -/

theorem toByteArray_bytesOfText (text : String) : (bytesOfText text).toByteArray = text.toByteArray := by
  rw [← text.ofList_toList, String.toByteArray_ofList, String.ofList_toList]
  rfl

/-- Bytes are read as a text if they are its bytes. -/
theorem textOfBytes_eq_ok {bytes : List UInt8} {text : String} :
    textOfBytes bytes = .ok text ↔ bytes = bytesOfText text := by
  constructor
  · intro h
    have hread : String.fromUTF8? bytes.toByteArray = some text := by
      unfold textOfBytes at h
      split at h
      · cases h
        assumption
      · cases h
    unfold String.fromUTF8? at hread
    split at hread
    · cases hread
      refine List.toByteArray_inj.1 ?_
      rw [toByteArray_bytesOfText]
      rfl
    · cases hread
  · rintro rfl
    have hread : String.fromUTF8? (bytesOfText text).toByteArray = some text := by
      rw [toByteArray_bytesOfText, String.fromUTF8?, dif_pos text.isValidUTF8]
      rfl
    rw [textOfBytes, hread]

theorem textOfBytes_bytesOfText (text : String) : textOfBytes (bytesOfText text) = .ok text :=
  textOfBytes_eq_ok.2 rfl

theorem bytesOfText_inj {a b : String} (h : bytesOfText a = bytesOfText b) : a = b := by
  have ha := textOfBytes_bytesOfText a
  rw [h, textOfBytes_bytesOfText] at ha
  exact (Except.ok.inj ha).symm

theorem bytesOfText_append (a b : String) : bytesOfText (a ++ b) = bytesOfText a ++ bytesOfText b := by
  rw [bytesOfText, String.toList_append, List.flatMap_append]
  rfl

theorem length_bytesOfText (text : String) : (bytesOfText text).length = text.utf8ByteSize := by
  rw [← List.size_toByteArray, toByteArray_bytesOfText]
  rfl

theorem bytesOfText_ne_nil {text : String} (h : text ≠ "") : bytesOfText text ≠ [] :=
  fun hnil => h (bytesOfText_inj hnil)

/-! ## Paths of bytes -/

namespace Path

open FileName (slash)

/-- The names of a path in front of a slash. -/
def before (front : List UInt8) : List FileName :=
  if front = [] then [root] else (ofBytes front).names

/-- What stands behind the last slash is the last name. -/
theorem names_behind (front : List UInt8) {file : FileName} (hfile : slash ∉ file) :
    (ofBytes (front ++ slash :: file)).names = before front ++ [file] := by
  have hlast : List.splitOn slash file = [file] := List.splitOn_eq_singleton hfile
  cases front with
  | nil => simp [ofBytes, before, hlast]
  | cons b rest =>
    simp only [List.cons_append, ofBytes, before, reduceCtorEq, if_false]
    split
    · simp [List.splitOn_append_cons_self, hlast]
    · show List.splitOn slash (b :: rest ++ slash :: file) = _
      rw [List.splitOn_append_cons_self, hlast]

/-- A path keeps the bytes that give it. -/
theorem bytes_ofBytes (bytes : List UInt8) : (ofBytes bytes).bytes = bytes := by
  cases bytes with
  | nil => rfl
  | cons b rest =>
    simp only [ofBytes]
    split
    · rename_i hb
      simp [Path.bytes, List.intercalate_splitOn, hb]
    · rename_i hb
      -- the first name begins with a byte that is no slash
      obtain ⟨first, names, hnames⟩ := List.exists_cons_of_ne_nil (List.splitOn_ne_nil slash rest)
      have hroot : (List.splitOn slash (b :: rest)).head? ≠ some root := by
        simp [List.splitOn_cons_eq_if_modifyHead, hb, hnames, root]
      rw [Path.bytes, if_neg hroot, List.intercalate_splitOn]

theorem length_bytes_ofText (text : String) : (ofText text).bytes.length = text.utf8ByteSize := by
  rw [ofText, bytes_ofBytes, length_bytesOfText]

end Path

/-! ## Names with an extension -/

namespace FileName

variable {name front back : FileName}

/-- A name is cut at its last dot. -/
theorem cut?_eq_some : cut? name = some (front, back) ↔ name = front ++ dot :: back ∧ dot ∉ back := by
  have hname : name = (name.reverse.dropWhile (· != dot)).reverse ++
      (name.reverse.takeWhile (· != dot)).reverse := by
    rw [← List.reverse_append, List.takeWhile_append_dropWhile, List.reverse_reverse]
  unfold cut?
  constructor
  · intro h
    split at h
    · cases h
    · rename_i c rest hrest
      obtain ⟨rfl, rfl⟩ : rest.reverse = front ∧ (name.reverse.takeWhile (· != dot)).reverse = back := by
        simpa using h
      have hdot : c = dot := by
        have := List.head?_dropWhile_not (fun c => c != dot) name.reverse
        simpa [hrest] using this
      refine ⟨?_, ?_⟩
      · rw [hrest, hdot] at hname
        simpa using hname
      · intro hmem
        have := List.all_eq_true.1 List.all_takeWhile dot (List.mem_reverse.1 hmem)
        simp at this
  · rintro ⟨rfl, hback⟩
    have hreverse : (front ++ dot :: back).reverse = back.reverse ++ dot :: front.reverse := by simp
    have hall : ∀ c ∈ back.reverse, (c != dot) = true := by
      intro c hc
      have : c ≠ dot := fun he => hback (he ▸ List.mem_reverse.1 hc)
      simpa using this
    rw [hreverse, List.dropWhile_append_of_pos hall, List.takeWhile_append_of_pos hall]
    simp

theorem parts?_eq_some : parts? name = some (front, back) ↔
    name ≠ above ∧ front ≠ [] ∧ name = front ++ dot :: back ∧ dot ∉ back := by
  unfold parts?
  split
  · simp [*]
  · rename_i habove
    simp [Option.filter_eq_some_iff, cut?_eq_some, habove, and_comm]

end FileName

namespace Slots

/-! ## Names of slots and of files -/

variable {name : String} {file : FileName} {s : Slots}

theorem isValid_iff : isValid name = true ↔
    name ≠ "" ∧ ∀ c ∈ name.toList, c.isAlphanum = true ∨ c = '-' ∨ c = '_' := by
  simp [isValid, or_assoc]

/-- The names of slots are texts of ASCII. -/
theorem ascii_of_isValid (h : isValid name = true) : ∀ c ∈ name.toList, c.toNat < 128 := by
  intro c hc
  rcases (isValid_iff.1 h).2 c hc with halnum | rfl | rfl
  · exact toNat_lt_of_isAlphanum halnum
  · decide
  · decide

/-- What the file of a slot is called, in bytes. -/
def fileOf (name : String) : FileName := bytesOfText (name ++ suffix)

theorem fileOf_eq (name : String) :
    fileOf name = bytesOfText name ++ FileName.dot :: bytesOfText extension := by
  rw [fileOf, bytesOfText_append]
  rfl

theorem fileOf_inj {other : String} (h : fileOf name = fileOf other) : name = other := by
  rw [fileOf_eq, fileOf_eq] at h
  exact bytesOfText_inj (List.append_cancel_right h)

/-- The file of a slot leads on. -/
theorem stays_fileOf (name : String) : (fileOf name).stays = false := by
  rw [fileOf_eq, FileName.stays, Bool.or_eq_false_iff]
  refine ⟨by simp, beq_eq_false_iff_ne.2 fun hhere => ?_⟩
  have hlen := congrArg List.length hhere
  have hextension : (bytesOfText extension).length = 4 := by decide
  simp [FileName.here, hextension] at hlen

theorem isTooLong_fileOf (h : name.utf8ByteSize ≤ 250) : (fileOf name).isTooLong = false := by
  have hsuffix : suffix.utf8ByteSize = 5 := by decide
  have hmax : FileName.maxLength = 255 := rfl
  rw [FileName.isTooLong, decide_eq_false_iff_not, fileOf, length_bytesOfText, String.utf8ByteSize_append]
  omega

/-- No byte of ASCII is in the file of a slot that is no letter, digit, hyphen, line or dot. -/
theorem not_mem_fileOf (h : isValid name = true) {c : Char} (hascii : c.toNat < 128)
    (hc : (c.isAlphanum || c == '-' || c == '_' || c == '.') = false) : c.val.toUInt8 ∉ fileOf name := by
  intro hmem
  have hchar := mem_of_byte hascii hmem
  have hsuffix : (suffix.toList.all fun c => c.isAlphanum || c == '.') = true := by decide
  rw [String.toList_append, List.mem_append] at hchar
  rcases hchar with hname | hend
  · rcases (isValid_iff.1 h).2 c hname with halnum | rfl | rfl
    · simp [halnum] at hc
    · simp at hc
    · simp at hc
  · have := List.all_eq_true.1 hsuffix c hend
    simp_all

theorem slash_not_mem_fileOf (h : isValid name = true) : FileName.slash ∉ fileOf name :=
  not_mem_fileOf h (c := '/') (by decide) (by decide)

theorem nul_not_mem_fileOf (h : isValid name = true) : (0 : UInt8) ∉ fileOf name :=
  not_mem_fileOf h (c := Char.ofNat 0) (by decide) (by decide)

/-! ## The paths of slots -/

/-- The bytes of the directory without a slash at their end. -/
def front (s : Slots) : List UInt8 :=
  (if s.directory.toList.getLast? = some '/' then s.directory.toList.dropLast
    else s.directory.toList).flatMap String.utf8EncodeChar

/-- The names that lead to the directory of the slots. -/
def base (s : Slots) : List FileName := Path.before s.front

theorem bytes_directory (s : Slots) :
    bytesOfText s.directory = s.front ∨ bytesOfText s.directory = s.front ++ [FileName.slash] := by
  by_cases hslash : s.directory.toList.getLast? = some '/'
  · obtain ⟨chars, hd⟩ := List.getLast?_eq_some_iff.1 hslash
    right
    simp only [front, bytesOfText, hd, List.getLast?_concat, if_true, List.dropLast_concat,
      List.flatMap_append]
    rfl
  · exact Or.inl (by rw [front, if_neg hslash, bytesOfText])

/-- A file in the directory stands behind a slash. -/
theorem bytes_join (hdir : s.directory ≠ "") (file : String) :
    bytesOfText (join s.directory file) = s.front ++ FileName.slash :: bytesOfText file := by
  by_cases hslash : s.directory.toList.getLast? = some '/'
  · obtain ⟨chars, hd⟩ := List.getLast?_eq_some_iff.1 hslash
    have hjoin : join s.directory file = s.directory ++ file := if_pos (Or.inr hslash)
    rw [hjoin, bytesOfText_append, front, if_pos hslash, bytesOfText, hd]
    simp only [List.dropLast_concat, List.flatMap_append, List.append_assoc]
    rfl
  · have hjoin : join s.directory file = s.directory ++ "/" ++ file := if_neg (not_or.2 ⟨hdir, hslash⟩)
    rw [hjoin, bytesOfText_append, bytesOfText_append, front, if_neg hslash, List.append_assoc]
    rfl

/-- The path of a slot leads to its file in the directory. -/
theorem names_path (hdir : s.directory ≠ "") (h : isValid name = true) :
    (Path.ofText (s.path name)).names = s.base ++ [fileOf name] := by
  rw [path, Path.ofText, bytes_join hdir]
  exact Path.names_behind s.front (slash_not_mem_fileOf h)

/-- A slash at the end does not change where the directory is, but demands one. -/
theorem names_directory (hdir : s.directory ≠ "") :
    (Path.ofText s.directory).names = s.base ∨ (Path.ofText s.directory).names = s.base ++ [[]] := by
  rw [Path.ofText]
  rcases bytes_directory s with h | h
  · have hfront : s.front ≠ [] := h ▸ bytesOfText_ne_nil hdir
    exact Or.inl (by rw [h, base, Path.before, if_neg hfront])
  · exact Or.inr (by rw [h, Path.names_behind s.front (by simp), base])

/-- The path of a slot has a NUL in it if the directory has. -/
theorem hasNul_path (hdir : s.directory ≠ "") (h : isValid name = true) :
    (Path.ofText (s.path name)).hasNul = (Path.ofText s.directory).hasNul := by
  have hfile : (fileOf name).contains 0 = false := by simpa using nul_not_mem_fileOf h
  rw [Path.hasNul, Path.hasNul, names_path hdir h, List.any_append, List.any_cons, hfile]
  rcases names_directory hdir with hd | hd <;> simp [hd]

/-! ## The slots of files -/

/-- A file is that of a slot if it is called like the slot and the slot can have its name. -/
theorem ofFile?_eq_some : ofFile? file = some name ↔ file = fileOf name ∧ isValid name = true := by
  constructor
  · intro h
    unfold ofFile? at h
    split at h
    · rename_i ending hending
      split at h
      · rename_i hextension
        subst hextension
        obtain ⟨back, hback, hread⟩ := Option.map_eq_some_iff.1 hending
        obtain ⟨front, hparts⟩ : ∃ front, FileName.parts? file = some (front, back) := by
          simpa [FileName.extension?] using hback
        split at h
        · rename_i stem hstem
          split at h
          · rename_i hvalid
            obtain rfl := Option.some.inj h
            rw [FileName.stem, hparts] at hstem
            refine ⟨?_, hvalid⟩
            rw [fileOf_eq, ← textOfBytes_eq_ok.1 hread, ← textOfBytes_eq_ok.1 hstem]
            exact (FileName.parts?_eq_some.1 hparts).2.2.1
          · cases h
        · cases h
      · cases h
    · cases h
  · rintro ⟨rfl, h⟩
    have hne : bytesOfText name ≠ [] := bytesOfText_ne_nil (isValid_iff.1 h).1
    have hdot : FileName.dot ∉ bytesOfText extension := by decide
    have hparts : FileName.parts? (fileOf name) = some (bytesOfText name, bytesOfText extension) := by
      refine FileName.parts?_eq_some.2 ⟨fun habove => ?_, hne, fileOf_eq name, hdot⟩
      have hlen := congrArg List.length habove
      have hextension : (bytesOfText extension).length = 4 := by decide
      simp [fileOf_eq, FileName.above, hextension] at hlen
    simp only [ofFile?, FileName.extension?, FileName.stem, hparts, Option.map_some, Option.elim_some,
      textOfBytes_bytesOfText, h, if_true]

/-- A slot is listed if its name is one and its file is there. -/
theorem mem_ofFiles {files : List FileName} :
    name ∈ ofFiles files ↔ isValid name = true ∧ fileOf name ∈ files := by
  rw [ofFiles, List.mem_mergeSort, List.mem_filterMap]
  constructor
  · rintro ⟨file, hfile, hname⟩
    obtain ⟨rfl, hvalid⟩ := ofFile?_eq_some.1 hname
    exact ⟨hvalid, hfile⟩
  · rintro ⟨hvalid, hfile⟩
    exact ⟨fileOf name, hfile, ofFile?_eq_some.2 ⟨rfl, hvalid⟩⟩

/-- The slots are listed in the order of their names, and none of them twice. -/
theorem ofFiles_ordered {files : List FileName} (h : files.Nodup) : (ofFiles files).Pairwise (· < ·) := by
  have hnodup : (ofFiles files).Nodup := by
    refine (List.mergeSort_perm _ _).nodup_iff.2 ?_
    refine List.Pairwise.filterMap ofFile? (fun a b hne n hn n' hn' he => hne ?_) h
    rw [(ofFile?_eq_some.1 hn).1, (ofFile?_eq_some.1 hn').1, he]
  have hsorted : (ofFiles files).Pairwise (· ≤ ·) := by
    have := @List.pairwise_mergeSort String (fun a b => decide (a ≤ b))
      (fun a b c hab hbc => by simpa using String.le_trans (by simpa using hab) (by simpa using hbc))
      (fun a b => by simpa using String.le_total a b) (files.filterMap ofFile?)
    simpa [ofFiles] using this
  refine hsorted.imp₂ (fun a b hle hne => ?_) hnodup
  exact String.not_le.1 fun hge => hne (String.le_antisymm hle hge)

/-- The files of some slots, in any order, give the names of the slots in their order. -/
theorem ofFiles_eq {files : List FileName} {names : List String} (hfiles : files.Nodup)
    (hnames : names.Pairwise (· < ·)) (hvalid : ∀ name ∈ names, isValid name = true)
    (hmem : ∀ file, file ∈ files ↔ ∃ name ∈ names, file = fileOf name) : ofFiles files = names := by
  have hordered := ofFiles_ordered hfiles
  refine List.Perm.eq_of_pairwise (fun a b _ _ hab hba => absurd hba (String.lt_asymm hab)) hordered hnames ?_
  refine (List.perm_ext_iff_of_nodup (hordered.imp fun h => String.ne_of_lt h)
    (hnames.imp fun h => String.ne_of_lt h)).2 fun name => ?_
  rw [mem_ofFiles, hmem]
  constructor
  · rintro ⟨-, other, hother, hfile⟩
    rwa [fileOf_inj hfile]
  · exact fun hname => ⟨hvalid name hname, name, hname, rfl⟩

end Slots

end BlockPilot
