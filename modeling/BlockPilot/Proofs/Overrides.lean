import BlockPilot.Config.Load
import BlockPilot.Proofs.EntryValues
import BlockPilot.Proofs.TableOrder
import BlockPilot.Proofs.VariableNames

/-!
# What overrides what

A loaded configuration has for each entry what the environment gives, or else what the file gives, or else its
default (`layers_override`). A variable leaves the other entries of its section as the file has them, unless the
file has the section as a list: a list gives the entries in their order, and as a whole gives way to a variable
for the section (`list_dropped_behind_variable`).
-/

namespace BlockPilot

open Environment Layered

namespace Layered

variable {source : Source} {key : String}

theorem ofEntries_eq (source : Source) (entries : List (String × Setting)) :
    ofEntries source entries = entries.map fun e => (e.1, ofSetting source e.2) := by
  induction entries with
  | nil => rfl
  | cons head rest ih =>
    obtain ⟨k, v⟩ := head
    rw [ofEntries, ih, List.map_cons]

theorem lookup_ofEntries (entries : List (String × Setting)) :
    Keyed.lookup key (ofEntries source entries) = (Keyed.lookup key entries).map (ofSetting source) := by
  rw [ofEntries_eq, Keyed.lookup_map]

theorem ordered_ofEntries {entries : List (String × Setting)} (h : Keyed.Ordered entries) :
    Keyed.Ordered (ofEntries source entries) := by
  rw [ofEntries_eq]
  exact List.pairwise_map.2 h

theorem inOrder_ofSetting {v : Setting} (h : v.InOrder) : (ofSetting source v).InOrder := by
  cases v with
  | dict entries => exact ordered_ofEntries (Setting.inOrder_dict.1 h)
  | _ => exact inOrder_leaf source _

theorem every_ofEntries {entries : List (String × Setting)} (h : Keyed.Every Setting.InOrder entries) :
    Keyed.Every InOrder (ofEntries source entries) := by
  refine ⟨ordered_ofEntries h.ordered, ?_⟩
  rw [ofEntries_eq]
  intro e he
  obtain ⟨e, hmem, rfl⟩ := List.mem_map.1 he
  exact inOrder_ofSetting (h.holds e hmem)

/-- What a setting over another one is read as does not depend on the other one. -/
theorem setting?_merge (below v : Layered) : (below.merge v).setting? = v.setting? := by
  cases v with
  | leaf source v => rw [merge_leaf]
  | dict source entries =>
    obtain ⟨merged, heq⟩ := merge_dict below source entries
    rw [heq]
    rfl

end Layered

namespace Config

variable {s : Section} {e : Entry} {c : Config} {env : List (String × String)} {file : List (String × Setting)}

/-- What a setting for a section gives for one of its entries. A list gives them in their order, unless something
is over it. -/
def Section.gives? (s : Section) (name : String) (covered : Bool) : Setting → Option Setting
  | .dict entries => Keyed.lookup name entries
  | .list items => if covered then none else Keyed.lookup name ((s.entries.map (·.name)).zip items)
  | _ => none

/-- What a file and the environment give for an entry. -/
def chosen? (file : List (String × Setting)) (env : List (String × String)) (s : Section) (name : String) :
    Option Setting :=
  (given? env s.name name).or ((Keyed.lookup s.name file).bind (s.gives? name (mentions env s.name)))

/-- What an entry has after a setting of one layer was taken over. -/
theorem Kind.over?_ofSetting (k : Kind) (before : Option EntryValue) (source : Source) (found : Option Setting) :
    k.over? before (found.map (ofSetting source)) = found.elim before k.read? := by
  cases found with
  | none => rfl
  | some v =>
    cases v with
    | dict entries => cases k <;> rfl
    | _ => rfl

/-- A setting over another one is read as if it were alone. -/
theorem Kind.over?_merge (k : Kind) (before : Option EntryValue) (below : Option Layered) (v : Layered) :
    k.over? before (some (below.elim v (·.merge v))) = k.over? before (some v) := by
  cases below with
  | none => rfl
  | some b => rw [over?, over?, Option.elim_some, Option.elim_some, Option.elim_some, setting?_merge]

namespace Section

variable {name : String} {source : Source}

/-- Without anything over it, a section has what the file gives. -/
theorem part?_ofSetting (s : Section) (name : String) (source : Source) (v : Setting) :
    s.part? name (ofSetting source v) = (s.gives? name false v).map (ofSetting source) := by
  cases v with
  | dict entries => exact lookup_ofEntries entries
  | list items =>
    rw [part?, ofSetting, parts, List.zip_map_right]
    · exact Keyed.lookup_map (ofSetting source) _
    · intro entries heq
      cases heq
  | _ => rfl

/-- With a dictionary over it, a section keeps what a dictionary of the file gives. -/
theorem entries_ofSetting (s : Section) (name : String) (source : Source) (v : Setting) :
    Keyed.lookup name (ofSetting source v).entries = (s.gives? name true v).map (ofSetting source) := by
  cases v with
  | dict entries => exact lookup_ofEntries entries
  | _ => rfl

theorem under?_ofEntries (s : Section) (file : List (String × Setting)) :
    (Layered.dict source (ofEntries source file)).under? s.name name =
      ((Keyed.lookup s.name file).bind (s.gives? name true)).map (ofSetting source) := by
  rw [under?, entries_dict, lookup_ofEntries]
  cases Keyed.lookup s.name file with
  | none => rfl
  | some v => exact s.entries_ofSetting name source v

end Section

/-- What stands for an entry in the settings of a file with a layer of dictionaries over them. -/
theorem part?_mergeEntries (s : Section) (name : String) (source : Source) (file : List (String × Setting))
    {new : List (String × Layered)} (hnew : Keyed.Every IsTable new) :
    (Keyed.lookup s.name (mergeEntries (ofEntries source file) new)).bind (s.part? name) =
      ((Layered.dict .environment new).under? s.name name).elim
        (((Keyed.lookup s.name file).bind (s.gives? name (Keyed.lookup s.name new).isSome)).map (ofSetting source))
        fun v => some (((Layered.dict source (ofEntries source file)).under? s.name name).elim v (·.merge v)) := by
  cases hpart : Keyed.lookup s.name new with
  | none =>
    rw [lookup_mergeEntries _ hnew.ordered, hpart, Option.elim_none, lookup_ofEntries, under?, entries_dict, hpart,
      Option.bind_none, Option.elim_none]
    cases Keyed.lookup s.name file with
    | none => rfl
    | some v => exact s.part?_ofSetting name source v
  | some v =>
    obtain ⟨⟨source', inner, rfl⟩, -⟩ := hnew.lookup hpart
    obtain ⟨merged, hmerged⟩ := lookup_mergeEntries_dict (ofEntries source file) hnew.ordered hpart
    calc (Keyed.lookup s.name (mergeEntries (ofEntries source file) new)).bind (s.part? name)
        = ((Layered.dict source (ofEntries source file)).merge (.dict .environment new)).under? s.name name := by
          rw [merge, under?, entries_dict, hmerged]
          rfl
      _ = _ := under?_merge _ .environment hnew
      _ = _ := by rw [s.under?_ofEntries, Option.isSome_some]

/-- The settings of a file with those of the environment over them give an entry what is chosen for it. -/
theorem value_of_layers (hfile : Keyed.Every Setting.InOrder file) (henv : Proper env) (hs : s ∈ Section.all)
    (he : e ∈ s.entries) {source : Source}
    (h : ofSettings ((ofSetting source (.dict file)).merge (layer env)) = .ok c) :
    some (e.kind.value c) = (chosen? file env s e.name).elim (some (e.kind.value defaults)) e.kind.read? := by
  obtain ⟨new, hlayer, htables⟩ := isTable_layer henv.twoDeep
  have hunder := henv.under?_layer hs he
  have hmentions : (Keyed.lookup s.name (layer env).entries).isSome = mentions env s.name :=
    lookup_layer_isSome henv.twoDeep
  rw [hlayer] at hunder hmentions h
  rw [ofSetting, merge] at h
  have hsettings : Keyed.Every InOrder (mergeEntries (ofEntries source file) new) :=
    every_mergeEntries (fun _ _ => InOrder.merge) (every_ofEntries hfile) fun e he => (htables.holds e he).inOrder
  rw [value_ofSettings hs he hsettings h, part?_mergeEntries s e.name source file htables, hunder, chosen?,
    ← hmentions, entries_dict]
  cases given? env s.name e.name with
  | none => rw [Option.map_none, Option.elim_none, Option.none_or, Kind.over?_ofSetting]
  | some v =>
    rw [Option.map_some, Option.elim_some, Option.some_or, Kind.over?_merge]
    exact Kind.over?_ofSetting _ _ .environment (some v)

/-- The entries that the content of a file gives. A file that is not there gives none. -/
def fileEntries : Except FileFault String → List (String × Setting)
  | .ok text => (Toml.parse? text).getD []
  | .error _ => []

/-- Only a file that gives settings is loaded. -/
theorem fileLayer_eq_ok {name : String} {content : Except FileFault String} {v : Layered}
    (h : fileLayer name content = .ok v) :
    v = ofSetting (.file name) (.dict (fileEntries content)) ∧
      Keyed.Every Setting.InOrder (fileEntries content) := by
  unfold fileLayer at h
  split at h
  · rename_i text
    split at h
    · rename_i entries hparse
      cases h
      rw [fileEntries, hparse, Option.getD_some]
      exact ⟨rfl, Toml.parse?_inOrder hparse⟩
    · cases h
  · cases h
  · cases h
    exact ⟨rfl, .nil⟩

/-- A configuration that is loaded is valid, and was put together from layers. -/
theorem ofLayers_eq_ok {layer : Except ConfigFault Layered} {above : Layered}
    (h : ofLayers layer above = .ok c) :
    ∃ v, layer = .ok v ∧ ofSettings (v.merge above) = .ok c ∧ c.problem? = none := by
  unfold ofLayers at h
  split at h
  · cases h
  · rename_i c' hsettings
    obtain ⟨v, hv, hsettings⟩ := Json.bind_eq_ok.1 hsettings
    unfold validated at h
    split at h
    · cases h
    · rename_i hvalid
      cases h
      exact ⟨v, hv, hsettings, hvalid⟩

/-- Values of one kind are the same where they are the same as values of an entry. -/
theorem eq_of_value {α : Type} {make : α → EntryValue} (hmake : Function.Injective make) {read : Setting → Option α}
    {found : Option Setting} {value default : α}
    (h : some (make value) = found.elim (some (make default)) fun v => (read v).map make) :
    some value = found.elim (some default) read := by
  cases found with
  | none => exact congrArg some (hmake (Option.some.inj h))
  | some v => exact Option.map_injective hmake h

/-- **The environment overrides the file, and the file overrides the defaults, entry by entry.** What is loaded has
for each of its nine entries what the variable for this entry gives, or else what the file gives, or else its
default. Other keys of the file have no effect, and what is loaded is valid. -/
theorem layers_override (henv : Proper env) {name : String} {t t' : Tree}
    (h : load Tree.files env name t = (.ok c, t')) :
    let chosen := chosen? (fileEntries (t.read (.ofText name) >>= textOfBytes)) env
    some c.application.name = (chosen .application "name").elim (some "botblocks") Setting.text? ∧
      some c.application.logLevel = (chosen .application "log_level").elim (some "info") Setting.text? ∧
      some c.application.logFormat = (chosen .application "log_format").elim (some .compact) Setting.format? ∧
      some c.device.address = (chosen .device "address").elim (some "http://192.168.4.1") Setting.text? ∧
      some c.device.settleDelay = (chosen .device "settle_delay_ms").elim (some 50) Setting.natural? ∧
      some c.device.requestTimeout = (chosen .device "request_timeout_ms").elim (some 2000) Setting.natural? ∧
      some c.interpreter.pacingDelay = (chosen .interpreter "pacing_delay_ms").elim (some 50) Setting.natural? ∧
      some c.interpreter.eventBuffer = (chosen .interpreter "event_buffer").elim (some 1000) Setting.natural? ∧
      some c.storage.programDirectory = (chosen .storage "program_dir").elim (some "programs") Setting.text? ∧
      c.problem? = none ∧ t' = t := by
  intro chosen
  obtain ⟨hlayers, rfl⟩ := Prod.mk.inj h
  obtain ⟨v, hlayer, hsettings, hvalid⟩ := ofLayers_eq_ok hlayers
  obtain ⟨rfl, hfile⟩ := fileLayer_eq_ok hlayer
  have hvalue : ∀ s ∈ Section.all, ∀ e ∈ s.entries,
      some (e.kind.value c) = (chosen s e.name).elim (some (e.kind.value defaults)) e.kind.read? :=
    fun s hs e he => value_of_layers hfile henv hs he hsettings
  have htext : Function.Injective EntryValue.text := fun _ _ => EntryValue.text.inj
  have hnatural : Function.Injective EntryValue.natural := fun _ _ => EntryValue.natural.inj
  have hformat : Function.Injective EntryValue.format := fun _ _ => EntryValue.format.inj
  have happlication := hvalue .application (.head _)
  have hdevice := hvalue .device (.tail _ (.head _))
  have hinterpreter := hvalue .interpreter (.tail _ (.tail _ (.head _)))
  have hstorage := hvalue .storage (.tail _ (.tail _ (.tail _ (.head _))))
  refine ⟨eq_of_value htext (happlication _ (.head _)), eq_of_value htext (happlication _ (.tail _ (.head _))),
    eq_of_value hformat (happlication _ (.tail _ (.tail _ (.head _)))), ?_, ?_, ?_, ?_, ?_, ?_, hvalid, rfl⟩
  · exact eq_of_value htext (hdevice _ (.head _))
  · exact eq_of_value hnatural (hdevice _ (.tail _ (.head _)))
  · exact eq_of_value hnatural (hdevice _ (.tail _ (.tail _ (.head _))))
  · exact eq_of_value hnatural (hinterpreter _ (.head _))
  · exact eq_of_value hnatural (hinterpreter _ (.tail _ (.head _)))
  · exact eq_of_value htext (hstorage _ (.head _))

/-- A file and a variable in mixed case, among keys and variables that are no entries. -/
theorem layers_override_of_both :
    let text := "title = 1\n[device]\naddress = \"http://10.0.0.7\"\nsettle_delay_ms = 20\n"
    let env := [("BOTBLOCKS__A__B", "1"), ("BotBlocks__Device__Settle_Delay_Ms", "7"), ("PATH", "/bin")]
    let t := Tree.directory [(bytesOfText defaultFile, .file (bytesOfText text))]
    Proper env ∧ ∃ c, load Tree.files env defaultFile t = (.ok c, t) ∧
      c.device.address = "http://10.0.0.7" ∧ c.device.settleDelay = 7 ∧ c.device.requestTimeout = 2000 := by
  intro text env t
  have hproper : Proper env := ⟨by decide +kernel, by decide +kernel⟩
  have hsome : (load Tree.files env defaultFile t).1.toOption.isSome = true := by decide +kernel
  cases hload : (load Tree.files env defaultFile t).1 with
  | error failure =>
    rw [hload] at hsome
    cases hsome
  | ok c =>
    have hload : load Tree.files env defaultFile t = (.ok c, t) := Prod.ext hload rfl
    obtain ⟨-, -, -, haddress, hsettle, hrequest, -⟩ := layers_override hproper hload
    refine ⟨hproper, c, hload, ?_, ?_, ?_⟩
    · exact Option.some.inj (haddress.trans (by decide +kernel))
    · exact Option.some.inj (hsettle.trans (by decide +kernel))
    · exact Option.some.inj (hrequest.trans (by decide +kernel))

/-- A file that has a section as a list gives its entries, but with a variable for one of them the others are
gone. -/
theorem list_dropped_behind_variable :
    let t := Tree.directory [(bytesOfText defaultFile, .file (bytesOfText "device = [\"http://10.0.0.7\", 20]\n"))]
    let device (env : List (String × String)) : Option DeviceConfig :=
      (load Tree.files env defaultFile t).1.toOption.map (·.device)
    let settle := [("BOTBLOCKS__DEVICE__SETTLE_DELAY_MS", "5")]
    device [] = some ⟨"http://10.0.0.7", 20, 2000⟩ ∧
      Proper settle ∧ device settle = some ⟨"http://192.168.4.1", 5, 2000⟩ := by
  intro t device settle
  refine ⟨by decide +kernel, ⟨by decide +kernel, by decide +kernel⟩, by decide +kernel⟩

end Config

end BlockPilot
