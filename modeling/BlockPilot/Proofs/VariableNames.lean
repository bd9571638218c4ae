import BlockPilot.Config.Entry
import BlockPilot.Config.Environment
import BlockPilot.Proofs.Layers
import BlockPilot.Proofs.LetterCase
import Mathlib.Data.List.Basic
import Mathlib.Data.List.Find
import Mathlib.Data.List.Induction

/-!
# Names of variables

Which setting a variable gives does not depend on the case of its name (`path?_lowercaseAscii`), so a variable
with the name of an entry in any case gives this entry (`path?_of_lowercase`). Variables with paths of two
names put a layer of dictionaries together, in which every entry has what its variable gives
(`under?_layer`).
-/

namespace BlockPilot.Environment

open Layered

variable {env : List (String × String)} {v : String × String} {part name : String}

/-! ## The case of a name -/

theorem pointed_toLower (s : List Char) : pointed (s.map Char.toLower) = (pointed s).map Char.toLower := by
  fun_induction pointed s with
  | case1 rest ih =>
    have hunderscore : '_'.toLower = '_' := rfl
    have hpoint : '.'.toLower = '.' := rfl
    rw [List.map_cons, List.map_cons, List.map_cons, hunderscore, hpoint, pointed, ih]
  | case2 c rest hno ih =>
    rw [List.map_cons, List.map_cons, ← ih, pointed]
    intro rest' hc hrest
    cases rest with
    | nil => cases hrest
    | cons d rest =>
      obtain ⟨hd, -⟩ := List.cons.inj hrest
      exact hno rest ((Text.toLower_eq_underscore c).1 hc) (by rw [(Text.toLower_eq_underscore d).1 hd])
  | case3 => rfl

/-- The case of a name does not matter to its path. -/
theorem path?_lowercaseAscii (name : String) : path? (Text.lowercaseAscii name) = path? name := by
  have hupper : Char.toUpper ∘ Char.toLower = Char.toUpper := funext Text.toUpper_toLower
  have hlower : Char.toLower ∘ Char.toLower = Char.toLower := funext Text.toLower_toLower
  unfold path?
  simp only [Text.lowercaseAscii, String.toList_ofList, Text.trimChars_toLower, ← List.map_take, ← List.map_drop,
    List.map_map, hupper, pointed_toLower, hlower]

/-! ## Names of entries -/

/-- The name of the variable that gives an entry of a section, in lower case. -/
def variableName (part name : String) : String := "botblocks__" ++ part ++ "__" ++ name

theorem path?_variableName :
    ∀ s ∈ Config.Section.all, ∀ e ∈ s.entries, path? (variableName s.name e.name) = some [s.name, e.name] := by
  decide +kernel

/-- In whatever case a variable has the name of an entry, it gives this entry. -/
theorem path?_of_lowercase {s : Config.Section} (hs : s ∈ Config.Section.all) {e : Config.Entry} (he : e ∈ s.entries)
    (h : Text.lowercaseAscii v.1 = variableName s.name e.name) : path? v.1 = some [s.name, e.name] := by
  rw [← path?_lowercaseAscii, h, path?_variableName s hs e he]

/-! ## Two names deep -/

/-- All paths of the variables have two names. -/
def TwoDeep (env : List (String × String)) : Prop :=
  ∀ v ∈ env, ∀ path ∈ path? v.1, path.length = 2

/-- Whether a variable gives something in a part. -/
def mentions (env : List (String × String)) (part : String) : Bool :=
  env.any fun v => (path? v.1).any (·.head? == some part)

theorem layer_append_none (h : path? v.1 = none) : layer (env ++ [v]) = layer env := by
  simp only [layer, List.foldl_append, List.foldl_cons, List.foldl_nil, h]

theorem layer_append_some (h : path? v.1 = some [part, name]) :
    layer (env ++ [v]) = (layer env).merge (.dict .environment
      [(part, .dict .environment [(name, .ofSetting .environment (ofValue v.2))])]) := by
  simp only [layer, List.foldl_append, List.foldl_cons, List.foldl_nil, h, nest]

theorem under?_single (first last : String) (v : Layered) :
    (Layered.dict .environment [(first, .dict .environment [(last, v)])]).under? part name =
      if first = part ∧ last = name then some v else none := by
  rw [under?, entries_dict, Keyed.lookup_cons]
  by_cases hfirst : first = part
  · rw [if_pos hfirst, Option.bind_some, entries_dict, Keyed.lookup_cons]
    simp [hfirst]
  · simp [hfirst]

theorem isTable_single (part name : String) (v : Layered) :
    Keyed.Every IsTable [(part, .dict .environment [(name, v)])] := by
  refine ⟨List.pairwise_singleton _ _, ?_⟩
  intro e he
  obtain rfl := List.mem_singleton.1 he
  exact ⟨⟨_, _, rfl⟩, List.pairwise_singleton _ _⟩

/-- Variables put a layer of dictionaries together. -/
theorem isTable_layer (h : TwoDeep env) :
    ∃ entries, layer env = .dict .environment entries ∧ Keyed.Every IsTable entries := by
  induction env using List.reverseRecOn with
  | nil => exact ⟨[], rfl, .nil⟩
  | append_singleton env v ih =>
    obtain ⟨entries, heq, hentries⟩ := ih fun v hv => h v (List.mem_append_left _ hv)
    cases hpath : path? v.1 with
    | none => exact ⟨entries, by rw [layer_append_none hpath, heq], hentries⟩
    | some path =>
      obtain ⟨part, name, rfl⟩ := List.length_eq_two.1 (h v (by simp) path hpath)
      have hsingle := isTable_single part name (.ofSetting .environment (ofValue v.2))
      rw [layer_append_some hpath, heq, merge]
      exact ⟨_, rfl, every_mergeEntries (fun _ _ => IsTable.merge) hentries hsingle.holds⟩

/-- The layer has a part if a variable gives something in it. -/
theorem lookup_layer_isSome (h : TwoDeep env) :
    (Keyed.lookup part (layer env).entries).isSome = mentions env part := by
  induction env using List.reverseRecOn with
  | nil => rfl
  | append_singleton env v ih =>
    have hrest := ih fun v hv => h v (List.mem_append_left _ hv)
    cases hpath : path? v.1 with
    | none => simpa [layer_append_none hpath, mentions, hpath] using hrest
    | some path =>
      obtain ⟨first, name, rfl⟩ := List.length_eq_two.1 (h v (by simp) path hpath)
      have hsingle := isTable_single first name (.ofSetting .environment (ofValue v.2))
      rw [layer_append_some hpath, lookup_merge _ _ hsingle.ordered, Keyed.lookup_cons]
      by_cases hpart : first = part
      · simp [hpart, mentions, hpath]
      · have hhead : (first == part) = false := by simpa using hpart
        simpa [hpart, hhead, mentions, hpath] using hrest

/-- Where no two variables give the same entry, the layer has there what its variable gives. -/
theorem under?_layer (h : TwoDeep env)
    (hdistinct : env.Pairwise fun v w => path? v.1 = some [part, name] → path? w.1 ≠ some [part, name]) :
    (layer env).under? part name =
      (env.find? fun v => path? v.1 == some [part, name]).map fun v => ofSetting .environment (ofValue v.2) := by
  induction env using List.reverseRecOn with
  | nil => rfl
  | append_singleton env v ih =>
    obtain ⟨hpairs, -, hlast⟩ := List.pairwise_append.1 hdistinct
    have hrest := ih (fun v hv => h v (List.mem_append_left _ hv)) hpairs
    rw [List.find?_append]
    cases hpath : path? v.1 with
    | none => simpa [layer_append_none hpath, hpath] using hrest
    | some path =>
      obtain ⟨first, last, rfl⟩ := List.length_eq_two.1 (h v (by simp) path hpath)
      rw [layer_append_some hpath, under?_merge _ _ (isTable_single first last _), under?_single, hrest]
      by_cases hsame : first = part ∧ last = name
      · obtain ⟨rfl, rfl⟩ := hsame
        -- no variable before it gives this entry
        have hfresh : env.find? (fun v => path? v.1 == some [first, last]) = none := by
          refine List.find?_eq_none.2 fun w hw => ?_
          intro heq
          exact hlast w hw v (by simp) (by simpa using heq) hpath
        simp [hfresh, hpath]
      · simp [hsame, hpath]

/-! ## Entries -/

/-- The setting that a variable gives for an entry. The case of its name does not matter. -/
def given? (env : List (String × String)) (part name : String) : Option Setting :=
  (env.find? fun v => Text.lowercaseAscii v.1 == variableName part name).map fun v => ofValue v.2

/-- Every variable that gives something has the name of an entry in some case, or a path of two names that lead
to no entry; and no two of them have the same name in any case. -/
structure Proper (env : List (String × String)) : Prop where
  named : ∀ v ∈ env,
    (∃ s ∈ Config.Section.all, ∃ e ∈ s.entries, Text.lowercaseAscii v.1 = variableName s.name e.name) ∨
      ∀ path ∈ path? v.1, path.length = 2 ∧
        ∀ s ∈ Config.Section.all, ∀ e ∈ s.entries, path ≠ [s.name, e.name]
  distinct : env.Pairwise fun v w =>
    (path? v.1).isSome → Text.lowercaseAscii v.1 ≠ Text.lowercaseAscii w.1

namespace Proper

variable {s : Config.Section} {e : Config.Entry}

theorem twoDeep (h : Proper env) : TwoDeep env := by
  intro v hv path hpath
  rcases h.named v hv with ⟨s, hs, e, he, hname⟩ | hother
  · rw [path?_of_lowercase hs he hname] at hpath
    cases hpath
    rfl
  · exact (hother path hpath).1

/-- Only a variable with the name of an entry gives it. -/
theorem path?_iff (h : Proper env) (hs : s ∈ Config.Section.all) (he : e ∈ s.entries) (hv : v ∈ env) :
    path? v.1 = some [s.name, e.name] ↔ Text.lowercaseAscii v.1 = variableName s.name e.name := by
  constructor
  · intro hpath
    rcases h.named v hv with ⟨s', hs', e', he', hname⟩ | hother
    · rw [path?_of_lowercase hs' he' hname] at hpath
      simp only [Option.some.injEq, List.cons.injEq, and_true] at hpath
      rw [hname, hpath.1, hpath.2]
    · exact absurd rfl ((hother _ hpath).2 s hs e he)
  · exact path?_of_lowercase hs he

/-- **The layer of the environment** has for every entry what the variable with its name gives. -/
theorem under?_layer (h : Proper env) (hs : s ∈ Config.Section.all) (he : e ∈ s.entries) :
    (layer env).under? s.name e.name = (given? env s.name e.name).map (ofSetting .environment) := by
  have hpairs : env.Pairwise fun v w =>
      path? v.1 = some [s.name, e.name] → path? w.1 ≠ some [s.name, e.name] := by
    refine h.distinct.imp_of_mem ?_
    intro v w hv hw hapart hpath hpath'
    refine hapart (by rw [hpath]; rfl) ?_
    rw [(h.path?_iff hs he hv).1 hpath, (h.path?_iff hs he hw).1 hpath']
  have hfind : env.find? (fun v => path? v.1 == some [s.name, e.name]) =
      env.find? fun v => Text.lowercaseAscii v.1 == variableName s.name e.name := by
    refine List.find?_congr fun v hv => ?_
    rw [Bool.eq_iff_iff, beq_iff_eq, beq_iff_eq, h.path?_iff hs he hv]
  rw [Environment.under?_layer h.twoDeep hpairs, hfind, given?, Option.map_map]
  rfl

end Proper

end BlockPilot.Environment
