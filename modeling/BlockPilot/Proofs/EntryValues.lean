import BlockPilot.Config.Extract
import BlockPilot.Proofs.Layers
import BlockPilot.Proofs.ScalarText
import Mathlib.Data.List.Nodup
import Mathlib.Data.List.Pairwise

/-!
# Values of entries

Settings are taken over one after the other. Each of them changes the entry that it is named after
(`Kind.value_take`) and spares all others (`Kind.take_spares`). So what a configuration has for an entry in the
end is what the setting at its place gives, and its default where there is no setting (`value_ofSettings`).
-/

namespace BlockPilot

namespace Setting

/-- The text that a setting gives. -/
def text? : Setting → Option String
  | .text value => some value
  | .char value => some (String.singleton value)
  | _ => none

/-- The number without a sign that a setting gives. -/
def natural? : Setting → Option Nat
  | .natural n => some n
  | .integer n => if 0 ≤ n then some n.toNat else none
  | _ => none

/-- The format that a setting gives by its name. -/
def format? : Setting → Option LogFormat
  | .text name => (LogFormat.names.find? (·.1 == name)).map (·.2)
  | _ => none

end Setting

namespace Layered

/-- The setting of one layer that stands here, if it is no dictionary. -/
def setting? : Layered → Option Setting
  | .leaf _ v => some v
  | .dict .. => none

/-- What a setting has for each of its parts: by their names, or in the order of `names` if it is a list. -/
def parts (names : List String) : Layered → List (String × Layered)
  | .dict _ entries => entries
  | .leaf source (.list items) => names.zip (items.map (ofSetting source))
  | .leaf .. => []

theorem zip_keys_sublist {α : Type} (names : List String) (items : List α) :
    ((names.zip items).map (·.1)).Sublist names := by
  induction names generalizing items with
  | nil => simp
  | cons name names ih =>
    cases items with
    | nil => simp
    | cons item items => simpa using ih items

/-- No part occurs twice. -/
theorem nodup_parts {v : Layered} (hv : v.InOrder) {names : List String} (hnames : names.Nodup) :
    ((v.parts names).map (·.1)).Nodup := by
  cases v with
  | dict source entries => exact hv.nodup
  | leaf source v =>
    cases v with
    | list items =>
      exact hnames.sublist (zip_keys_sublist names (items.map (ofSetting source)))
    | _ => exact List.nodup_nil

end Layered

namespace Config

variable {k other : Kind} {path : List String} {v : Layered} {c c' : Config} {expected : String}

/-! ## One entry -/

/-- A value of an entry. -/
inductive EntryValue where
  | text (value : String)
  | natural (value : Nat)
  | format (value : LogFormat)
  deriving DecidableEq

namespace Kind

/-- What a configuration has for an entry. -/
def value (c : Config) : Kind → EntryValue
  | .text _ access => .text (access.get c)
  | .natural _ access => .natural (access.get c)
  | .format access => .format (access.get c)

/-- What a setting gives for an entry. -/
def read? (v : Setting) : Kind → Option EntryValue
  | .text .. => v.text?.map .text
  | .natural .. => v.natural?.map .natural
  | .format _ => v.format?.map .format

/-- What an entry has after `found` was taken over, where it had `before`. -/
def over? (before : Option EntryValue) (found : Option Layered) (k : Kind) : Option EntryValue :=
  found.elim before fun v => v.setting?.bind k.read?

/-- What is set is what is there afterwards. -/
def Lawful : Kind → Prop
  | .text _ access => ∀ x c, access.get (access.set x c) = x
  | .natural _ access => ∀ x c, access.get (access.set x c) = x
  | .format access => ∀ x c, access.get (access.set x c) = x

/-- Setting an entry leaves another one as it is. -/
def Spares : Kind → Kind → Prop
  | .text _ access, other => ∀ x c, other.value (access.set x c) = other.value c
  | .natural _ access, other => ∀ x c, other.value (access.set x c) = other.value c
  | .format access, other => ∀ x c, other.value (access.set x c) = other.value c

theorem take_text {access : Access String} (h : (Kind.text expected access).take path v c = .ok c') :
    ∃ x, v.setting?.bind Setting.text? = some x ∧ c' = access.set x c := by
  obtain ⟨x, hread, hset⟩ := Json.bind_eq_ok.1 h
  refine ⟨x, ?_, (Except.ok.inj hset).symm⟩
  unfold readText at hread
  split at hread
  all_goals cases hread
  · rfl
  · rfl

theorem take_natural {access : Access Nat} (h : (Kind.natural expected access).take path v c = .ok c') :
    ∃ x, v.setting?.bind Setting.natural? = some x ∧ c' = access.set x c := by
  obtain ⟨x, hread, hset⟩ := Json.bind_eq_ok.1 h
  refine ⟨x, ?_, (Except.ok.inj hset).symm⟩
  unfold readNatural at hread
  split at hread
  · cases hread
    rfl
  · split at hread
    · rename_i hsign
      cases hread
      simp [Layered.setting?, Setting.natural?, hsign]
    · cases hread
  · cases hread

theorem take_format {access : Access LogFormat} (h : (Kind.format access).take path v c = .ok c') :
    ∃ x, v.setting?.bind Setting.format? = some x ∧ c' = access.set x c := by
  obtain ⟨x, hread, hset⟩ := Json.bind_eq_ok.1 h
  refine ⟨x, ?_, (Except.ok.inj hset).symm⟩
  unfold readFormat at hread
  split at hread
  · unfold readFormat.variant at hread
    split at hread
    · rename_i hfound
      cases hread
      simp [Layered.setting?, Setting.format?, hfound]
    · cases hread
  · cases hread
  · cases hread
  · obtain ⟨_, _, hread⟩ := Json.bind_eq_ok.1 hread
    cases hread

/-- An entry that is taken over has what its setting gives. -/
theorem value_take (hk : k.Lawful) (h : k.take path v c = .ok c') :
    some (k.value c') = v.setting?.bind k.read? := by
  cases k with
  | text expected access =>
    obtain ⟨x, hread, rfl⟩ := take_text h
    obtain ⟨w, hv, hw⟩ := Option.bind_eq_some_iff.1 hread
    simp only [value, hk x c, hv, Option.bind_some, read?, hw, Option.map_some]
  | natural expected access =>
    obtain ⟨x, hread, rfl⟩ := take_natural h
    obtain ⟨w, hv, hw⟩ := Option.bind_eq_some_iff.1 hread
    simp only [value, hk x c, hv, Option.bind_some, read?, hw, Option.map_some]
  | format access =>
    obtain ⟨x, hread, rfl⟩ := take_format h
    obtain ⟨w, hv, hw⟩ := Option.bind_eq_some_iff.1 hread
    simp only [value, hk x c, hv, Option.bind_some, read?, hw, Option.map_some]

/-- Taking an entry over leaves another one as it is. -/
theorem take_spares (hk : k.Spares other) (h : k.take path v c = .ok c') : other.value c' = other.value c := by
  cases k with
  | text expected access =>
    obtain ⟨x, _, rfl⟩ := take_text h
    exact hk x c
  | natural expected access =>
    obtain ⟨x, _, rfl⟩ := take_natural h
    exact hk x c
  | format access =>
    obtain ⟨x, _, rfl⟩ := take_format h
    exact hk x c

end Kind

/-! ## All entries -/

/-- The entries of all sections. -/
def entries : List Entry := Section.all.flatMap (·.entries)

theorem lawful {e : Entry} (he : e ∈ entries) : e.kind.Lawful := by
  simp only [entries, Section.all, Section.application, Section.device, Section.interpreter, Section.storage,
    List.flatMap_cons, List.flatMap_nil, List.cons_append, List.nil_append, List.mem_cons, List.not_mem_nil,
    or_false] at he
  rcases he with rfl | rfl | rfl | rfl | rfl | rfl | rfl | rfl | rfl
  all_goals
    intro x c
    rfl

/-- The entries have different names, and setting one of them leaves all others as they are. -/
theorem spares {e other : Entry} (he : e ∈ entries) (hother : other ∈ entries) (hne : e.name ≠ other.name) :
    e.kind.Spares other.kind := by
  simp only [entries, Section.all, Section.application, Section.device, Section.interpreter, Section.storage,
    List.flatMap_cons, List.flatMap_nil, List.cons_append, List.nil_append, List.mem_cons, List.not_mem_nil,
    or_false] at he hother
  rcases he with rfl | rfl | rfl | rfl | rfl | rfl | rfl | rfl | rfl
  all_goals
    rcases hother with rfl | rfl | rfl | rfl | rfl | rfl | rfl | rfl | rfl
    all_goals
      first
      | exact absurd rfl hne
      | exact fun x c => rfl

/-! ## One after the other -/

section Fold

variable {ε σ δ β : Type} {f : σ → String × δ → Except ε σ} {key : String}
  {xs : List (String × δ)} {s s' : σ}

/-- What every step leaves as it is stays so. -/
theorem foldlM_keeps (val : σ → β) (keep : ∀ e ∈ xs, ∀ s s', f s e = .ok s' → val s' = val s)
    (h : xs.foldlM f s = .ok s') : val s' = val s := by
  induction xs generalizing s with
  | nil =>
    cases h
    rfl
  | cons e rest ih =>
    rw [List.foldlM_cons] at h
    obtain ⟨t, hstep, hrest⟩ := Json.bind_eq_ok.1 h
    have hkeep : ∀ e ∈ rest, ∀ s s', f s e = .ok s' → val s' = val s :=
      fun e he => keep e (List.mem_cons_of_mem _ he)
    rw [ih hkeep hrest, keep e List.mem_cons_self s t hstep]

/-- If the steps under other keys leave a value as it is, then in the end it is what the step under its own key
makes of it. -/
theorem foldlM_at (val : σ → β) (make : δ → β → β) (hdistinct : (xs.map (·.1)).Nodup)
    (keep : ∀ e ∈ xs, e.1 ≠ key → ∀ s s', f s e = .ok s' → val s' = val s)
    (own : ∀ v, (key, v) ∈ xs → ∀ s s', f s (key, v) = .ok s' → val s' = make v (val s))
    (h : xs.foldlM f s = .ok s') :
    val s' = (Keyed.lookup key xs).elim (val s) fun v => make v (val s) := by
  induction xs generalizing s with
  | nil =>
    cases h
    rfl
  | cons e rest ih =>
    obtain ⟨k, v⟩ := e
    rw [List.foldlM_cons] at h
    obtain ⟨t, hstep, hrest⟩ := Json.bind_eq_ok.1 h
    obtain ⟨hfresh, hdistinct⟩ := List.nodup_cons.1 hdistinct
    rw [Keyed.lookup_cons]
    by_cases hk : k = key
    · subst hk
      have hkeep : ∀ e ∈ rest, ∀ s s', f s e = .ok s' → val s' = val s := by
        intro e he
        refine keep e (List.mem_cons_of_mem _ he) ?_
        intro hsame
        exact hfresh (List.mem_map.2 ⟨e, he, hsame⟩)
      rw [if_pos rfl, foldlM_keeps val hkeep hrest, own v List.mem_cons_self s t hstep, Option.elim_some]
    · have hkeep : ∀ e ∈ rest, e.1 ≠ key → ∀ s s', f s e = .ok s' → val s' = val s :=
        fun e he => keep e (List.mem_cons_of_mem _ he)
      have hown : ∀ v, (key, v) ∈ rest → ∀ s s', f s (key, v) = .ok s' → val s' = make v (val s) :=
        fun v hv => own v (List.mem_cons_of_mem _ hv)
      rw [if_neg hk, ih hdistinct hkeep hown hrest, keep (k, v) List.mem_cons_self hk s t hstep]

end Fold

theorem map_zipIdx_zip {source : Source} (i : Nat) (names : List String) (items : List Setting) :
    ((names.zipIdx i).zip items).map (fun e => (e.1.1, Layered.ofSetting source e.2)) =
      names.zip (items.map (Layered.ofSetting source)) := by
  induction names generalizing i items with
  | nil => simp
  | cons name names ih =>
    cases items with
    | nil => simp
    | cons item items => simpa using ih (i + 1) items

/-- Members are the parts of a setting, with what a message calls them. -/
theorem members_eq_ok {names : List String} {xs : List (String × String × Layered)}
    (h : members expected names path v = .ok xs) : xs.map (fun e => (e.1, e.2.2)) = v.parts names := by
  cases v with
  | dict source entries =>
    cases h
    simp [Layered.parts, Function.comp_def]
  | leaf source v =>
    cases v with
    | list items =>
      cases h
      rw [Layered.parts, List.map_map]
      exact map_zipIdx_zip 0 names items
    | _ => cases h

/-! ## All settings -/

/-- Among things with different names, looking for the name of one of them finds it. -/
theorem find?_name {β : Type} {name : β → String} {xs : List β} (h : (xs.map name).Nodup) {x : β} (hx : x ∈ xs) :
    xs.find? (name · == name x) = some x := by
  induction xs with
  | nil => cases hx
  | cons y xs ih =>
    obtain ⟨hfresh, hrest⟩ := List.nodup_cons.1 h
    rcases List.mem_cons.1 hx with rfl | hx
    · simp
    · have hne : name y ≠ name x := by
        intro heq
        exact hfresh (List.mem_map.2 ⟨x, hx, heq.symm⟩)
      rw [List.find?_cons_of_neg (by simpa using hne), ih hrest hx]

theorem section_names_nodup : (Section.all.map (·.name)).Nodup := by decide

theorem entry_names_nodup : (Section.all.flatMap fun s => s.entries.map (·.name)).Nodup := by decide

theorem mem_entries {s : Section} (hs : s ∈ Section.all) {e : Entry} (he : e ∈ s.entries) : e ∈ entries :=
  List.mem_flatMap.2 ⟨s, hs, he⟩

namespace Section

variable {s other : Section} {e : Entry}

/-- What a setting for a section has for one of its entries. -/
def part? (s : Section) (name : String) (v : Layered) : Option Layered :=
  Keyed.lookup name (v.parts (s.entries.map (·.name)))

theorem names_nodup (hs : s ∈ all) : (s.entries.map (·.name)).Nodup :=
  (List.nodup_flatMap.1 entry_names_nodup).1 s hs

/-- No name of an entry occurs in two sections. -/
theorem names_disjoint (hs : s ∈ all) (hother : other ∈ all) (hne : s ≠ other) :
    List.Disjoint (s.entries.map (·.name)) (other.entries.map (·.name)) := by
  have hpairs := (List.nodup_flatMap.1 entry_names_nodup).2
  have : Std.Symm (Function.onFun List.Disjoint fun s : Section => s.entries.map (·.name)) :=
    ⟨fun _ _ h _ hb ha => h ha hb⟩
  exact hpairs.forall hs hother hne

/-- Taking a section over leaves the entries of the others as they are. -/
theorem take_spares (hs : s ∈ all) (hother : other ∈ all) (hne : s ≠ other) (he : e ∈ other.entries)
    (h : s.take path v c = .ok c') : e.kind.value c' = e.kind.value c := by
  obtain ⟨xs, hxs, hfold⟩ := Json.bind_eq_ok.1 h
  refine foldlM_keeps (e.kind.value ·) ?_ hfold
  rintro ⟨name, shown, w⟩ - c c' hstep
  simp only at hstep
  split at hstep
  · rename_i e' hfound
    have he' : e' ∈ s.entries := List.mem_of_find?_eq_some hfound
    refine Kind.take_spares (spares (mem_entries hs he') (mem_entries hother he) ?_) hstep
    intro hname
    have hmem : e'.name ∈ other.entries.map (·.name) := hname ▸ List.mem_map_of_mem he
    exact names_disjoint hs hother hne (List.mem_map_of_mem he') hmem
  · cases hstep
    rfl

/-- What a section that was taken over has for one of its entries. -/
theorem value_take (hs : s ∈ all) (he : e ∈ s.entries) (hv : v.InOrder) (h : s.take path v c = .ok c') :
    some (e.kind.value c') = e.kind.over? (some (e.kind.value c)) (s.part? e.name v) := by
  obtain ⟨xs, hxs, hfold⟩ := Json.bind_eq_ok.1 h
  have hparts := members_eq_ok hxs
  have hdistinct : (xs.map (·.1)).Nodup := by
    have hnodup := Layered.nodup_parts hv (names_nodup hs)
    rwa [← hparts, List.map_map] at hnodup
  rw [part?, ← hparts, Keyed.lookup_map, Kind.over?, Option.elim_map]
  refine foldlM_at (fun c => some (e.kind.value c)) (fun m _ => m.2.setting?.bind e.kind.read?) hdistinct ?_ ?_ hfold
  · rintro ⟨name, shown, w⟩ - hne c c' hstep
    simp only at hstep hne
    split at hstep
    · rename_i e' hfound
      have he' : e' ∈ s.entries := List.mem_of_find?_eq_some hfound
      have hname : e'.name = name := by simpa using List.find?_some hfound
      rw [← hname] at hne
      rw [Kind.take_spares (spares (mem_entries hs he') (mem_entries hs he) hne) hstep]
    · cases hstep
      rfl
  · rintro ⟨shown, w⟩ - c c' hstep
    simp only [find?_name (names_nodup hs) he] at hstep
    exact Kind.value_take (lawful (mem_entries hs he)) hstep

end Section

/-- **What settings give** for an entry is what the setting at its place gives, and its default where there is
none. The entries of a section stand under their names, or in their order if it is a list. -/
theorem value_ofSettings {s : Section} (hs : s ∈ Section.all) {e : Entry} (he : e ∈ s.entries) {source : Source}
    {settings : List (String × Layered)} (hsettings : Keyed.Every Layered.InOrder settings)
    (h : ofSettings (.dict source settings) = .ok c) :
    some (e.kind.value c) =
      e.kind.over? (some (e.kind.value defaults)) ((Keyed.lookup s.name settings).bind (s.part? e.name)) := by
  obtain ⟨xs, hxs, hfold⟩ := Json.bind_eq_ok.1 h
  have hparts : xs.map (fun e => (e.1, e.2.2)) = settings := members_eq_ok hxs
  have hdistinct : (xs.map (·.1)).Nodup := by
    have hnodup := hsettings.ordered.nodup
    rwa [← hparts, List.map_map] at hnodup
  have hvalue : some (e.kind.value c) = (Keyed.lookup s.name xs).elim (some (e.kind.value defaults)) fun m =>
      e.kind.over? (some (e.kind.value defaults)) (s.part? e.name m.2) := by
    refine foldlM_at (fun c => some (e.kind.value c)) (fun m before => e.kind.over? before (s.part? e.name m.2))
      hdistinct ?_ ?_ hfold
    · rintro ⟨name, shown, v⟩ - hne c c' hstep
      simp only at hstep hne
      split at hstep
      · rename_i other hfound
        have hother : other ∈ Section.all := List.mem_of_find?_eq_some hfound
        have hname : other.name = name := by simpa using List.find?_some hfound
        have hapart : other ≠ s := by
          rintro rfl
          exact hne hname.symm
        rw [Section.take_spares hother hs hapart he hstep]
      · cases hstep
        rfl
    · rintro ⟨shown, v⟩ hmem c c' hstep
      simp only [find?_name section_names_nodup hs] at hstep
      have hv : v.InOrder := hsettings.holds (s.name, v) (hparts ▸ List.mem_map_of_mem hmem)
      exact Section.value_take hs he hv hstep
  rw [hvalue, ← hparts, Keyed.lookup_map]
  cases Keyed.lookup s.name xs <;> rfl

end Config

end BlockPilot
