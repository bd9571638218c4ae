import BlockPilot.Config.Setting
import BlockPilot.Proofs.KeyedOrder

/-!
# Layers put together

What stands under a name in two layers put together is what the later layer has there, over what the earlier
one has (`Layered.lookup_merge`). Two names deep, a later layer that has nothing but dictionaries under its
names takes the place of what it names and leaves all the rest (`Layered.under?_merge`).
-/

namespace BlockPilot.Layered

variable {source : Source} {key name part : String} {old new : List (String × Layered)}

/-- The entries of a dictionary. Anything else has none. -/
def entries : Layered → List (String × Layered)
  | .dict _ entries => entries
  | .leaf .. => []

@[simp] theorem entries_dict (source : Source) (entries : List (String × Layered)) :
    (Layered.dict source entries).entries = entries := rfl

@[simp] theorem entries_leaf (source : Source) (v : Setting) : (Layered.leaf source v).entries = [] := rfl

/-! ## Under a name -/

theorem ordered_mergeEntries (h : Keyed.Ordered old) (new : List (String × Layered)) :
    Keyed.Ordered (mergeEntries old new) := by
  induction new generalizing old with
  | nil => exact h
  | cons head rest ih => exact ih h.insert

theorem lookup_mergeEntries (old : List (String × Layered)) (h : Keyed.Ordered new) :
    Keyed.lookup key (mergeEntries old new) =
      (Keyed.lookup key new).elim (Keyed.lookup key old) fun v =>
        some ((Keyed.lookup key old).elim v (·.merge v)) := by
  induction new generalizing old with
  | nil => rfl
  | cons head rest ih =>
    obtain ⟨k, v⟩ := head
    obtain ⟨hk, hrest⟩ := List.pairwise_cons.1 h
    rw [mergeEntries, ih _ hrest, Keyed.lookup_cons]
    by_cases hkey : k = key
    · subst hkey
      rw [Keyed.lookup_of_lt hk, if_pos rfl, Option.elim_none, Keyed.lookup_insert_self, Option.elim_some]
      cases Keyed.lookup k old <;> rfl
    · rw [if_neg hkey, Keyed.lookup_insert_of_ne hkey]

theorem merge_leaf (below : Layered) (source : Source) (v : Setting) :
    below.merge (.leaf source v) = .leaf source v := by
  rw [merge]

/-- A dictionary over anything is a dictionary. -/
theorem merge_dict (below : Layered) (source : Source) (new : List (String × Layered)) :
    ∃ merged, below.merge (.dict source new) = .dict source merged := by
  cases below <;> exact ⟨_, by rw [merge]⟩

/-- A dictionary comes out as a dictionary, whatever is below it. -/
theorem lookup_mergeEntries_dict {inner : List (String × Layered)} (old : List (String × Layered))
    (h : Keyed.Ordered new) (hkey : Keyed.lookup key new = some (.dict source inner)) :
    ∃ merged, Keyed.lookup key (mergeEntries old new) = some (.dict source merged) := by
  rw [lookup_mergeEntries old h, hkey, Option.elim_some]
  cases Keyed.lookup key old with
  | none => exact ⟨inner, rfl⟩
  | some below =>
    obtain ⟨merged, heq⟩ := merge_dict below source inner
    exact ⟨merged, congrArg some heq⟩

theorem lookup_merge (below : Layered) (source : Source) (h : Keyed.Ordered new) :
    Keyed.lookup key (below.merge (.dict source new)).entries =
      (Keyed.lookup key new).elim (Keyed.lookup key below.entries) fun v =>
        some ((Keyed.lookup key below.entries).elim v (·.merge v)) := by
  cases below with
  | dict source' old =>
    rw [merge]
    exact lookup_mergeEntries old h
  | leaf source' v =>
    rw [merge]
    cases hnew : Keyed.lookup key new <;> simp [hnew]

/-! ## In order -/

/-- If there is a dictionary, its entries are in the order of their keys. -/
def InOrder (v : Layered) : Prop := Keyed.Ordered v.entries

theorem inOrder_leaf (source : Source) (v : Setting) : (Layered.leaf source v).InOrder := List.Pairwise.nil

theorem InOrder.merge {below v : Layered} (hbelow : below.InOrder) (hv : v.InOrder) : (below.merge v).InOrder := by
  cases v with
  | leaf source v =>
    rw [merge_leaf]
    exact inOrder_leaf source v
  | dict source new =>
    cases below with
    | dict source' old =>
      rw [Layered.merge]
      exact ordered_mergeEntries hbelow new
    | leaf source' v =>
      rw [Layered.merge]
      exact hv

/-- What merging keeps holds of all entries of the merged dictionary. -/
theorem every_mergeEntries {P : Layered → Prop} (hmerge : ∀ below v, P below → P v → P (below.merge v))
    (hold : Keyed.Every P old) (hnew : ∀ e ∈ new, P e.2) : Keyed.Every P (mergeEntries old new) := by
  induction new generalizing old with
  | nil => exact hold
  | cons head rest ih =>
    obtain ⟨k, v⟩ := head
    have hv : P v := hnew (k, v) List.mem_cons_self
    rw [mergeEntries]
    refine ih (hold.insert k ?_) fun e he => hnew e (List.mem_cons_of_mem _ he)
    split
    · rename_i below hfound
      exact hmerge below v (hold.lookup hfound) hv
    · exact hv

/-! ## Two names deep -/

/-- What stands under a name under another name. -/
def under? (v : Layered) (part name : String) : Option Layered :=
  (Keyed.lookup part v.entries).bind fun inner => Keyed.lookup name inner.entries

/-- A dictionary in the order of its keys. -/
structure IsTable (v : Layered) : Prop where
  dict : ∃ source entries, v = .dict source entries
  inOrder : v.InOrder

theorem IsTable.merge {below v : Layered} (hbelow : below.IsTable) (hv : v.IsTable) : (below.merge v).IsTable := by
  refine ⟨?_, hbelow.inOrder.merge hv.inOrder⟩
  obtain ⟨source, entries, rfl⟩ := hv.dict
  obtain ⟨merged, heq⟩ := merge_dict below source entries
  exact ⟨source, merged, heq⟩

/-- What a layer of dictionaries has takes the place of what the other layer has there. -/
theorem under?_merge (below : Layered) (source : Source) (h : Keyed.Every IsTable new) :
    (below.merge (.dict source new)).under? part name =
      ((Layered.dict source new).under? part name).elim (below.under? part name) fun v =>
        some ((below.under? part name).elim v (·.merge v)) := by
  unfold under?
  rw [lookup_merge below source h.ordered, entries_dict]
  cases hnew : Keyed.lookup part new with
  | none => rfl
  | some v =>
    obtain ⟨⟨source', inner, rfl⟩, hinner⟩ := h.lookup hnew
    cases hold : Keyed.lookup part below.entries with
    | none => cases hv : Keyed.lookup name inner <;> simp [hv]
    | some b => simpa using lookup_merge b source' hinner

end BlockPilot.Layered
