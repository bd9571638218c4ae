import BlockPilot.Keyed

/-!
# The order of keyed lists

Inserting keeps a keyed list in the order of its keys (`Ordered.insert`) and changes the value of one
key only. A key behind all others goes to the end, so that a list that is inserted entry by entry in
its own order comes out as it was; and a key that was not there can be erased again. What holds of every
value stays so (`Every`).
-/

namespace BlockPilot.Keyed

variable {α : Type} {key other : String} {value : α} {entries : List (String × α)}

/-- The entries are in the order of their keys, and no key occurs twice. -/
def Ordered (entries : List (String × α)) : Prop :=
  entries.Pairwise fun a b => a.1 < b.1

/-- No entry has this key. -/
def Absent (key : String) (entries : List (String × α)) : Prop := ∀ e ∈ entries, e.1 ≠ key

theorem mem_insert {e : String × α} (h : e ∈ insert key value entries) :
    e = (key, value) ∨ e ∈ entries := by
  induction entries with
  | nil => simpa [insert] using h
  | cons head rest ih =>
    obtain ⟨k, v⟩ := head
    simp only [insert] at h
    split at h
    · exact List.mem_cons.1 h
    · split at h
      · rcases List.mem_cons.1 h with rfl | hr
        · exact Or.inl rfl
        · exact Or.inr (List.mem_cons_of_mem _ hr)
      · rcases List.mem_cons.1 h with rfl | hr
        · exact Or.inr List.mem_cons_self
        · exact (ih hr).imp_right (List.mem_cons_of_mem _)

theorem Ordered.insert (h : Ordered entries) : Ordered (insert key value entries) := by
  induction entries with
  | nil => simp [Keyed.insert, Ordered]
  | cons head rest ih =>
    obtain ⟨k, v⟩ := head
    obtain ⟨hk, hrest⟩ := List.pairwise_cons.1 h
    simp only [Keyed.insert]
    split
    · rename_i hlt
      refine List.pairwise_cons.2 ⟨fun e he => ?_, h⟩
      rcases List.mem_cons.1 he with rfl | he
      · exact hlt
      · exact String.lt_trans hlt (hk e he)
    · rename_i hge
      split
      · rename_i heq
        subst heq
        exact List.pairwise_cons.2 ⟨hk, hrest⟩
      · rename_i hne
        refine List.pairwise_cons.2 ⟨fun e he => ?_, ih hrest⟩
        rcases mem_insert he with rfl | he
        · exact Std.lt_of_le_of_ne (String.not_lt.1 hge) (Ne.symm hne)
        · exact hk e he

theorem Ordered.nodup (h : Ordered entries) : (entries.map (·.1)).Nodup := by
  refine List.pairwise_map.2 (h.imp ?_)
  intro a b hlt heq
  rw [heq] at hlt
  exact String.lt_irrefl _ hlt

/-- A key behind all others goes to the end. -/
theorem insert_last (h : ∀ e ∈ entries, e.1 < key) :
    insert key value entries = entries ++ [(key, value)] := by
  induction entries with
  | nil => rfl
  | cons head rest ih =>
    obtain ⟨k, v⟩ := head
    have hk : k < key := h _ List.mem_cons_self
    have hne : key ≠ k := by
      rintro rfl
      exact String.lt_irrefl key hk
    rw [insert, if_neg (String.lt_asymm hk), if_neg hne, ih fun e he => h e (by simp [he])]
    rfl

/-- Entries that are inserted in the order of their keys come out as they were. -/
theorem foldl_insert (h : Ordered entries) :
    entries.foldl (fun entries e => insert e.1 e.2 entries) [] = entries := by
  have go (done rest : List (String × α)) (h : Ordered (done ++ rest)) :
      rest.foldl (fun entries e => insert e.1 e.2 entries) done = done ++ rest := by
    induction rest generalizing done with
    | nil => simp
    | cons e rest ih =>
      have hlast : ∀ d ∈ done, d.1 < e.1 :=
        fun d hd => (List.pairwise_append.1 h).2.2 d hd e List.mem_cons_self
      rw [List.foldl_cons, insert_last hlast, ih _ (by simpa using h)]
      simp
  exact go [] entries h

/-! ## Looking up -/

@[simp] theorem lookup_nil (key : String) : lookup key ([] : List (String × α)) = none := rfl

theorem lookup_cons (k : String) (v : α) :
    lookup key ((k, v) :: entries) = if k = key then some v else lookup key entries := by
  by_cases h : k = key
  · simp [lookup, h]
  · simp [lookup, h]

@[simp] theorem lookup_insert_self (key : String) (value : α) (entries : List (String × α)) :
    lookup key (insert key value entries) = some value := by
  induction entries with
  | nil => simp [insert, lookup_cons]
  | cons head rest ih =>
    obtain ⟨k, v⟩ := head
    simp only [insert]
    split
    · simp [lookup_cons]
    · split
      · simp [lookup_cons]
      · rename_i hne
        simp [lookup_cons, Ne.symm hne, ih]

theorem lookup_insert_of_ne (h : other ≠ key) (value : α) (entries : List (String × α)) :
    lookup key (insert other value entries) = lookup key entries := by
  induction entries with
  | nil => simp [insert, lookup_cons, h]
  | cons head rest ih =>
    obtain ⟨k, v⟩ := head
    simp only [insert]
    split
    · simp [lookup_cons, h]
    · split
      · rename_i heq
        subst heq
        simp [lookup_cons, h]
      · simp [lookup_cons, ih]

theorem lookup_map {β : Type} (f : α → β) (entries : List (String × α)) :
    lookup key (entries.map fun e => (e.1, f e.2)) = (lookup key entries).map f := by
  induction entries with
  | nil => rfl
  | cons head rest ih =>
    obtain ⟨k, v⟩ := head
    rw [List.map_cons, lookup_cons, lookup_cons, ih]
    split <;> rfl

theorem lookup_of_absent (h : Absent key entries) : lookup key entries = none := by
  induction entries with
  | nil => rfl
  | cons head rest ih =>
    obtain ⟨k, v⟩ := head
    rw [lookup_cons, if_neg (h _ List.mem_cons_self), ih fun e he => h e (by simp [he])]

theorem mem_of_lookup (h : lookup key entries = some value) : (key, value) ∈ entries := by
  induction entries with
  | nil => cases h
  | cons head rest ih =>
    obtain ⟨k, v⟩ := head
    rw [lookup_cons] at h
    split at h
    · rename_i hk
      subst hk
      obtain rfl : v = value := by simpa using h
      exact List.mem_cons_self
    · exact List.mem_cons_of_mem _ (ih h)

/-- Looking up finds something exactly if there is an entry. -/
theorem exists_lookup_iff : (∃ v, lookup key entries = some v) ↔ key ∈ entries.map (·.1) := by
  induction entries with
  | nil => simp
  | cons head rest ih =>
    obtain ⟨k, v⟩ := head
    rw [lookup_cons, List.map_cons, List.mem_cons, ← ih]
    split
    · rename_i hk
      simp [hk]
    · rename_i hk
      simp [Ne.symm hk]

/-- Behind a key that is in front of all others, nothing else is found under it. -/
theorem lookup_of_lt (h : ∀ e ∈ entries, key < e.1) : lookup key entries = none := by
  refine lookup_of_absent fun e he heq => ?_
  subst heq
  exact String.lt_irrefl _ (h e he)

/-- Lists in order that give the same for every key are the same. -/
theorem Ordered.ext {as bs : List (String × α)} (ha : Ordered as) (hb : Ordered bs)
    (h : ∀ key, lookup key as = lookup key bs) : as = bs := by
  induction as generalizing bs with
  | nil =>
    cases bs with
    | nil => rfl
    | cons b bs =>
      have := h b.1
      rw [lookup_cons, if_pos rfl] at this
      cases this
  | cons a as ih =>
    obtain ⟨k, v⟩ := a
    obtain ⟨hk, has⟩ := List.pairwise_cons.1 ha
    cases bs with
    | nil =>
      have := h k
      rw [lookup_cons, if_pos rfl] at this
      cases this
    | cons b bs =>
      obtain ⟨l, w⟩ := b
      obtain ⟨hl, hbs⟩ := List.pairwise_cons.1 hb
      have hfound : lookup k ((l, w) :: bs) = some v := by rw [← h k, lookup_cons, if_pos rfl]
      have hfound' : lookup l ((k, v) :: as) = some w := by rw [h l, lookup_cons, if_pos rfl]
      -- each of the two first keys would be in front of the other
      have hkl : k = l := by
        by_cases hne : k = l
        · exact hne
        · rw [lookup_cons, if_neg (Ne.symm hne)] at hfound
          rw [lookup_cons, if_neg hne] at hfound'
          exact absurd (hk _ (mem_of_lookup hfound')) (String.lt_asymm (hl _ (mem_of_lookup hfound)))
      subst hkl
      rw [lookup_cons, if_pos rfl] at hfound
      cases hfound
      have hrest : as = bs := by
        refine ih has hbs fun key => ?_
        by_cases hkey : k = key
        · subst hkey
          rw [lookup_of_lt hk, lookup_of_lt hl]
        · have := h key
          rwa [lookup_cons, lookup_cons, if_neg hkey, if_neg hkey] at this
      rw [hrest]

/-! ## Erasing -/

theorem lookup_erase (key other : String) (entries : List (String × α)) :
    lookup key (erase other entries) = if other = key then none else lookup key entries := by
  induction entries with
  | nil => simp [erase]
  | cons head rest ih =>
    obtain ⟨k, v⟩ := head
    simp only [erase] at ih ⊢
    rw [lookup_cons, List.filter_cons]
    by_cases hk : k = other
    · subst hk
      rw [if_neg (by simp), ih]
      split <;> rfl
    · rw [if_pos (by simpa using hk), lookup_cons, ih]
      by_cases hkey : k = key
      · subst hkey
        simp [Ne.symm hk]
      · simp [hkey]

theorem absent_erase (key : String) (entries : List (String × α)) : Absent key (erase key entries) := by
  intro e he
  simpa using (List.mem_filter.1 he).2

theorem Absent.erase (h : Absent other entries) (key : String) : Absent other (Keyed.erase key entries) :=
  fun e he => h e (List.mem_filter.1 he).1

theorem Absent.insert (h : Absent other entries) (hne : key ≠ other) (value : α) :
    Absent other (insert key value entries) := by
  intro e he
  rcases mem_insert he with rfl | he
  · exact hne
  · exact h e he

theorem erase_of_absent (h : Absent key entries) : erase key entries = entries := by
  refine List.filter_eq_self.2 fun e he => ?_
  simpa using h e he

/-- A key that was not there can be erased again. -/
theorem erase_insert (h : Absent key entries) (value : α) :
    erase key (insert key value entries) = entries := by
  induction entries with
  | nil => simp [insert, erase]
  | cons head rest ih =>
    obtain ⟨k, v⟩ := head
    have hk : k ≠ key := h _ List.mem_cons_self
    have hrest : Absent key rest := fun e he => h e (by simp [he])
    simp only [insert]
    split
    · have := erase_of_absent h
      simpa [erase] using this
    · rw [if_neg (Ne.symm hk)]
      have := ih hrest
      simp only [erase] at this ⊢
      rw [List.filter_cons, if_pos (by simpa using hk), this]

/-! ## Every value -/

/-- Entries in the order of their keys, whose values all satisfy `P`. -/
structure Every (P : α → Prop) (entries : List (String × α)) : Prop where
  ordered : Ordered entries
  holds : ∀ e ∈ entries, P e.2

namespace Every

variable {P : α → Prop}

theorem nil : Every P ([] : List (String × α)) := ⟨List.Pairwise.nil, by simp⟩

theorem insert (h : Every P entries) (key : String) (hv : P value) :
    Every P (Keyed.insert key value entries) where
  ordered := h.ordered.insert
  holds e he := by
    rcases mem_insert he with rfl | he
    · exact hv
    · exact h.holds e he

theorem erase (h : Every P entries) (key : String) : Every P (Keyed.erase key entries) where
  ordered := h.ordered.filter _
  holds e he := h.holds e (List.mem_filter.1 he).1

theorem lookup (h : Every P entries) (hl : Keyed.lookup key entries = some value) : P value :=
  h.holds _ (mem_of_lookup hl)

end Every

end BlockPilot.Keyed
