import BlockPilot.Config.Toml.Document
import BlockPilot.Proofs.KeyedOrder

/-!
# The order of tables

Whatever document is read, its tables have their entries in the order of their names and no name twice, at
every depth (`Item.InOrder`): all that changes a table keeps this. So the settings that a document gives are
found by their names, for the document and for each of its tables (`parse?_inOrder`).
-/

namespace BlockPilot

/-- If a setting is a dictionary, its entries are in the order of their keys. -/
def Setting.InOrder (v : Setting) : Prop := ∀ entries, v = .dict entries → Keyed.Ordered entries

theorem Setting.inOrder_dict {entries : List (String × Setting)} :
    (Setting.dict entries).InOrder ↔ Keyed.Ordered entries := by
  constructor
  · intro h
    exact h entries rfl
  · intro h entries' heq
    cases heq
    exact h

namespace Toml

/-- What a table holds is in order, and so is what is inside of it. -/
inductive Item.InOrder : Item → Prop
  | value {v : Setting} (h : v.InOrder) : InOrder (.value v)
  | table {origin : Origin} {entries : Entries} (ordered : Keyed.Ordered entries)
    (inner : ∀ e ∈ entries, InOrder e.2) : InOrder (.table origin entries)
  | tables {all : List Entries} (ordered : ∀ entries ∈ all, Keyed.Ordered entries)
    (inner : ∀ entries ∈ all, ∀ e ∈ entries, InOrder e.2) : InOrder (.tables all)

/-- A table that is in order at every depth. -/
abbrev InOrder (entries : Entries) : Prop := Keyed.Every Item.InOrder entries

variable {origin : Origin} {entries entries' : Entries} {all : List Entries} {name : String} {v : Setting}

theorem Item.inOrder_table : (Item.table origin entries).InOrder ↔ Toml.InOrder entries := by
  constructor
  · intro h
    cases h with
    | table ordered inner => exact ⟨ordered, inner⟩
  · intro h
    exact .table h.ordered h.holds

theorem Item.inOrder_tables : (Item.tables all).InOrder ↔ ∀ entries ∈ all, Toml.InOrder entries := by
  constructor
  · intro h entries hmem
    cases h with
    | tables ordered inner => exact ⟨ordered entries hmem, inner entries hmem⟩
  · intro h
    exact .tables (fun entries hmem => (h entries hmem).ordered) (fun entries hmem => (h entries hmem).holds)

/-! ## Changes of tables -/

/-- A change of a table keeps it in order. -/
def Orderly (change : Entries → Option Entries) : Prop :=
  ∀ entries entries', InOrder entries → change entries = some entries' → InOrder entries'

theorem orderly_putNew (hv : v.InOrder) : Orderly (putNew name v) := by
  intro entries entries' h hput
  unfold putNew at hput
  split at hput
  · cases hput
    exact h.insert name (.value hv)
  · cases hput

theorem orderly_beginTable (name : String) : Orderly (beginTable name) := by
  intro entries entries' h hbegin
  unfold beginTable at hbegin
  split at hbegin
  · cases hbegin
    exact h.insert name (Item.inOrder_table.2 .nil)
  · rename_i inner hfound
    cases hbegin
    exact h.insert name (Item.inOrder_table.2 (Item.inOrder_table.1 (h.lookup hfound)))
  · cases hbegin

theorem orderly_appendTable (name : String) : Orderly (appendTable name) := by
  intro entries entries' h happend
  unfold appendTable at happend
  split at happend
  · cases happend
    refine h.insert name (Item.inOrder_tables.2 fun inner hmem => ?_)
    obtain rfl := List.mem_singleton.1 hmem
    exact .nil
  · rename_i all hfound
    cases happend
    refine h.insert name (Item.inOrder_tables.2 fun inner hmem => ?_)
    rcases List.mem_cons.1 hmem with rfl | hmem
    · exact .nil
    · exact Item.inOrder_tables.1 (h.lookup hfound) inner hmem
  · cases happend

/-- A change of the table at the end of a path is one of the last of the tables that have its header. -/
theorem Item.inOrder_last {last last' : Entries} {others : List Entries}
    (h : (Item.tables (last :: others)).InOrder) (hlast : Toml.InOrder last') :
    (Item.tables (last' :: others)).InOrder := by
  rw [Item.inOrder_tables] at h ⊢
  intro inner hmem
  rcases List.mem_cons.1 hmem with rfl | hmem
  · exact hlast
  · exact h inner (List.mem_cons_of_mem _ hmem)

/-- A changed item is put back under its name. -/
theorem eq_insert_of_bind {α : Type} {x : Option α} {f : α → Item}
    (h : ((x.map f).bind fun item => some (Keyed.insert name item entries)) = some entries') :
    ∃ a, x = some a ∧ entries' = Keyed.insert name (f a) entries := by
  cases x with
  | none => cases h
  | some a => exact ⟨a, rfl, (Option.some.inj h).symm⟩

theorem orderly_atTable {change : Entries → Option Entries} (hchange : Orderly change) (path : List String) :
    Orderly (atTable change path) := by
  induction path with
  | nil => exact hchange
  | cons name path ih =>
    intro entries entries' h hat
    rw [atTable] at hat
    split at hat
    · obtain ⟨inner, hinner, rfl⟩ := eq_insert_of_bind hat
      exact h.insert name (Item.inOrder_table.2 (ih _ _ .nil hinner))
    · rename_i origin inner hfound
      obtain ⟨inner', hinner, rfl⟩ := eq_insert_of_bind hat
      exact h.insert name (Item.inOrder_table.2 (ih _ _ (Item.inOrder_table.1 (h.lookup hfound)) hinner))
    · rename_i last others hfound
      obtain ⟨last', hlast, rfl⟩ := eq_insert_of_bind hat
      have hall := h.lookup hfound
      have hold := Item.inOrder_tables.1 hall last List.mem_cons_self
      exact h.insert name (Item.inOrder_last hall (ih _ _ hold hlast))
    · cases hat
    · cases hat

theorem orderly_putDotted (hv : v.InOrder) (path : List String) : Orderly (putDotted v path) := by
  induction path with
  | nil =>
    intro entries entries' h hput
    cases hput
  | cons name path ih =>
    intro entries entries' h hput
    cases path with
    | nil => exact orderly_putNew hv _ _ h hput
    | cons next path =>
      simp only [putDotted, Option.bind_eq_bind] at hput
      split at hput
      · obtain ⟨inner, hinner, rfl⟩ := eq_insert_of_bind hput
        exact h.insert name (Item.inOrder_table.2 (ih _ _ .nil hinner))
      · rename_i origin inner hfound
        split at hput
        · cases hput
        · obtain ⟨inner', hinner, rfl⟩ := eq_insert_of_bind hput
          exact h.insert name (Item.inOrder_table.2 (ih _ _ (Item.inOrder_table.1 (h.lookup hfound)) hinner))
      · rename_i last others hfound
        split at hput
        · cases hput
        · obtain ⟨last', hlast, rfl⟩ := eq_insert_of_bind hput
          have hall := h.lookup hfound
          have hold := Item.inOrder_tables.1 hall last List.mem_cons_self
          exact h.insert name (Item.inOrder_last hall (ih _ _ hold hlast))
      · cases hput
      · cases hput

/-! ## Settings of tables -/

theorem map_toSettings (entries : Entries) :
    toSettings entries = entries.map fun e => (e.1, e.2.toSetting) := by
  induction entries with
  | nil => rfl
  | cons e entries ih => rw [toSettings, ih, List.map_cons]

theorem ordered_toSettings (h : InOrder entries) : Keyed.Ordered (toSettings entries) := by
  rw [map_toSettings]
  exact List.pairwise_map.2 h.ordered

/-- What a table in order holds gives settings in order. -/
theorem Item.inOrder_toSetting {item : Item} (h : item.InOrder) : item.toSetting.InOrder := by
  cases h with
  | value h => exact h
  | table ordered inner => exact Setting.inOrder_dict.2 (ordered_toSettings ⟨ordered, inner⟩)
  | tables ordered inner =>
    intro entries heq
    cases heq

theorem every_toSettings (h : InOrder entries) : Keyed.Every Setting.InOrder (toSettings entries) := by
  refine ⟨ordered_toSettings h, fun e he => ?_⟩
  rw [map_toSettings] at he
  obtain ⟨e, hmem, rfl⟩ := List.mem_map.1 he
  exact Item.inOrder_toSetting (h.holds e hmem)

/-! ## Reading -/

theorem integer_of_readBased {base : Nat} {digit : Char → Bool} {s rest : List Char}
    (h : readBased base digit s = some (v, rest)) : ∃ n, v = .integer n := by
  unfold readBased at h
  simp only [Option.bind_eq_bind, Option.bind_eq_some_iff] at h
  obtain ⟨_, _, h⟩ := h
  split at h
  · cases h
    exact ⟨_, rfl⟩
  · cases h

theorem integer_of_readInteger {s rest : List Char} (h : readInteger s = some (v, rest)) :
    ∃ n, v = .integer n := by
  unfold readInteger at h
  split at h
  · exact integer_of_readBased h
  · exact integer_of_readBased h
  · exact integer_of_readBased h
  · simp only [Option.bind_eq_bind, Option.bind_eq_some_iff, Option.ite_none_right_eq_some, Option.some.injEq,
      Prod.mk.injEq] at h
    obtain ⟨_, _, _, rfl, _⟩ := h
    exact ⟨_, rfl⟩

/-- How the reading of a float ends, whichever way its digits are read. -/
theorem decimal_of_bind {x : Option Binary64} {s rest : List Char}
    (h : (x.bind fun x => if x = .infinite false then none else some (Setting.decimal x, s)) = some (v, rest)) :
    ∃ y, v = .decimal y := by
  obtain ⟨y, _, h⟩ := Option.bind_eq_some_iff.1 h
  split at h
  · cases h
  · cases h
    exact ⟨y, rfl⟩

theorem decimal_of_readFloat {s rest : List Char} (h : readFloat s = some (v, rest)) : ∃ x, v = .decimal x := by
  unfold readFloat at h
  split at h
  split at h
  · cases h
    exact ⟨_, rfl⟩
  · cases h
    exact ⟨_, rfl⟩
  · simp only [Option.bind_eq_bind, Option.bind_eq_some_iff] at h
    obtain ⟨_, _, h⟩ := h
    split at h
    · obtain ⟨⟨fraction, tail⟩, _, h⟩ := Option.bind_eq_some_iff.1 h
      cases tail with
      | nil => exact decimal_of_bind h
      | cons c tail =>
        dsimp only at h
        split at h
        · obtain ⟨_, _, h⟩ := Option.bind_eq_some_iff.1 h
          exact decimal_of_bind h
        · exact decimal_of_bind h
    · obtain ⟨_, _, h⟩ := Option.bind_eq_some_iff.1 h
      exact decimal_of_bind h

/-- A scalar is no dictionary, or one with a single entry. -/
theorem inOrder_readScalar {s rest : List Char} (h : readScalar s = some (v, rest)) : v.InOrder := by
  intro entries heq
  subst heq
  unfold readScalar at h
  split at h
  · cases h
  · rename_i c cs
    split at h
    · simp only [Option.map_eq_some_iff, Prod.mk.injEq] at h
      obtain ⟨_, _, htext, _⟩ := h
      cases htext
    · split at h
      · unfold readBool at h
        split at h <;> cases h
      · split at h
        · obtain ⟨_, hdecimal⟩ := decimal_of_readFloat h
          cases hdecimal
        · cases hmoment : readMoment (c :: cs) with
          | some read =>
            rw [hmoment] at h
            obtain ⟨_, _, hone⟩ := Option.map_eq_some_iff.1 (hmoment.trans h)
            cases hone
            exact List.pairwise_singleton _ _
          | none =>
            rw [hmoment] at h
            cases hfloat : readFloat (c :: cs) with
            | some read =>
              rw [hfloat] at h
              obtain ⟨_, hdecimal⟩ := decimal_of_readFloat (hfloat.trans h)
              cases hdecimal
            | none =>
              rw [hfloat] at h
              obtain ⟨_, hinteger⟩ := integer_of_readInteger h
              cases hinteger

/-- What the readers of values give with some fuel is in order. -/
structure ReadsInOrder (fuel : Nat) : Prop where
  value {room : Nat} {s rest : List Char} {v : Setting} :
    readValue fuel room s = some (v, rest) → v.InOrder
  pairs {room : Nat} {s rest : List Char} {entries entries' : Entries} :
    InOrder entries → readPairs fuel room entries s = some (entries', rest) → InOrder entries'
  pair {room : Nat} {s rest : List Char} {path : List String} {v : Setting} :
    readPair fuel room s = some (path, v, rest) → v.InOrder

theorem readsInOrder (fuel : Nat) : ReadsInOrder fuel := by
  induction fuel with
  | zero =>
    constructor
    · intro room s rest v h
      unfold readValue at h
      cases h
    · intro room s rest entries entries' _ h
      unfold readPairs at h
      cases h
    · intro room s rest path v h
      unfold readPair at h
      cases h
  | succ fuel ih =>
    constructor
    · intro room s rest v h
      unfold readValue at h
      split at h
      · split at h
        · cases h
        · simp only [Option.bind_eq_bind, Option.bind_eq_some_iff, Option.some.injEq, Prod.mk.injEq] at h
          obtain ⟨_, _, rfl, _⟩ := h
          intro entries heq
          cases heq
      · split at h
        · cases h
        · split at h
          · cases h
            exact Setting.inOrder_dict.2 List.Pairwise.nil
          · simp only [Option.bind_eq_bind, Option.bind_eq_some_iff, Option.some.injEq, Prod.mk.injEq] at h
            obtain ⟨⟨entries, tail⟩, hpairs, rfl, _⟩ := h
            exact Setting.inOrder_dict.2 (ordered_toSettings (ih.pairs .nil hpairs))
      · exact inOrder_readScalar h
    · intro room s rest entries entries' h hpairs
      unfold readPairs at hpairs
      simp only [Option.bind_eq_bind, Option.bind_eq_some_iff] at hpairs
      obtain ⟨⟨path, v, tail⟩, hpair, next, hput, hrest⟩ := hpairs
      have hnext := orderly_putDotted (ih.pair hpair) path _ _ h hput
      split at hrest
      · exact ih.pairs hnext hrest
      · cases hrest
        exact hnext
      · cases hrest
    · intro room s rest path v h
      unfold readPair at h
      simp only [Option.bind_eq_bind, Option.bind_eq_some_iff] at h
      obtain ⟨⟨path', tail⟩, _, hpair⟩ := h
      split at hpair
      · cases hpair
      · simp only [Option.bind_eq_some_iff, Option.some.injEq, Prod.mk.injEq] at hpair
        obtain ⟨_, _, ⟨_, _⟩, hvalue, _, rfl, _⟩ := hpair
        exact ih.value hvalue

/-! ## Documents -/

theorem inOrder_readLine {d d' : Draft} {s rest : List Char} (h : InOrder d.entries)
    (hread : readLine d s = some (d', rest)) : InOrder d'.entries := by
  unfold readLine at hread
  simp only [Option.bind_eq_bind, Option.bind_eq_some_iff, Option.some.injEq, Prod.mk.injEq] at hread
  obtain ⟨⟨path, v, tail⟩, hpair, entries, hput, _, _, rfl, _⟩ := hread
  exact orderly_atTable (orderly_putDotted ((readsInOrder _).pair hpair) path) d.path _ _ h hput

theorem inOrder_readHeader {d d' : Draft} {s rest : List Char} (h : InOrder d.entries)
    (hread : readHeader d s = some (d', rest)) : InOrder d'.entries := by
  unfold readHeader at hread
  dsimp only at hread
  split at hread
  · simp only [Option.bind_eq_bind, Option.bind_eq_some_iff, Option.some.injEq, Prod.mk.injEq] at hread
    obtain ⟨_, _, _, _, _, _, name, _, entries, hchange, _, _, rfl, _⟩ := hread
    exact orderly_atTable (orderly_appendTable name) _ _ _ h hchange
  · simp only [Option.bind_eq_bind, Option.bind_eq_some_iff, Option.some.injEq, Prod.mk.injEq] at hread
    obtain ⟨_, _, _, _, name, _, entries, hchange, _, _, rfl, _⟩ := hread
    exact orderly_atTable (orderly_beginTable name) _ _ _ h hchange
  · cases hread

theorem inOrder_readAll {fuel : Nat} {d d' : Draft} {s : List Char} (h : InOrder d.entries)
    (hread : readAll fuel d s = some d') : InOrder d'.entries := by
  induction fuel generalizing d s with
  | zero =>
    unfold readAll at hread
    split at hread
    · cases hread
      exact h
    · cases hread
    · rename_i hfuel _
      cases hfuel
  | succ fuel ih =>
    unfold readAll at hread
    split at hread
    · cases hread
      exact h
    · cases hread
    · rename_i hfuel _
      cases hfuel
      split at hread
      · obtain ⟨_, _, hread⟩ := Option.bind_eq_some_iff.1 hread
        exact ih h hread
      · split at hread
        · obtain ⟨_, hheader, hread⟩ := Option.bind_eq_some_iff.1 hread
          exact ih (inOrder_readHeader h hheader) hread
        · obtain ⟨_, hline, hread⟩ := Option.bind_eq_some_iff.1 hread
          exact ih (inOrder_readLine h hline) hread

/-- **What a document gives is in order**, and so is each of its tables. -/
theorem parse?_inOrder {text : String} {entries : List (String × Setting)} (h : parse? text = some entries) :
    Keyed.Every Setting.InOrder entries := by
  unfold parse? at h
  simp only [Option.map_eq_some_iff] at h
  obtain ⟨d, hread, rfl⟩ := h
  exact every_toSettings (inOrder_readAll .nil hread)

end Toml

end BlockPilot
