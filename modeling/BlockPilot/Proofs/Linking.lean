import BlockPilot.Program.Basic

/-!
# Linking and walking

A chain is walked by following its links from block to block. To link the blocks of a walk gives the chain
again, and to walk a chain that was linked gives the blocks from which it was linked, whatever stood behind them
before. So the blocks of a chain can be counted along a walk, each with its body. The chains of a program are
those that were put in, in their order (`Program.linked_chains_walk_back`).
-/

namespace BlockPilot

namespace Chain

/-- The chain from each of its blocks on. -/
def walk : Chain → List Chain
  | .nil => []
  | .block b next => .block b next :: next.walk
  | .loop kind times body next => .loop kind times body next :: next.walk

/-- The first block alone, with its fields and its body. -/
def first (c : Chain) : Chain := c.withNext .nil

/-- How many blocks the first block is together with its body. -/
def firstCount (c : Chain) : Nat := 1 + c.body.count

/-! ## The first block and what follows it -/

section

variable {c : Chain}

/-- A walk goes on behind the first block. -/
theorem walk_of_block (h : c.isEmpty = false) : c.walk = c :: c.next.walk := by
  cases c with
  | nil => cases h
  | block | loop => rfl

theorem link_cons (h : c.isEmpty = false) (rest : List Chain) : link (c :: rest) = c.withNext (link rest) := by
  cases c with
  | nil => cases h
  | block | loop => rfl

theorem next_withNext (h : c.isEmpty = false) (next : Chain) : (c.withNext next).next = next := by
  cases c with
  | nil => cases h
  | block | loop => rfl

@[simp] theorem isEmpty_withNext (c next : Chain) : (c.withNext next).isEmpty = c.isEmpty := by
  cases c <;> rfl

@[simp] theorem first_withNext (c next : Chain) : (c.withNext next).first = c.first := by
  cases c <;> rfl

@[simp] theorem firstCount_withNext (c next : Chain) : (c.withNext next).firstCount = c.firstCount := by
  cases c <;> rfl

theorem count_of_isEmpty (h : c.isEmpty = true) : c.count = 0 := by
  cases c with
  | nil => rfl
  | block | loop => cases h

theorem count_of_block (h : c.isEmpty = false) : c.count = c.firstCount + c.next.count := by
  cases c with
  | nil => cases h
  | block | loop => rfl

end

/-! ## Whole walks -/

/-- The blocks of a walk link up to the chain again. -/
theorem link_walk (c : Chain) : link c.walk = c := by
  induction c with
  | nil => rfl
  | block b next ih =>
    rw [walk_of_block rfl, link_cons rfl]
    exact congrArg (Chain.block b) ih
  | loop kind times body next _ ih =>
    rw [walk_of_block rfl, link_cons rfl]
    exact congrArg (Chain.loop kind times body) ih

/-- The blocks of a chain are those of its walk, each with its body. -/
theorem count_eq_walk (c : Chain) : c.count = total firstCount c.walk := by
  induction c with
  | nil => rfl
  | block | loop =>
    rename_i ih
    rw [walk_of_block rfl, total_cons, count_of_block rfl]
    exact congrArg (_ + ·) ih

/-- A linked chain is walked through the blocks from which it was linked: a measure of the first block that does
not look behind it gives the same of both. -/
theorem map_walk_link {α : Type} {f : Chain → α} (hf : ∀ c next, f (c.withNext next) = f c) {cs : List Chain}
    (h : ∀ c ∈ cs, c.isEmpty = false) : (link cs).walk.map f = cs.map f := by
  induction cs with
  | nil => rfl
  | cons c rest ih =>
    have hc : c.isEmpty = false := h c List.mem_cons_self
    have hfirst : (c.withNext (link rest)).isEmpty = false := by rw [isEmpty_withNext, hc]
    rw [link_cons hc, walk_of_block hfirst, next_withNext hc, List.map_cons, List.map_cons, hf,
      ih fun d hd => h d (List.mem_cons_of_mem c hd)]

end Chain

/-! ## Nodes -/

/-- A chain that has a first block. -/
abbrev Node := { c : Chain // c.isEmpty = false }

namespace Chain

/-- The nodes behind one another, without what was linked to each of them. -/
def ofNodes (nodes : List Node) : Chain := link (nodes.map (·.1))

@[simp] theorem isEmpty_ofNodes (nodes : List Node) : (ofNodes nodes).isEmpty = nodes.isEmpty := by
  cases nodes with
  | nil => rfl
  | cons n rest => simp [ofNodes, link_cons n.2, n.2]

theorem map_walk_ofNodes {α : Type} {f : Chain → α} (hf : ∀ c next, f (c.withNext next) = f c)
    (nodes : List Node) : (ofNodes nodes).walk.map f = nodes.map (f ·.1) := by
  have hnodes : ∀ c ∈ nodes.map (·.1), c.isEmpty = false := by
    intro c hc
    obtain ⟨n, -, rfl⟩ := List.mem_map.1 hc
    exact n.2
  rw [ofNodes, map_walk_link hf hnodes, List.map_map]
  rfl

theorem count_ofNodes (nodes : List Node) : (ofNodes nodes).count = total (·.1.firstCount) nodes := by
  rw [count_eq_walk]
  exact total_eq_of_map (map_walk_ofNodes firstCount_withNext nodes)

theorem ofNodes_eq_nil {nodes : List Node} : ofNodes nodes = .nil ↔ nodes = [] := by
  rw [← List.isEmpty_iff, ← isEmpty_ofNodes]
  cases ofNodes nodes <;> simp [isEmpty]

end Chain

/-! ## Programs -/

namespace Program

/-- What can be put behind the chains of a program: nodes that are to be linked, or one with all that is linked
to it already. -/
inductive Addition where
  | sequence (nodes : List Node)
  | root (node : Node)

namespace Addition

/-- The chain that is put in, which may be empty. -/
def chain : Addition → Chain
  | .sequence nodes => .ofNodes nodes
  | .root node => node.1

/-- The chain that is put in, if there is one. -/
def root? : Addition → Option Chain
  | .sequence [] => none
  | .sequence nodes => some (.ofNodes nodes)
  | .root node => some node.1

/-- How many blocks are put in: the nodes, or all that is linked to the root, each with its body. -/
def count : Addition → Nat
  | .sequence nodes => total (·.1.firstCount) nodes
  | .root node => total Chain.firstCount node.1.walk

theorem count_chain (a : Addition) : a.chain.count = a.count := by
  cases a with
  | sequence nodes => exact Chain.count_ofNodes nodes
  | root node => exact Chain.count_eq_walk node.1

theorem filter_chain (a : Addition) : [a.chain].filter (!·.isEmpty) = a.root?.toList := by
  cases a with
  | sequence nodes => cases nodes <;> simp [chain, root?]
  | root node => simp [chain, root?, node.2]

end Addition

/-- The program of some lists of nodes, with additions behind them. -/
def build (lists : List (List Node)) (additions : List Addition) : Program :=
  additions.foldl (fun p a => p.push a.chain) (ofChains (lists.map Chain.ofNodes))

/-- Only an empty chain is not put in. -/
theorem sequences_push (p : Program) (c : Chain) :
    (p.push c).sequences = p.sequences ++ [c].filter (!·.isEmpty) := by
  have hkept : p.sequences.filter (!·.isEmpty) = p.sequences :=
    List.filter_eq_self.2 fun d hd => by simp [p.nonempty d hd]
  rw [push, sequences_ofChains, List.filter_append, hkept]

theorem sequences_additions (additions : List Addition) (p : Program) :
    (additions.foldl (fun p a => p.push a.chain) p).sequences =
      p.sequences ++ additions.filterMap Addition.root? := by
  induction additions generalizing p with
  | nil => simp
  | cons a additions ih =>
    rw [List.foldl_cons, ih, sequences_push, Addition.filter_chain, List.append_assoc]
    cases ha : a.root? <;> simp [ha]

/-- An empty chain counts for nothing. -/
theorem total_filter_isEmpty (chains : List Chain) :
    total Chain.count (chains.filter (!·.isEmpty)) = total Chain.count chains := by
  induction chains with
  | nil => rfl
  | cons c chains ih =>
    cases hc : c.isEmpty with
    | true => simp [hc, ih, Chain.count_of_isEmpty hc]
    | false => simp [hc, ih]

theorem count_push (p : Program) (c : Chain) : (p.push c).count = p.count + c.count := by
  rw [count, sequences_push, total_append, total_filter_isEmpty, total_cons, total_nil]
  rfl

theorem count_additions (additions : List Addition) (p : Program) :
    (additions.foldl (fun p a => p.push a.chain) p).count = p.count + total Addition.count additions := by
  induction additions generalizing p with
  | nil => rfl
  | cons a additions ih =>
    rw [List.foldl_cons, ih, count_push, Addition.count_chain, total_cons, Nat.add_assoc]

/-- **What is linked is walked.** To walk nodes that were linked gives them in their order, each with its fields
and its body, and nothing else. They are no chain only if there are none, and have as many blocks as each of them
with its body has together. Any chain is linked from its walk again, and its blocks are those of its walk with their
bodies. A program has the chains that were put in at once and then one by one, in this order, without the empty
ones, and as many blocks as they have together. -/
theorem linked_chains_walk_back :
    (∀ nodes : List Node,
      (Chain.ofNodes nodes).walk.map Chain.first = nodes.map (·.1.first) ∧
      (Chain.ofNodes nodes = .nil ↔ nodes = []) ∧
      (Chain.ofNodes nodes).count = total (fun n => 1 + n.1.body.count) nodes) ∧
    (∀ c : Chain, Chain.link c.walk = c ∧ c.count = total (fun d => 1 + d.body.count) c.walk) ∧
    ∀ lists additions,
      (build lists additions).sequences =
        (lists.filter (!·.isEmpty)).map Chain.ofNodes ++ additions.filterMap Addition.root? ∧
      (build lists additions).count =
        total (total fun n => 1 + n.1.body.count) lists + total Addition.count additions := by
  refine ⟨fun nodes => ⟨?_, Chain.ofNodes_eq_nil, Chain.count_ofNodes nodes⟩,
    fun c => ⟨Chain.link_walk c, Chain.count_eq_walk c⟩, fun lists additions => ⟨?_, ?_⟩⟩
  · exact Chain.map_walk_ofNodes Chain.first_withNext nodes
  · rw [build, sequences_additions, sequences_ofChains, List.filter_map]
    congr 2
    exact List.filter_congr fun nodes _ => by simp
  · rw [build, count_additions, count, sequences_ofChains, total_filter_isEmpty]
    congr 1
    refine total_eq_of_map ?_
    rw [List.map_map]
    exact List.map_congr_left fun nodes _ => Chain.count_ofNodes nodes

/-- What was linked to a node is lost, and the body of a loop counts. -/
example : (Chain.ofNodes [⟨.block .stop (.print "lost"), rfl⟩,
    ⟨.repeatFixed 2 [.stop, .stop], rfl⟩]).count = 4 := rfl

end Program

end BlockPilot
