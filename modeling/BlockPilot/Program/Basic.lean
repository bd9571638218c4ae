import BlockPilot.Program.Chain
import BlockPilot.Total

/-!
# Programs

A program is a list of chains that run one after the other. None of them is empty: an empty chain
that is put in is left out.
-/

namespace BlockPilot

structure Program where
  sequences : List Chain
  nonempty : ∀ c ∈ sequences, c.isEmpty = false

namespace Program

/-- The program of the chains that are not empty. -/
def ofChains (chains : List Chain) : Program where
  sequences := chains.filter (!·.isEmpty)
  nonempty := by simp

def empty : Program := ofChains []

/-- The program with one more chain at its end. -/
def push (p : Program) (c : Chain) : Program :=
  ofChains (p.sequences ++ [c])

def isEmpty (p : Program) : Bool :=
  p.sequences.isEmpty

/-- How many blocks a program has, bodies included. -/
def count (p : Program) : Nat :=
  total Chain.count p.sequences

def same (p q : Program) : Bool :=
  p.sequences.length == q.sequences.length &&
    (p.sequences.zip q.sequences).all fun (a, b) => a.same b

/-! ## What is in a program -/

/-- The sequences that were put in are the ones that are not empty, in their order. -/
theorem sequences_ofChains (chains : List Chain) :
    (ofChains chains).sequences = chains.filter (!·.isEmpty) := rfl

/-- Putting the sequences of a program in again changes nothing. -/
theorem ofChains_sequences (p : Program) : ofChains p.sequences = p := by
  obtain ⟨cs, h⟩ := p
  have : cs.filter (!·.isEmpty) = cs := List.filter_eq_self.2 fun c hc => by simp [h c hc]
  simp only [ofChains, mk.injEq]
  exact this

end Program

end BlockPilot
