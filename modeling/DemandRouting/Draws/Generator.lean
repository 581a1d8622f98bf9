import DemandRouting.Draws.Sample

namespace DemandRouting

-- What random choices need of a source of draws.
structure Generator (σ : Type) where
  -- a number from 0 up to but not including 1
  coin : σ → Float × σ
  -- `amount` different places below `length`
  sample : (length amount : Nat) → σ → List Nat × σ

-- Samples have the size that is asked for, and their places are different and there.
def Generator.Lawful {σ : Type} (g : Generator σ) : Prop :=
  ∀ length amount s, amount ≤ length →
    (g.sample length amount s).1.length = amount ∧ (g.sample length amount s).1.Nodup ∧
      ∀ i ∈ (g.sample length amount s).1, i < length

def Stream.generator : Generator Stream := ⟨coin, sample⟩

end DemandRouting
