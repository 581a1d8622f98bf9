import DemandRouting.Proofs.Sources.Broadest

namespace DemandRouting

namespace Event

def silence (bidder : String) (key : SliceKey) : Event :=
  .request { bidder, key, timestamp := default }

end Event

namespace SliceKey

theorem Covers.refl (k : SliceKey) : k.Covers k := ⟨rfl, rfl, rfl, .inr rfl, .inr rfl⟩

-- An optional part that is open or the same, one way and then the next.
theorem open_or_eq_trans {a b c : Option String} (hab : a = none ∨ a = b) (hbc : b = none ∨ b = c) :
    a = none ∨ a = c := by
  rcases hab with hopen | rfl
  · exact .inl hopen
  · exact hbc

theorem Covers.trans {k k' k'' : SliceKey} (h : k.Covers k') (h' : k'.Covers k'') :
    k.Covers k'' := by
  obtain ⟨hcountry, hdevice, hformat, hsize, hpublisher⟩ := h
  obtain ⟨hcountry', hdevice', hformat', hsize', hpublisher'⟩ := h'
  exact ⟨hcountry.trans hcountry', hdevice.trans hdevice', hformat.trans hformat',
    open_or_eq_trans hsize hsize', open_or_eq_trans hpublisher hpublisher'⟩

theorem withoutSize_covers (k : SliceKey) : k.withoutSize.Covers k :=
  ⟨rfl, rfl, rfl, .inl rfl, .inr rfl⟩

theorem withoutPublisher_covers (k : SliceKey) : k.withoutPublisher.Covers k :=
  ⟨rfl, rfl, rfl, .inr rfl, .inl rfl⟩

-- Two entries that follow each other, and where the first of them stands.
inductive ChainStep (k : SliceKey) : Nat → SliceKey → SliceKey → Prop where
  | dropSize (hsize : k.size ≠ none) : ChainStep k 0 k k.withoutSize
  | dropPublisher (hsize : k.size = none) (hpublisher : k.publisher ≠ none) :
      ChainStep k 0 k k.withoutPublisher
  -- the size is back again
  | change (hsize : k.size ≠ none) (hpublisher : k.publisher ≠ none) :
      ChainStep k 1 k.withoutSize k.withoutPublisher
  | dropBoth (hsize : k.size ≠ none) (hpublisher : k.publisher ≠ none) :
      ChainStep k 2 k.withoutPublisher k.withoutSize.withoutPublisher

theorem ChainStep.covers_iff {k e f : SliceKey} {i : Nat} (h : ChainStep k i e f) :
    f.Covers e ↔ i ≠ 1 := by
  cases h with
  | dropSize _ => exact iff_of_true k.withoutSize_covers (by decide)
  | dropPublisher _ _ => exact iff_of_true k.withoutPublisher_covers (by decide)
  | change hsize _ =>
    refine iff_of_false (fun h => ?_) (by decide)
    exact hsize (h.2.2.2.1.elim id id)
  | dropBoth _ _ =>
    exact iff_of_true k.withoutPublisher.withoutSize_covers (by decide)

end SliceKey

namespace Ledger

end Ledger

namespace SliceKey

end SliceKey
end DemandRouting
