import DemandRouting.Proofs.Performance.History
import DemandRouting.Proofs.Money.Sum

namespace DemandRouting

-- The least whole number that is not below the amount in either direction.
def Money.wholeBound (a : Money) : Nat := (a.magnitude + (10 ^ a.scale - 1)) / 10 ^ a.scale

theorem Money.within_wholeBound (a : Money) : Within a.wholeBound a := by
  have hstep : 0 < 10 ^ a.scale := by positivity
  have hsplit := Nat.div_add_mod (a.magnitude + (10 ^ a.scale - 1)) (10 ^ a.scale)
  have hrest := Nat.mod_lt (a.magnitude + (10 ^ a.scale - 1)) hstep
  rw [Within, wholeBound, Nat.mul_comm]
  omega

namespace Event

def bound : Event → Nat
  | request o => (o.bid.map Money.wholeBound).getD 0
  | win o => o.price.wholeBound

end Event

namespace Counters

def Within (n : Nat) (c : Counters) : Prop :=
  c.totalBidValue.Within n ∧ c.totalWinValue.Within n

theorem within_default (n : Nat) : Within n {} := ⟨Money.within_zero n, Money.within_zero n⟩

theorem Within.mono {m n : Nat} {c : Counters} (h : Within m c) (hmn : m ≤ n) : Within n c :=
  ⟨h.1.mono hmn, h.2.mono hmn⟩

theorem addTo?_within {n : Nat} {c : Counters} {e : Event} (h : Within n c)
    (hroom : n + e.bound < 2 ^ 96) : ∃ c', e.addTo? c = some c' ∧ Within (n + e.bound) c' := by
  have hsame := h.mono (Nat.le_add_right n e.bound)
  cases e with
  | request o =>
    cases hbid : o.bid with
    | none =>
      simp only [Event.addTo?, hbid, Event.addBid?]
      exact ⟨_, rfl, hsame⟩
    | some bid =>
      simp only [Event.bound, hbid, Option.map_some, Option.getD_some] at hroom hsame ⊢
      obtain ⟨total, htotal, hwithin⟩ := Money.add?_within h.1 bid.within_wholeBound hroom
      simp only [Event.addTo?, hbid, Event.addBid?, htotal]
      exact ⟨_, rfl, hwithin, hsame.2⟩
  | win o =>
    obtain ⟨total, htotal, hwithin⟩ := Money.add?_within h.2 o.price.within_wholeBound hroom
    simp only [Event.addTo?, htotal]
    exact ⟨_, rfl, hsame.1, hwithin⟩

end Counters

theorem LifetimeEntry.add?_within {n : Nat} {entry : LifetimeEntry} {e : Event}
    (h : entry.totals.counters.Within n) (hroom : n + e.bound < 2 ^ 96) :
    ∃ entry', entry.add? e = some entry' ∧ entry'.totals.counters.Within (n + e.bound) := by
  obtain ⟨c, hc, hwithin⟩ := Counters.addTo?_within h hroom
  simp only [add?, hc]
  exact ⟨_, rfl, hwithin⟩

namespace Bucket

def AllWithin (n : Nat) (buckets : List Bucket) : Prop := ∀ b ∈ buckets, b.counters.Within n

theorem AllWithin.mono {m n : Nat} {buckets : List Bucket} (h : AllWithin m buckets)
    (hmn : m ≤ n) : AllWithin n buckets :=
  fun b hb => (h b hb).mono hmn

theorem add?_within {n : Nat} {b : Bucket} {e : Event} (h : b.counters.Within n)
    (hroom : n + e.bound < 2 ^ 96) :
    ∃ b', b.add? e = some b' ∧ b'.counters.Within (n + e.bound) := by
  obtain ⟨c, hc, hwithin⟩ := Counters.addTo?_within h hroom
  simp only [add?, hc]
  exact ⟨_, rfl, hwithin⟩

theorem deposit?_within {n : Nat} {e : Event} {buckets : List Bucket} (h : AllWithin n buckets)
    (hroom : n + e.bound < 2 ^ 96) :
    ∃ buckets', deposit? e buckets = some buckets' ∧ AllWithin (n + e.bound) buckets' := by
  have hnew : (Bucket.counters { minute := e.minute }).Within n := Counters.within_default n
  obtain ⟨fresh, hfresh, hwithin⟩ := add?_within hnew hroom
  induction buckets with
  | nil =>
    simp only [deposit?, hfresh]
    exact ⟨[fresh], rfl, by simpa [AllWithin] using hwithin⟩
  | cons b rest ih =>
    obtain ⟨hb, hrest⟩ := List.forall_mem_cons.mp h
    obtain ⟨deposited, hdeposited, hdwithin⟩ := ih hrest
    obtain ⟨added, hadded, hawithin⟩ := add?_within hb hroom
    have hle := Nat.le_add_right n e.bound
    unfold deposit?
    split
    · rw [hdeposited]
      exact ⟨b :: deposited, rfl, List.forall_mem_cons.mpr ⟨hb.mono hle, hdwithin⟩⟩
    · split
      · rw [hadded]
        exact ⟨added :: rest, rfl, List.forall_mem_cons.mpr ⟨hawithin, AllWithin.mono hrest hle⟩⟩
      · rw [hfresh]
        exact ⟨fresh :: b :: rest, rfl, List.forall_mem_cons.mpr ⟨hwithin, h.mono hle⟩⟩

theorem update?_within {n : Nat} (oldest : Int) {e : Event} {buckets : List Bucket}
    (h : AllWithin n buckets) (hroom : n + e.bound < 2 ^ 96) :
    ∃ buckets', update? oldest e buckets = some buckets' ∧ AllWithin (n + e.bound) buckets' := by
  have hkept : AllWithin n (buckets.dropWhile (·.minute < oldest)) :=
    fun b hb => h b ((List.dropWhile_sublist _).subset hb)
  simp only [update?]
  split
  · exact ⟨_, rfl, hkept.mono (Nat.le_add_right n e.bound)⟩
  · exact deposit?_within hkept hroom

end Bucket

namespace Ledger

def revenueOf (l : Ledger) (publisher bidder : String) : Money :=
  (l.revenue.getD publisher {}).getD bidder .zero

def WithinAt (n : Nat) (s : SliceId) (l : Ledger) : Prop :=
  (l.entry s).totals.counters.Within n ∧ Bucket.AllWithin n (l.buckets s)

-- No sum of money in the ledger is beyond `n`.
structure Within (n : Nat) (l : Ledger) : Prop where
  slices : ∀ s, WithinAt n s l
  revenue : ∀ publisher bidder, (l.revenueOf publisher bidder).Within n

theorem WithinAt.mono {m n : Nat} {s : SliceId} {l : Ledger} (h : WithinAt m s l)
    (hmn : m ≤ n) : WithinAt n s l :=
  ⟨h.1.mono hmn, h.2.mono hmn⟩

section Record

variable {n : Nat} {window : Int} {now : Timestamp} {e : Event} {l l' : Ledger}

theorem AddedAt.within {s : SliceId} {oldest : Int} (h : WithinAt n s l)
    (hadded : AddedAt s oldest e l l') (hroom : n + e.bound < 2 ^ 96) :
    WithinAt (n + e.bound) s l' := by
  obtain ⟨entry, hentry, hentryWithin⟩ := LifetimeEntry.add?_within h.1 hroom
  obtain ⟨buckets, hbuckets, hbucketsWithin⟩ := Bucket.update?_within oldest h.2 hroom
  obtain rfl := Option.some_inj.mp (hentry.symm.trans hadded.1)
  obtain rfl := Option.some_inj.mp (hbuckets.symm.trans hadded.2)
  exact ⟨hentryWithin, hbucketsWithin⟩

end Record

end Ledger
end DemandRouting
