import DemandRouting.Performance.Ledger
import DemandRouting.Proofs.Money.Sum
import Mathlib.Algebra.BigOperators.Group.List.Lemmas

namespace DemandRouting

-- The counters of what happened, each with what one outcome adds to it.
inductive Counter where
  | requests
  | bids
  | wins
  | timeouts
  | errors
  | latencyMs
deriving DecidableEq

namespace Counter

def get : Counter → Counters → UInt64
  | requests, c => c.requests
  | bids, c => c.bids
  | wins, c => c.wins
  | timeouts, c => c.timeouts
  | errors, c => c.errors
  | latencyMs, c => c.totalLatencyMs

def amount : Counter → Event → Nat
  | requests, .request _ => 1
  | bids, .request o => if o.bid.isSome then 1 else 0
  | wins, .win _ => 1
  | timeouts, .request o => if o.timedOut then 1 else 0
  | errors, .request o => if o.errored then 1 else 0
  | latencyMs, .request o => o.latencyMs.toNat
  | _, _ => 0

def total (k : Counter) (outcomes : List Event) : Nat := (outcomes.map k.amount).sum

theorem total_append (k : Counter) (es es' : List Event) :
    k.total (es ++ es') = k.total es + k.total es' := by
  rw [total, List.map_append, List.sum_append]
  rfl

theorem total_perm (k : Counter) {es es' : List Event} (h : es.Perm es') :
    k.total es = k.total es' :=
  (h.map _).sum_eq

theorem total_mono (k : Counter) {es es' : List Event} (h : es.Sublist es') :
    k.total es ≤ k.total es' :=
  (h.map k.amount).sum_le_sum fun _ _ => Nat.zero_le _

end Counter

namespace Event

def bid? : Event → Option Money
  | request o => o.bid
  | win _ => none

def price? : Event → Option Money
  | request _ => none
  | win o => some o.price

-- What the outcomes add to the bids at or above their floor.
def clearances (outcomes : List Event) : Nat := (outcomes.map fun e => e.clearance.toNat).sum

theorem ofNat_count (b : Bool) : .ofNat (if b then 1 else 0) = count b := by
  cases b <;> rfl

-- Recording adds to every counter what the outcome adds to it, and its amounts to the sums.
theorem addTo?_eq_some {e : Event} {c c' : Counters} (h : e.addTo? c = some c') :
    (∀ k : Counter, k.get c' = k.get c + .ofNat (k.amount e)) ∧
      addBid? c.totalBidValue e.bid? = some c'.totalBidValue ∧
      addBid? c.totalWinValue e.price? = some c'.totalWinValue := by
  cases e with
  | request o =>
    obtain ⟨total, htotal, hc⟩ := Option.bind_eq_some_iff.mp h
    obtain rfl := Option.some_inj.mp hc
    refine ⟨fun k => ?_, htotal, rfl⟩
    cases k <;> simp [Counter.get, Counter.amount, ofNat_count]
  | win o =>
    obtain ⟨total, htotal, hc⟩ := Option.bind_eq_some_iff.mp h
    obtain rfl := Option.some_inj.mp hc
    refine ⟨fun k => ?_, rfl, htotal⟩
    cases k <;> simp [Counter.get, Counter.amount]

end Event

-- The counters are those of the outcomes: numbers as words of 64 bits, amounts of money added in
-- the given order.
structure Counters.Tallies (c : Counters) (outcomes : List Event) : Prop where
  counts : ∀ k : Counter, k.get c = .ofNat (k.total outcomes)
  bids : Money.sum? (outcomes.filterMap Event.bid?) = some c.totalBidValue
  wins : Money.sum? (outcomes.filterMap Event.price?) = some c.totalWinValue

namespace Counters

theorem tallies_nil : Tallies {} [] where
  counts k := by cases k <;> rfl
  bids := rfl
  wins := rfl

theorem sum?_filterMap_append_singleton {amount : Event → Option Money} {es : List Event}
    {e : Event} {total total' : Money} (hes : Money.sum? (es.filterMap amount) = some total)
    (he : Event.addBid? total (amount e) = some total') :
    Money.sum? ((es ++ [e]).filterMap amount) = some total' := by
  rw [List.filterMap_append]
  cases hamount : amount e with
  | none =>
    rw [hamount] at he
    simpa [hamount, ← Option.some_inj.mp he] using hes
  | some a =>
    rw [hamount] at he
    simp only [List.filterMap_cons, hamount, List.filterMap_nil]
    rw [Money.sum?_append_singleton, hes]
    exact he

theorem Tallies.add {c c' : Counters} {es : List Event} {e : Event} (h : Tallies c es)
    (hadd : e.addTo? c = some c') : Tallies c' (es ++ [e]) := by
  obtain ⟨hcounts, hbid, hprice⟩ := Event.addTo?_eq_some hadd
  refine ⟨fun k => ?_, ?_, ?_⟩
  · have hsingle : k.total [e] = k.amount e := by simp [Counter.total]
    rw [hcounts, h.counts, Counter.total_append, hsingle, UInt64.ofNat_add]
  · exact sum?_filterMap_append_singleton h.bids hbid
  · exact sum?_filterMap_append_singleton h.wins hprice

-- While the number fits into a word it is the number itself.
theorem Tallies.toNat_get {c : Counters} {es : List Event} (h : Tallies c es) {k : Counter}
    (hfits : k.total es < 2 ^ 64) : (k.get c).toNat = k.total es := by
  rw [h.counts, UInt64.toNat_ofNat']
  exact Nat.mod_eq_of_lt hfits

theorem add?_eq_some {a b c : Counters} :
    a.add? b = some c ↔ (∀ k : Counter, k.get c = k.get a + k.get b) ∧
      a.totalBidValue.add? b.totalBidValue = some c.totalBidValue ∧
      a.totalWinValue.add? b.totalWinValue = some c.totalWinValue := by
  constructor
  · intro h
    obtain ⟨bids, hbids, h⟩ := Option.bind_eq_some_iff.mp h
    obtain ⟨wins, hwins, h⟩ := Option.bind_eq_some_iff.mp h
    obtain rfl := Option.some_inj.mp h
    exact ⟨fun k => by cases k <;> rfl, hbids, hwins⟩
  · rintro ⟨hcounts, hbids, hwins⟩
    rw [add?, hbids, hwins]
    have hrequests := hcounts .requests
    have hbid := hcounts .bids
    have hwin := hcounts .wins
    have htimeouts := hcounts .timeouts
    have herrors := hcounts .errors
    have hlatency := hcounts .latencyMs
    simp only [Counter.get] at hrequests hbid hwin htimeouts herrors hlatency
    cases c
    simp_all

-- Counters merged one after the other.
def merge? (cs : List Counters) : Option Counters := cs.foldlM add? {}

theorem merge?_append_singleton (cs : List Counters) (c : Counters) :
    merge? (cs ++ [c]) = (merge? cs).bind (·.add? c) := by
  simp only [merge?, List.foldlM_append, List.foldlM_cons, List.foldlM_nil, bind_pure]
  rfl

-- Merged amounts are the sums of the amounts.
theorem merge?_amounts {cs : List Counters} {c : Counters} (h : merge? cs = some c) :
    Money.sum? (cs.map (·.totalBidValue)) = some c.totalBidValue ∧
      Money.sum? (cs.map (·.totalWinValue)) = some c.totalWinValue := by
  induction cs using List.reverseRecOn generalizing c with
  | nil =>
    obtain rfl := Option.some_inj.mp h
    exact ⟨rfl, rfl⟩
  | append_singleton cs last ih =>
    rw [merge?_append_singleton] at h
    obtain ⟨before, hbefore, hadd⟩ := Option.bind_eq_some_iff.mp h
    obtain ⟨hbids, hwins⟩ := ih hbefore
    obtain ⟨-, hbid, hwin⟩ := add?_eq_some.mp hadd
    rw [List.map_append, List.map_append, List.map_singleton, List.map_singleton,
      Money.sum?_append_singleton, Money.sum?_append_singleton, hbids, hwins]
    exact ⟨hbid, hwin⟩

-- Merged numbers are those of all groups of outcomes together.
theorem merge?_counts {α : Type} {as : List α} {counters : α → Counters}
    {group : α → List Event} (hgroup : ∀ a ∈ as, (counters a).Tallies (group a)) {c : Counters}
    (h : merge? (as.map counters) = some c) (k : Counter) :
    k.get c = .ofNat (k.total (as.flatMap group)) := by
  induction as using List.reverseRecOn generalizing c with
  | nil =>
    obtain rfl := Option.some_inj.mp h
    cases k <;> rfl
  | append_singleton as last ih =>
    rw [List.map_append, List.map_singleton, merge?_append_singleton] at h
    obtain ⟨before, hbefore, hadd⟩ := Option.bind_eq_some_iff.mp h
    rw [(add?_eq_some.mp hadd).1, ih (fun a ha => hgroup a (by simp [ha])) hbefore,
      (hgroup last (by simp)).counts, ← UInt64.ofNat_add, ← Counter.total_append]
    simp

end Counters
end DemandRouting
