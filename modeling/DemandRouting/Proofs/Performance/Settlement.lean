import DemandRouting.Proofs.Number.Quotient
import DemandRouting.Proofs.Performance.RollUp
import DemandRouting.Proofs.Performance.Window

namespace DemandRouting

structure Sale where
  bid : RequestOutcome
  win : WinOutcome
  bidder : win.bidder = bid.bidder
  key : win.key = bid.key
  later : bid.timestamp ≤ win.timestamp

-- A history in which every win belongs to a bid that was recorded before it and that no other win
-- belongs to, with the sales that this makes and the bids that have not won.
inductive Settled : List Recording → List Sale → List RequestOutcome → Prop where
  | nil : Settled [] [] []
  | silence {history sales unsold} {o : RequestOutcome} (h : Settled history sales unsold)
      (now : Timestamp) (hbid : o.bid = none) :
      Settled (history ++ [⟨now, .request o⟩]) sales unsold
  | bid {history sales unsold} {o : RequestOutcome} (h : Settled history sales unsold)
      (now : Timestamp) (hbid : o.bid ≠ none) :
      Settled (history ++ [⟨now, .request o⟩]) sales (unsold ++ [o])
  | win {history sales} (x : Sale) (before after : List RequestOutcome)
      (h : Settled history sales (before ++ x.bid :: after)) (now : Timestamp) :
      Settled (history ++ [⟨now, .win x.win⟩]) (sales ++ [x]) (before ++ after)

namespace Counter

theorem total_filter_concat (k : Counter) (p : Event → Bool) (history : List Recording)
    (r : Recording) :
    k.total (((history ++ [r]).map (·.event)).filter p) =
      k.total ((history.map (·.event)).filter p) + if p r.event then k.amount r.event else 0 := by
  rw [List.map_append, List.filter_append, total_append, List.map_singleton]
  by_cases hp : p r.event <;> simp [hp, total]

end Counter

namespace Settled

variable {history : List Recording} {sales : List Sale} {unsold : List RequestOutcome}

-- Among any outcomes, the wins are those of the sales, and the bids are those of the sales and the
-- unsold ones.
theorem wins_eq (h : Settled history sales unsold) (p : Event → Bool) :
    Counter.wins.total ((history.map (·.event)).filter p) =
      sales.countP fun x => p (.win x.win) := by
  induction h with
  | nil => rfl
  | silence _ now _ ih => rw [Counter.total_filter_concat, ih]; simp [Counter.amount]
  | bid _ now _ ih => rw [Counter.total_filter_concat, ih]; simp [Counter.amount]
  | win x before after _ now ih =>
    rw [Counter.total_filter_concat, ih, List.countP_append, List.countP_singleton]
    simp [Counter.amount]

theorem bids_eq (h : Settled history sales unsold) (p : Event → Bool) :
    Counter.bids.total ((history.map (·.event)).filter p) =
      (sales.countP fun x => p (.request x.bid)) + unsold.countP fun o => p (.request o) := by
  induction h with
  | nil => rfl
  | silence _ now hbid ih =>
    rw [Counter.total_filter_concat, ih]
    simp [Counter.amount, hbid]
  | bid _ now hbid ih =>
    rw [Counter.total_filter_concat, ih, List.countP_append, List.countP_singleton]
    simp [Counter.amount, Option.isSome_iff_ne_none.mpr hbid, Nat.add_assoc]
  | win x before after _ now ih =>
    rw [Counter.total_filter_concat, ih, List.countP_append, List.countP_append, List.countP_append,
      List.countP_cons, List.countP_singleton]
    simp only [Counter.amount, ite_self]
    omega

end Settled

-- Whether a window that begins with this minute shows the outcome for the slice.
def SliceId.Shows (oldest : Int) (s : SliceId) (e : Event) : Prop :=
  s.Covers e ∧ oldest ≤ e.minute

instance (oldest : Int) (s : SliceId) (e : Event) : Decidable (s.Shows oldest e) := by
  unfold SliceId.Shows
  infer_instance

namespace Sale

theorem minute_le (x : Sale) : (Event.request x.bid).minute ≤ (Event.win x.win).minute := by
  apply Timestamp.minute_mono
  rcases x.later with hlt | ⟨heq, -⟩
  · exact hlt.le
  · exact heq.le

theorem covers_iff (x : Sale) (s : SliceId) :
    s.Covers (.win x.win) ↔ s.Covers (.request x.bid) := by
  simp only [SliceId.Covers, Event.bidder, Event.key, x.bidder, x.key]

theorem shows_win {x : Sale} {oldest : Int} {s : SliceId} (h : s.Shows oldest (.request x.bid)) :
    s.Shows oldest (.win x.win) := by
  exact ⟨(x.covers_iff s).mpr h.1, h.2.trans x.minute_le⟩

-- The window reaches the win, but not the bid.
def Straddles (oldest : Int) (s : SliceId) (x : Sale) : Prop :=
  s.Shows oldest (.win x.win) ∧ ¬ s.Shows oldest (.request x.bid)

instance (oldest : Int) (s : SliceId) (x : Sale) : Decidable (x.Straddles oldest s) := by
  unfold Straddles
  infer_instance

end Sale

namespace Settled

def straddling (oldest : Int) (s : SliceId) (sales : List Sale) : Nat :=
  sales.countP (·.Straddles oldest s)

-- The bids in the window that have not won.
def unsoldShown (oldest : Int) (s : SliceId) (unsold : List RequestOutcome) : Nat :=
  unsold.countP fun o => s.Shows oldest (.request o)

theorem countP_wins (oldest : Int) (s : SliceId) (sales : List Sale) :
    sales.countP (fun x => s.Shows oldest (.win x.win)) =
      sales.countP (fun x => s.Shows oldest (.request x.bid)) + straddling oldest s sales := by
  induction sales with
  | nil => rfl
  | cons x sales ih =>
    rw [straddling] at ih ⊢
    rw [List.countP_cons, List.countP_cons, List.countP_cons, ih]
    by_cases hbid : s.Shows oldest (.request x.bid)
    · have hwin := Sale.shows_win hbid
      simp only [Sale.Straddles, hbid, hwin, decide_true, if_true, not_true, and_false,
        decide_false, Bool.false_eq_true, if_false]
      omega
    · simp only [Sale.Straddles, hbid, not_false_eq_true, and_true, decide_false,
        Bool.false_eq_true, if_false]
      omega

end Settled

namespace Ledger

theorem shown_eq_filter (now : Timestamp) (window : Int) (s : SliceId)
    (history : List Recording) :
    shown now window s history =
      (history.map (·.event)).filter (s.Shows (oldestMinute now window) ·) := by
  rw [shown, Event.since, seen, List.filter_filter]
  apply List.filter_congr
  intro e _
  rw [Bool.eq_iff_iff, Bool.and_eq_true, decide_eq_true_eq, decide_eq_true_eq, decide_eq_true_eq,
    SliceId.Shows, and_comm]

end Ledger

namespace Settled

variable {history : List Recording} {sales : List Sale} {unsold : List RequestOutcome}

theorem seen_wins_le (h : Settled history sales unsold) (s : SliceId) :
    Counter.wins.total (Ledger.seen s history) ≤ Counter.bids.total (Ledger.seen s history) := by
  have hcovers : (fun x : Sale => decide (s.Covers (.win x.win))) =
      fun x => decide (s.Covers (.request x.bid)) := by
    funext x
    exact decide_eq_decide.mpr (x.covers_iff s)
  rw [Ledger.seen, h.wins_eq, h.bids_eq, hcovers]
  exact Nat.le_add_right _ _

-- What a window shows of a settled history: one win more than bids for every sale that straddles
-- its beginning, and one less for every unsold bid.
theorem shown_balance (h : Settled history sales unsold) (now : Timestamp) (window : Int)
    (s : SliceId) :
    Counter.wins.total (Ledger.shown now window s history) +
        unsoldShown (Ledger.oldestMinute now window) s unsold =
      Counter.bids.total (Ledger.shown now window s history) +
        straddling (Ledger.oldestMinute now window) s sales := by
  rw [Ledger.shown_eq_filter, h.wins_eq, h.bids_eq, countP_wins, unsoldShown]
  omega

end Settled

theorem Counters.winRate_le_one {c : Counters} (h : c.wins ≤ c.bids) : c.winRate ≤ 1.0 :=
  Number.ratio_le_one h

-- A bid is the answer to a request.
theorem Counter.bids_le_requests (es : List Event) : bids.total es ≤ requests.total es := by
  apply List.sum_le_sum
  intro e _
  cases e with
  | request o =>
    simp only [amount]
    split <;> decide
  | win o => exact Nat.le_refl 0

namespace Ledger

section Replay

variable {window : Int} {history : List Recording} {l : Ledger} {s : SliceId}
  (hreplay : replay window history = some l)
  (hfits : Counter.requests.total (seen s history) < 2 ^ 64)

include hreplay hfits

theorem readLifetime_wins_le {sales : List Sale} {unsold : List RequestOutcome}
    (hsettled : Settled history sales unsold) :
    (l.readLifetime s).counters.wins ≤ (l.readLifetime s).counters.bids := by
  have hread : (l.readLifetime s).counters = (l.entry s).totals.counters :=
    (l.entry s).read_totals.1
  have htallies := (tallies_replay hreplay s).counters
  have hwins := hsettled.seen_wins_le s
  have hbids := Counter.bids_le_requests (seen s history)
  have hwinsRead := htallies.toNat_get (k := .wins) (by omega)
  have hbidsRead := htallies.toNat_get (k := .bids) (by omega)
  simp only [Counter.get] at hwinsRead hbidsRead
  rw [hread, UInt64.le_iff_toNat_le, hwinsRead, hbidsRead]
  exact hwins

variable {now : Timestamp} {r : Recent}
  (hclock : (history.map (·.now) ++ [now]).Pairwise (· ≤ ·))
  (hread : l.readRecent? now window s = some r)

include hclock hread

theorem readRecent?_count {k : Counter}
    (hle : k.total (seen s history) ≤ Counter.requests.total (seen s history)) :
    (k.get r.counters).toNat = k.total (shown now window s history) := by
  have hshows : r.Shows (shown now window s history) :=
    (reflects_replay hreplay hclock s).shows hread
  have hshown : (shown now window s history).Sublist (seen s history) := List.filter_sublist
  have htotal := k.total_mono hshown
  exact (hshows.counts k).trans (Nat.mod_eq_of_lt (by omega))

-- A win may be counted without its bid.
theorem readRecent?_balance {sales : List Sale} {unsold : List RequestOutcome}
    (hsettled : Settled history sales unsold) :
    r.counters.wins.toNat + Settled.unsoldShown (oldestMinute now window) s unsold =
      r.counters.bids.toNat + Settled.straddling (oldestMinute now window) s sales := by
  have hwins := hsettled.seen_wins_le s
  have hbids := Counter.bids_le_requests (seen s history)
  have hwinsRead := readRecent?_count hreplay hfits hclock hread (k := .wins) (by omega)
  have hbidsRead := readRecent?_count hreplay hfits hclock hread (k := .bids) hbids
  have hbalance := hsettled.shown_balance now window s
  rw [← hwinsRead, ← hbidsRead] at hbalance
  exact hbalance

end Replay

-- As long as the requests of a slice fit into a word, its lifetime totals have no more wins than
-- bids. A window has one win more for every sale whose bid it does not reach any more, and one bid
-- more for every bid that has not won: wins are above bids exactly if there are more of the former.
theorem winRate_settled {window : Int} {history : List Recording} {sales : List Sale}
    {unsold : List RequestOutcome} (hsettled : Settled history sales unsold) {l : Ledger}
    (hreplay : replay window history = some l) (s : SliceId)
    (hfits : Counter.requests.total (seen s history) < 2 ^ 64) :
    ((l.readLifetime s).counters.wins ≤ (l.readLifetime s).counters.bids ∧
        (l.readLifetime s).counters.winRate ≤ 1.0) ∧
      ∀ (now : Timestamp) (r : Recent), (history.map (·.now) ++ [now]).Pairwise (· ≤ ·) →
        l.readRecent? now window s = some r →
        let straddling := Settled.straddling (oldestMinute now window) s sales
        let unsold := Settled.unsoldShown (oldestMinute now window) s unsold
        r.counters.wins.toNat + unsold = r.counters.bids.toNat + straddling ∧
          (r.counters.wins ≤ r.counters.bids ↔ straddling ≤ unsold) ∧
          (straddling ≤ unsold → r.counters.winRate ≤ 1.0) := by
  have hlifetime := readLifetime_wins_le hreplay hfits hsettled
  refine ⟨⟨hlifetime, Counters.winRate_le_one hlifetime⟩, fun now r hclock hread => ?_⟩
  have hbalance := readRecent?_balance hreplay hfits hclock hread hsettled
  have hiff : r.counters.wins ≤ r.counters.bids ↔
      Settled.straddling (oldestMinute now window) s sales ≤
        Settled.unsoldShown (oldestMinute now window) s unsold := by
    rw [UInt64.le_iff_toNat_le]
    omega
  exact ⟨hbalance, hiff, fun hle => Counters.winRate_le_one (hiff.mpr hle)⟩

def offerAt (second : Int) : RequestOutcome :=
  { bidder := "alpha", key := ⟨"DE", .mobile, .banner, none, none⟩
    bid := some ⟨false, 15, 1, by decide, by decide⟩, timestamp := ⟨second, 0⟩ }

-- A bid of the first minute that wins ten minutes later.
def lateSale : Sale where
  bid := offerAt 0
  win :=
    { bidder := "alpha", key := ⟨"DE", .mobile, .banner, none, none⟩
      price := ⟨false, 8, 1, by decide, by decide⟩, timestamp := ⟨600, 0⟩ }
  bidder := rfl
  key := rfl
  later := by decide

def lateSales : List Recording :=
  [⟨⟨0, 0⟩, .request (offerAt 0)⟩, ⟨⟨0, 0⟩, .request (offerAt 0)⟩,
    ⟨⟨600, 0⟩, .win lateSale.win⟩, ⟨⟨600, 0⟩, .win lateSale.win⟩,
    ⟨⟨600, 0⟩, .request (offerAt 600)⟩]

theorem settled_lateSales : Settled lateSales [lateSale, lateSale] [offerAt 600] := by
  have hbids := (Settled.nil.bid (o := offerAt 0) ⟨0, 0⟩ (by decide)).bid (o := offerAt 0) ⟨0, 0⟩
    (by decide)
  have hfirst := Settled.win lateSale [] [offerAt 0] hbids ⟨600, 0⟩
  have hsecond := Settled.win lateSale [] [] hfirst ⟨600, 0⟩
  exact hsecond.bid (o := offerAt 600) ⟨600, 0⟩ (by decide)

-- A window of fifteen minutes shows the bids of both wins.
theorem winRate_settled_lateSales :
    ∃ l r, replay 900 lateSales = some l ∧
      l.readRecent? ⟨600, 0⟩ 900 (broadSlice "alpha") = some r ∧
      (r.counters.bids, r.counters.wins) = (3, 2) ∧ r.counters.winRate ≤ 1.0 ∧
      (l.readLifetime (broadSlice "alpha")).counters.winRate ≤ 1.0 := by
  have hreads : ((replay 900 lateSales).bind fun l =>
      (l.readRecent? ⟨600, 0⟩ 900 (broadSlice "alpha")).map fun r =>
        (r.counters.bids, r.counters.wins)) = some (3, 2) := by decide +kernel
  obtain ⟨l, hreplay, hread⟩ := Option.bind_eq_some_iff.mp hreads
  obtain ⟨r, hread, hcounts⟩ := Option.map_eq_some_iff.mp hread
  obtain ⟨hlifetime, hrecent⟩ :=
    winRate_settled settled_lateSales hreplay (broadSlice "alpha") (by decide)
  have hrate := (hrecent ⟨600, 0⟩ r (by decide) hread).2.2 (by decide)
  exact ⟨l, r, hreplay, hread, hcounts, hrate, hlifetime.2⟩

-- A window of five minutes shows two wins, but not their bids.
theorem winRate_lateSales_above_one :
    Settled lateSales [lateSale, lateSale] [offerAt 600] ∧
      (lateSales.map (·.now) ++ [(⟨600, 0⟩ : Timestamp)]).Pairwise (· ≤ ·) ∧
      ((replay 300 lateSales).bind fun l =>
        (l.readRecent? ⟨600, 0⟩ 300 (broadSlice "alpha")).map fun r =>
          (r.counters.bids, r.counters.wins, decide (1.0 < r.counters.winRate))) =
        some (1, 2, true) :=
  ⟨settled_lateSales, by decide, by decide +kernel⟩

end Ledger
end DemandRouting
