import DemandRouting.Proofs.Performance.Headroom
import Mathlib.Data.String.Basic

namespace DemandRouting

structure Credit where
  publisher : String
  bidder : String
  amount : Money

-- Of the outcomes, a win whose key names a publisher is a credit, whatever else the key says.
def Operation.credit? : Operation → Option Credit
  | .record ⟨_, .win o⟩ => o.key.publisher.map fun publisher => ⟨publisher, o.bidder, o.price⟩
  | .seedRevenue publisher bidder amount => some ⟨publisher, bidder, amount⟩
  | _ => none

namespace Ledger

def credits (publisher : String) (operations : List Operation) : List Credit :=
  (operations.filterMap Operation.credit?).filter (·.publisher = publisher)

-- The bidders that were ever credited, each once.
def earners (publisher : String) (operations : List Operation) : List String :=
  ((credits publisher operations).map (·.bidder)).eraseDups

def amounts (publisher bidder : String) (operations : List Operation) : List Money :=
  ((credits publisher operations).filter (·.bidder = bidder)).map (·.amount)

-- The sum of the amounts, in units of `1 / 10 ^ 28`.
def earned (publisher bidder : String) (operations : List Operation) : Int :=
  ((amounts publisher bidder operations).map Money.value).sum

-- More revenue, or as much and a code that comes first.
def Leads (publisher : String) (operations : List Operation) (a b : String) : Prop :=
  earned publisher b operations < earned publisher a operations ∨
    (earned publisher a operations = earned publisher b operations ∧ a < b)

section Append

variable {operations : List Operation} {op : Operation} {c : Credit}

theorem credits_append_other (publisher : String) (h : op.credit? = none) :
    credits publisher (operations ++ [op]) = credits publisher operations := by
  simp [credits, h]

theorem credits_append (publisher : String) (h : op.credit? = some c) :
    credits publisher (operations ++ [op]) =
      if c.publisher = publisher then credits publisher operations ++ [c]
      else credits publisher operations := by
  by_cases hp : c.publisher = publisher <;> simp [credits, h, hp]

theorem earners_append (h : op.credit? = some c) :
    earners c.publisher (operations ++ [op]) =
      if c.bidder ∈ earners c.publisher operations then earners c.publisher operations
      else earners c.publisher operations ++ [c.bidder] := by
  rw [earners, credits_append _ h, if_pos rfl, List.map_append, List.map_singleton,
    eraseDups_concat]
  rfl

theorem amounts_append (bidder : String) (h : op.credit? = some c) :
    amounts c.publisher bidder (operations ++ [op]) =
      if c.bidder = bidder then amounts c.publisher bidder operations ++ [c.amount]
      else amounts c.publisher bidder operations := by
  rw [amounts, credits_append _ h, if_pos rfl]
  by_cases hb : c.bidder = bidder <;> simp [amounts, hb]

end Append

section Perform

variable {window oldest : Int} {e : Event} {l l' : Ledger}

theorem addToSlice?_revenue {s : SliceId} (h : addToSlice? oldest e l s = some l') :
    l'.revenue = l.revenue := by
  obtain ⟨entry, -, h⟩ := Option.bind_eq_some_iff.mp h
  obtain ⟨buckets, -, h⟩ := Option.bind_eq_some_iff.mp h
  obtain rfl := Option.some_inj.mp h
  rfl

theorem foldlM_addToSlice?_revenue {slices : List SliceId}
    (h : slices.foldlM (addToSlice? oldest e) l = some l') : l'.revenue = l.revenue := by
  induction slices generalizing l with
  | nil =>
    obtain rfl := Option.some_inj.mp h
    rfl
  | cons s slices ih =>
    obtain ⟨mid, hmid, h⟩ := Option.bind_eq_some_iff.mp h
    exact (ih h).trans (addToSlice?_revenue hmid)

-- The amount has been added to what the bidder has, and nothing else has changed.
def Adds (c : Credit) (l l' : Ledger) : Prop :=
  ∃ total, (l.revenueOf c.publisher c.bidder).add? c.amount = some total ∧
    l'.revenue = l.revenue.set c.publisher
      ((l.revenue.getD c.publisher {}).set c.bidder total)

theorem credit?_adds {c : Credit} (h : l.credit? c.publisher c.bidder c.amount = some l') :
    Adds c l l' := by
  obtain ⟨total, htotal, h⟩ := Option.bind_eq_some_iff.mp h
  obtain rfl := Option.some_inj.mp h
  exact ⟨total, htotal, rfl⟩

-- A win goes into many slices and is credited once.
theorem perform?_revenue {op : Operation} (h : l.perform? window op = some l') :
    (op.credit? = none ∧ l'.revenue = l.revenue) ∨ ∃ c, op.credit? = some c ∧ Adds c l l' := by
  cases op with
  | seedLifetime s totals =>
    obtain rfl := Option.some_inj.mp h
    exact .inl ⟨rfl, rfl⟩
  | seedRecent now s totals =>
    obtain rfl := Option.some_inj.mp h
    exact .inl ⟨rfl, rfl⟩
  | seedRevenue publisher bidder amount => exact .inr ⟨_, rfl, credit?_adds h⟩
  | record r =>
    obtain ⟨mid, hmid, h⟩ := Option.bind_eq_some_iff.mp h
    have hsame := foldlM_addToSlice?_revenue hmid
    obtain ⟨now, event⟩ := r
    cases event with
    | request o =>
      obtain rfl := Option.some_inj.mp h
      exact .inl ⟨rfl, hsame⟩
    | win o =>
      cases hpublisher : o.key.publisher with
      | none =>
        simp only [creditWin?, hpublisher] at h
        obtain rfl := Option.some_inj.mp h
        exact .inl ⟨by simp [Operation.credit?, hpublisher], hsame⟩
      | some publisher =>
        simp only [creditWin?, hpublisher] at h
        refine .inr ⟨⟨publisher, o.bidder, o.price⟩, by simp [Operation.credit?, hpublisher], ?_⟩
        have hadds := credit?_adds (c := ⟨publisher, o.bidder, o.price⟩) h
        rwa [Adds, revenueOf, hsame] at hadds

end Perform

-- The bidders of every publisher in the order of their first credits, and the sum of the credits of
-- each, in the order in which they came.
structure Credited (operations : List Operation) (l : Ledger) : Prop where
  codes : ∀ publisher,
    (l.revenue.getD publisher {}).entries.map (·.1) = earners publisher operations
  sums : ∀ publisher bidder,
    Money.sum? (amounts publisher bidder operations) = some (l.revenueOf publisher bidder)

theorem credited_empty : Credited [] {} where
  codes _ := rfl
  sums _ _ := rfl

theorem Credited.other {operations : List Operation} {op : Operation} {l l' : Ledger}
    (h : Credited operations l) (hop : op.credit? = none) (hsame : l'.revenue = l.revenue) :
    Credited (operations ++ [op]) l' where
  codes publisher := by
    rw [earners, credits_append_other publisher hop, hsame]
    exact h.codes publisher
  sums publisher bidder := by
    rw [amounts, credits_append_other publisher hop, revenueOf, hsame]
    exact h.sums publisher bidder

theorem Credited.add {operations : List Operation} {op : Operation} {c : Credit} {l l' : Ledger}
    (h : Credited operations l) (hop : op.credit? = some c) (hadds : Adds c l l') :
    Credited (operations ++ [op]) l' := by
  obtain ⟨total, htotal, hrevenue⟩ := hadds
  constructor
  case codes =>
    intro publisher
    rw [hrevenue, Assoc.getD_set]
    by_cases hp : c.publisher = publisher
    · subst hp
      rw [if_pos rfl, earners_append hop, ← h.codes]
      exact Assoc.keys_replace c.bidder total _
    · rw [if_neg hp, earners, credits_append publisher hop, if_neg hp]
      exact h.codes publisher
  case sums =>
    intro publisher bidder
    rw [revenueOf, hrevenue, Assoc.getD_set]
    by_cases hp : c.publisher = publisher
    · subst hp
      rw [if_pos rfl, Assoc.getD_set, amounts_append bidder hop]
      by_cases hb : c.bidder = bidder
      · subst hb
        rw [if_pos rfl, if_pos rfl, Money.sum?_append_singleton, h.sums]
        exact htotal
      · rw [if_neg hb, if_neg hb]
        exact h.sums c.publisher bidder
    · rw [if_neg hp, amounts, credits_append publisher hop, if_neg hp]
      exact h.sums publisher bidder

theorem credited_run {window : Int} {operations : List Operation} {l : Ledger}
    (hrun : run? window operations = some l) : Credited operations l := by
  apply run?_induction (P := Credited) credited_empty _ hrun
  intro operations op before after h hperform
  rcases perform?_revenue hperform with ⟨hop, hsame⟩ | ⟨c, hop, hadds⟩
  · exact h.other hop hsame
  · exact h.add hop hadds

-- What is held of an earner is its sum.
theorem Credited.revenueOf_of_mem {operations : List Operation} {l : Ledger}
    (h : Credited operations l) {publisher : String} {e : String × Money}
    (he : e ∈ (l.revenue.getD publisher {}).entries) : l.revenueOf publisher e.1 = e.2 := by
  have hnodup : ((l.revenue.getD publisher {}).entries.map (·.1)).Nodup := by
    rw [h.codes]
    exact nodup_eraseDups _
  rw [revenueOf, Assoc.getD, Assoc.get?, Assoc.find?_of_mem hnodup he]
  rfl

-- Where the sum is exact, it is worth as much as its amounts together.
theorem Credited.value_revenueOf {operations : List Operation} {l : Ledger}
    (h : Credited operations l) {publisher bidder : String}
    (hexact : (Money.sumExactly? (amounts publisher bidder operations)).isSome = true) :
    (l.revenueOf publisher bidder).value = earned publisher bidder operations := by
  obtain ⟨total, htotal⟩ := Option.isSome_iff_exists.mp hexact
  obtain ⟨hsum, hvalue⟩ := Money.sum?_of_sumExactly? htotal
  rw [h.sums, Option.some_inj] at hsum
  rw [hsum]
  exact hvalue

theorem ranksBefore_iff {a b : String × Money} :
    ranksBefore a b = true ↔
      b.2.value < a.2.value ∨ (a.2.value = b.2.value ∧ a.1 ≤ b.1) := by
  rw [ranksBefore, Money.compare_eq_value]
  rcases Int.lt_trichotomy a.2.value b.2.value with hlt | heq | hgt
  · rw [Int.compare_eq_lt.mpr hlt]
    simp only [Bool.false_eq_true, false_iff]
    omega
  · rw [Int.compare_eq_eq.mpr heq]
    simp [heq]
  · rw [Int.compare_eq_gt.mpr hgt]
    simp [hgt]

theorem ranksBefore_total (a b : String × Money) :
    ranksBefore a b = true ∨ ranksBefore b a = true := by
  rw [ranksBefore_iff, ranksBefore_iff]
  rcases Int.lt_trichotomy a.2.value b.2.value with hlt | heq | hgt
  · exact .inr (.inl hlt)
  · rcases le_total a.1 b.1 with hle | hle
    · exact .inl (.inr ⟨heq, hle⟩)
    · exact .inr (.inr ⟨heq.symm, hle⟩)
  · exact .inl (.inl hgt)

theorem ranksBefore_trans {a b c : String × Money} (hab : ranksBefore a b = true)
    (hbc : ranksBefore b c = true) : ranksBefore a c = true := by
  rw [ranksBefore_iff] at hab hbc ⊢
  rcases hab with hab | ⟨hab, hcodes⟩
  · left
    omega
  · rcases hbc with hbc | ⟨hbc, hcodes'⟩
    · left
      omega
    · exact .inr ⟨hab.trans hbc, hcodes.trans hcodes'⟩

-- A queue that pops the first in rank as long as there is anybody.
structure PopsFirst (pop? : RevenueQueue → Option ((String × Money) × RevenueQueue)) : Prop where
  eq_nil : ∀ queue, pop? queue = none → queue = []
  perm : ∀ queue first rest, pop? queue = some (first, rest) → (first :: rest).Perm queue
  first : ∀ queue first rest, pop? queue = some (first, rest) →
    ∀ e ∈ rest, ranksBefore first e = true

theorem eq_nil_of_popFirst? {queue : RevenueQueue} (h : popFirst? queue = none) : queue = [] := by
  fun_induction popFirst? queue with
  | case1 => rfl
  | case2 => cases h
  | case3 => cases h
  | case4 => cases h

theorem perm_of_popFirst? {queue rest : RevenueQueue} {first : String × Money}
    (h : popFirst? queue = some (first, rest)) : (first :: rest).Perm queue := by
  fun_induction popFirst? queue generalizing first rest with
  | case1 => cases h
  | case2 e queue hnone ih =>
    cases h
    rw [eq_nil_of_popFirst? hnone]
  | case3 e queue next others hpopped hfirst ih =>
    cases h
    exact .refl _
  | case4 e queue next others hpopped hlater ih =>
    cases h
    exact (List.Perm.swap _ _ _).trans ((ih hpopped).cons e)

theorem ranksBefore_of_popFirst? {queue rest : RevenueQueue} {first : String × Money}
    (h : popFirst? queue = some (first, rest)) : ∀ e ∈ rest, ranksBefore first e = true := by
  fun_induction popFirst? queue generalizing first rest with
  | case1 => cases h
  | case2 e queue hnone ih =>
    cases h
    exact List.forall_mem_nil _
  | case3 e queue next others hpopped hfirst ih =>
    cases h
    intro x hx
    rcases List.mem_cons.mp ((perm_of_popFirst? hpopped).mem_iff.mpr hx) with rfl | hx
    · exact hfirst
    · exact ranksBefore_trans hfirst (ih hpopped x hx)
  | case4 e queue next others hpopped hlater ih =>
    cases h
    exact List.forall_mem_cons.mpr ⟨(ranksBefore_total e next).resolve_left hlater, ih hpopped⟩

theorem popFirst?_popsFirst : PopsFirst popFirst? where
  eq_nil _ := eq_nil_of_popFirst?
  perm _ _ _ := perm_of_popFirst?
  first _ _ _ := ranksBefore_of_popFirst?

-- Taken off one after the other, the bidders come in the order of the ranking, whatever the queue.
theorem takeOff_eq_take {pop? : RevenueQueue → Option ((String × Money) × RevenueQueue)}
    (hpop : PopsFirst pop?) (queue : RevenueQueue) :
    ∃ ranked : RevenueQueue, ranked.Perm queue ∧ ranked.Pairwise (ranksBefore · · = true) ∧
      ∀ limit, takeOff pop? limit queue = (ranked.take limit).map (·.1) := by
  -- the queue gets shorter by what is popped
  induction hlength : queue.length generalizing queue with
  | zero =>
    obtain rfl := List.length_eq_zero_iff.mp hlength
    have hnone : pop? [] = none := by
      cases hpopped : pop? [] with
      | none => rfl
      | some popped => exact absurd (hpop.perm _ _ _ hpopped).length_eq (by simp)
    refine ⟨[], .refl _, .nil, fun limit => ?_⟩
    cases limit with
    | zero => rfl
    | succ limit => simp [takeOff, hnone]
  | succ n ih =>
    cases hpopped : pop? queue with
    | none => simp [hpop.eq_nil queue hpopped] at hlength
    | some popped =>
      obtain ⟨first, rest⟩ := popped
      have hperm := hpop.perm queue first rest hpopped
      have hfewer : rest.length = n := by
        have hsame := hperm.length_eq
        rw [List.length_cons, hlength] at hsame
        omega
      obtain ⟨ranked, hranked, hpairs, htaken⟩ := ih rest hfewer
      refine ⟨first :: ranked, (hranked.cons first).trans hperm, ?_, fun limit => ?_⟩
      · refine List.pairwise_cons.mpr ⟨fun e he => ?_, hpairs⟩
        exact hpop.first queue first rest hpopped e (hranked.mem_iff.mp he)
      · cases limit with
        | zero => rfl
        | succ limit => simp [takeOff, hpopped, htaken]

-- So many bidders as were asked for, or all that were ever credited if there are less, each once,
-- in order, and nobody left out before them.
structure IsTop (publisher : String) (operations : List Operation) (limit : Nat)
    (top : List String) : Prop where
  nodup : top.Nodup
  length : top.length = min limit (earners publisher operations).length
  credited : top ⊆ earners publisher operations
  ordered : top.Pairwise (Leads publisher operations)
  best : ∀ b ∈ earners publisher operations, b ∉ top → ∀ a ∈ top, Leads publisher operations a b

theorem isTop_take {publisher : String} {operations : List Operation} {codes : List String}
    (hperm : codes.Perm (earners publisher operations))
    (hordered : codes.Pairwise (Leads publisher operations)) (limit : Nat) :
    IsTop publisher operations limit (codes.take limit) where
  nodup := (hperm.nodup_iff.mpr (nodup_eraseDups _)).sublist (List.take_sublist _ _)
  length := by rw [List.length_take, hperm.length_eq]
  credited _ hcode := hperm.subset (List.mem_of_mem_take hcode)
  ordered := hordered.sublist (List.take_sublist _ _)
  best := by
    intro b hb hout a ha
    have hsplit := List.take_append_drop limit codes
    rw [← hsplit, List.pairwise_append] at hordered
    have hleft : b ∈ codes.drop limit := by
      rw [← hperm.mem_iff, ← hsplit, List.mem_append] at hb
      exact hb.resolve_left hout
    exact hordered.2.2 a ha b hleft

-- The entries that a queue begins with are the earners.
theorem Credited.perm_earners {operations : List Operation} {l : Ledger}
    (h : Credited operations l) {publisher : String} {ranked : RevenueQueue}
    (hperm : ranked.Perm (l.revenue.getD publisher {}).entries) :
    (ranked.map (·.1)).Perm (earners publisher operations) := by
  rw [← h.codes]
  exact hperm.map _

-- In the order of the queue they are in the order of the ranking.
theorem Credited.pairwise_leads {operations : List Operation} {l : Ledger}
    (h : Credited operations l) {publisher : String}
    (hexact : ∀ bidder ∈ earners publisher operations,
      (Money.sumExactly? (amounts publisher bidder operations)).isSome = true)
    {ranked : RevenueQueue} (hperm : ranked.Perm (l.revenue.getD publisher {}).entries)
    (hpairs : ranked.Pairwise (ranksBefore · · = true)) :
    (ranked.map (·.1)).Pairwise (Leads publisher operations) := by
  have hcodes := h.perm_earners hperm
  have hvalue : ∀ e ∈ ranked, e.2.value = earned publisher e.1 operations := by
    intro e he
    rw [← h.revenueOf_of_mem (hperm.mem_iff.mp he)]
    exact h.value_revenueOf (hexact e.1 (hcodes.mem_iff.mp (List.mem_map_of_mem he)))
  have hdistinct : ranked.Pairwise (·.1 ≠ ·.1) :=
    List.pairwise_map.mp (hcodes.nodup_iff.mpr (nodup_eraseDups _))
  rw [List.pairwise_map]
  refine (hpairs.and hdistinct).imp_of_mem fun ha hb ⟨hranks, hne⟩ => ?_
  rw [ranksBefore_iff, hvalue _ ha, hvalue _ hb] at hranks
  rcases hranks with hmore | ⟨hsame, hle⟩
  · exact .inl hmore
  · exact .inr ⟨hsame, lt_of_le_of_ne hle hne⟩

-- After any operations, for every publisher whose sums are exact: a ledger holds of each bidder
-- what it earned, and by this it ranks them, with any queue, a shorter list before a longer one.
theorem topBiddersBy_isTop {pop? : RevenueQueue → Option ((String × Money) × RevenueQueue)}
    (hpop : PopsFirst pop?) (window : Int) (operations : List Operation) (l : Ledger)
    (hrun : run? window operations = some l) (publisher : String)
    (hexact : ∀ bidder ∈ earners publisher operations,
      (Money.sumExactly? (amounts publisher bidder operations)).isSome = true) :
    (∀ bidder ∈ earners publisher operations,
        (l.revenueOf publisher bidder).value = earned publisher bidder operations) ∧
      (∀ limit, IsTop publisher operations limit (topBiddersBy pop? l publisher limit)) ∧
      ∀ limit more, limit ≤ more →
        topBiddersBy pop? l publisher limit <+: topBiddersBy pop? l publisher more := by
  have h := credited_run hrun
  obtain ⟨ranked, hperm, hpairs, htaken⟩ :=
    takeOff_eq_take hpop (l.revenue.getD publisher {}).entries
  have htop : ∀ limit, topBiddersBy pop? l publisher limit = (ranked.map (·.1)).take limit :=
    fun limit => (htaken limit).trans List.map_take
  refine ⟨fun bidder hbidder => h.value_revenueOf (hexact bidder hbidder), ?_, ?_⟩
  · intro limit
    rw [htop]
    exact isTop_take (h.perm_earners hperm) (h.pairwise_leads hexact hperm hpairs) limit
  · intro limit more hle
    rw [htop, htop]
    exact List.take_prefix_take_left hle

-- Two bidders of equal revenue, one of them credited twice, one without and one in debt; a win
-- without a publisher, and a credit of another one.
def mixedCredits : List Operation :=
  let amount := fun units scale => (Money.make? units scale).getD .zero
  let win := fun bidder publisher price => Operation.record
    ⟨⟨0, 0⟩, .win ⟨bidder, ⟨"DE", .mobile, .banner, none, publisher⟩, price, ⟨0, 0⟩⟩⟩
  [.seedRevenue "news" "delta" (amount (-25) 2),
    win "beta" (some "news") (amount 75 2),
    win "gamma" none (amount 9 0),
    win "alpha" (some "news") (amount 15 1),
    .seedRevenue "news" "beta" (amount 75 2),
    .seedRevenue "news" "epsilon" (amount 0 0),
    .seedRevenue "sports" "gamma" (amount 9 0)]

theorem topBiddersBy_isTop_mixedCredits :
    ∃ l, run? 120 mixedCredits = some l ∧
      IsTop "news" mixedCredits 3 (topBiddersBy popFirst? l "news" 3) ∧
      topBiddersBy popFirst? l "news" 3 = ["alpha", "beta", "epsilon"] ∧
      topBiddersBy popFirst? l "news" 3 <+: topBiddersBy popFirst? l "news" 9 := by
  have hranked : (run? 120 mixedCredits).map (topBiddersBy popFirst? · "news" 3) =
      some ["alpha", "beta", "epsilon"] := by decide +kernel
  obtain ⟨l, hrun, htop⟩ := Option.map_eq_some_iff.mp hranked
  obtain ⟨-, hisTop, hprefix⟩ := topBiddersBy_isTop popFirst?_popsFirst 120 mixedCredits l hrun
    "news" (by decide +kernel)
  exact ⟨l, hrun, hisTop 3, htop, hprefix 3 9 (by decide)⟩

end Ledger
end DemandRouting
