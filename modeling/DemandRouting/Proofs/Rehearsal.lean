import DemandRouting.Rehearsal
import DemandRouting.Proofs.Performance.History
import DemandRouting.Proofs.Sources.Degradation
import DemandRouting.Proofs.Sources.Freshness

namespace DemandRouting

namespace FaultTable

variable {t : FaultTable} {side side' : Side} {who who' : String} {entry : Option Fault}

theorem entry?_set : FaultTable.entry? ⟨t.faults.set (side, who) entry⟩ side' who' =
    if (side, who) = (side', who') then entry else t.entry? side' who' := by
  unfold entry?
  rw [Assoc.get?_set]
  split <;> rfl

theorem fault?_set_of_ne (hwho : who ≠ who') (hone : who ≠ everyone) :
    FaultTable.fault? ⟨t.faults.set (side, who) entry⟩ side' who' = t.fault? side' who' := by
  have hother : ∀ name, who ≠ name → (side, who) ≠ (side', name) :=
    fun name hne heq => hne (congrArg Prod.snd heq)
  rw [fault?, entry?_set, entry?_set, if_neg (hother who' hwho), if_neg (hother everyone hone)]
  rfl

-- A fault that comes or goes for one bidder does not concern the others.
theorem onSources_agreeOn (s : Sources) (hwho : who ≠ who') (hone : who ≠ everyone) :
    Sources.AgreeOn who' (FaultTable.onSources ⟨t.faults.set (side, who) entry⟩ s)
      (t.onSources s) := by
  intro key
  simp only [onSources, disturb, fault?_set_of_ne hwho hone, and_self]

theorem onSources_of_calm (s : Sources) (hrecent : t.fault? .recent who = none)
    (hlifetime : t.fault? .lifetime who = none) : Sources.AgreeOn who (t.onSources s) s := by
  intro key
  simp only [onSources, disturb, hrecent, hlifetime, and_self]

end FaultTable

namespace Rehearsal

-- What is done in a rehearsal, one after the other.
inductive Step where
  | setClock (now : Timestamp)
  | advance (seconds : Int)
  | record (e : Event)
  | seedLifetime (s : SliceId) (totals : Lifetime)
  | seedRecent (s : SliceId) (totals : Recent)
  | credit (publisher bidder : String) (amount : Money)
  | setFault (side : Side) (who : String) (fault : Fault)
  | clearFault (side : Side) (who : String)
  | clearCaches
  | wait (milliseconds : Nat)
  | read (w : Window) (s : SliceId)
  | gather (settings : BlendSettings) (bidders : List String) (o : Option Opportunity)
      (cancel : Option Nat)
  | score (settings : ScoringSettings) (withRecent : Bool) (bidders : List String)
      (o : Opportunity)
  | route (router : Router) (fresh : FreshIds) (entropy : UInt64) (request : OpenRtb.BidRequest)
      (candidates : List String) (cancel : Option Nat)

def perform? (r : Rehearsal) : Step → Option Rehearsal
  | .setClock now => some { r with clock := now }
  | .advance seconds => some (r.advance seconds)
  | .record e => r.record? e
  | .seedLifetime s totals => some (r.seedLifetime s totals)
  | .seedRecent s totals => some (r.seedRecent s totals)
  | .credit publisher bidder amount => r.credit? publisher bidder amount
  | .setFault side who fault => some { r with faults := r.faults.set side who fault }
  | .clearFault side who => some { r with faults := r.faults.clear side who }
  | .clearCaches => some { r with caches := {} }
  | .wait milliseconds => some (r.spend milliseconds 0)
  | .read w s => some (r.read w s).2
  | .gather settings bidders o cancel => some (r.gather settings bidders o cancel).2
  | .score settings withRecent bidders o => some (r.score settings withRecent bidders o).2
  | .route router fresh entropy request candidates cancel =>
    some (r.route router fresh entropy request candidates cancel).2

-- What a step does to the ledger, if anything.
def operation? (r : Rehearsal) : Step → Option Operation
  | .record e => some (.record ⟨r.clock, e⟩)
  | .seedLifetime s totals => some (.seedLifetime s totals)
  | .seedRecent s totals => some (.seedRecent r.clock s totals)
  | .credit publisher bidder amount => some (.seedRevenue publisher bidder amount)
  | _ => none

-- What a step is to the caches. Only a read goes through them; the others let time pass.
def use? (r : Rehearsal) : Step → Option CacheUse
  | .clearCaches => some .clear
  | .wait milliseconds => some (.wait milliseconds)
  | .read w s => some (.read w s (r.sources.of w s))
  | .gather settings bidders o cancel =>
    some (.wait (Snapshot.gatherAllDelay settings r.sources bidders o cancel))
  | .score settings withRecent bidders o =>
    let fetched := ScoredBidder.fetchAll settings r.sources withRecent bidders o
    some (.wait ((fetched.map (·.delay)).foldl max 0))
  | .route router fresh entropy request candidates cancel =>
    some (.wait (router.route r.clock fresh entropy request candidates cancel).delay)
  | _ => none

-- A step fails exactly where the ledger has no result for what it does there.
theorem ledger_perform? (r : Rehearsal) (step : Step) :
    (r.perform? step).map (·.ledger) =
      (r.operation? step).toList.foldlM (Ledger.perform? r.window) r.ledger := by
  cases step with
  | record e | credit publisher bidder amount =>
    simp only [perform?, record?, credit?, operation?, Option.map_map, Option.toList_some,
      List.foldlM_cons, List.foldlM_nil, bind_pure]
    exact Option.map_id_apply
  | _ => rfl

theorem settings_of_perform? {r r' : Rehearsal} {step : Step} (h : r.perform? step = some r') :
    r'.window = r.window ∧ r'.ttl = r.ttl := by
  cases step with
  | record e | credit publisher bidder amount =>
    obtain ⟨l, -, rfl⟩ := Option.map_eq_some_iff.mp h
    exact ⟨rfl, rfl⟩
  | _ =>
    obtain rfl := Option.some_inj.mp h
    exact ⟨rfl, rfl⟩

theorem cached_of_perform? {r r' : Rehearsal} {step : Step} (h : r.perform? step = some r') :
    r'.cached = (r.use? step).toList.foldl CachedSources.after r.cached := by
  cases step with
  | record e | credit publisher bidder amount =>
    obtain ⟨l, -, rfl⟩ := Option.map_eq_some_iff.mp h
    rfl
  | _ =>
    obtain rfl := Option.some_inj.mp h
    rfl

def run? (r : Rehearsal) (steps : List Step) : Option Rehearsal := steps.foldlM perform? r

-- What the steps of a run come to, each at the state in which it is taken.
def log {α : Type} (f : Rehearsal → Step → Option α) (r : Rehearsal) : List Step → List α
  | [] => []
  | step :: steps =>
    (f r step).toList ++ match r.perform? step with
      | some r' => log f r' steps
      | none => []

theorem ledger_run? (r : Rehearsal) (steps : List Step) :
    (r.run? steps).map (·.ledger) =
      (r.log operation? steps).foldlM (Ledger.perform? r.window) r.ledger := by
  induction steps generalizing r with
  | nil => rfl
  | cons step steps ih =>
    rw [run?, List.foldlM_cons, log, List.foldlM_append, ← ledger_perform?]
    cases hstep : r.perform? step with
    | none => rfl
    | some r' =>
      rw [← (settings_of_perform? hstep).1]
      exact ih r'

theorem cached_run? {r r' : Rehearsal} {steps : List Step} (h : r.run? steps = some r') :
    r'.cached = (r.log use? steps).foldl CachedSources.after r.cached := by
  induction steps generalizing r with
  | nil =>
    obtain rfl := Option.some_inj.mp h
    rfl
  | cons step steps ih =>
    rw [run?, List.foldlM_cons] at h
    obtain ⟨mid, hmid, h⟩ := Option.bind_eq_some_iff.mp h
    rw [ih h, log, hmid, List.foldl_append, cached_of_perform? hmid]

theorem settings_of_run? {r r' : Rehearsal} {steps : List Step} (h : r.run? steps = some r') :
    r'.window = r.window ∧ r'.ttl = r.ttl := by
  refine foldlM_induction (P := fun _ r' => r'.window = r.window ∧ r'.ttl = r.ttl) ⟨rfl, rfl⟩ ?_ h
  intro _ step mid r' hmid hstep
  obtain ⟨hwindow, httl⟩ := settings_of_perform? hstep
  exact ⟨hwindow.trans hmid.1, httl.trans hmid.2⟩

-- Nothing recorded, nothing kept and no fault.
def start (clock : Timestamp) (window : Int) (ttl : Nat) : Rehearsal := { clock, window, ttl }

section Run

variable {clock : Timestamp} {window : Int} {ttl : Nat} {steps : List Step} {r : Rehearsal}

-- A rehearsal has a result exactly where the ledger has one for what is done to it.
theorem ledger_run?_start (clock : Timestamp) (window : Int) (ttl : Nat) (steps : List Step) :
    ((start clock window ttl).run? steps).map (·.ledger) =
      Ledger.run? window ((start clock window ttl).log operation? steps) :=
  ledger_run? _ steps

theorem cached_run?_start (h : (start clock window ttl).run? steps = some r) :
    r.cached = CachedSources.run ttl ((start clock window ttl).log use? steps) :=
  cached_run? h

theorem read_run?_start (h : (start clock window ttl).run? steps = some r) (w : Window)
    (s : SliceId) :
    (r.read w s).1 = ((CachedSources.run ttl ((start clock window ttl).log use? steps)).read w s
      (r.sources.of w s)).result := by
  rw [← cached_run?_start h]
  rfl

-- Bidders without a fault are gathered for from the ledger alone.
theorem gather_run?_start (h : (start clock window ttl).run? steps = some r)
    (settings : BlendSettings) {bidders : List String} (o : Option Opportunity)
    (cancel : Option Nat) (hcalm : ∀ bidder ∈ bidders,
      r.faults.fault? .recent bidder = none ∧ r.faults.fault? .lifetime bidder = none) :
    ∃ l, Ledger.run? window ((start clock window ttl).log operation? steps) = some l ∧
      (r.gather settings bidders o cancel).1 =
        Snapshot.gatherAll settings (l.sources r.clock window) bidders o cancel := by
  have hledger := ledger_run?_start clock window ttl steps
  rw [h, Option.map_some] at hledger
  refine ⟨r.ledger, hledger.symm, ?_⟩
  have hwindow : r.window = window := (settings_of_run? h).1
  rw [← hwindow]
  apply Snapshot.gatherAll_congr
  intro bidder hbidder
  obtain ⟨hrecent, hlifetime⟩ := hcalm bidder hbidder
  exact FaultTable.onSources_of_calm _ hrecent hlifetime

end Run

-- A new fault of a bidder changes nothing for the others.
theorem gather_setFault (r : Rehearsal) {side : Side} {who : String} {fault : Fault}
    {bidders : List String} (settings : BlendSettings) (o : Option Opportunity)
    (cancel : Option Nat) (hwho : who ∉ bidders) (hone : who ≠ FaultTable.everyone) :
    ({ r with faults := r.faults.set side who fault }.gather settings bidders o cancel).1 =
      (r.gather settings bidders o cancel).1 := by
  apply Snapshot.gatherAll_congr
  intro bidder hbidder
  have hother : who ≠ bidder := fun heq => hwho (heq ▸ hbidder)
  exact FaultTable.onSources_agreeOn _ hother hone

end Rehearsal
end DemandRouting
