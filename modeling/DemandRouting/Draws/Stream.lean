import DemandRouting.Draws.ChaCha
import DemandRouting.Number.Power

namespace DemandRouting

-- A place in a keystream, which every draw moves on.
structure Stream where
  key : ChaCha.Key
  position : Nat
deriving DecidableEq

namespace Stream

def nextSeed (state : UInt64) : UInt64 := state * 6364136223846793005 + 11634580027462260723

-- The word that a state of the seed's expansion gives.
def seedWord (state : UInt64) : UInt32 :=
  let mixed := (((state >>> 18) ^^^ state) >>> 27).toUInt32
  let turn := (state >>> 59).toUInt32
  (mixed >>> turn) ||| (mixed <<< ((32 - turn) % 32))

def seedStates : (count : Nat) → UInt64 → List UInt64
  | 0, _ => []
  | count + 1, state => nextSeed state :: seedStates count (nextSeed state)

theorem length_seedStates (count : Nat) (state : UInt64) :
    (seedStates count state).length = count := by
  induction count generalizing state with
  | zero => rfl
  | succ count ih => simp [seedStates, ih]

def keyOfSeed (seed : UInt64) : ChaCha.Key :=
  ⟨((seedStates 8 seed).map seedWord).toArray, by simp [length_seedStates]⟩

def ofSeed (seed : UInt64) : Stream := ⟨keyOfSeed seed, 0⟩

def word (s : Stream) : UInt32 × Stream :=
  (ChaCha.word s.key s.position, { s with position := s.position + 1 })

-- The lower half first.
def word64 (s : Stream) : UInt64 × Stream :=
  let (low, s) := s.word
  let (high, s) := s.word
  (low.toUInt64 ||| (high.toUInt64 <<< 32), s)

-- From 0 up to but not including 1, in steps of `2 ^ -53`.
def coin (s : Stream) : Float × Stream :=
  let (w, s) := s.word64
  ((w >>> 11).toFloat * 1.1102230246251565e-16, s)

-- Words that would favour some of `count` numbers are thrown away.
def isFair (count v : Nat) : Bool := v * count % 2 ^ 32 < count * 2 ^ (31 - Nat.log2 count)

-- A number below `count`, which fits into a word. After so many unfair words any word will do.
def below (count : Nat) : (tries : Nat) → Stream → Nat × Stream
  | 0, s => (s.word.1.toNat * count / 2 ^ 32, s.word.2)
  | tries + 1, s =>
    let v := s.word.1.toNat
    if isFair count v then (v * count / 2 ^ 32, s.word.2) else below count tries s.word.2

-- More than half of the words are fair.
def maxTries : Nat := 256

-- A number from 0 to `n`.
def upTo (n : Nat) (s : Stream) : Nat × Stream := below (n + 1) maxTries s

theorem below_lt {count : Nat} (h : 0 < count) (tries : Nat) (s : Stream) :
    (below count tries s).1 < count := by
  have scaled : ∀ w : UInt32, w.toNat * count / 2 ^ 32 < count := fun w => by
    have hw : w.toNat * count < 2 ^ 32 * count := Nat.mul_lt_mul_of_pos_right w.toNat_lt h
    exact Nat.div_lt_of_lt_mul hw
  induction tries generalizing s with
  | zero => exact scaled _
  | succ tries ih =>
    simp only [below]
    split
    · exact scaled _
    · exact ih _

theorem upTo_le (n : Nat) (s : Stream) : (upTo n s).1 ≤ n :=
  Nat.le_of_lt_succ (below_lt (Nat.succ_pos n) _ s)

end Stream
end DemandRouting
