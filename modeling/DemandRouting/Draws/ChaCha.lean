namespace DemandRouting.ChaCha

abbrev Key := Vector UInt32 8

abbrev State := Vector UInt32 16

def rotate (x k : UInt32) : UInt32 := (x <<< k) ||| (x >>> (32 - k))

def quarterRound (a b c d : Fin 16) (s : State) : State :=
  let s := s.set a (s[a] + s[b])
  let s := s.set d (rotate (s[d] ^^^ s[a]) 16)
  let s := s.set c (s[c] + s[d])
  let s := s.set b (rotate (s[b] ^^^ s[c]) 12)
  let s := s.set a (s[a] + s[b])
  let s := s.set d (rotate (s[d] ^^^ s[a]) 8)
  let s := s.set c (s[c] + s[d])
  s.set b (rotate (s[b] ^^^ s[c]) 7)

-- The columns, then the diagonals.
def doubleRound (s : State) : State :=
  s |> quarterRound 0 4 8 12
    |> quarterRound 1 5 9 13
    |> quarterRound 2 6 10 14
    |> quarterRound 3 7 11 15
    |> quarterRound 0 5 10 15
    |> quarterRound 1 6 11 12
    |> quarterRound 2 7 8 13
    |> quarterRound 3 4 9 14

-- The constants, the key, the number of the block and a stream number of zero.
def start (key : Key) (block : UInt64) : State :=
  #v[0x61707865, 0x3320646e, 0x79622d32, 0x6b206574,
    key[0], key[1], key[2], key[3], key[4], key[5], key[6], key[7],
    block.toUInt32, (block >>> 32).toUInt32, 0, 0]

def block (key : Key) (n : UInt64) : State :=
  let s := start key n
  let mixed := (List.range 6).foldl (fun s _ => doubleRound s) s
  Vector.zipWith (· + ·) mixed s

-- The word at a position of the keystream.
def word (key : Key) (position : Nat) : UInt32 :=
  (block key (.ofNat (position / 16))).get ⟨position % 16, Nat.mod_lt _ (by decide)⟩

end DemandRouting.ChaCha
