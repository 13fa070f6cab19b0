import Reattempt.Random.Source
/-!
# The Mersenne twister

The generator MT19937 with 624 words of 32 bits, seeded by a whole number of any size, whose words
are mixed into the state. A number in the unit interval is made of the upper 27 and 26 bits of two
successive outputs.
-/
set_option autoImplicit false

namespace Reattempt

structure Twister where
  words : Array UInt32
  position : Nat

namespace Twister

def size : Nat := 624

def word (words : Array UInt32) (index : Nat) : UInt32 := words[index % size]?.getD 0

def spread (seed : UInt32) : Array UInt32 :=
  (List.range (size - 1)).foldl
    (fun (words : Array UInt32) index =>
      let last := words.back?.getD 0
      words.push ((1812433253 : UInt32) * (last ^^^ (last >>> 30)) + UInt32.ofNat (index + 1)))
    #[seed]

/-- The words of a whole number, least first; zero has one word. -/
def seedWords : Nat → Nat → List UInt32
  | 0, _ => []
  | steps + 1, number =>
      UInt32.ofNat (number % Nat.pow 2 32) ::
        (if number / Nat.pow 2 32 = 0 then [] else seedWords steps (number / Nat.pow 2 32))

/-- Moves to the next word of the state; after the last one the first becomes a copy of it. -/
def advance (words : Array UInt32) (index : Nat) : Array UInt32 × Nat :=
  if size ≤ index + 1 then (words.setIfInBounds 0 (word words (size - 1)), 1)
  else (words, index + 1)

def mixKey (key : Array UInt32) : Nat → Array UInt32 → Nat → Nat → Array UInt32 × Nat
  | 0, words, index, _ => (words, index)
  | steps + 1, words, index, keyIndex =>
      let last := word words (index - 1)
      let mixed := (word words index ^^^ ((last ^^^ (last >>> 30)) * 1664525)) +
        key[keyIndex]?.getD 0 + UInt32.ofNat keyIndex
      let (words, index) := advance (words.setIfInBounds index mixed) index
      mixKey key steps words index (if key.size ≤ keyIndex + 1 then 0 else keyIndex + 1)

def mixIndex : Nat → Array UInt32 → Nat → Array UInt32
  | 0, words, _ => words
  | steps + 1, words, index =>
      let last := word words (index - 1)
      let mixed := (word words index ^^^ ((last ^^^ (last >>> 30)) * 1566083941)) -
        UInt32.ofNat index
      let (words, index) := advance (words.setIfInBounds index mixed) index
      mixIndex steps words index

/-- The generator of a seed; its sign does not matter. -/
def ofSeed (seed : Int) : Twister :=
  let key := (seedWords (seed.natAbs.log2 / 32 + 1) seed.natAbs).toArray
  let (words, index) := mixKey key (max size key.size) (spread 19650218) 1 0
  let words := (mixIndex (size - 1) words index).setIfInBounds 0 0x80000000
  ⟨words, size⟩

def twistWord (words : Array UInt32) (index : Nat) : Array UInt32 :=
  let joined := (word words index &&& 0x80000000) ||| (word words (index + 1) &&& 0x7fffffff)
  let mask : UInt32 := if joined &&& 1 = 0 then 0 else 0x9908b0df
  words.setIfInBounds index (word words (index + 397) ^^^ (joined >>> 1) ^^^ mask)

def twist (words : Array UInt32) : Array UInt32 := (List.range size).foldl twistWord words

def temper (value : UInt32) : UInt32 :=
  let value := value ^^^ (value >>> 11)
  let value := value ^^^ ((value <<< 7) &&& 0x9d2c5680)
  let value := value ^^^ ((value <<< 15) &&& 0xefc60000)
  value ^^^ (value >>> 18)

def output (twister : Twister) : UInt32 × Twister :=
  let twister := if twister.position < size then twister else ⟨twist twister.words, 0⟩
  (temper (word twister.words twister.position),
    { twister with position := twister.position + 1 })

/-- A number in the unit interval, a whole multiple of `2 ^ -53`. -/
def unitInterval (twister : Twister) : Binary64 × Twister :=
  let (upper, twister) := twister.output
  let (lower, twister) := twister.output
  let numerator := (upper >>> 5).toNat * 67108864 + (lower >>> 6).toNat
  (Binary64.ofRatio numerator (Nat.pow 2 53), twister)

instance : Generator Twister := ⟨unitInterval⟩

end Twister
end Reattempt
