import SchoolTimetable.Random.Source

/-!
The Mersenne twister with 624 words of 32 bits. A seed of any size is spread over the words; the
words are renewed together, and each is tempered when it is drawn.
-/

namespace SchoolTimetable

structure Twister where
  words : Array UInt32
  next : Nat

namespace Twister

def wordCount : Nat := 624

def middle : Nat := 397

def word (words : Array UInt32) (position : Nat) : UInt32 := words.getD position 0

def mixed (previous : UInt32) : UInt32 := previous ^^^ (previous >>> 30)

def spread (first : UInt32) : Array UInt32 :=
  (List.range (wordCount - 1)).foldl (fun words position =>
      words.push (1812433253 * mixed (word words position) + (position + 1).toUInt32)) #[first]

/-- The words of a whole number, the least significant first; zero has one word. -/
def wordsOf (value : Nat) : List UInt32 :=
  (List.range (max 1 ((value.log2 + 32) / 32))).map fun position =>
    (value >>> (32 * position)).toUInt32

/-- The words while a seed is spread over them, and the position of the next one to change. -/
structure Seeding where
  words : Array UInt32
  position : Nat

/-- Changes one word by the one before it. After the last word the first takes its value. -/
def Seeding.step (state : Seeding) (change : UInt32 → UInt32 → UInt32) : Seeding :=
  let changed := change (word state.words state.position) (mixed (word state.words (state.position - 1)))
  let words := state.words.setIfInBounds state.position changed
  let following := state.position + 1
  if wordCount ≤ following then
    ⟨words.setIfInBounds 0 (word words (wordCount - 1)), 1⟩
  else ⟨words, following⟩

def ofKey (key : List UInt32) : Twister :=
  let keyWords := key.toArray
  let rounds := max wordCount keyWords.size
  let keyed := (List.range rounds).foldl (fun state round =>
      let place := round % keyWords.size
      state.step fun old before => (old ^^^ (before * 1664525)) + word keyWords place + place.toUInt32)
    (Seeding.mk (spread 19650218) 1)
  let scattered := (List.range (wordCount - 1)).foldl (fun state _ =>
      let place := state.position.toUInt32
      state.step fun old before => (old ^^^ (before * 1566083941)) - place) keyed
  ⟨scattered.words.setIfInBounds 0 0x80000000, wordCount⟩

/-- A twister for a seed; the sign of the seed does not matter. -/
def ofSeed (seed : Int) : Twister := ofKey (wordsOf seed.natAbs)

/-- The word that replaces another, from the high bit of one and the low bits of the next. -/
def twisted (high low far : UInt32) : UInt32 :=
  let joined := (high &&& 0x80000000) ||| (low &&& 0x7fffffff)
  far ^^^ (joined >>> 1) ^^^ (if joined &&& 1 = 0 then 0 else 0x9908b0df)

def renewed (words : Array UInt32) : Array UInt32 :=
  (List.range wordCount).foldl (fun current position =>
    current.setIfInBounds position (twisted (word current position)
      (word current ((position + 1) % wordCount)) (word current ((position + middle) % wordCount))))
    words

def tempered (drawn : UInt32) : UInt32 :=
  let first := drawn ^^^ (drawn >>> 11)
  let second := first ^^^ ((first <<< 7) &&& 0x9d2c5680)
  let third := second ^^^ ((second <<< 15) &&& 0xefc60000)
  third ^^^ (third >>> 18)

def nextWord (twister : Twister) : UInt32 × Twister :=
  if twister.next < wordCount then
    (tempered (word twister.words twister.next), { twister with next := twister.next + 1 })
  else
    let words := renewed twister.words
    (tempered (word words 0), ⟨words, 1⟩)

/-- A whole number of a count of bits: full words from the least significant on, then the high bits
of one more word. -/
def bits : Nat → Twister → Nat × Twister
  | count, twister =>
      let full := (count - 1) / 32
      let (low, afterLow) := (List.range full).foldl (fun (value, state) place =>
          let (drawn, next) := state.nextWord
          (value + drawn.toNat * Nat.pow 2 (32 * place), next)) (0, twister)
      let (drawn, next) := afterLow.nextWord
      (low + (drawn.toNat >>> (32 * (full + 1) - count)) * Nat.pow 2 (32 * full), next)

/-- How often a draw that is too large is repeated at most. Each is too large with a chance below one
half, so the remainder that would be taken then is never reached in practice. -/
def repetitionBound : Nat := 4096

def belowWithin (bound : Nat) : Nat → Twister → Nat × Twister
  | 0, twister =>
      let (drawn, next) := twister.bits (bound.log2 + 1)
      (drawn % bound, next)
  | rounds + 1, twister =>
      let (drawn, next) := twister.bits (bound.log2 + 1)
      if drawn < bound then (drawn, next) else belowWithin bound rounds next

theorem below_within_lt (bound : Nat) (positive : 0 < bound) (rounds : Nat) (twister : Twister) :
    (belowWithin bound rounds twister).1 < bound := by
  induction rounds generalizing twister with
  | zero => exact Nat.mod_lt _ positive
  | succ rounds induction =>
      simp only [belowWithin]
      split
      · assumption
      · exact induction _

def drawBelow (bound : Nat) (positive : 0 < bound) (twister : Twister) : Fin bound × Twister :=
  let drawn := belowWithin bound repetitionBound twister
  (⟨drawn.1, below_within_lt bound positive repetitionBound twister⟩, drawn.2)

def drawFraction (twister : Twister) : Float × Twister :=
  let (first, afterFirst) := twister.nextWord
  let (second, next) := afterFirst.nextWord
  let high := (first >>> 5).toNat.toFloat
  let low := (second >>> 6).toNat.toFloat
  ((high * 67108864 + low) / 9007199254740992, next)

instance : RandomSource Twister where
  below bound positive := modifyGet (drawBelow bound positive)
  fraction := modifyGet drawFraction
  weighted weights := do
    let fraction ← modifyGet drawFraction
    return weightedPosition weights fraction

end Twister

end SchoolTimetable
