/-
**The SHA-1 digest.**

The message is padded to a multiple of 64 octets with a one bit, zeros and its length in bits, and
each block of 64 octets is mixed into five words of 32 bits in eighty rounds.

* `Sha1.length_padded` — a padded message is whole blocks.
* `Sha1.length_digest` — a digest has twenty octets.
-/

import X509.Octets

namespace X509.Sha1

/-- The five words that the blocks are mixed into. -/
structure State where
  a : UInt32
  b : UInt32
  c : UInt32
  d : UInt32
  e : UInt32
deriving DecidableEq, Repr

/-- The words before the first block. -/
def initial : State :=
  { a := 0x67452301, b := 0xefcdab89, c := 0x98badcfe, d := 0x10325476, e := 0xc3d2e1f0 }

/-- A word with its bits turned to the left. -/
def turn (word count : UInt32) : UInt32 :=
  (word <<< count) ||| (word >>> (32 - count))

/-- The octets that follow a message of `length` octets. -/
def padding (length : Nat) : Octets :=
  0x80 :: List.replicate ((119 - length % 64) % 64) 0 ++ Octets.ofNatFixed 8 (length * 8)

/-- The big-endian words of some octets. -/
def words : Octets → List UInt32
  | a :: b :: c :: d :: rest =>
    (a.toUInt32 <<< 24 ||| b.toUInt32 <<< 16 ||| c.toUInt32 <<< 8 ||| d.toUInt32) :: words rest
  | _ => []

/-- The octets of a word. -/
def wordOctets (word : UInt32) : Octets :=
  [(word >>> 24).toUInt8, (word >>> 16).toUInt8, (word >>> 8).toUInt8, word.toUInt8]

/-- The next `count` words of a schedule whose last sixteen words are given, oldest first. -/
def schedule : (count : Nat) → List UInt32 → List UInt32
  | 0, _ => []
  | count + 1, recent =>
    let word := turn (recent.getD 13 0 ^^^ recent.getD 8 0 ^^^ recent.getD 2 0 ^^^ recent.getD 0 0) 1
    word :: schedule count (recent.drop 1 ++ [word])

/-- One round: the function and the constant change after every twentieth. -/
def round (state : State) (step : Nat × UInt32) : State :=
  let { a, b, c, d, e } := state
  let (mixed, constant) : UInt32 × UInt32 :=
    if step.1 < 20 then ((b &&& c) ||| (~~~b &&& d), 0x5a827999)
    else if step.1 < 40 then (b ^^^ c ^^^ d, 0x6ed9eba1)
    else if step.1 < 60 then ((b &&& c) ||| (b &&& d) ||| (c &&& d), 0x8f1bbcdc)
    else (b ^^^ c ^^^ d, 0xca62c1d6)
  { a := turn a 5 + mixed + e + constant + step.2, b := a, c := turn b 30, d := c, e := d }

/-- A block of sixteen words, mixed in. -/
def mixBlock (state : State) (block : List UInt32) : State :=
  let steps := (List.range 80).zip (block ++ schedule 64 block)
  let mixed := steps.foldl round state
  { a := state.a + mixed.a, b := state.b + mixed.b, c := state.c + mixed.c,
    d := state.d + mixed.d, e := state.e + mixed.e }

/-- Blocks of sixteen words, mixed in one after the other. -/
def mixBlocks (state : State) (words : List UInt32) : State :=
  if words.length < 16 then state else mixBlocks (mixBlock state (words.take 16)) (words.drop 16)
termination_by words.length
decreasing_by simp only [List.length_drop]; omega

/-- The digest of a message. -/
def digest (message : Octets) : Octets :=
  let { a, b, c, d, e } := mixBlocks initial (words (message ++ padding message.length))
  [a, b, c, d, e].flatMap wordOctets

/-- **A padded message is whole blocks.** -/
theorem length_padded (message : Octets) :
    (message ++ padding message.length).length % 64 = 0 := by
  simp only [padding, Octets.ofNatFixed, List.length_append, List.length_cons,
    List.length_replicate, List.length_map, List.length_reverse, List.length_range]
  omega

theorem length_digest (message : Octets) : (digest message).length = 20 := rfl

end X509.Sha1
