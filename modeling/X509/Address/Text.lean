/-
**The text of addresses and networks.**

An address of version 4 is four decimal numbers with dots between them. One of version 6 is eight
hexadecimal groups with colons between them; the first longest run of at least two zero groups is
left out, and an address that embeds one of version 4 ends in its text. A network is an address, a
slash and the number of shared bits.

Reading takes any run of zero groups left out, and an address of version 4 in place of the last two
groups. How freely the rest may be spelled differs: an address by itself has no leading zeros in its
decimal numbers, and its two colons stand for one group at least; in a network leading zeros are
read, and two colons may stand for no group at all.
-/

import X509.Address.Basic
import X509.Octets.HexText
import X509.Text.Decimal
import X509.Text.Split

namespace X509.IpAddress

/-! ### Writing -/

/-- The four octets of an address with dots between them. -/
def dotted (bits : BitVec 32) : List Char :=
  Text.join ['.'] ((Octets.ofNatFixed 4 bits.toNat).map fun octet => Nat.toDigits 10 octet.toNat)

/-- The eight groups of an address. -/
def groups (bits : BitVec 128) : List Nat :=
  (List.range 8).reverse.map fun place => bits.toNat >>> (16 * place) % 65536

/-- The number of zero groups from one place on. -/
def zerosFrom (groups : List Nat) (start : Nat) : Nat :=
  ((groups.drop start).takeWhile (· == 0)).length

/-- Where the first longest run of zero groups starts. -/
def longestZeros (groups : List Nat) : Nat :=
  (List.range groups.length).foldl
    (fun best start => if zerosFrom groups best < zerosFrom groups start then start else best) 0

/-- Groups in hexadecimal with colons between them. -/
def colonGroups (groups : List Nat) : List Char :=
  Text.join [':'] (groups.map (Nat.toDigits 16))

/-- The text of an address of version 6. -/
def colonText (bits : BitVec 128) : List Char :=
  let all := groups bits
  if bits.toNat >>> 32 = 0xffff then
    "::ffff:".toList ++ dotted (bits.truncate 32)
  else
    let start := longestZeros all
    let count := zerosFrom all start
    if 1 < count then
      colonGroups (all.take start) ++ [':', ':'] ++ colonGroups (all.drop (start + count))
    else
      colonGroups all

/-- The text of an address. -/
def toText : IpAddress → String
  | .v4 bits => String.ofList (dotted bits)
  | .v6 bits => String.ofList (colonText bits)

/-! ### Reading -/

/-- The digits at the start of a text by their values, and what follows them. -/
def digitRun (digit? : Char → Option Nat) : List Char → List Nat × List Char
  | [] => ([], [])
  | c :: rest =>
    match digit? c with
    | some digit => let (digits, rest) := digitRun digit? rest; (digit :: digits, rest)
    | none => ([], c :: rest)

/-- The value of a decimal digit. -/
def decimalDigit? (c : Char) : Option Nat :=
  if c.isDigit then some (c.toNat - '0'.toNat) else none

/-- How freely a text may be spelled. -/
structure Spelling where
  /-- Whether decimal numbers may have leading zeros. -/
  leadingZeros : Bool
  /-- The fewest groups that two colons stand for. -/
  fewestOmitted : Nat
deriving DecidableEq, Repr

/-- The spelling of an address by itself. -/
def Spelling.strict : Spelling :=
  { leadingZeros := false, fewestOmitted := 1 }

/-- The spelling of an address in a network, and of the number after it. -/
def Spelling.lenient : Spelling :=
  { leadingZeros := true, fewestOmitted := 0 }

/-- A decimal number up to `most`, of no more digits than that has. -/
def decimal? (spelling : Spelling) (most : Nat) (text : List Char) : Option (Nat × List Char) :=
  let (digits, rest) := digitRun decimalDigit? text
  let value := digits.foldl (fun value digit => value * 10 + digit) 0
  let padded := digits.head? == some 0 && 1 < digits.length
  if digits.isEmpty || (Nat.toDigits 10 most).length < digits.length ||
      (padded && !spelling.leadingZeros) || most < value then
    none
  else
    some (value, rest)

/-- A hexadecimal group of at most four digits. -/
def group? (text : List Char) : Option (Nat × List Char) :=
  let (digits, rest) := digitRun Octets.hexDigit? text
  if digits.isEmpty || 4 < digits.length then
    none
  else
    some (digits.foldl (fun value digit => value * 16 + digit) 0, rest)

/-- What follows a character at the start of a text. -/
def after? (c : Char) : List Char → Option (List Char)
  | d :: rest => if d = c then some rest else none
  | [] => none

/-- An address of version 4 at the start of a text. -/
def v4? (spelling : Spelling) (text : List Char) : Option (BitVec 32 × List Char) := do
  let (a, text) ← decimal? spelling 255 text
  let text ← after? '.' text
  let (b, text) ← decimal? spelling 255 text
  let text ← after? '.' text
  let (c, text) ← decimal? spelling 255 text
  let text ← after? '.' text
  let (d, text) ← decimal? spelling 255 text
  pure (BitVec.ofNat 32 (((a * 256 + b) * 256 + c) * 256 + d), text)

/-- What some groups at the start of a text turned out to be. -/
structure GroupRun where
  groups : List Nat
  /-- Whether the last two groups were an address of version 4. -/
  embedded : Bool
  rest : List Char

/-- Up to `limit` groups with colons between them, and before the first one unless it `isFirst`. -/
def groupRun (spelling : Spelling) : (limit : Nat) → (isFirst : Bool) → List Char → GroupRun
  | 0, _, text => { groups := [], embedded := false, rest := text }
  | limit + 1, isFirst, text =>
    let start := if isFirst then some text else after? ':' text
    match if 0 < limit then start.bind (v4? spelling) else none with
    | some (bits, rest) =>
      { groups := [bits.toNat / 65536, bits.toNat % 65536], embedded := true, rest }
    | none =>
      match start.bind group? with
      | some (group, rest) =>
        let run := groupRun spelling limit false rest
        { run with groups := group :: run.groups }
      | none => { groups := [], embedded := false, rest := text }

/-- The address with these eight groups. -/
def ofGroups (groups : List Nat) : BitVec 128 :=
  BitVec.ofNat 128 (groups.foldl (fun value group => value * 65536 + group) 0)

/-- An address of version 6 at the start of a text. -/
def v6? (spelling : Spelling) (text : List Char) : Option (BitVec 128 × List Char) :=
  let head := groupRun spelling 8 true text
  if head.groups.length = 8 then
    some (ofGroups head.groups, head.rest)
  else if head.embedded then
    none
  else do
    let text ← after? ':' head.rest
    let text ← after? ':' text
    let tail := groupRun spelling (8 - head.groups.length - spelling.fewestOmitted) true text
    let zeros := List.replicate (8 - head.groups.length - tail.groups.length) 0
    pure (ofGroups (head.groups ++ zeros ++ tail.groups), tail.rest)

/-- The address that a text spells. -/
def ofText? (text : List Char) : Option IpAddress :=
  match v4? .strict text with
  | some (bits, rest) => if rest.isEmpty then some (.v4 bits) else none
  | none =>
    match v6? .strict text with
    | some (bits, rest) => if rest.isEmpty then some (.v6 bits) else none
    | none => none

end X509.IpAddress

namespace X509.IpNetwork

/-- The text of a network. -/
def toText (network : IpNetwork) : String :=
  network.address.toText ++ "/" ++ toString network.ones

/-- The network of an address and the text after it: a slash and the number of shared bits. -/
def shared? {width : Nat} (address : BitVec width) (text : List Char) : Option (Network width) := do
  let text ← IpAddress.after? '/' text
  let (ones, rest) ← IpAddress.decimal? .lenient width text
  if bound : ones ≤ width then
    if rest.isEmpty then some { address, ones, ones_le := bound } else none
  else
    none

/-- The network that a text spells. -/
def ofText? (text : List Char) : Option IpNetwork :=
  match IpAddress.v4? .lenient text with
  | some (bits, rest) => (shared? bits rest).map .v4
  | none =>
    match IpAddress.v6? .lenient text with
    | some (bits, rest) => (shared? bits rest).map .v6
    | none => none

end X509.IpNetwork
