import Walkthrough.Text.CodeRange

/-!
# Names in short

The names of characters are long, but the next letter of a name is easy to guess from the letters
before it and from the name before.  So the list of names is stored as the digits of one number.
For every bit of the list an interval of numbers is cut in two, in proportion to how likely the bit
is to be set after what was seen in the same contexts, and the number lies in the part that belongs
to the bit.
-/

namespace Walkthrough.Text

/-! ## Digits and intervals -/

def digitCount : UInt64 := 85

/-- The weight of the first of the seven digits that are looked at, the sixth power of
`digitCount`. -/
def leadingWeight : UInt64 := 377149515625

/-- Seven digits of the number, the interval in which they lie, and the digits that follow. -/
structure Interval where
  low : UInt64
  high : UInt64
  value : UInt64
  rest : List Nat

/-- Goes on to the next digit. -/
def Interval.shift (i : Interval) : Interval where
  low := i.low % leadingWeight * digitCount
  high := i.high % leadingWeight * digitCount + (digitCount - 1)
  value := i.value % leadingWeight * digitCount + (i.rest.head?.map UInt64.ofNat).getD 0
  rest := i.rest.drop 1

/-- Passes the digits in which the ends of the interval agree, at most as many as given. -/
def Interval.settle : Nat → Interval → Interval
  | 0, i => i
  | count + 1, i =>
    if i.low / leadingWeight == i.high / leadingWeight then i.shift.settle count else i

/-- The interval of all numbers. -/
def Interval.start (digits : List Nat) : Interval where
  low := 0
  high := leadingWeight * digitCount - 1
  value := (digits.take 7).foldl (fun value digit => value * digitCount + UInt64.ofNat digit) 0
  rest := digits.drop 7

/-- Cuts an interval for a bit that is set with the given chance, in parts of 4096, and says in which
part the number lies. -/
def Interval.cut (i : Interval) (chance : UInt64) : Bool × Interval :=
  let middle := i.low + (i.high - i.low) * chance / 4096
  if i.value ≤ middle then (true, Interval.settle 7 { i with high := middle })
  else (false, Interval.settle 7 { i with low := middle + 1 })

/-! ## Guessing bits

Every context has its own opinion on a bit.  The opinions are odds, on a scale of logarithms, and
are added up with weights, which grow for the contexts that turn out to be right. -/

/-- A context with one thing more. -/
def extendContext (context thing : UInt32) : UInt32 :=
  (context + thing + 1) * 0x9e3779b1

/-- Where the opinion of a context on one thing more is kept.  Contexts may share a place. -/
def contextPlace (thing context : UInt32) : Nat :=
  let mixed := extendContext context thing
  (((mixed ^^^ (mixed >>> 15)) * 0x85ebca6b) >>> 8).toNat

/-- The logarithm of a number in parts of 256, taken to be straight between the powers of two. -/
def logarithm (n : Nat) : Nat :=
  256 * n.log2 + (n - (1 <<< n.log2)) * 256 / (1 <<< n.log2)

def oddsOfChance : Array Int32 :=
  (Array.range 4096).map fun chance =>
    Int32.ofInt (logarithm (max chance 1) - logarithm (4096 - max chance 1))

def chanceOfOdds (odds : Int64) : Int64 :=
  let size := min odds.abs 3071
  let power := (256 + size % 256) <<< (size / 256)
  let chance := 4096 * power / (power + 256)
  if odds < 0 then 4096 - chance else chance

/-- The odds in an opinion.  It has a chance in the upper 22 bits, and below how often it was tried,
up to four times. -/
def oddsOfOpinion (opinion : UInt32) : Int32 :=
  oddsOfChance[(opinion >>> 20).toNat]!

/-- An opinion after a bit was seen.  The first bits move the chance most. -/
def reviseOpinion (bit : Bool) (opinion : UInt32) : UInt32 :=
  let chance := opinion >>> 10
  let tries := opinion &&& 1023
  let chance :=
    if bit then chance + (4194303 - chance) * 8 / (8 * tries + 9)
    else chance - chance * 8 / (8 * tries + 9)
  chance <<< 10 ||| min (tries + 1) 4

/-- The sum of some odds, with the weights from a place on. -/
def addOdds (weights : Array Int32) : Nat → List Int32 → Int64 → Int64
  | _, [], total => total
  | place, odds :: rest, total =>
    addOdds weights (place + 1) rest (total + weights[place]!.toInt64 * odds.toInt64)

/-- The weights after a guess that was wrong by `error`. -/
def reviseWeights (error : Int32) : Nat → List Int32 → Array Int32 → Array Int32
  | _, [], weights => weights
  | place, odds :: rest, weights =>
    reviseWeights error (place + 1) rest
      (weights.set! place (weights[place]! + (odds * error) >>> 16))

/-- The number that is read, the opinions, and their weights: fourteen for every setting. -/
structure Decoder where
  interval : Interval
  opinions : Array UInt32
  weights : Array Int32

def Decoder.start (digits : List Nat) : Decoder :=
  ⟨.start digits, Array.replicate 0x1000000 0x80000000, Array.replicate 10752 2857⟩

/-- The next bit of a number after those in `begun`, which are a setting too. -/
@[inline]
def Decoder.bit (kind : Nat) (settings : List Nat) (contexts : List UInt32) (begun : UInt32) :
    Decoder → Bool × Decoder
  | ⟨interval, opinions, weights⟩ =>
    let sets := (begun.toNat :: settings).map fun setting => 14 * (256 * kind + setting)
    let places := contexts.map (contextPlace begun)
    let odds := places.map fun place => oddsOfOpinion opinions[place]!
    let total := sets.foldl (fun total set => addOdds weights set odds total) 0
    let chance := chanceOfOdds (total >>> 16)
    let (bit, interval) := interval.cut chance.toUInt64
    let opinions := places.foldl (fun opinions place =>
      opinions.set! place (reviseOpinion bit opinions[place]!)) opinions
    let error := ((if bit then 4096 else 0) - chance.toInt32) * 3
    let weights := sets.foldl (fun weights set => reviseWeights error set odds weights) weights
    (bit, ⟨interval, opinions, weights⟩)

/-- The number with the given count of bits that follow those in `begun`. -/
def decodeBits (kind : Nat) (settings : List Nat) (contexts : List UInt32) :
    Nat → UInt32 → Decoder → UInt32 × Decoder
  | 0, begun, decoder => (begun, decoder)
  | count + 1, begun, decoder =>
    let (bit, decoder) := decoder.bit kind settings contexts begun
    decodeBits kind settings contexts count (2 * begun + if bit then 1 else 0) decoder

/-- A number below `2 ^ count`.  A context is a list of numbers. -/
def decodeNumber (kind : Nat) (settings : List Nat) (count : Nat) (contexts : List (List UInt32)) :
    StateM Decoder Nat := do
  let contexts := contexts.mapIdx fun index things =>
    things.foldl extendContext (UInt32.ofNat (256 * index))
  let number ← decodeBits kind settings contexts count 1
  return number.toNat - (1 <<< count)

/-! ## Names -/

def nameCharacters : Array Char :=
  "ABCDEFGHIJKLMNOPQRSTUVWXYZ0123456789 -".toList.toArray

def wordAt : Nat → List Char → List Char
  | 0, name => name.takeWhile (· != ' ')
  | place + 1, name => wordAt place ((name.dropWhile (· != ' ')).drop 1)

/-- The last word of a name, backwards. -/
def lastWord (name : List Char) : List UInt32 :=
  (name.reverse.takeWhile (· != ' ')).map Char.val

/-- A name in the list, its code, and how many characters the last two names had in common with
those before them. -/
structure ListedName where
  code : Nat
  name : List Char
  kept : Nat
  keptBefore : Nat

/-- The end of a name after the name `last`: `past` are its characters so far, backwards, of which
`added` are new, and `previous` is what the last name has from here on.  Among the opinions it is kept
what followed the same five characters the last time, and how many times in a row it did. -/
def decodeName (last : ListedName) :
    Nat → Nat → List Char → List Char → StateM Decoder (List Char)
  | 0, _, past, _ => return past.reverse
  | room + 1, added, past, previous => do
    let things (characters : List Char) := characters.map Char.val
    let recent (count : Nat) := things (past.take count)
    let first : UInt32 := if added == 0 then 1 else 0
    let word := things (past.takeWhile fun c => c != ' ' && c != '-')
    let words := past.count ' '
    let firstWord := things (wordAt 0 past.reverse)
    let above := (previous.head?.map Char.val).getD 0
    let place := contextPlace 0 ((recent 5).foldl extendContext 3840)
    let run := (← get).opinions[place]!
    let seen := run >>> 4
    let times := run &&& 15
    let letter ← decodeNumber (if added == 0 then 2 else 1)
      [128 + min word.length 7, 136 + min words 3, 144 + times.toNat] 6 [recent 1 ++ [first],
        recent 2, recent 3, recent 4, recent 6, things (wordAt words last.name) ++ 0 :: word,
        above :: recent added, lastWord last.name ++ 0 :: word,
        [UInt32.ofNat last.kept, UInt32.ofNat added, above], firstWord ++ 0 :: word,
        UInt32.ofNat firstWord.length :: (firstWord.take 1 ++ recent 3),
        [UInt32.ofNat word.length, UInt32.ofNat words], [seen, times], seen :: recent 1]
    let times := if seen.toNat == letter then min (times + 1) 15 else 1
    modify fun decoder => { decoder with
      opinions := decoder.opinions.set! place (UInt32.ofNat letter <<< 4 ||| times) }
    match nameCharacters[letter]? with
    | some c => decodeName last room (added + 1) (c :: past) (previous.drop 1)
    | none => return past.reverse

/-- How many characters the next name has in common with the last one.  A gap in the codes comes
first, after a mark. -/
def decodeKept (last : ListedName) : StateM Decoder (Nat × Nat) := do
  let kept := UInt32.ofNat last.kept
  let keptBefore := UInt32.ofNat last.keptBefore
  let length := UInt32.ofNat last.name.length
  let word := lastWord last.name
  let start := length - UInt32.ofNat word.length
  let letterAt (place : Nat) := (last.name[place]?.map Char.val).getD 0
  let firstWord := (wordAt 0 last.name).map Char.val
  let contexts := [[0, kept], [0, kept, keptBefore], [0, length], [0, start, kept],
    0 :: (kept - start) :: word, [0, UInt32.ofNat (last.name.count ' '), start, length],
    0 :: start :: firstWord, 0 :: letterAt last.kept :: letterAt (last.kept + 1) :: firstWord,
    [0, letterAt last.kept, letterAt (last.name.length - 1), kept]]
  let next := decodeNumber 0 [128, 136] 7 contexts
  let number ← next
  if number < 127 then return (number, 0)
  let high ← next
  let middle ← next
  let low ← next
  return (← next, (high * 128 + middle) * 128 + low)

def decodeNext (last : ListedName) : StateM Decoder ListedName := do
  let (kept, gap) ← decodeKept last
  let name ← decodeName last 100 0 (last.name.take kept).reverse (last.name.drop kept)
  return { code := last.code + gap + 1, name, kept, keptBefore := last.kept }

/-- The code of the character with the given name among the next names. -/
def findCode? (name : List Char) : Nat → ListedName → StateM Decoder (Option Nat)
  | 0, _ => return none
  | count + 1, last => do
    let next ← decodeNext last
    if next.name == name then return some next.code else findCode? name count next

end Walkthrough.Text
