import SensorRelay.Numeral
import SensorRelay.Pattern.Basic

/-! # The size of patterns

An automaton reads the bytes of a text, forwards to find where a match ends, and backwards to find
where it starts. A pattern has a size for either direction: the memory of the automaton for it. It
is the number of states, and of the ways between them where a state can have many.
-/

namespace SensorRelay.Pattern

open Unicode (CharSet)

inductive Direction
  | forwards
  | backwards
deriving DecidableEq, Repr

/-- The bytes of a state. -/
def stateSize : Nat := 32

def waySize : Nat := 4

/-- The bytes of a way to another state for a range of bytes. -/
def rangedWaySize : Nat := 8

/-- The bytes of what an automaton has besides the states for a pattern. -/
def frameSize : Direction → Nat
  | .forwards => 208
  | .backwards => 144

def mostBytes : Nat := 10 * 2 ^ 20

def width (code : Nat) : Nat :=
  if code ≤ 0x7f then 1 else if code ≤ 0x7ff then 2 else if code ≤ 0xffff then 3 else 4

def bytesOf (code : Nat) : List Nat :=
  let count := width code
  let lead := [0, 0xc0, 0xe0, 0xf0].getD (count - 1) 0
  (lead + code / 64 ^ (count - 1)) ::
    (List.range (count - 1)).reverse.map fun place => 0x80 + code / 64 ^ place % 64

def divideAfter : List Nat → Nat × Nat → List (Nat × Nat)
  | [], range => [range]
  | code :: codes, (first, last) =>
    if first ≤ code ∧ code < last then (first, code) :: divideAfter codes (code + 1, last)
    else divideAfter codes (first, last)

/-- Divides a range into blocks of equal bytes but for the last ones. In each part the bytes after
the first one that varies take all values. -/
def divideBlocks : Nat → Nat × Nat → List (Nat × Nat)
  | 0, range => [range]
  | places + 1, (first, last) =>
    let block := 64 ^ (places + 1)
    if first / block = last / block then divideBlocks places (first, last)
    else
      let start := (first + block - 1) / block * block
      let stop := (last + 1) / block * block
      (if first < start then divideBlocks places (first, start - 1) else []) ++
        (if start < stop then [(start, stop - 1)] else []) ++
        if stop ≤ last then divideBlocks places (stop, last) else []

/-- The characters of a range as rows of ranges of bytes. -/
def byteRows (range : Nat × Nat) : List (List (Nat × Nat)) :=
  (divideAfter [0x7f, 0x7ff, 0xffff] range).flatMap fun part =>
    (divideBlocks (width part.1 - 1) part).map fun (first, last) =>
      (bytesOf first).zip (bytesOf last)

variable {α : Type} [DecidableEq α]

/-- A tree of rows: what follows each start of so many elements. Rows that start alike come one
after the other. -/
def nodesAt (rows : List (List α)) (depth : Nat) : List (List (List α)) :=
  let groups := (rows.filter (depth ≤ ·.length)).splitBy fun a b => a.take depth == b.take depth
  (groups.map fun group => group.map (·.drop depth)).filter fun node => node.any (!·.isEmpty)

def nodes (rows : List (List α)) : List (List (List α)) :=
  (List.range ((rows.map List.length).foldl max 0)).flatMap (nodesAt rows)

def ways (node : List (List α)) : Nat :=
  ((node.filterMap List.head?).splitBy fun a b => a == b).length

/-- The size of a set. Forwards, nodes after which the same follows are one state. -/
def setSize (direction : Direction) (set : CharSet) : Nat :=
  match set.only? with
  | some code => stateSize * width code
  | none =>
    if set.isEmpty then stateSize
    else if set.isAscii then 2 * stateSize + rangedWaySize * set.ranges.length
    else
      let rows := set.ranges.flatMap byteRows
      match direction with
      | .forwards =>
        stateSize +
          ((nodes rows).eraseDups.map fun node => stateSize + rangedWaySize * ways node).sum
      | .backwards =>
        2 * stateSize + waySize * rows.length + stateSize * ((nodes rows).map ways).sum

/-- The bytes of a text, if a pattern stands for just that text. -/
def literal? (p : Pattern) : Option (List Nat) := do
  let codes ← p.parts.mapM character?
  if codes.isEmpty then none else some (codes.flatMap bytesOf)

def literalsSize (direction : Direction) (literals : List (List Nat)) : Nat :=
  let rows := match direction with
    | .forwards => literals
    | .backwards => literals.map List.reverse
  let nodeSize (node : List (List Nat)) : Nat :=
    2 * stateSize + (if 1 < ways node then rangedWaySize * ways node else 0) +
      waySize * if node.contains [] then 2 else 1
  stateSize + ((nodes (rows.mergeSort fun a b => !b.lex a fun x y => x < y)).map nodeSize).sum

/-- The size of a pattern again and again, from the size of the pattern. -/
def repeatedSize (p : Pattern) (size least : Nat) : Option Nat → Nat
  | none =>
    if least = 0 ∧ !p.hasCharacter then size + 3 * stateSize + 4 * waySize
    else max 1 least * size + stateSize + 2 * waySize
  | some most =>
    let more := (most - least) * (size + stateSize + 2 * waySize)
    if least = 0 ∧ most = 1 then more + stateSize
    else if least = most then least * size
    else if least = 0 then more + 2 * stateSize
    else least * size + more + stateSize

/-- The size of a pattern, either alone or as one or more of the patterns of a choice. There a way
leads to each pattern. -/
def size (direction : Direction) (chosen : Bool) : Pattern → Nat
  | .empty | .look _ => stateSize + way
  | .one set => setSize direction set + way
  | .group p =>
    let marks := match direction with
      | .forwards => 2 * stateSize
      | .backwards => 0
    size direction false p + marks + way
  | .both a b => size direction false a + size direction false b + way
  | .either a b =>
    match if chosen then none else (a.choices ++ b.choices).mapM literal? with
    | some literals => literalsSize direction literals
    | none =>
      let fork := if chosen then 0 else 2 * stateSize
      size direction true a + size direction true b + fork
  | .repeated p least most => repeatedSize p (size direction false p) least most + way
where
  way : Nat := if chosen then waySize else 0

/-- Can there be an automaton for a pattern in both directions? -/
def isSmall (p : Pattern) : Bool :=
  [Direction.forwards, .backwards].all fun direction =>
    frameSize direction + size direction false p ≤ mostBytes

end SensorRelay.Pattern
