import SensorRelay.Text.Blank

/-! # Sets of characters

A set of characters is a list of ranges of code points, in rising order and with a gap between any
two of them. Surrogates are code points, but no characters: they are in no set.
-/

namespace SensorRelay.Unicode

def lastCode : Nat := 0x10ffff

structure CharSet where
  ranges : List (Nat × Nat) := []
deriving DecidableEq, Repr

namespace CharSet

/-- The characters of a range, which lie below the surrogates and above them. -/
def characters (range : Nat × Nat) : List (Nat × Nat) :=
  [(range.1, min range.2 0xd7ff), (max range.1 0xe000, range.2)].filter fun part =>
    part.1 ≤ part.2

/-- Joins ranges that overlap or touch. They come in the order of their starts. -/
def joinOnto (current : Nat × Nat) : List (Nat × Nat) → List (Nat × Nat)
  | [] => [current]
  | next :: rest =>
    if next.1 ≤ current.2 + 1 then joinOnto (current.1, max current.2 next.2) rest
    else current :: joinOnto next rest

/-- The characters in ranges that come in the order of their starts. -/
def ofSorted : List (Nat × Nat) → CharSet
  | [] => {}
  | first :: rest => ⟨joinOnto first rest⟩

/-- The characters in any of some ranges. -/
def ofRanges (ranges : List (Nat × Nat)) : CharSet :=
  ofSorted ((ranges.flatMap characters).mergeSort fun a b => a.1 ≤ b.1)

def single (c : Char) : CharSet := ⟨[(c.toNat, c.toNat)]⟩

/-- What lies between the ranges of a set, from a code point on. -/
def gaps (next : Nat) : List (Nat × Nat) → List (Nat × Nat)
  | [] => if next ≤ lastCode then [(next, lastCode)] else []
  | (first, last) :: rest =>
    if next < first then (next, first - 1) :: gaps (last + 1) rest else gaps (last + 1) rest

/-- All characters that are not in a set. -/
def complement (set : CharSet) : CharSet := ofRanges (gaps 0 set.ranges)

def all : CharSet := complement {}

def union (a b : CharSet) : CharSet := ofSorted (a.ranges.merge b.ranges fun a b => a.1 ≤ b.1)

def inter (a b : CharSet) : CharSet := (a.complement.union b.complement).complement

def diff (a b : CharSet) : CharSet := a.inter b.complement

/-- The characters that are in just one of two sets. -/
def symmDiff (a b : CharSet) : CharSet := (a.diff b).union (b.diff a)

def isEmpty (set : CharSet) : Bool := set.ranges.isEmpty

/-- Is a set part of ASCII? -/
def isAscii (set : CharSet) : Bool := set.ranges.all fun range => range.2 ≤ 0x7f

/-- The only member of a set, if there is just one. -/
def only? (set : CharSet) : Option Nat :=
  match set.ranges with
  | [(first, last)] => if first = last then some first else none
  | _ => none

/-- A set that is ready for many questions. -/
structure Finder where
  ranges : Array (Nat × Nat)
deriving DecidableEq, Repr

def finder (set : CharSet) : Finder := ⟨set.ranges.toArray⟩

/-- Is a code point in a range from number `low` on and before number `high`? Each round leaves at
most half of these ranges. -/
def Finder.findsAmong (finder : Finder) (code : Nat) : Nat → Nat → Nat → Bool
  | 0, _, _ => false
  | rounds + 1, low, high =>
    let middle := (low + high) / 2
    match finder.ranges[middle]? with
    | none => false
    | some (first, last) =>
      if high ≤ low then false
      else if code < first then finder.findsAmong code rounds low middle
      else if last < code then finder.findsAmong code rounds (middle + 1) high
      else true

def Finder.finds (finder : Finder) (code : Nat) : Bool :=
  finder.findsAmong code finder.ranges.size 0 finder.ranges.size

def contains (set : CharSet) (c : Char) : Bool :=
  set.ranges.any fun range => range.1 ≤ c.toNat && c.toNat ≤ range.2

end CharSet

/-- The number that hexadecimal digits stand for. Letters are small. -/
def hexadecimal (digits : List Char) : Nat :=
  digits.foldl (fun n c => n * 16 + (c.toNat - if c ≤ '9' then 48 else 87)) 0

/-- A range that is written as its ends with a dash between them, or as its only member. -/
def rangeOfText? (text : List Char) : Option (Nat × Nat) :=
  match Text.pieces '-' text with
  | [only] => some (hexadecimal only, hexadecimal only)
  | [first, last] => some (hexadecimal first, hexadecimal last)
  | _ => none

/-- A set that is written as ranges with spaces between them, in one or more texts. -/
def CharSet.ofTexts (texts : List String) : CharSet :=
  .ofRanges ((texts.flatMap fun text => Text.pieces ' ' text.toList).filterMap rangeOfText?)

/-- Sets that are written as texts, each with its names. -/
abbrev Table := List (List String × List String)

namespace Table

def entry? (table : Table) (name : String) : Option (List String × List String) :=
  table.find? fun entry => entry.1.contains name

def find? (table : Table) (name : String) : Option CharSet :=
  (table.entry? name).map fun entry => .ofTexts entry.2

/-- The characters in any of the sets with some names. -/
def unionOf (table : Table) (names : List String) : CharSet :=
  .ofRanges ((names.filterMap table.find?).flatMap CharSet.ranges)

end Table

end SensorRelay.Unicode
