import SensorRelay.Unicode.Named

/-! # Patterns

A pattern says what is looked for in a text: characters out of sets, and places between characters,
one after the other, by choice or again and again.
-/

namespace SensorRelay.Pattern

structure View where
  before : Option Char
  after : Option Char

/-- Where a place is with regard to words. -/
inductive WordPlace
  | edge
  | noEdge
  | start
  | stop
  /-- No word ends here, and none goes on. -/
  | startHalf
  /-- No word starts here, and none goes on. -/
  | stopHalf
deriving DecidableEq, Repr

/-- What can be asked about a place. Lines end with a line feed; they can end with a carriage return
as well, which then stands alone or before a line feed. -/
inductive Look
  | textStart
  | textEnd
  | lineStart (returns : Bool)
  | lineEnd (returns : Bool)
  | word (place : WordPlace) (ascii : Bool)
deriving DecidableEq, Repr

def asciiWordChars : Unicode.CharSet := .ofTexts ["30-39 41-5a 5f 61-7a"]

def wordFinder : Unicode.CharSet.Finder := Unicode.wordChars.finder

def isWord (ascii : Bool) (c : Option Char) : Bool :=
  c.any fun c => if ascii then asciiWordChars.contains c else wordFinder.finds c.toNat

def WordPlace.holds (place : WordPlace) (before after : Bool) : Bool :=
  match place with
  | .edge => before != after
  | .noEdge => before == after
  | .start => !before && after
  | .stop => before && !after
  | .startHalf => !before
  | .stopHalf => !after

def Look.holds (view : View) : Look → Bool
  | .textStart => view.before.isNone
  | .textEnd => view.after.isNone
  | .lineStart returns =>
    view.before.all fun c => c = '\n' || (returns && c = '\r' && view.after != some '\n')
  | .lineEnd returns =>
    view.after.all fun c =>
      if returns then c = '\r' || (c = '\n' && view.before != some '\r') else c = '\n'
  | .word place ascii => place.holds (isWord ascii view.before) (isWord ascii view.after)

end SensorRelay.Pattern

namespace SensorRelay

inductive Pattern
  | empty
  | one (set : Unicode.CharSet)
  | look (look : Pattern.Look)
  /-- A pattern whose match is remembered. -/
  | group (p : Pattern)
  | both (first second : Pattern)
  | either (a b : Pattern)
  /-- A pattern again and again, at least so often, and at most so often if there is a bound. -/
  | repeated (p : Pattern) (least : Nat) (most : Option Nat)
deriving DecidableEq, Repr

namespace Pattern

/-- Does a pattern match places only, and no characters? -/
def isHollow : Pattern → Bool
  | .empty | .look _ => true
  | .one _ => false
  | .group p | .repeated p _ _ => p.isHollow
  | .both a b | .either a b => a.isHollow && b.isHollow

/-- Does each match of a pattern have a character? A set without members has no match at all, and is
not said to have one. -/
def hasCharacter : Pattern → Bool
  | .empty | .look _ => false
  | .one set => !set.isEmpty
  | .group p => p.hasCharacter
  | .repeated p least _ => least != 0 && p.hasCharacter
  | .both a b => a.hasCharacter || b.hasCharacter
  | .either a b => a.hasCharacter && b.hasCharacter

/-- A pattern again and again. What matches places only need not be repeated. -/
def times (p : Pattern) (least : Nat) (most : Option Nat) : Pattern :=
  let least := if p.isHollow then min least 1 else least
  let most := if p.isHollow then some (min 1 (most.getD 1)) else most
  if most = some 0 then .empty
  else if least = 1 ∧ most = some 1 then p
  else .repeated p least most

def parts : Pattern → List Pattern
  | .empty => []
  | .both a b => a.parts ++ b.parts
  | p => [p]

/-- Patterns put together, from the last one on. -/
def joined (join : Pattern → Pattern → Pattern) : List Pattern → Pattern
  | [] => .empty
  | [p] => p
  | p :: rest => join p (joined join rest)

def sequence (patterns : List Pattern) : Pattern := joined .both (patterns.flatMap parts)

def character? : Pattern → Option Nat
  | .one set => set.only?
  | _ => none

/-- The members of a set that has more than one, or none. -/
def members? : Pattern → Option Unicode.CharSet
  | .one set => if set.only?.isNone then some set else none
  | _ => none

/-- The set that a choice between patterns comes to, if each of them is a character, or each a
set. -/
def setOf? (patterns : List Pattern) : Option Unicode.CharSet :=
  ((patterns.mapM character?).map fun codes => .ofRanges (codes.map fun code => (code, code))) <|>
    (patterns.mapM members?).map fun sets => .ofRanges (sets.flatMap (·.ranges))

def choices : Pattern → List Pattern
  | .either a b => a.choices ++ b.choices
  | p => [p]

def anyOf (patterns : List Pattern) : Pattern :=
  let patterns := patterns.flatMap choices
  match setOf? patterns with
  | some set => .one set
  | none => joined .either patterns

/-- The parts of a pattern, where characters that follow each other are one part. -/
def runs (p : Pattern) : List (List Pattern) :=
  p.parts.splitBy fun a b => a.character?.isSome && b.character?.isSome

/-- The elements with which two lists start alike. -/
def commonStart {α : Type} [DecidableEq α] : List α → List α → List α
  | a :: as, b :: bs => if a = b then a :: commonStart as bs else []
  | _, _ => []

/-- A choice between patterns. What all of them start with stands before it, if each of them has
more than one part. -/
def choice (patterns : List Pattern) : Pattern :=
  let lists := (patterns.flatMap choices).map runs
  let start := match lists with
    | first :: second :: rest => (second :: rest).foldl commonStart first
    | _ => []
  if start.isEmpty || lists.any (·.length < 2) then anyOf patterns
  else sequence (start.flatten ++ [anyOf (lists.map fun list =>
    sequence (list.drop start.length).flatten)])

end Pattern

end SensorRelay
