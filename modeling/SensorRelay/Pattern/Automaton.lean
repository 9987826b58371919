import SensorRelay.Pattern.Reader
import SensorRelay.Pattern.Size

/-! # Automata

An automaton looks for a pattern in a text. It takes one character after the other, and is in many
states at once: in each state to which a part of the text that ends at its place can lead. At every
place it starts again.
-/

namespace SensorRelay.Pattern

/-- What an automaton does in a state, and the states after that. -/
inductive State
  | found
  | read (set : Unicode.CharSet.Finder) (next : Nat)
  | look (look : Look) (next : Nat)
  | fork (a b : Nat)
deriving DecidableEq, Repr

structure Automaton where
  states : Array State
  start : Nat
deriving DecidableEq, Repr

namespace Automaton

def add (automaton : Automaton) (state : State) : Automaton :=
  let number := automaton.states.size
  ⟨automaton.states.push state, number⟩

/-- An automaton for a pattern before what another one looks for. -/
def before : Pattern → Automaton → Automaton
  | .empty, after => after
  | .one set, after => after.add (.read set.finder after.start)
  | .look asked, after => after.add (.look asked after.start)
  | .group p, after => before p after
  | .both a b, after => before a (before b after)
  | .either a b, after =>
    let next := after.start
    let first := before a after
    let start := first.start
    let second := before b ⟨first.states, next⟩
    let other := second.start
    second.add (.fork start other)
  | .repeated p least none, after =>
    let next := after.start
    -- The state of the loop stays open until the states inside the loop are known.
    let loop := after.states.size
    let inside := before p (after.add .found)
    let states := inside.states.setIfInBounds loop (.fork inside.start next)
    Nat.repeat (before p) least ⟨states, loop⟩
  | .repeated p least (some most), after =>
    let next := after.start
    let optional (rest : Automaton) : Automaton :=
      let inside := before p rest
      let start := inside.start
      inside.add (.fork start next)
    Nat.repeat (before p) least (Nat.repeat optional (most - least) after)

def ofPattern (p : Pattern) : Automaton := before p ⟨#[.found], 0⟩

structure Reached where
  /-- For each state the number of the last place at which it was reached. -/
  marks : Array Nat
  /-- The states that wait for a character, with their sets. -/
  waiting : List (Unicode.CharSet.Finder × Nat) := []
  isFound : Bool := false

/-- Goes on to all states that some states lead to without a character. Each round takes one state,
and a state that is reached for the first time leads to at most two more. -/
def reach (automaton : Automaton) (view : View) (place : Nat) : Nat → List Nat → Reached → Reached
  | 0, _, reached | _, [], reached => reached
  | rounds + 1, number :: others, ⟨marks, waiting, isFound⟩ =>
    if marks.getD number place = place then
      automaton.reach view place rounds others ⟨marks, waiting, isFound⟩
    else
      let marks := marks.setIfInBounds number place
      match automaton.states.getD number .found with
      | .found => ⟨marks, waiting, true⟩
      | .read set next =>
        automaton.reach view place rounds others ⟨marks, (set, next) :: waiting, isFound⟩
      | .look asked next =>
        automaton.reach view place rounds (if asked.holds view then next :: others else others)
          ⟨marks, waiting, isFound⟩
      | .fork a b => automaton.reach view place rounds (a :: b :: others) ⟨marks, waiting, isFound⟩

def search (automaton : Automaton) (before : Option Char) (place : Nat) (numbers : List Nat)
    (marks : Array Nat) (text : List Char) : Bool :=
  let numbers := automaton.start :: numbers
  let rounds := numbers.length + 2 * automaton.states.size
  let reached := automaton.reach ⟨before, text.head?⟩ place rounds numbers { marks }
  match text with
  | [] => reached.isFound
  | c :: rest =>
    reached.isFound ||
      let numbers := reached.waiting.filterMap fun (set, next) =>
        if set.finds c.toNat then some next else none
      automaton.search (some c) (place + 1) numbers reached.marks rest

def finds (automaton : Automaton) (text : String) : Bool :=
  automaton.search none 1 [] (.replicate automaton.states.size 0) text.toList

end Automaton

def readAutomaton (text : List Char) : Option Automaton := do
  let pattern ← read text
  if pattern.isSmall then some (.ofPattern pattern) else none

end SensorRelay.Pattern
