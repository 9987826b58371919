import SensorRelay.Log.Record
import SensorRelay.Pattern.Automaton

/-! # What is kept of a log

A selection has rules, each with a limit for the records whose target starts with a name. Of the
rules for a target the one with the longest name counts. Besides, a selection can ask for a pattern
in the message.
-/

namespace SensorRelay.Log

/-- A limit for the targets that start with a name. All targets start with the empty one. -/
structure Rule where
  name : String := ""
  limit : Limit
deriving DecidableEq, Repr

namespace Rule

def covers (rule : Rule) (target : String) : Bool :=
  rule.name.toList.isPrefixOf target.toList

/-- A rule from its parts on both sides of an equals sign. A limit alone is one for all targets, and
a name without a limit has the highest one. -/
def ofParts? : List (List Char) → Option Rule
  | [part] =>
    match Limit.parse? (String.ofList part) with
    | some limit => some { limit }
    | none => named? part (.upTo .trace)
  | [name, []] => named? name (.upTo .trace)
  | [name, limit] => (Limit.parse? (String.ofList limit)).bind (named? name)
  | _ => none
where
  /-- A rule for a name, in which no blanks are allowed. -/
  named? (name : List Char) (limit : Limit) : Option Rule :=
    if name.any Text.isBlank then none else some ⟨String.ofList name, limit⟩

end Rule

structure Selection where
  rules : List Rule
  pattern : Option Pattern.Automaton := none
deriving DecidableEq, Repr

namespace Selection

def ofLimit (limit : Limit) : Selection := { rules := [{ limit }] }

/-- The rule that counts for a target: of those with the longest name, the first. -/
def rule? (selection : Selection) (target : String) : Option Rule :=
  (selection.rules.filter (·.covers target)).foldl
    (fun found rule =>
      match found with
      | some best => if best.name.length < rule.name.length then some rule else some best
      | none => some rule)
    none

def limit (selection : Selection) (target : String) : Limit :=
  ((selection.rule? target).map (·.limit)).getD .off

/-- Is a record with a level, a target and a message kept? -/
def admits (selection : Selection) (level : Level) (target message : String) : Bool :=
  (selection.limit target).admits level && selection.pattern.all (·.finds message)

/-- The rules between the commas of a text. Nothing between two commas is no rule. -/
def rules? (text : List Char) : Option (List Rule) :=
  let parts := ((Text.pieces ',' text).map Text.trim).filter (!·.isEmpty)
  parts.mapM fun part => Rule.ofParts? ((Text.pieces '=' part).map Text.trim)

/-- Reads a selection: rules, and perhaps a slash with a pattern after it. -/
def parse? (text : String) : Option Selection :=
  match Text.pieces '/' text.toList with
  | [rules] => (rules? rules).map fun rules => { rules }
  | [rules, pattern] => do
    return { rules := ← rules? rules, pattern := some (← Pattern.readAutomaton pattern) }
  | _ => none

end Selection

end SensorRelay.Log
