-- Filters of a log. A filter is a list of rules, each for all parts of the
-- program or for those whose names start in one way. The rule with the
-- longest start decides about a record. A text that is no filter, and no
-- text at all, let warnings and errors through.
import ResultGateway.Log
import ResultGateway.Text.Blank
import ResultGateway.Text.Decimal

namespace ResultGateway.Log

/-! ## Levels as text -/

/-- The greatest rank that passes; a filter that passes nothing has rank 0. -/
abbrev Limit := Nat

def levelNames : List (String × Limit) :=
  [("off", 0), ("error", 1), ("warn", 2), ("info", 3), ("debug", 4), ("trace", 5)]

/-- A level by its name, in any case of letters, or by its rank. -/
def limitOfText? (s : String) : Option Limit :=
  let cs := s.toList
  if !cs.isEmpty && cs.all Text.isDigit then
    if Text.ofDigits cs ≤ Level.trace.rank then some (Text.ofDigits cs) else none
  else
    let lower := String.ofList (cs.map Char.toLower)
    (levelNames.find? fun entry => entry.1 == lower).map Prod.snd

/-! ## Rules -/

structure Rule where
  /-- How the names of the parts start that the rule is for. -/
  start : Option String
  limit : Limit
deriving DecidableEq, Repr

/-- A character that a rule may start with. -/
def isRuleStart (c : Char) : Bool :=
  c.isAlphanum || c == '-' || c == ':' || c == '_' || 0x80 ≤ c.toNat

/-- A rule that gives a level behind a name. Where the level is empty, all passes. -/
def Rule.named? (name level : List Char) : Option Rule :=
  if name.head?.any Text.isBlank then none
  else if level.isEmpty then some ⟨some (String.ofList name), Level.trace.rank⟩
  else (limitOfText? (String.ofList level)).map fun limit => ⟨some (String.ofList name), limit⟩

/-- The rule of a text: a level, a name, or a name and a level. A name alone lets all pass. -/
def Rule.ofText? (s : String) : Option Rule :=
  let cs := s.toList
  if !(cs.dropWhile Text.isBlank).head?.any isRuleStart || cs.contains '[' then none
  else
    match cs.dropWhile (· != '=') with
    | [] =>
      match limitOfText? s with
      | some limit => some ⟨none, limit⟩
      | none => some ⟨some s, Level.trace.rank⟩
    | _ :: level => Rule.named? (cs.takeWhile (· != '=')) level

/-! ## Filters -/

abbrev Filter := List Rule

/-- The filter of a text: its rules between commas. With no rule, only errors pass. -/
def Filter.ofText? (s : String) : Option Filter :=
  match (s.splitOn ",").filter (· != "") with
  | [] => some [⟨none, Level.error.rank⟩]
  | rules => rules.mapM Rule.ofText?

/-- The filter that holds where none is given. -/
def Filter.standard : Filter := [⟨none, Level.warn.rank⟩]

def Filter.ofSetting (setting : Option String) : Filter :=
  ((setting >>= Filter.ofText?).getD Filter.standard)

def Origin.name : Origin → String
  | client => "graphery_client"
  | command => "graphery"

/-- Whether a rule is for a part, and how well it fits. -/
def Rule.fit? (rule : Rule) (origin : Origin) : Option Nat :=
  match rule.start with
  | none => some 0
  | some start =>
    if start.toList.isPrefixOf origin.name.toList then some (start.length + 1) else none

/-- The limit of the best rule for a part; of two that fit alike the last counts. -/
def Filter.limit (filter : Filter) (origin : Origin) : Limit :=
  (filter.foldl (fun best rule =>
    match rule.fit? origin with
    | none => best
    | some fit => if best.1 ≤ fit then (fit, rule.limit) else best) (0, 0)).2

def Filter.passes (filter : Filter) (r : Record) : Bool :=
  r.level.rank ≤ filter.limit r.origin

end ResultGateway.Log
