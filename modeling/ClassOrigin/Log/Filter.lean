/-
Log filters: which messages are let through.

A filter is a map from targets to thresholds, with at most one threshold for messages that no
target applies to. It is written as a list of items `target=level`, `level` or `target` between
commas, where a later item for the same target replaces an earlier one. Blanks belong to the item
they stand in. A target applies to every message target that starts with it, and the longest one
that applies decides.

* **`LogFilter.parse?`** reads a list of items, **`LogFilter.render`** writes a filter;
* **`LogFilter.layered`** puts the items of the environment over the configured level;
* **`LogFilter.admits`** says whether a message is let through.
-/
import ClassOrigin.Log.Entry
import ClassOrigin.Text.Alphanumeric
import ClassOrigin.Text.Blank

namespace ClassOrigin

namespace LogLevel

/-- The name of a level. -/
def name : LogLevel → String
  | trace => "trace"
  | debug => "debug"
  | info => "info"
  | warn => "warn"
  | error => "error"

/-- The rank of a level, higher for more detail. -/
def rank : LogLevel → Nat
  | error => 1
  | warn => 2
  | info => 3
  | debug => 4
  | trace => 5

end LogLevel

/-- The most detailed level that is let through, if any. -/
abbrev LogThreshold := Option LogLevel

namespace LogThreshold

/-- The name of a threshold. -/
def name : LogThreshold → String
  | none => "off"
  | some level => level.name

/-- Whether messages of a level are let through. -/
def admits (threshold : LogThreshold) (level : LogLevel) : Bool :=
  threshold.any fun most => level.rank ≤ most.rank

/-- All thresholds, in the order of the numbers they can be written as. -/
def all : List LogThreshold :=
  [none, some .error, some .warn, some .info, some .debug, some .trace]

/-- A text with small instead of capital Latin letters. -/
def small (text : String) : String :=
  text.map Char.toLower

/-- The number that digits stand for, with an optional plus sign before them. -/
def number? (text : String) : Option Nat :=
  let digits :=
    match text.toList with
    | '+' :: digits => digits
    | digits => digits
  if digits.all Char.isDigit then (String.ofList digits).toNat? else none

/-- Reads a threshold: its name in any mixture of small and capital letters, or its number. -/
def ofText? (text : String) : Option LogThreshold :=
  match all.find? fun threshold => name threshold == small text with
  | some threshold => some threshold
  | none => (number? text).bind fun number => all[number]?

end LogThreshold

/-- One rule of a filter; without a target it is for the messages no other rule applies to. -/
structure LogRule where
  target : Option String
  threshold : LogThreshold
deriving DecidableEq

namespace LogRule

/-- Whether a rule comes before another one of a different target: longer targets first, of equal
length the greater one, and the rule without a target last. -/
def precedes (a b : LogRule) : Bool :=
  match a.target, b.target with
  | none, _ => false
  | some _, none => true
  | some s, some t => t.utf8ByteSize < s.utf8ByteSize || (s.utf8ByteSize == t.utf8ByteSize && t < s)

/-- Whether a rule is about messages of a target. -/
def applies (rule : LogRule) (target : String) : Bool :=
  rule.target.all fun start => start.toList.isPrefixOf target.toList

/-- Whether an item may start with a character. -/
def mayStart (c : Char) : Bool :=
  Alphanumeric.isAlphanumeric c || c == '-' || c == ':' || c == '_'

/-- Cuts a text behind a number of bytes, if a character ends there. -/
def cutAt? : Nat → List Char → Option (List Char × List Char)
  | 0, text => some ([], text)
  | _ + 1, [] => none
  | size + 1, c :: text =>
    if size + 1 < c.utf8Size then none
    else (cutAt? (size + 1 - c.utf8Size) text).map fun (front, back) => (c :: front, back)

/-- Reads an item without an equals sign, which is a threshold or else a target. -/
def ofWord (word : String) : LogRule :=
  match LogThreshold.ofText? word with
  | some threshold => ⟨none, threshold⟩
  | none => ⟨some word, some .trace⟩

/-- Reads one item. Its first character and its equals sign are looked for behind the blanks in
front; the parts are counted off from the first of those blanks and keep the blanks they get. -/
def parse? (item : String) : Option LogRule := do
  let trimmed := (Blank.trim item).toList
  if ! trimmed.head?.any mayStart then failure
  let (target, sign) := trimmed.span fun c => c != '='
  if sign = [] then return ofWord item
  let size := (String.ofList target).utf8ByteSize
  let (target, _) ← cutAt? size item.toList
  let (_, level) ← cutAt? (size + 1) item.toList
  if level = [] then return ⟨some (String.ofList target), some .trace⟩
  let threshold ← LogThreshold.ofText? (String.ofList level)
  return ⟨some (String.ofList target), threshold⟩

/-- A rule as an item of a list. -/
def render (rule : LogRule) : String :=
  match rule.target with
  | none => rule.threshold.name
  | some target => target ++ "=" ++ rule.threshold.name

end LogRule

/-- A filter: rules of different targets, each before those that it precedes. -/
structure LogFilter where
  rules : List LogRule
deriving DecidableEq

namespace LogFilter

/-- The filter that lets nothing through. -/
def empty : LogFilter :=
  ⟨[]⟩

/-- Puts a rule in its place among `rules`, instead of the one with its target. -/
def place (rule : LogRule) : List LogRule → List LogRule
  | [] => [rule]
  | first :: rest =>
    if first.target = rule.target then rule :: rest
    else if first.precedes rule then first :: place rule rest
    else rule :: first :: rest

/-- Adds a rule. -/
def insert (filter : LogFilter) (rule : LogRule) : LogFilter :=
  ⟨place rule filter.rules⟩

/-- The filter with these rules, later ones over earlier ones. -/
def ofRules (rules : List LogRule) : LogFilter :=
  rules.foldl insert empty

/-- The threshold for a target, none without a rule of just that target. -/
def threshold? (filter : LogFilter) (target : Option String) : Option LogThreshold :=
  (filter.rules.find? fun rule => rule.target = target).map LogRule.threshold

/-- The rules that a list of items stands for. An item that is empty is none. -/
def rules? (text : String) : Option (List LogRule) :=
  ((text.splitOn ",").filter fun item => ! item.isEmpty).mapM LogRule.parse?

/-- Reads a list of items. -/
def parse? (text : String) : Option LogFilter :=
  (rules? text).map ofRules

/-- A filter as a list of items. -/
def render (filter : LogFilter) : String :=
  ",".intercalate (filter.rules.map LogRule.render)

/-- A configured level as a list of items: a bare level in any spelling, nothing for `info`, or a
list of items as it is. -/
def directives (level : String) : String :=
  let trimmed := Blank.trim level
  match LogThreshold.small trimmed with
  | "" => "info"
  | "warning" => "warn"
  | "trace" => "trace"
  | "debug" => "debug"
  | "info" => "info"
  | "warn" => "warn"
  | "error" => "error"
  | _ => trimmed

/-- The filter of a configured level, which is `info` where it cannot be read. -/
def configured (level : String) : LogFilter :=
  (parse? (directives level)).getD (ofRules [⟨none, some .info⟩])

/-- The filter of a configured level with the items of the environment over it; those that cannot
be read are left out. -/
def layered (level : String) (environment : Option String) : LogFilter :=
  match environment.map Blank.trim with
  | none | some "" => configured level
  | some items => (parse? (directives level ++ "," ++ items)).getD (configured level)

/-- Whether a message is let through. -/
def admits (filter : LogFilter) (entry : LogEntry) : Bool :=
  match filter.rules.find? fun rule => rule.applies entry.target with
  | some rule => rule.threshold.admits entry.level
  | none => false

end LogFilter

end ClassOrigin
