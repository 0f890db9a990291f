/-
Module: StudyDesk.Topic
Purpose: Subject tags and the versioned registries of recognised topics.
Main exports:
  Tag, Registry, Registry.forVersion?, Registry.accepts, Registry.migrate
-/
import StudyDesk.Json.Value

namespace StudyDesk

/-!
A registry is a fixed, ordered list of topics.  A tag is a topic of some registry, or the escape tag
for a question that fits none; the escape tag is accepted by every registry.
-/

/-- A subject tag.  Whether a named topic is a member is a question to a registry. -/
inductive Tag where
  | known (name : String)
  | unknown
deriving DecidableEq, Repr, Inhabited

namespace Tag

/-- The written form of the escape tag. -/
def unknownName : String := "unknown"

/-- The tag with the given written form. -/
def ofName (name : String) : Tag := if name = unknownName then .unknown else .known name

/-- The written form of a tag. -/
def name : Tag → String
  | .known name => name
  | .unknown => unknownName

end Tag

/-- The topics of the first registry. -/
def firstTopics : List String :=
  ["recursion", "dynamic programming", "graphs", "linked lists", "arrays", "binary trees",
    "sorting", "searching", "hashmaps", "stacks", "queues", "greedy algorithms", "python syntax",
    "loops", "functions", "OOP"]

/-- The topics that the second registry adds, for the mathematical side of the desk. -/
def addedTopics : List String := ["math", "combinatorics"]

/-- A versioned, ordered set of topics, without the escape tag. -/
structure Registry where
  version : Nat
  topics : List String
  /-- The written form of the escape tag is no topic. -/
  unreserved : Tag.unknownName ∉ topics := by decide
deriving DecidableEq, Repr

namespace Registry

/-- The first registry. -/
def first : Registry where
  version := 1
  topics := firstTopics

/-- The second registry: the first one and the mathematical topics. -/
def second : Registry where
  version := 2
  topics := firstTopics ++ addedTopics

/-- The version that is used when none is configured. -/
def defaultVersion : Nat := 2

/-- The registry that is used when none is configured. -/
def standard : Registry := second

/-- The registry of a version, if there is one. -/
def forVersion? (version : Nat) : Option Registry :=
  if version = 1 then some first else if version = 2 then some second else none

/-- Whether a name is one of the topics, letter for letter. -/
def contains (registry : Registry) (name : String) : Bool := registry.topics.contains name

/-- Whether a tag is acceptable under a registry. -/
def accepts (registry : Registry) : Tag → Bool
  | .known name => registry.contains name
  | .unknown => true

/-- Carry a tag into a registry: a topic that is no member becomes the escape tag. -/
def migrate (registry : Registry) (tag : Tag) : Tag :=
  if registry.accepts tag then tag else .unknown

/-- A registry as a value. -/
def toJson (registry : Registry) : Json :=
  .object [("version", .ofNat registry.version), ("topics", .ofStrings registry.topics)]

end Registry

end StudyDesk
