/- # The registry of selectors

A registry maps selectors to the functions that they call. Interfaces are
added in order, and the first function with a selector keeps it; those that
come later are shadowed. Two functions of different signatures with one
selector make a warning.

Key definitions: `Registry`, `Registry.add`, `Registry.build`,
`Registry.lookup?`, `Registry.find`, `classify`.
-/
import Chronicle.Fault
import Chronicle.Registry.Interface

namespace Chronicle

/-- A function that lost its selector to an earlier one. -/
structure Collision where
  kept : Entry
  shadowed : Entry
  deriving DecidableEq, Repr

namespace Collision

/-- Whether the two functions differ by more than where they come from. -/
def isReal (collision : Collision) : Bool :=
  collision.kept.signature ≠ collision.shadowed.signature

/-- The warning about two signatures with one selector. -/
def message (collision : Collision) : String :=
  "Selector collision between " ++ collision.kept.signature ++
    " (" ++ collision.kept.interface ++ ") and " ++ collision.shadowed.signature ++
    " (" ++ collision.shadowed.interface ++ ") on " ++ collision.shadowed.selectorText ++
    ".  Keeping " ++ collision.kept.interface

end Collision

/-- The functions in the order of registration, and the collisions met on the way. -/
structure Registry where
  table : OrderedMap Bytes Entry
  collisions : List Collision

/-- Why a registry cannot be built, and the log up to that point. -/
structure BuildFailure where
  fault : Fault
  log : Log

namespace Registry

/-- The registry without functions. -/
def empty : Registry := ⟨.empty, []⟩

instance : Inhabited Registry := ⟨empty⟩

/-- Registers a function, unless its selector is taken. -/
def add (registry : Registry) (entry : Entry) : Registry :=
  match registry.table.get? entry.selector with
  | none => { registry with table := registry.table.insert entry.selector entry }
  | some kept => { registry with collisions := registry.collisions ++ [⟨kept, entry⟩] }

/-- Registers functions in order. -/
def addAll (registry : Registry) (entries : List Entry) : Registry := entries.foldl add registry

/-- The functions that can be reached, in the order of registration. -/
def entries (registry : Registry) : List Entry := registry.table.values

/-- The functions that cannot be reached. -/
def shadowed (registry : Registry) : List Entry := registry.collisions.map (·.shadowed)

/-- The warnings made while the registry was built. -/
def log (registry : Registry) : Log :=
  (registry.collisions.filter (·.isReal)).map fun collision => warning collision.message

/-- Registers the functions of interfaces in order. -/
def addInterfaces (registry : Registry) : List Interface → Except BuildFailure Registry
  | [] => .ok registry
  | interface :: interfaces =>
    match interface.entries with
    | .error fault => .error ⟨fault, registry.log⟩
    | .ok entries => addInterfaces (registry.addAll entries) interfaces

/-- The registry of a list of interfaces. -/
def build (interfaces : List Interface) : Except BuildFailure Registry :=
  empty.addInterfaces interfaces

/-- The function that a selector reaches. -/
def lookup? (registry : Registry) (selector : Bytes) : Option Entry := registry.table.get? selector

/-- The function that the text of a selector reaches, which has to be spaced hexadecimal text with
an optional mark `0x`. -/
def find (registry : Registry) (selector : String) : Except Fault (Option Entry) :=
  match Hex.loose? selector with
  | some bs => .ok (registry.lookup? bs)
  | none => .error .notSpacedHex

/-- Whether the text of a selector reaches a function. -/
def contains (registry : Registry) (selector : String) : Except Fault Bool := do
  let found ← registry.find selector
  .ok found.isSome

/-- The functions of a family that can be reached. -/
def entriesFor (registry : Registry) (family : Family) : List Entry :=
  registry.entries.filter (·.family = family)

/-- The number of functions that can be reached. -/
def size (registry : Registry) : Nat := registry.table.size

end Registry

/-- The family of a call: creations have no destination, and other calls belong to the family of
the function they reach. -/
def classify (entry : Option Entry) (destination : Option String) : Family :=
  match destination, entry with
  | none, _ => .contractCreation
  | some _, some entry => entry.family
  | some _, none => .unknown

end Chronicle
