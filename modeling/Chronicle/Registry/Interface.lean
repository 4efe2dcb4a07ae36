/- # Interfaces

A named list of function descriptions that belong to one family, as registries
are built from.

Key definitions: `Interface`, `Interface.entries`.
-/
import Chronicle.Registry.Entry

namespace Chronicle

/-- An interface with its descriptions in JSON. -/
structure Interface where
  name : String
  abi : Value
  family : Family

namespace Interface

/-- The functions that the values describe. -/
def fragmentsOf : List Value → Except Fault (List Fragment)
  | [] => .ok []
  | v :: vs => do
    let fragment ← Fragment.ofValue v
    let fragments ← fragmentsOf vs
    .ok (fragment :: fragments)

/-- The entries of the functions, whose names have to be texts. -/
def nameEntries (interface : Interface) : List Fragment → Except Fault (List Entry)
  | [] => .ok []
  | fragment :: fragments =>
    match fragment.name with
    | .text name => do
      let entries ← nameEntries interface fragments
      .ok (Entry.ofFragment fragment name interface.name interface.family :: entries)
    | _ => .error .wrongKind

/-- The entries of an interface in order. Reserved families are refused before the functions are
looked at. -/
def entries (interface : Interface) : Except Fault (List Entry) :=
  if interface.family.isReserved then
    .error (.reservedFamily interface.name interface.family.name)
  else
    match interface.abi.parts? with
    | none => .error .wrongKind
    | some vs => do
      let functions ← Fragment.functionsOf vs
      let fragments ← fragmentsOf functions
      nameEntries interface fragments

end Interface

end Chronicle
