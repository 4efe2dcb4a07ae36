/- # Contract families

The closed set of categories that a decoded call can belong to.

Key definitions: `Family`, `Family.name`, `Family.ofName?`.
-/

namespace Chronicle

/-- What kind of contract a call goes to. -/
inductive Family
  | fungibleToken
  | nonFungibleToken
  | poolManager
  | primarySale
  | contractCreation
  | generic
  | unknown
  deriving DecidableEq, Repr, Inhabited

namespace Family

/-- The families in the order in which tables list them. -/
def all : List Family :=
  [fungibleToken, nonFungibleToken, poolManager, primarySale, contractCreation, generic, unknown]

/-- The name of a family, as calls carry it. -/
def name : Family → String
  | fungibleToken => "FungibleToken"
  | nonFungibleToken => "NonFungibleToken"
  | poolManager => "PoolManager"
  | primarySale => "PrimarySale"
  | contractCreation => "ContractCreation"
  | generic => "Generic"
  | unknown => "Unknown"

/-- The family of a name. -/
def ofName? (s : String) : Option Family := all.find? (·.name = s)

/-- Whether the family stands for a way of calling, so that no interface may claim it. -/
def isReserved : Family → Bool
  | contractCreation => true
  | unknown => true
  | _ => false

theorem ofName?_name (family : Family) : ofName? family.name = some family := by
  cases family <;> decide

end Family

end Chronicle
