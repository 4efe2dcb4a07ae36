/- # Configuration of narratives

Which wallet is the reader's own, whether addresses are shown in full, and
where token decimals can be asked for.

Key definitions: `Config`, `Config.make`, `Config.ofEnvironment`.
-/
import Chronicle.Address
import Chronicle.Fault

namespace Chronicle

/-- The configuration of narratives. -/
structure Config where
  /-- The normal form of the reader's own address, shown as `you`. -/
  activeWallet : Option String
  /-- Whether addresses are shown in full. -/
  fullAddresses : Bool
  /-- The address of the service that answers for token contracts. -/
  endpoint : Option String
  deriving DecidableEq, Repr

namespace Config

/-- A configuration whose wallet, if there is one, is an address in any spelling. -/
def make (wallet : Option String) (fullAddresses : Bool) (endpoint : Option String) :
    Except Fault Config :=
  match wallet with
  | none => .ok ⟨none, fullAddresses, endpoint⟩
  | some s =>
    match Address.normal? s with
    | some normal => .ok ⟨some normal, fullAddresses, endpoint⟩
    | none => .error (.invalidWallet s)

/-- A variable of the environment, where an empty one counts as none. -/
def setting? (environment : List (String × String)) (name : String) : Option String :=
  ((environment.find? (·.1 = name)).map Prod.snd).filter (· ≠ "")

/-- The configuration that the variables of the environment ask for. -/
def ofEnvironment (environment : List (String × String)) : Except Fault Config :=
  let full := (setting? environment "NARRATOR_FULL_ADDRESSES").getD ""
  make (setting? environment "NARRATOR_ACTIVE_WALLET")
    (["1", "true", "yes"].contains (Text.lowercase full))
    (setting? environment "JSON_RPC")

end Config

end Chronicle
