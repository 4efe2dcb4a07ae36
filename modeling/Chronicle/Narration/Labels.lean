/- # Address labels

A resolver tells what an address is called. It may answer from a fixed map or
by asking a service, which may fail; and its answers may be kept, so that each
address is asked for once. An answer that there is no label is kept as well,
but a failure is not.

Key definitions: `Resolver`, `Labels.ofPairs`, `Labels.wellKnown`,
`Resolver.resolve`, `Resolver.labelOf`.
-/
import Chronicle.Narration.Session
import Chronicle.Text.Lowercase

namespace Chronicle

namespace Labels

/-- Labels by address, for addresses in lower case: where several spellings of one address come
together, the last one counts. -/
def ofMap (labels : OrderedMap String String) : OrderedMap String String :=
  .ofList (labels.entries.map fun entry => (Text.lowercase entry.1, entry.2))

/-- Labels from a list of pairs. -/
def ofPairs (pairs : List (String × String)) : OrderedMap String String := ofMap (.ofList pairs)

/-- Well-known addresses: tokens and the routers of exchanges. -/
def wellKnownPairs : List (String × String) :=
  [("0xdac17f958d2ee523a2206206994597c13d831ec7", "USDT"),
   ("0xa0b86991c6218b36c1d19d4a2e9eb0ce3606eb48", "USDC"),
   ("0x6b175474e89094c44da98b954eedeac495271d0f", "DAI"),
   ("0xc02aaa39b223fe8d0a0e5c4f27ead9083c756cc2", "WETH"),
   ("0x7a250d5630b4cf539739df2c5dacb4c659f2488d", "Uniswap V2 Router"),
   ("0xd9e1ce17f2641f24ae83637ab66a2cca9c378b9f", "SushiSwap Router")]

/-- The labels of well-known addresses, with more pairs laid over them. -/
def wellKnown (extra : List (String × String)) : OrderedMap String String :=
  ofMap ((OrderedMap.ofList wellKnownPairs).insertAll (OrderedMap.ofList extra).entries)

end Labels

/-- A source of labels. -/
structure Resolver where
  /-- The answer for an address, after the addresses that were asked for before. -/
  answer : List String → String → Except Fault (Option String)
  /-- Whether answers are kept. -/
  caching : Bool

namespace Resolver

/-- A resolver that answers from a map of lowercase addresses. -/
def ofMap (labels : OrderedMap String String) (caching : Bool) : Resolver where
  answer := fun _ address => .ok (labels.get? (Text.lowercase address))
  caching := caching

/-- A resolver that answers like `ofMap` but fails at some addresses, in exactly that spelling. -/
def failingAt (failing : List String) (labels : OrderedMap String String) (caching : Bool) :
    Resolver where
  answer := fun _ address =>
    if failing.contains address then .error .labelServiceDown
    else .ok (labels.get? (Text.lowercase address))
  caching := caching

/-- Asks the source itself. -/
def ask (resolver : Resolver) (address : String) : Narration (Option String) := do
  let session ← get
  set { session with labelQuestions := session.labelQuestions ++ [address] }
  Narration.ofExcept (resolver.answer session.labelQuestions address)

/-- Keeps the label of an address, or that it has none. -/
def keep (address : String) (label : Option String) : Narration (Option String) := do
  modify fun session => { session with labels := session.labels.insert address label }
  pure label

/-- Asks the source about an address and keeps the answer. -/
def learn (resolver : Resolver) (address : String) : Narration (Option String) := do
  let label ← resolver.ask address
  keep address label

/-- The label of an address in lower case, as it is kept, or as the source tells it. -/
def labelOfKey (resolver : Resolver) (address : String) : Narration (Option String) := do
  let session ← get
  match session.labels.get? address with
  | some label => pure label
  | none => resolver.learn address

/-- The label of an address. A resolver that keeps answers goes by the address in lower case. -/
def resolve (resolver : Resolver) (address : String) : Narration (Option String) :=
  if resolver.caching then resolver.labelOfKey (Text.lowercase address) else resolver.ask address

/-- The label of an address, where no resolver and a failure both count as no label. -/
def labelOf (resolver : Option Resolver) (address : String) : Narration (Option String) :=
  match resolver with
  | none => pure none
  | some resolver => tryCatch (resolver.resolve address) fun _ => pure none

end Resolver

end Chronicle
