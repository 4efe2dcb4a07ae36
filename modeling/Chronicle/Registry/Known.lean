/- # The known interfaces

The functions that calls are matched against unless other interfaces are given.
Only functions that change state are listed, since others are not called by
transactions.

Key definitions: `Known.interfaces`, `Registry.known`.
-/
import Chronicle.Registry.Basic

namespace Chronicle

namespace Known

/-- The description of a function with its inputs, each by its type and its name. -/
def declare (name : String) (inputs : List (String × String)) : Value :=
  .object
    [("type", .text "function"),
     ("name", .text name),
     ("inputs", .list (inputs.map fun input =>
       .object [("name", .text input.2), ("type", .text input.1)]))]

/-- Fungible tokens, with the functions of wrapped native currency at the end. -/
def fungibleTokens : List Value :=
  [declare "transfer" [("address", "to"), ("uint256", "amount")],
   declare "approve" [("address", "spender"), ("uint256", "amount")],
   declare "transferFrom" [("address", "from"), ("address", "to"), ("uint256", "amount")],
   declare "mint" [("address", "to"), ("uint256", "amount")],
   declare "burn" [("uint256", "amount")],
   declare "increaseAllowance" [("address", "spender"), ("uint256", "addedValue")],
   declare "decreaseAllowance" [("address", "spender"), ("uint256", "subtractedValue")],
   declare "deposit" [],
   declare "withdraw" [("uint256", "amount")]]

/-- Non-fungible tokens. -/
def nonFungibleTokens : List Value :=
  [declare "transferFrom" [("address", "from"), ("address", "to"), ("uint256", "tokenId")],
   declare "approve" [("address", "to"), ("uint256", "tokenId")],
   declare "safeTransferFrom"
      [("address", "from"), ("address", "to"), ("uint256", "tokenId")],
   declare "safeTransferFrom"
      [("address", "from"), ("address", "to"), ("uint256", "tokenId"), ("bytes", "data")],
   declare "setApprovalForAll" [("address", "operator"), ("bool", "approved")]]

/-- The router of a pool exchange. -/
def poolRouter : List Value :=
  [declare "swapExactTokensForTokens"
      [("uint256", "amountIn"), ("uint256", "amountOutMin"), ("address[]", "path"),
       ("address", "to"), ("uint256", "deadline")],
   declare "swapTokensForExactTokens"
      [("uint256", "amountOut"), ("uint256", "amountInMax"), ("address[]", "path"),
       ("address", "to"), ("uint256", "deadline")],
   declare "swapExactETHForTokens"
      [("uint256", "amountOutMin"), ("address[]", "path"), ("address", "to"),
       ("uint256", "deadline")],
   declare "swapExactTokensForETH"
      [("uint256", "amountIn"), ("uint256", "amountOutMin"), ("address[]", "path"),
       ("address", "to"), ("uint256", "deadline")],
   declare "addLiquidity"
      [("address", "tokenA"), ("address", "tokenB"), ("uint256", "amountADesired"),
       ("uint256", "amountBDesired"), ("uint256", "amountAMin"), ("uint256", "amountBMin"),
       ("address", "to"), ("uint256", "deadline")],
   declare "removeLiquidity"
      [("address", "tokenA"), ("address", "tokenB"), ("uint256", "liquidity"),
       ("uint256", "amountAMin"), ("uint256", "amountBMin"), ("address", "to"),
       ("uint256", "deadline")]]

/-- Primary sales. -/
def primarySale : List Value :=
  [declare "activate" [],
   declare "invest" [("address", "token"), ("uint256", "amount")],
   declare "endSale" [],
   declare "initializeSettlement" [("address", "assetToken"), ("address", "assetOwner")],
   declare "settleBatch" [("uint256", "batchSize"), ("address[]", "restrictedWallets")],
   declare "finalizeSettlement" [],
   declare "topUpRefunds" [("address", "token"), ("uint256", "amount")],
   declare "claimRefund" [],
   declare "cancel" [],
   declare "pause" [],
   declare "unpause" [],
   declare "emergencyWithdrawERC20"
      [("address", "token"), ("address", "recipient"), ("uint256", "amount")]]

/-- The allowlist of a primary sale. -/
def allowlist : List Value :=
  [declare "setAllowedBatch" [("address[]", "addrs"), ("bool[]", "flags")]]

/-- Contracts with an owner. -/
def ownership : List Value :=
  [declare "transferOwnership" [("address", "newOwner")],
   declare "renounceOwnership" []]

/-- Contracts that take several calls at once. -/
def batchedCalls : List Value :=
  [declare "multicall" [("bytes[]", "data")]]

/-- The known interfaces in the order of registration. Fungible tokens stand before non-fungible
ones, so that `transferFrom(address,address,uint256)` and `approve(address,uint256)` are taken for
calls of fungible tokens. -/
def interfaces : List Interface :=
  [⟨"ERC20", .list fungibleTokens, .fungibleToken⟩,
   ⟨"ERC721", .list nonFungibleTokens, .nonFungibleToken⟩,
   ⟨"UniswapV2Router", .list poolRouter, .poolManager⟩,
   ⟨"PrimarySale", .list primarySale, .primarySale⟩,
   ⟨"Allowlist", .list allowlist, .primarySale⟩,
   ⟨"Ownable", .list ownership, .generic⟩,
   ⟨"Multicall", .list batchedCalls, .generic⟩]

end Known

/-- The registry of the known interfaces. -/
def Registry.known : Registry :=
  match Registry.build Known.interfaces with
  | .ok registry => registry
  | .error _ => .empty

end Chronicle
