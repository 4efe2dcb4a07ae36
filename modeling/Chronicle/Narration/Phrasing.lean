/- # How calls are put into sentences

Each family has sentences for the functions that it knows and one for all
others. Which sentence is used depends on the call alone; a parameter that is
missing or of an unexpected kind still makes a sentence.

Key definitions: `Call.sentence`.
-/
import Chronicle.Amount
import Chronicle.Call
import Chronicle.Narration.Sentence

namespace Chronicle

namespace Phrasing

open Piece (words sender contract answer)

/-- The decimals of fungible tokens. -/
def tokenDecimals : Int := 18

/-- The decimals of the tokens that are sold. -/
def saleDecimals : Int := 6

/-- The decimals of native currency. -/
def nativeDecimals : Int := 18

/-- The value of a parameter, or another value if it is missing. -/
def paramOr (call : Call) (name : String) (other : Value) : Value :=
  (call.parameters.get? name).getD other

/-- The value of a parameter that is shown as `unknown` if it is missing. -/
def param (call : Call) (name : String) : Value := paramOr call name (.text "unknown")

/-- The value of an amount, which is zero if it is missing. -/
def quantity (call : Call) (name : String) : Value := paramOr call name (.text "0")

/-- The items of a parameter, of which there are none if it is missing or not a list. -/
def itemsOf (call : Call) (name : String) : List Value :=
  match call.parameters.get? name with
  | some (.list items) => items
  | _ => []

/-! ### Fungible tokens -/

/-- A transfer by the owner. -/
def transfer (call : Call) (token : Value) : Sentence where
  queries := [.amount (quantity call "amount") token tokenDecimals, .party (param call "to")]
  pieces := [sender, words " transferred ", answer 0, words " tokens to ", answer 1,
    words " via contract at ", contract]

/-- An approval: without limit, of nothing, or of an amount. -/
def approval (call : Call) (token : Value) : Sentence :=
  let spender := Query.party (param call "spender")
  let amount := param call "amount"
  match Amount.wholeNumber amount with
  | .error _ => ⟨[spender, .scaled amount tokenDecimals], []⟩
  | .ok n =>
    if n = some Amount.unlimited then
      ⟨[spender], [sender, words " approved ", answer 0,
        words " to spend unlimited tokens from contract at ", contract]⟩
    else if n = some 0 then
      ⟨[spender], [sender, words " revoked approval for ", answer 0,
        words " to spend tokens from contract at ", contract]⟩
    else
      ⟨[spender, .amount (quantity call "amount") token tokenDecimals],
        [sender, words " approved ", answer 0, words " to spend ", answer 1,
          words " tokens from contract at ", contract]⟩

/-- A transfer on behalf of the owner. -/
def transferFrom (call : Call) (token : Value) : Sentence where
  queries := [.amount (quantity call "amount") token tokenDecimals, .party (param call "from"),
    .party (param call "to")]
  pieces := [sender, words " transferred ", answer 0, words " tokens from ", answer 1,
    words " to ", answer 2, words " via contract at ", contract]

/-- The making of new tokens. -/
def mint (call : Call) (token : Value) : Sentence where
  queries := [.amount (quantity call "amount") token tokenDecimals, .party (param call "to")]
  pieces := [sender, words " minted ", answer 0, words " tokens to ", answer 1,
    words " via contract at ", contract]

/-- The destruction of tokens. -/
def burn (call : Call) (token : Value) : Sentence where
  queries := [.amount (quantity call "amount") token tokenDecimals]
  pieces := [sender, words " burned ", answer 0, words " tokens via contract at ", contract]

/-- A change of an allowance, by the parameter that tells how much. -/
def allowanceChange (verb amount : String) (call : Call) (token : Value) : Sentence where
  queries := [.amount (quantity call amount) token tokenDecimals, .party (param call "spender")]
  pieces := [sender, words (" " ++ verb ++ " the allowance of "), answer 1, words " by ", answer 0,
    words " tokens at ", contract]

/-- The unwrapping of native currency. -/
def withdraw (call : Call) (token : Value) : Sentence where
  queries := [.amount (quantity call "amount") token tokenDecimals]
  pieces := [sender, words " unwrapped ", answer 0, words " tokens at ", contract]

/-- Sentences about calls of fungible tokens. -/
def fungibleToken (call : Call) (token : Value) : Sentence :=
  match call.functionName with
  | "transfer" => transfer call token
  | "approve" => approval call token
  | "transferFrom" => transferFrom call token
  | "mint" => mint call token
  | "burn" => burn call token
  | "increaseAllowance" => allowanceChange "increased" "addedValue" call token
  | "decreaseAllowance" => allowanceChange "decreased" "subtractedValue" call token
  | "deposit" => .told [sender, words " wrapped native tokens at ", contract]
  | "withdraw" => withdraw call token
  | name => .told
      [sender, words " called ERC-20 function '", words name, words "' at ", contract]

/-! ### Non-fungible tokens -/

/-- A transfer of one token. -/
def tokenTransfer (call : Call) : Sentence where
  queries := [.plain (param call "tokenId"), .party (param call "from"), .party (param call "to")]
  pieces := [sender, words " transferred NFT #", answer 0, words " from ", answer 1,
    words " to ", answer 2, words " at ", contract]

/-- An approval for one token. -/
def tokenApproval (call : Call) : Sentence where
  queries := [.party (param call "to"), .plain (param call "tokenId")]
  pieces := [sender, words " approved ", answer 0, words " to transfer NFT #", answer 1,
    words " at ", contract]

/-- An approval for all tokens, given or taken back. -/
def operatorApproval (call : Call) : Sentence where
  queries := [.party (param call "operator")]
  pieces :=
    if call.parameters.get? "approved" = some (.bool true) then
      [sender, words " approved ", answer 0, words " to manage all NFTs at ", contract]
    else
      [sender, words " revoked approval for ", answer 0, words " to manage all NFTs at ", contract]

/-- Sentences about calls of non-fungible tokens. -/
def nonFungibleToken (call : Call) : Sentence :=
  match call.functionName with
  | "transferFrom" => tokenTransfer call
  | "safeTransferFrom" => tokenTransfer call
  | "approve" => tokenApproval call
  | "setApprovalForAll" => operatorApproval call
  | name => .told
      [sender, words " called ERC-721 function '", words name, words "' at ", contract]

/-! ### Pools -/

/-- The first token of the path of a swap. -/
def pathStart (call : Call) : Value := (itemsOf call "path").head?.getD .null

/-- The last token of the path of a swap. -/
def pathEnd (call : Call) : Value := (itemsOf call "path").getLast?.getD .null

/-- A swap of tokens, by the parameters that tell the two amounts and the words around them. -/
def tokenSwap (spent received before between : String) (call : Call) : Sentence where
  queries := [.amount (quantity call spent) (pathStart call) tokenDecimals,
    .amount (quantity call received) (pathEnd call) tokenDecimals,
    .token (pathStart call), .token (pathEnd call)]
  pieces := [sender, words before, answer 0, words " ", answer 2, words between, answer 1,
    words " ", answer 3, words " via ", contract]

/-- A swap of native currency for tokens. -/
def nativeToTokens (call : Call) : Sentence where
  queries := [.amount (quantity call "amountOutMin") (pathEnd call) tokenDecimals,
    .token (pathEnd call)]
  pieces := [sender, words " swapped native tokens for at least ", answer 0, words " ", answer 1,
    words " via ", contract]

/-- A swap of tokens for native currency. -/
def tokensToNative (call : Call) : Sentence where
  queries := [.amount (quantity call "amountIn") (pathStart call) tokenDecimals,
    .scaled (quantity call "amountOutMin") nativeDecimals, .token (pathStart call)]
  pieces := [sender, words " swapped ", answer 0, words " ", answer 2, words " for at least ",
    answer 1, words " native tokens via ", contract]

/-- An addition of liquidity. -/
def addLiquidity (call : Call) : Sentence :=
  let tokenA := paramOr call "tokenA" .null
  let tokenB := paramOr call "tokenB" .null
  { queries := [.amount (quantity call "amountADesired") tokenA tokenDecimals,
      .amount (quantity call "amountBDesired") tokenB tokenDecimals, .token tokenA, .token tokenB]
    pieces := [sender, words " added liquidity of ", answer 0, words " ", answer 2, words " and ",
      answer 1, words " ", answer 3, words " via ", contract] }

/-- A removal of liquidity. -/
def removeLiquidity (call : Call) : Sentence where
  queries := [.scaled (quantity call "liquidity") tokenDecimals,
    .token (paramOr call "tokenA" .null), .token (paramOr call "tokenB" .null)]
  pieces := [sender, words " removed ", answer 0, words " liquidity tokens from the ", answer 1,
    words "/", answer 2, words " pool via ", contract]

/-- Sentences about calls of pools. -/
def poolManager (call : Call) : Sentence :=
  match call.functionName with
  | "swapExactTokensForTokens" =>
    tokenSwap "amountIn" "amountOutMin" " swapped " " for at least " call
  | "swapTokensForExactTokens" =>
    tokenSwap "amountInMax" "amountOut" " swapped at most " " for " call
  | "swapExactETHForTokens" => nativeToTokens call
  | "swapExactTokensForETH" => tokensToNative call
  | "addLiquidity" => addLiquidity call
  | "removeLiquidity" => removeLiquidity call
  | name => .told [sender, words " called pool function '", words name, words "' at ", contract]

/-! ### Primary sales -/

/-- The token of a sale that a call is about. -/
def saleToken (call : Call) : Value := paramOr call "token" .null

/-- The amount of the sale token. -/
def saleAmount (call : Call) : Query :=
  .amount (quantity call "amount") (saleToken call) saleDecimals

/-- An investment. -/
def invest (call : Call) : Sentence where
  queries := [saleAmount call, .token (saleToken call)]
  pieces := [sender, words " invested ", answer 0, words " tokens (", answer 1,
    words ") in primary sale at ", contract]

/-- The start of a settlement. -/
def initializeSettlement (call : Call) : Sentence where
  queries := [.party (param call "assetToken"), .party (param call "assetOwner")]
  pieces := [sender, words " initialized settlement with asset token ", answer 0,
    words " from owner ", answer 1, words " at ", contract]

/-- The settlement of a batch of investors. -/
def settleBatch (call : Call) : Sentence :=
  let restricted := (itemsOf call "restrictedWallets").length
  { queries := [.plain (quantity call "batchSize")]
    pieces := [sender, words " settled batch of ", answer 0, words " investors"] ++
      (if restricted = 0 then []
        else [words " (excluded ", words restricted.repr, words " restricted wallets)"]) ++
      [words " at ", contract] }

/-- An addition to the pool that refunds are paid from. -/
def topUpRefunds (call : Call) : Sentence where
  queries := [saleAmount call, .token (saleToken call)]
  pieces := [sender, words " topped up refund pool with ", answer 0, words " tokens (", answer 1,
    words ") at ", contract]

/-- An emergency withdrawal. -/
def emergencyWithdraw (call : Call) : Sentence where
  queries := [saleAmount call, .token (saleToken call), .party (param call "recipient")]
  pieces := [sender, words " emergency withdrew ", answer 0, words " tokens (", answer 1,
    words ") to ", answer 2, words " from ", contract]

/-- How many addresses were added to an allowlist and removed from it. -/
def allowlistCounts (added removed : Nat) : String :=
  if removed = 0 then "added: " ++ added.repr
  else if added = 0 then "removed: " ++ removed.repr
  else "added: " ++ added.repr ++ ", removed: " ++ removed.repr

/-- A change of an allowlist. Every flag that is not true removes an address. -/
def setAllowedBatch (call : Call) : Sentence :=
  let flags := itemsOf call "flags"
  let added := flags.count (.bool true)
  .told [sender, words " updated allowlist for ", words (itemsOf call "addrs").length.repr,
    words " addresses (", words (allowlistCounts added (flags.length - added)), words ") at ",
    contract]

/-- An action on a sale that needs no more words. -/
def saleAction (action : String) : Sentence :=
  .told [sender, words (" " ++ action ++ " at "), contract]

/-- Sentences about calls of primary sales. -/
def primarySale (call : Call) : Sentence :=
  match call.functionName with
  | "invest" => invest call
  | "activate" => saleAction "activated primary sale"
  | "endSale" => saleAction "ended primary sale"
  | "initializeSettlement" => initializeSettlement call
  | "settleBatch" => settleBatch call
  | "finalizeSettlement" => saleAction "finalized settlement"
  | "topUpRefunds" => topUpRefunds call
  | "claimRefund" => saleAction "claimed refund from primary sale"
  | "cancel" => saleAction "cancelled primary sale"
  | "pause" => saleAction "paused primary sale"
  | "unpause" => saleAction "unpaused primary sale"
  | "emergencyWithdrawERC20" => emergencyWithdraw call
  | "setAllowedBatch" => setAllowedBatch call
  | name => .told
      [sender, words " called PrimarySale function '", words name, words "' at ", contract]

/-! ### Other contracts, native currency and deployments -/

/-- A call of a function without a sentence of its own. -/
def otherCall (call : Call) : Sentence :=
  .told [sender, words " called function '", words call.functionName, words "' (",
    words call.selector, words ") at ", contract]

/-- A transfer of native currency, whose value may not be known. -/
def nativeTransfer (call : Call) : Sentence :=
  if call.isNativeTransfer then
    match paramOr call "value" .null with
    | .null => .told [sender, words " sent native tokens to ", contract]
    | v => ⟨[.scaled v nativeDecimals],
        [sender, words " sent ", answer 0, words " native tokens to ", contract]⟩
  else otherCall call

/-- A change of ownership. -/
def transferOwnership (call : Call) : Sentence where
  queries := [.party (param call "newOwner")]
  pieces := [sender, words " transferred ownership of ", contract, words " to ", answer 0]

/-- Sentences about calls that belong to no special family. -/
def generic (call : Call) : Sentence :=
  match call.functionName with
  | "transfer" => nativeTransfer call
  | "transferOwnership" => transferOwnership call
  | "renounceOwnership" => .told [sender, words " renounced ownership of ", contract]
  | "multicall" => .told [sender, words " executed ", words (itemsOf call "data").length.repr,
      words " batched calls at ", contract]
  | _ => otherCall call

/-- A deployment, with the address of the contract if it is known. -/
def deployment (call : Call) : Sentence :=
  match paramOr call Call.deployedAddressName .null with
  | .null => .told [sender, words " deployed contract"]
  | v => ⟨[.party v], [sender, words " deployed contract at ", answer 0]⟩

end Phrasing

/-- The sentence about a call, where `token` is the lowercase address of the contract it goes to,
or null. -/
def Call.sentence (call : Call) (token : Value) : Sentence :=
  match call.family with
  | .fungibleToken => Phrasing.fungibleToken call token
  | .nonFungibleToken => Phrasing.nonFungibleToken call
  | .poolManager => Phrasing.poolManager call
  | .primarySale => Phrasing.primarySale call
  | .generic => Phrasing.generic call
  | .unknown => .told [.sender, .words " called unknown function ", .words call.selector,
      .words " at ", .contract]
  | .contractCreation => Phrasing.deployment call

end Chronicle
