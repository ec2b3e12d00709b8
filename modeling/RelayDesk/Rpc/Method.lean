import RelayDesk.Text.Case

/-!
Names of node methods and the caching policy of each.  A known method may be written by its name
or by an alias, in any case of letters; every other method stands for itself.
-/

namespace RelayDesk
namespace Rpc

structure Policy where
  /-- How long an answer is fresh. -/
  ttlSeconds : Nat
  /-- How long after that it may still stand in for a failed call. -/
  maxStaleSeconds : Nat
  /-- May it stand in for a failed call at all? -/
  allowStaleFallback : Bool
  deriving DecidableEq, Repr

/-- The policy of a method that the table does not have. -/
def Policy.unlisted : Policy :=
  { ttlSeconds := 15, maxStaleSeconds := 0, allowStaleFallback := false }

/-- The known methods.  A stale nonce or receipt would mislead its caller, so those fall back to
nothing. -/
def knownMethods : List (String × Policy) :=
  [("eth_chainId", ⟨3600, 86400, true⟩),
   ("net_version", ⟨3600, 86400, true⟩),
   ("eth_blockNumber", ⟨2, 30, true⟩),
   ("eth_gasPrice", ⟨5, 30, true⟩),
   ("eth_maxPriorityFeePerGas", ⟨5, 30, true⟩),
   ("eth_feeHistory", ⟨5, 30, true⟩),
   ("eth_getBalance", ⟨10, 60, true⟩),
   ("eth_getTransactionCount", ⟨5, 0, false⟩),
   ("eth_call", ⟨10, 60, true⟩),
   ("eth_getCode", ⟨300, 3600, true⟩),
   ("eth_getStorageAt", ⟨10, 60, true⟩),
   ("eth_estimateGas", ⟨10, 0, false⟩),
   ("eth_getTransactionReceipt", ⟨5, 0, false⟩)]

/-- Other spellings, in lowercase, and the methods they stand for. -/
def methodAliases : List (String × String) :=
  [("chainid", "eth_chainId"),
   ("blocknumber", "eth_blockNumber"),
   ("block_number", "eth_blockNumber"),
   ("gasprice", "eth_gasPrice"),
   ("gas_price", "eth_gasPrice"),
   ("priorityfee", "eth_maxPriorityFeePerGas"),
   ("feehistory", "eth_feeHistory"),
   ("getbalance", "eth_getBalance"),
   ("balance", "eth_getBalance"),
   ("nonce", "eth_getTransactionCount"),
   ("gettransactioncount", "eth_getTransactionCount"),
   ("call", "eth_call"),
   ("getcode", "eth_getCode"),
   ("getstorageat", "eth_getStorageAt"),
   ("estimategas", "eth_estimateGas"),
   ("receipt", "eth_getTransactionReceipt"),
   ("version", "net_version")]

/-- The method of the table that a folded spelling means. -/
def methodOfFolded? (folded : String) : Option (String × Policy) :=
  match knownMethods.find? fun m => Text.lower m.1 == folded with
  | some m => some m
  | none =>
    match methodAliases.find? fun a => a.1 == folded with
    | some a => knownMethods.find? fun m => m.1 == a.2
    | none => none

/-- The method of the table that a spelling means. -/
def method? (spelling : String) : Option (String × Policy) :=
  methodOfFolded? (Text.fold spelling)

def isKnownMethod (spelling : String) : Bool := (method? spelling).isSome

/-- The spelling in cache keys: the name in the table, else the given one folded. -/
def canonicalMethod (spelling : String) : String :=
  match method? spelling with
  | some m => m.1
  | none => Text.fold spelling

/-- The spelling sent to a node.  Nodes tell letters of different case apart, so an unknown method
keeps its letters. -/
def wireMethod (spelling : String) : String :=
  match method? spelling with
  | some m => m.1
  | none => Text.trim spelling

def policyOf (spelling : String) : Policy :=
  match method? spelling with
  | some m => m.2
  | none => .unlisted

end Rpc
end RelayDesk
