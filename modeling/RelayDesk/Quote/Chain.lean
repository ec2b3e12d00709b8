import RelayDesk.Text.Basic
import RelayDesk.Text.Case

/-!
Names of chains.  A chain has one normal name; the common names and the bare chain numbers are
turned into it, and any other name is folded.
-/

namespace RelayDesk
namespace Quote

def chainAliases : List (String × String) :=
  [("ethereum", "eip155:1"), ("eth", "eip155:1"), ("mainnet", "eip155:1"),
   ("optimism", "eip155:10"), ("op", "eip155:10"),
   ("bsc", "eip155:56"), ("bnb", "eip155:56"),
   ("polygon", "eip155:137"), ("matic", "eip155:137"),
   ("base", "eip155:8453"),
   ("arbitrum", "eip155:42161"), ("arb", "eip155:42161"),
   ("solana", "solana:mainnet"), ("sol", "solana:mainnet")]

/-- What the names of account-based chains begin with. -/
def evmNamespace : String := "eip155:"

/-- The normal name of a folded name. -/
def normalizeFolded (name : String) : String :=
  match chainAliases.find? (·.1 == name) with
  | some a => a.2
  | none =>
    if !name.isEmpty && name.toList.all Text.isDigit then evmNamespace ++ name else name

def normalizeChain (chain : String) : String := normalizeFolded (Text.fold chain)

def isEvmChain (chain : String) : Bool :=
  evmNamespace.toList.isPrefixOf (normalizeChain chain).toList

end Quote
end RelayDesk
