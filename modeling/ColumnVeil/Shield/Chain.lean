import ColumnVeil.Shield.Index
import ColumnVeil.Shield.Encryption

/-!
# The chain of shields

Indexed columns come first and encrypted columns last, so that a comparison has been put to
a shadow before the encrypted column itself would be refused.  Results are decrypted before
joined values are compared.
-/

namespace ColumnVeil

/-- The state of the whole chain. -/
abbrev ChainState := Traversal Unit × Traversal JoinShadow.State × Traversal Encryption.State

/-- The shields of all protections of a catalog. -/
def Catalog.chain (catalog : Catalog) : Shield ChainState :=
  (IndexShadow.shield catalog).andThen
    ((JoinShadow.shield catalog).andThen (Encryption.shield catalog))

/-- The state of the chain before its first query. -/
def ChainState.initial (entropy : Crypto.Entropy) : ChainState :=
  ({ own := () }, { own := {} }, { own := { entropy } })

end ColumnVeil
