import ObjectTransfer.IoError

/-!
# Catalog errors

Why a catalog does not do what it is asked for.
-/

namespace ObjectTransfer

/-- A refusal or failure of a catalog. -/
inductive CatalogError where
  | documentNotFound (document : String)
  | noParent (document : String)
  | storage (text : String)
  | lockPoisoned (context : String)
  | io (cause : IoError)
  deriving Repr, DecidableEq

namespace CatalogError

/-- The text of the error. -/
def message : CatalogError → String
  | documentNotFound d => "document not found: " ++ d
  | noParent d => "document has no parent: " ++ d
  | storage t => "storage error: " ++ t
  | lockPoisoned c => "lock poisoned: " ++ c
  | io e => "I/O error: " ++ e.message

end CatalogError

end ObjectTransfer
