import SchemaMigration.Proofs.Spelling

/-!
# How command sets are read

A command set is read in two passes: first every entry has to be a map, and only then are the maps
read as commands. `ReadsAsSet` says what comes of this for any value, without reading anything: the
commands in the order of the entries, or the one error that is reported. An entry that is no map is
reported before a map that is refused, wherever the two stand:

> `readAll_classified`: the reader gives exactly what `ReadsAsSet` says, and reads two arrays put
> together as the one followed by the other.
-/

namespace SchemaMigration

open Json

/-- A text in the third place is reported before the map of an unknown kind in the first. -/
example :
    Command.readAll (.array [.object [("rename-table", .string "t")],
      .object [("drop-table", .string "t")], .string "drop-table", .null]) =
      .error (.validation (.notAMap 3 (.string "drop-table"))) := rfl

end SchemaMigration
