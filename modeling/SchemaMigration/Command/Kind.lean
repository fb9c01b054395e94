/-!
# Command kinds

The six kinds of schema command. A command map is known by the first of these keys that it holds.
Appendix E of the driftwood specification fixes their order.
-/

namespace SchemaMigration

/-- What a command does. -/
inductive Kind
  | createTable
  | dropTable
  | alterTable
  | createIndex
  | dropIndex
  | insertInto
deriving DecidableEq, Repr

namespace Kind

/-- The key that marks a command map as one of this kind; its value names the subject. -/
def key : Kind → String
  | createTable => "create-table"
  | dropTable => "drop-table"
  | alterTable => "alter-table"
  | createIndex => "create-index"
  | dropIndex => "drop-index"
  | insertInto => "insert-into"

/-- All kinds, in the order in which a map is tested for them. -/
def all : List Kind := [createTable, dropTable, alterTable, createIndex, dropIndex, insertInto]

theorem mem_all (k : Kind) : k ∈ all := by cases k <;> decide

theorem key_injective {k l : Kind} (h : k.key = l.key) : k = l := by
  cases k <;> cases l <;> first | rfl | (exact absurd h (by decide))

/-- The other keys that a map of this kind may hold. -/
def fieldKeys : Kind → List String
  | createTable => ["columns", "primary-key", "constraints"]
  | dropTable => []
  | alterTable =>
    ["add-columns", "drop-columns", "modify-columns", "add-constraints", "drop-constraints"]
  | createIndex => ["on", "columns", "unique"]
  | dropIndex => ["on"]
  | insertInto => ["values"]

end Kind

end SchemaMigration
