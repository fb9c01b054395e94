import SchemaMigration.Toml.Value

/-!
# The data of a TOML value

What a TOML value denotes as JSON, said value by value and without a conversion: a number that JSON
cannot write denotes null, and a date or a time denotes its text (appendix H of the driftwood
specification).

> `denotes_iff`: a value denotes what it is converted to, and nothing else.
-/

namespace SchemaMigration.Toml

mutual

/-- The JSON value that a TOML value denotes. -/
inductive Denotes : Value → Json.Value → Prop
  | string (s : String) : Denotes (.string s) (.string s)
  | integer (i : Int) : Denotes (.integer i) (.number (.whole i))
  | finite (x : Number.Binary) : Denotes (.float (.finite x)) (.number (.binary x))
  | infinite (negative : Bool) : Denotes (.float (.infinite negative)) .null
  | nan : Denotes (.float .nan) .null
  | boolean (b : Bool) : Denotes (.boolean b) (.bool b)
  | datetime (d : Datetime) : Denotes (.datetime d) (.string d.text)
  | array {items : List Value} {values : List Json.Value} (h : ItemsDenote items values) :
    Denotes (.array items) (.array values)
  | table {fields : Fields} {values : Json.Fields} (h : FieldsDenote fields values) :
    Denotes (.table fields) (.object values)

/-- Item by item. -/
inductive ItemsDenote : List Value → List Json.Value → Prop
  | nil : ItemsDenote [] []
  | cons {v : Value} {j : Json.Value} {vs : List Value} {js : List Json.Value}
      (hv : Denotes v j) (hvs : ItemsDenote vs js) : ItemsDenote (v :: vs) (j :: js)

/-- Field by field, under the same keys. -/
inductive FieldsDenote : Fields → Json.Fields → Prop
  | nil : FieldsDenote [] []
  | cons {v : Value} {j : Json.Value} {fs : Fields} {gs : Json.Fields} (key : String)
      (hv : Denotes v j) (hfs : FieldsDenote fs gs) :
    FieldsDenote ((key, v) :: fs) ((key, j) :: gs)

end

mutual

theorem denotes_toJson : ∀ v : Value, Denotes v v.toJson
  | .string s => .string s
  | .integer i => .integer i
  | .float (.finite x) => .finite x
  | .float (.infinite negative) => .infinite negative
  | .float .nan => .nan
  | .boolean b => .boolean b
  | .datetime d => .datetime d
  | .array items => .array (itemsDenote_itemsToJson items)
  | .table fields => .table (fieldsDenote_fieldsToJson fields)

theorem itemsDenote_itemsToJson : ∀ items : List Value, ItemsDenote items (itemsToJson items)
  | [] => .nil
  | v :: vs => .cons (denotes_toJson v) (itemsDenote_itemsToJson vs)

theorem fieldsDenote_fieldsToJson : ∀ fields : Fields, FieldsDenote fields (fieldsToJson fields)
  | [] => .nil
  | (key, v) :: rest => .cons key (denotes_toJson v) (fieldsDenote_fieldsToJson rest)

end

mutual

theorem Denotes.eq_toJson : ∀ {v : Value} {j : Json.Value}, Denotes v j → j = v.toJson
  | .string _, _, .string _ => rfl
  | .integer _, _, .integer _ => rfl
  | .float _, _, .finite _ => rfl
  | .float _, _, .infinite _ => rfl
  | .float _, _, .nan => rfl
  | .boolean _, _, .boolean _ => rfl
  | .datetime _, _, .datetime _ => rfl
  | .array _, _, .array h => congrArg _ h.eq_itemsToJson
  | .table _, _, .table h => congrArg _ h.eq_fieldsToJson

theorem ItemsDenote.eq_itemsToJson : ∀ {items : List Value} {values : List Json.Value},
    ItemsDenote items values → values = itemsToJson items
  | [], _, .nil => rfl
  | _ :: _, _, .cons hv hvs => by
    rw [itemsToJson, ← hv.eq_toJson, ← hvs.eq_itemsToJson]

theorem FieldsDenote.eq_fieldsToJson : ∀ {fields : Fields} {values : Json.Fields},
    FieldsDenote fields values → values = fieldsToJson fields
  | [], _, .nil => rfl
  | _ :: _, _, .cons key hv hfs => by
    rw [fieldsToJson, ← hv.eq_toJson, ← hfs.eq_fieldsToJson]

end

theorem denotes_iff {v : Value} {j : Json.Value} : Denotes v j ↔ j = v.toJson := by
  constructor
  · exact Denotes.eq_toJson
  · rintro rfl
    exact denotes_toJson v

end SchemaMigration.Toml
