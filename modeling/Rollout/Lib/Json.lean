import Mathlib.Data.List.Basic

/-!
# JSON values

* `JsonValue` — a value over a type of numbers; an object is its fields in order.
* `JsonValue.get`, `asStr`, `asNumber`, `asArray` — what is read from a value.
* `JsonValue.mapNumber` — the value with its numbers replaced.
-/

namespace Rollout.Lib

/-- A JSON value. Source: none: infrastructure. Kind: D -/
inductive JsonValue (N : Type)
  | null
  | bool (b : Bool)
  | number (n : N)
  | string (s : String)
  | array (items : List (JsonValue N))
  | object (fields : List (String × JsonValue N))

/-- The fields of an object, in order. Source: none: infrastructure. Kind: D -/
abbrev Fields (N : Type) := List (String × JsonValue N)

namespace JsonValue

variable {N : Type}

/-- The field of an object. Source: none: infrastructure. Kind: D -/
def get (key : String) : JsonValue N → Option (JsonValue N)
  | object fields => fields.lookup key
  | _ => none

/-- Source: none: infrastructure. Kind: D -/
def asStr : JsonValue N → Option String
  | string s => some s
  | _ => none

/-- Source: none: infrastructure. Kind: D -/
def asNumber : JsonValue N → Option N
  | number n => some n
  | _ => none

/-- Source: none: infrastructure. Kind: D -/
def asArray : JsonValue N → Option (List (JsonValue N))
  | array items => some items
  | _ => none

variable (f : N → N)

mutual

/-- The value with its numbers replaced. Source: none: infrastructure. Kind: D -/
def mapNumber : JsonValue N → JsonValue N
  | null => null
  | bool b => bool b
  | number n => number (f n)
  | string s => string s
  | array items => array (mapItems items)
  | object fields => object (mapFields fields)

/-- Source: none: infrastructure. Kind: D -/
def mapItems : List (JsonValue N) → List (JsonValue N)
  | [] => []
  | v :: items => mapNumber v :: mapItems items

/-- Source: none: infrastructure. Kind: D -/
def mapFields : Fields N → Fields N
  | [] => []
  | (k, v) :: fields => (k, mapNumber v) :: mapFields fields

end

end JsonValue

end Rollout.Lib
