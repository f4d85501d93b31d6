import ShadowNet.Go.Json.Decode

/-! # JSON values held as `any`

What `json.Unmarshal` puts into an `any`: objects become maps, where the last of several members of
one name counts, and numbers become float64. An int is there for values the program puts in itself.
-/

namespace ShadowNet.Go.Json

inductive Any where
  | null
  | bool (value : Bool)
  | float (value : Float64)
  | int (value : Int64)
  | str (text : GoString)
  | arr (items : List Any)
  | obj (entries : List (GoString × Any))
deriving Inhabited

mutual
/-- `json.Unmarshal` into an `any`; it fails on numbers out of range. -/
def Any.ofValue : Value → Option Any
  | .null => some .null
  | .bool value => some (.bool value)
  | .num text => (Float64.parse text).map .float
  | .str text => some (.str text)
  | .arr items => (Any.ofItems items).map .arr
  | .obj members => (Any.ofMembers [] members).map .obj

def Any.ofItems : List Value → Option (List Any)
  | [] => some []
  | item :: rest =>
      (Any.ofValue item).bind fun item => (Any.ofItems rest).map fun rest => item :: rest

/-- Successive assignments to the map that holds `entries`. -/
def Any.ofMembers (entries : List (GoString × Any)) :
    List (GoString × Value) → Option (List (GoString × Any))
  | [] => some entries
  | (key, value) :: rest =>
      (Any.ofValue value).bind fun value => Any.ofMembers (Map.insertIn key value entries) rest
end

mutual
/-- The JSON value `json.Marshal` writes for it. -/
def Any.toValue : Any → Value
  | .null => .null
  | .bool value => .bool value
  | .float value => .num value.format
  | .int value => .num (itoa value.toInt)
  | .str text => .str text
  | .arr items => .arr (Any.toItems items)
  | .obj entries => .obj (Any.toMembers entries)

def Any.toItems : List Any → List Value
  | [] => []
  | item :: rest => item.toValue :: Any.toItems rest

def Any.toMembers : List (GoString × Any) → List (GoString × Value)
  | [] => []
  | (key, value) :: rest => (key, value.toValue) :: Any.toMembers rest
end

/-- `json.Unmarshal` into an `any`. -/
def unmarshalAny (text : Bytes) : Option Any := (parse text).bind Any.ofValue

/-- `json.Marshal` of an `any`. -/
def marshalAny (value : Any) : Bytes := encode value.toValue

/-! ## Paths -/

/-- The value at a path of member names. -/
def Any.lookup : List GoString → Any → Option Any
  | [], value => some value
  | name :: path, .obj entries => (Map.findIn name entries).bind (Any.lookup path)
  | _ :: _, _ => none

/-- The value with null in place of what is at a path. -/
def Any.blank : List GoString → Any → Any
  | [], _ => .null
  | name :: path, .obj entries =>
      match Map.findIn name entries with
      | some value => .obj (Map.insertIn name (value.blank path) entries)
      | none => .obj entries
  | _ :: _, value => value

end ShadowNet.Go.Json
