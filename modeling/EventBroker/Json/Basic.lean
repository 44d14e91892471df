/-
JSON values.

Integers of 64 bits are kept exactly; every other number is a double, held as its 64 bits. The fields of an object
stand in increasing order of their names, each name once.
-/

namespace EventBroker.Json

inductive Value where
  | null
  | bool (b : Bool)
  | int (n : Int)
  | double (bits : UInt64)
  | text (s : String)
  | array (items : List Value)
  | object (fields : List (String × Value))

namespace Value

/-- put a field in its place; a field of the same name is replaced -/
def insertField (k : String) (v : Value) : List (String × Value) → List (String × Value)
  | [] => [(k, v)]
  | (k', v') :: rest =>
    if k < k' then (k, v) :: (k', v') :: rest
    else if k = k' then (k, v) :: rest
    else (k', v') :: insertField k v rest

/-- the object with these fields; of two fields with one name the last one counts -/
def ofFields (fs : List (String × Value)) : Value :=
  .object (fs.foldl (fun acc f => insertField f.1 f.2 acc) [])

/-- the field of an object with this name -/
def field? (v : Value) (name : String) : Option Value :=
  match v with
  | .object fs => (fs.find? fun f => f.1 == name).map Prod.snd
  | _ => none

end Value

end EventBroker.Json
