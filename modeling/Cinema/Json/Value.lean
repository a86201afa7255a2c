/-!
# JSON values

The provider answers in JSON and requests arrive as JSON, so one dynamic value type carries
both. Integers and doubles are different values (`1` is not `1.0`), integers are unbounded,
and an object keeps its members in the order they were first written, one member per key.
-/

namespace Cinema.Json

/-- A JSON value. An object's members are in first-written order with distinct keys. -/
inductive Value where
  | null
  | bool (b : Bool)
  | int (n : Int)
  | float (x : Float)
  | str (s : String)
  | arr (items : List Value)
  | obj (fields : List (String × Value))
  deriving Inhabited

namespace Value

def get? : Value → String → Option Value
  | .obj fields, key => (fields.find? (·.1 == key)).map (·.2)
  | _, _ => none

def getD (v : Value) (key : String) : Value := (v.get? key).getD .null

/-- Sets member `key`: a key already present keeps its place and takes the new value, a new key
goes last. This is how a repeated key in JSON text is read. -/
def setField (fields : List (String × Value)) (key : String) (v : Value) : List (String × Value) :=
  if fields.any (·.1 == key) then fields.map fun kv => if kv.1 == key then (key, v) else kv
  else fields ++ [(key, v)]

/-- The name of the kind of a value, as error messages of the service spell it. -/
def kindName : Value → String
  | .null => "NoneType"
  | .bool _ => "bool"
  | .int _ => "int"
  | .float _ => "float"
  | .str _ => "str"
  | .arr _ => "list"
  | .obj _ => "dict"

/-- Whether a value counts as true where a condition tests it: `null`, `false`, zero, the empty
text, list and object count as false. -/
def truthy : Value → Bool
  | .null => false
  | .bool b => b
  | .int n => n != 0
  | .float x => x != 0
  | .str s => !s.isEmpty
  | .arr items => !items.isEmpty
  | .obj fields => !fields.isEmpty

end Value

end Cinema.Json
