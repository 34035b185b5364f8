import SignatureBridge.Number.Error
import SignatureBridge.Number.Shortest

/-!
# JSON values

A document is a tree of JSON values. Integers and doubles are kept apart, since a number written
without point and exponent is exact at any size. An object is the list of its members in the order
in which their names first occur; a repeated name keeps its place and takes the later value
(`Json.put`).

`Json.shown` is the one-line form in which a message quotes a value it cannot use.
-/

namespace SignatureBridge

/-- A JSON value. -/
inductive Json where
  | null
  | bool (b : Bool)
  | int (n : Int)
  | double (x : Binary64)
  | text (t : Text)
  | array (items : List Json)
  | object (members : List (Text × Json))

namespace Json

/-- Sets a member: in its place if the name is there, else at the end. -/
def put (name : Text) (value : Json) : List (Text × Json) → List (Text × Json)
  | [] => [(name, value)]
  | member :: members =>
    if member.1 = name then (name, value) :: members else member :: put name value members

/-- The member of a name. -/
def member? (name : Text) (members : List (Text × Json)) : Option Json :=
  (members.find? (·.1 = name)).map (·.2)

/-- The word for the kind of a value in messages. -/
def typeName : Json → Text
  | null => "NoneType"
  | bool _ => "bool"
  | int _ => "int"
  | double _ => "float"
  | text _ => "str"
  | array _ => "list"
  | object _ => "dict"

mutual

/-- A value as messages show it, unless it holds an integer that is too long to write. -/
def shown : Json → Except NumberError Text
  | null => .ok "None"
  | bool b => .ok (Text.ofBool b)
  | int n => Text.ofInt? n
  | double x => .ok x.text
  | text t => .ok t.quoted
  | array items => do return "[" ++ Text.join ", " (← shownItems items) ++ "]"
  | object members => do return "\x7b" ++ Text.join ", " (← shownMembers members) ++ "\x7d"

/-- The shown items of an array. -/
def shownItems : List Json → Except NumberError (List Text)
  | [] => .ok []
  | item :: items => do return (← shown item) :: (← shownItems items)

/-- The shown members of an object, each as name and value. -/
def shownMembers : List (Text × Json) → Except NumberError (List Text)
  | [] => .ok []
  | (name, value) :: members => do
    return (name.quoted ++ ": " ++ (← shown value)) :: (← shownMembers members)

end

end Json

end SignatureBridge
