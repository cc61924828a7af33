/-!
# JSON values

What `response.json()` gives. An object is the list of its members in the
order of the text; where a name stands twice the later member counts.
-/

namespace YTPipe

inductive Json
  | null
  | bool (b : Bool)
  | int (n : Int)
  | float (q : Rat)
  | str (s : String)
  | arr (items : List Json)
  | obj (members : List (String × Json))

namespace Json

abbrev Dict := List (String × Json)

/-- `value if isinstance(value, dict)`. -/
def asDict : Json → Option Dict
  | obj members => some members
  | _ => none

def asStr : Json → Option String
  | str s => some s
  | _ => none

/-- Lists and objects cannot be looked up in a set. -/
def unhashable : Json → Bool
  | arr _ => true
  | obj _ => true
  | _ => false

namespace Dict

def get? (d : Dict) (name : String) : Option Json :=
  (d.reverse.find? (·.1 == name)).map (·.2)

def hasKey (d : Dict) (name : String) : Bool := d.any (·.1 == name)

/-- `set(d) <= names`. -/
def keysWithin (d : Dict) (names : List String) : Bool := d.all (fun m => names.contains m.1)

/-- `set(d) == names`. -/
def keysAre (d : Dict) (names : List String) : Bool :=
  d.keysWithin names && names.all d.hasKey

def getDict? (d : Dict) (name : String) : Option Dict := (d.get? name).bind asDict

def getStr? (d : Dict) (name : String) : Option String := (d.get? name).bind asStr

/-- `isinstance(value, int) and not isinstance(value, bool) and value >= 0` of a member. -/
def isCount (d : Dict) (name : String) : Bool :=
  match d.get? name with
  | some (int n) => decide (0 ≤ n)
  | _ => false

end Dict

end Json

end YTPipe
