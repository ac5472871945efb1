import Mathlib.Algebra.Order.Field.Rat
import AreFoundation.Library.OrderedMap

-- Documents, represented by what they encode. A document whose numbers and names are the same is
-- encoded by the same bytes, since encoders write the names of an object in a fixed order.
inductive Json
  | null
  | bool (value : Bool)
  | number (value : ℚ)
  | string (value : String)
  | array (elems : List Json)
  | object (fields : List (String × Json))

namespace Json

-- The value of a name, `null` if there is none. The names of an object are taken to be distinct, since
-- a decoder that reads the same name twice keeps the last value and not the first.
def field (j : Json) (name : String) : Json :=
  match j with
  | object fields => ((fields.find? (·.1 = name)).map (·.2)).getD null
  | _             => null

-- What a type assertion to a string yields.
def asString : Json → String
  | string value => value
  | _            => ""

def isString (s : String) : Json → Bool
  | string value => value = s
  | _            => false

def asNumber? : Json → Option ℚ
  | number value => some value
  | _            => none

def elements : Json → List Json
  | array elems => elems
  | _           => []

def isObject : Json → Bool
  | object _ => true
  | _        => false

-- Values that can be decoded to a structure or a map. The value `null` leaves them empty.
def asStruct? : Json → Option Json
  | object fields => some <| object fields
  | null          => some null
  | _             => none

-- Values that can be decoded to a field for a string.
def asText? : Json → Option String
  | string value => some value
  | null         => some ""
  | _            => none

def toMap : Json → OrderedMap String Json
  | object fields => fields.foldr (fun e m => m.set e.1 e.2) {}
  | _             => {}

def ofMap (m : OrderedMap String Json) : Json :=
  object m.entries

@[simp]
theorem asString_string {value : String} : (string value).asString = value :=
  rfl

@[simp]
theorem isString_iff {j : Json} {s : String} : j.isString s ↔ j = string s := by
  cases j <;> simp [isString]

@[simp]
theorem field_object_nil {name : String} : (object []).field name = null :=
  rfl

@[simp]
theorem field_object_cons {name : String} {e : String × Json} {fields : List (String × Json)} :
    (object (e :: fields)).field name =
      if e.1 = name then e.2 else (object fields).field name := by
  by_cases h : e.1 = name <;> simp [field, h]

theorem field_object_map {m : OrderedMap String α} {f : α → Json} {name : String} :
    (object <| m.entries.map fun e => (e.1, f e.2)).field name = ((m.get? name).map f).getD null := by
  simp [field, OrderedMap.get?, List.find?_map, Function.comp_def]

theorem get?_toMap {j : Json} {name : String} : (j.toMap.get? name).getD null = j.field name := by
  cases j
  case object fields =>
    induction fields
    case nil => rfl
    case cons e fields hi =>
      rw [field_object_cons]
      simp only [toMap, List.foldr_cons] at hi ⊢
      rw [OrderedMap.get?_set]
      by_cases h : e.1 = name
      case pos => simp [h]
      case neg => simpa [h, Ne.symm h] using hi
  all_goals rfl

end Json
