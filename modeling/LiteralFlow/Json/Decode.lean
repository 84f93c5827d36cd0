import LiteralFlow.Json.Basic

/-!
Taking values of other types out of JSON documents.

Arrays and objects can be nested to a bounded depth. `room` is the number of
levels that are left; members with unknown keys are passed over and use none.
A value that has to be kept until a later member says what it is must fit the
room as a whole, and only texts and finite numbers can be kept.
-/

namespace LiteralFlow.Json

def maximumNesting : Nat := 127

mutual

/-- Whether a value can be kept for later. -/
def isKeepable (room : Nat) : Json → Bool
  | null => true
  | bool _ => true
  | number value => value.isFinite
  | string value => value.isSome
  | array items =>
      match room with
      | 0 => false
      | room + 1 => areKeepable room items
  | object members =>
      match room with
      | 0 => false
      | room + 1 => areKeepableMembers room members

def areKeepable (room : Nat) : List Json → Bool
  | [] => true
  | item :: items => isKeepable room item && areKeepable room items

def areKeepableMembers (room : Nat) : List (Option String × Json) → Bool
  | [] => true
  | (key, value) :: members =>
      key.isSome && isKeepable room value && areKeepableMembers room members

end

def text? : Json → Option String
  | string value => value
  | _ => none

def bool? : Json → Option Bool
  | bool value => some value
  | _ => none

def natBelow? (limit : Nat) : Json → Option Nat
  | number value => do
      let n ← value.nat?
      if n < limit then some n else none
  | _ => none

def nullable? {α : Type} (decode : Json → Option α) : Json → Option (Option α)
  | null => some none
  | value => (decode value).map some

/-- An array whose items are inside `room` more levels. -/
def list? {α : Type} (decode : Nat → Json → Option α) : Nat → Json → Option (List α)
  | room + 1, array items => items.mapM (decode room)
  | _, _ => none

abbrev Fields := List (String × Json)

def fields? (members : List (Option String × Json)) : Option Fields :=
  members.mapM fun (key, value) => key.map fun key => (key, value)

def objectFields? : Json → Option Fields
  | object members => fields? members
  | _ => none

/-- The members of a record, which is an object, or an array of the first values
in the order of `keys`. -/
def recordFields? (keys : List String) : Json → Option Fields
  | object members => fields? members
  | array items => if items.length ≤ keys.length then some (keys.zip items) else none
  | _ => none

namespace Fields

def valuesOf (fields : Fields) (key : String) : List Json :=
  fields.filterMap fun (other, value) => if other = key then some value else none

/-- A member that has to occur, and only once. -/
def required? {α : Type} (fields : Fields) (key : String) (decode : Json → Option α) : Option α :=
  match fields.valuesOf key with
  | [value] => decode value
  | _ => none

/-- A member that can be left out, and otherwise occurs only once. -/
def optional? {α : Type} (fields : Fields) (key : String) (absent : α)
    (decode : Json → Option α) : Option α :=
  match fields.valuesOf key with
  | [] => some absent
  | [value] => decode value
  | _ => none

end Fields

end LiteralFlow.Json
