/-!
# JSON values

A JSON value is a tree of objects, arrays and scalars.  Numbers that are written
as integers are kept apart from those with a fraction or an exponent, because a
count is never read from the latter.  The members of an object are kept in the
order in which they are written; reading looks them up by name.
-/

namespace LegendReport

inductive Json where
  | null
  | bool (value : Bool)
  | integer (value : Int)
  /-- The number `mantissa / 10 ^ places`, written with a fraction or an exponent. -/
  | decimal (mantissa : Int) (places : Nat)
  | string (value : String)
  | array (items : List Json)
  | object (members : List (String × Json))
  deriving Inhabited, Repr

namespace Json

/-- The member of an object with the given name. -/
def member? (json : Json) (name : String) : Option Json :=
  match json with
  | object members => members.lookup name
  | _ => none

/-- The values of a record with the given field names.  It is an object that has all of them, in
any order and perhaps among others, or an array of exactly these values in the order of the names. -/
def record? (names : List String) (json : Json) : Option (List Json) :=
  match json with
  | object members => names.mapM fun name => members.lookup name
  | array items => if items.length = names.length then some items else none
  | _ => none

def string? : Json → Option String
  | string value => some value
  | _ => none

def bool? : Json → Option Bool
  | bool value => some value
  | _ => none

/-- A count is an integer that a machine word of sixty-four bits holds. -/
def count? : Json → Option Nat
  | integer value => if 0 ≤ value ∧ value.toNat < UInt64.size then some value.toNat else none
  | _ => none

/-- The values of an array, all read the same way. -/
def list? {α : Type} (read : Json → Option α) : Json → Option (List α)
  | array items => items.mapM read
  | _ => none

@[simp] theorem string?_string
    (value : String) :
    string? (string value) = some value := by
  rfl

@[simp] theorem bool?_bool
    (value : Bool) :
    bool? (bool value) = some value := by
  rfl

theorem count?_integer
    {n : Nat}
    (h : n < UInt64.size) :
    count? (integer n) = some n := by
  rw [count?, Int.toNat_natCast, if_pos ⟨Int.natCast_nonneg n, h⟩]

end Json

end LegendReport
