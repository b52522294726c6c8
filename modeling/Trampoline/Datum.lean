/-!
Plain data: the values programs pass around and the entries a journal holds.

A record keeps its fields in ascending order of their names, one field a name.  `record` builds
such a record from fields in any order.  Equality of data is decidable by `same`.
-/

namespace Trampoline

inductive Datum where
  | null
  | bool (value : Bool)
  | int (value : Int)
  | text (value : String)
  | list (items : List Datum)
  | fields (entries : List (String × Datum))
  deriving Inhabited

namespace Datum

/-- Put a field in its place; a field of that name gives way to it. -/
def insertField (name : String) (value : Datum) :
    List (String × Datum) → List (String × Datum)
  | [] => [(name, value)]
  | (other, held) :: rest =>
      if name = other then (name, value) :: rest
      else if name < other then (name, value) :: (other, held) :: rest
      else (other, held) :: insertField name value rest

/-- The record with the given fields; of two fields of one name the later counts. -/
def record (entries : List (String × Datum)) : Datum :=
  .fields (entries.foldl (fun sorted entry => insertField entry.1 entry.2 sorted) [])

def field (name : String) : Datum → Datum
  | .fields entries => (entries.lookup name).getD .null
  | _ => .null

def ofText? : Option String → Datum
  | some value => .text value
  | none => .null

def ofNat (value : Nat) : Datum := .int value

mutual

def same : Datum → Datum → Bool
  | .null, .null => true
  | .bool left, .bool right => left == right
  | .int left, .int right => left == right
  | .text left, .text right => left == right
  | .list left, .list right => sameItems left right
  | .fields left, .fields right => sameEntries left right
  | _, _ => false

def sameItems : List Datum → List Datum → Bool
  | [], [] => true
  | left :: lefts, right :: rights => same left right && sameItems lefts rights
  | _, _ => false

def sameEntries : List (String × Datum) → List (String × Datum) → Bool
  | [], [] => true
  | (leftName, left) :: lefts, (rightName, right) :: rights =>
      leftName == rightName && same left right && sameEntries lefts rights
  | _, _ => false

end

mutual

@[simp]
theorem same_eq_true_iff : (left right : Datum) → (same left right = true ↔ left = right)
  | .null, right => by cases right <;> simp [same]
  | .bool _, right => by cases right <;> simp [same]
  | .int _, right => by cases right <;> simp [same]
  | .text _, right => by cases right <;> simp [same]
  | .list items, right => by
      cases right <;> simp [same, sameItems_eq_true_iff items]
  | .fields entries, right => by
      cases right <;> simp [same, sameEntries_eq_true_iff entries]

theorem sameItems_eq_true_iff :
    (lefts rights : List Datum) → (sameItems lefts rights = true ↔ lefts = rights)
  | [], rights => by cases rights <;> simp [sameItems]
  | left :: lefts, rights => by
      cases rights <;> simp [sameItems, same_eq_true_iff left, sameItems_eq_true_iff lefts]

theorem sameEntries_eq_true_iff :
    (lefts rights : List (String × Datum)) → (sameEntries lefts rights = true ↔ lefts = rights)
  | [], rights => by cases rights <;> simp [sameEntries]
  | (name, left) :: lefts, rights => by
      cases rights <;>
        simp [sameEntries, same_eq_true_iff left, sameEntries_eq_true_iff lefts, Prod.ext_iff]

end

instance : DecidableEq Datum := fun left right =>
  decidable_of_iff (same left right = true) (same_eq_true_iff left right)

end Datum

end Trampoline
