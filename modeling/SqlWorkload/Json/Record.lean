import SqlWorkload.Json.Value
/-!
# Records

Structures in documents: an object with a member for each field, in any order, or a list of the
fields in the order of their declaration. Unknown members are passed over, a field may not be given
twice. The fields of a record are the known ones in the order of the text, up to the first fault.
-/

namespace SqlWorkload.Json

structure Record where
  fields : List (String × Json)
  /-- Whether the text has no fault apart from what the fields may hold. -/
  isSound : Bool

namespace Record

/-- The known members, those in `seen` having come before. -/
def ofMembers (names seen : List String) : List (Option String × Json) → Record
  | [] => ⟨[], true⟩
  | (none, _) :: _ => ⟨[], false⟩
  | (some name, j) :: rest =>
    if name ∈ names then
      if name ∈ seen then ⟨[], false⟩
      else
        let r := ofMembers names (name :: seen) rest
        ⟨(name, j) :: r.fields, r.isSound⟩
    else if j.intact then ofMembers names seen rest
    else ⟨[], false⟩

/-- The record of the fields `names`; a list may leave out the last `spare` of them. -/
def of? (names : List String) (spare : Nat) : Json → Option Record
  | object members => some (ofMembers names [] members)
  | list items =>
    some ⟨names.zip items, names.length ≤ items.length + spare && items.length ≤ names.length⟩
  | _ => none

def get? (r : Record) (name : String) : Option Json := r.fields.lookup name

/-- A record without a fault, all of whose fields have to be there if it is a list. -/
def sound? (names : List String) (j : Json) : Option Record :=
  (of? names 0 j).bind fun r => if r.isSound then some r else none

/-- A field that has to be there. -/
def field? {α : Type} (r : Record) (name : String) (f : Json → Option α) : Option α :=
  (r.get? name).bind f

end Record

end SqlWorkload.Json
