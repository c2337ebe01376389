import PublicFunds.Form.Basic

/-!
# Forms of records

A record is stored as its fields one after the other, in a fixed order.  In a document it is an
object with the names of the fields, in any order; fields that the record does not have are passed
over.  It may also be given as the list of its values in storage order.

A field that is missing from a document makes it unreadable, unless the field is one that is empty
when nothing is said about it.  A field that is given twice always does.

* `Fields`: a list of fields; `Fields.field` and `Fields.optional` put one in front.
* `Fields.form`: the form of the record.
-/

namespace PublicFunds

/-- Fields of a record in storage order, with the values of all of them together. -/
structure Fields (α : Type) where
  names : List String
  encode : α → Bytes
  decode : Bytes → Except FormFault (α × Bytes)
  /-- The JSON value of every field. -/
  toValues : α → List Json
  /-- The values that the JSON values stand for; some may be missing. -/
  ofValues? : List (Option Json) → Option α

namespace Fields

variable {α β : Type}

/-- No fields. -/
def nil : Fields Unit where
  names := []
  encode _ := []
  decode bs := .ok ((), bs)
  toValues _ := []
  ofValues?
    | [] => some ()
    | _ :: _ => none

/-- One more field in front, with the value that it has when it is missing from a document. -/
def cons (name : String) (form : Form α) (missing : Option α) (rest : Fields β) :
    Fields (α × β) where
  names := name :: rest.names
  encode ab := form.encode ab.1 ++ rest.encode ab.2
  decode bs :=
    match form.decode bs with
    | .error fault => .error fault
    | .ok (a, bs) =>
      match rest.decode bs with
      | .error fault => .error fault
      | .ok (b, bs) => .ok ((a, b), bs)
  toValues ab := form.toJson ab.1 :: rest.toValues ab.2
  ofValues?
    | [] => none
    | value :: values =>
      match value.elim missing form.ofJson?, rest.ofValues? values with
      | some a, some b => some (a, b)
      | _, _ => none

/-- One more field in front, which must be there. -/
def field (name : String) (form : Form α) (rest : Fields β) : Fields (α × β) :=
  cons name form none rest

/-- One more field in front, which has a value when it is missing. -/
def optional (name : String) (form : Form α) (missing : α) (rest : Fields β) : Fields (α × β) :=
  cons name form (some missing) rest

/-! ## In documents -/

/-- The fields of an object by the text of their names. -/
def named? : List (Bytes × Json) → Option (List (String × Json))
  | [] => some []
  | (name, value) :: rest =>
    match Json.bodyText? name, named? rest with
    | some s, some fields => some ((s, value) :: fields)
    | _, _ => none

/-- The only value under a name, if there is one; two values are an error. -/
def only? (fields : List (String × Json)) (name : String) : Option (Option Json) :=
  match fields.filter fun field => field.1 == name with
  | [] => some none
  | [field] => some (some field.2)
  | _ => none

/-- The values under some names. -/
def pick? (fields : List (String × Json)) : List String → Option (List (Option Json))
  | [] => some []
  | name :: names =>
    match only? fields name, pick? fields names with
    | some value, some values => some (value :: values)
    | _, _ => none

/-- The values of a record's fields in storage order. -/
def values? (names : List String) : Json → Option (List (Option Json))
  | .object fields =>
    match named? fields with
    | none => none
    | some fields => pick? fields names
  | .array items =>
    if items.length ≤ names.length then
      some (items.map some ++ List.replicate (names.length - items.length) none)
    else none
  | _ => none

/-- The form of a record with these fields. -/
def form (fields : Fields α) : Form α where
  encode := fields.encode
  decode := fields.decode
  toJson a := .object ((fields.names.map fun name => Json.escape name.toList).zip
    (fields.toValues a))
  ofJson? j := (values? fields.names j).bind fields.ofValues?

end Fields

end PublicFunds
