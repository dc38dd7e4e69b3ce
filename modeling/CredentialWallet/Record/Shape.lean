import CredentialWallet.Record.Error
import CredentialWallet.Record.View
import CredentialWallet.Word
/-!
# Reading records

A `Shape` lists the fields of a record in the order of their declaration and says how to put the record
together from them. `Shape.read` reads it from an object by the names of the fields, or from an array
by their order.

Which error wins is part of the rule: an object is gone through in its own order and the first field
that is wrong or repeated ends it; only then the first field that is missing, in the order of
declaration, is reported.
-/

namespace CredentialWallet.Record

open Json (Stop)

variable {α β τ υ : Type}

/-! ### Single values -/

/-- The error for a value of another type than the one expected. -/
def View.mismatch (expected : String) : View α → Error
  | .null => .wrongType .null expected
  | .bool b => .wrongType (.bool b) expected
  | .number n => .wrongType (.number n) expected
  | .string s => .wrongType (.string s) expected
  | .array _ _ => .wrongType .sequence expected
  | .object _ _ => .wrongType .map expected
  | .fault f => .fault f

section
variable [Readable α]

def readText (a : α) : Except Error String :=
  match Readable.view a with
  | .string s => .ok s
  | v => .error (v.mismatch "a string")

def readBool (a : α) : Except Error Bool :=
  match Readable.view a with
  | .bool b => .ok b
  | v => .error (v.mismatch "a boolean")

/-- An unsigned integer, of a type with the given name. -/
def readUnsigned (expected : String) (a : α) : Except Error Nat :=
  match Readable.view a with
  | .number (.int i) => if 0 ≤ i then .ok i.toNat else .error (.negative i expected)
  | v => .error (v.mismatch expected)

/-- A word of a closed set. -/
def readWord (τ : Type) [Word τ] (a : α) : Except Error τ :=
  match readText a with
  | .ok raw =>
    match Word.decode? raw with
    | some value => .ok value
    | none => .error (.unknownWord (Word.setName τ) raw)
  | .error e => .error e

/-- A value of any shape. -/
def readFree (a : α) : Except Error Json :=
  match Readable.free a with
  | .ok value => .ok value
  | .error f => .error (.fault f)

/-- An object of any members. -/
def readMembers (a : α) : Except Error Entries :=
  match Readable.view a with
  | .object _ _ =>
    match Readable.free a with
    | .ok (.object entries) => .ok entries
    | .ok _ => .ok []
    | .error f => .error (.fault f)
  | v => .error (v.mismatch "a map")

/-- A value, or nothing for a null. -/
def readOption (read : α → Except Error τ) (a : α) : Except Error (Option τ) :=
  match Readable.view a with
  | .null => .ok none
  | _ => (read a).map some

/-- All items of an array. -/
def readList (read : α → Except Error τ) (a : α) : Except Error (List τ) :=
  match Readable.view a with
  | .array items stop => do
    let values ← items.mapM read
    match stop.readFault? with
    | some f => .error (.fault f)
    | none => .ok values
  | v => .error (v.mismatch "a sequence")

end

/-! ### Shapes -/

/-- A field: its name, whether it must be there, and what is wrong with a value for it. -/
structure Field (α : Type) where
  name : String
  required : Bool
  check : α → Except Error Unit

/-- The values found for the fields of a record, by name. -/
abbrev Slots (α : Type) := List (String × α)

/-- The fields of a record in the order of declaration, and the record made from their values. -/
structure Shape (α τ : Type) where
  fields : List (Field α)
  build : Slots α → Except Error τ

namespace Shape

instance : Functor (Shape α) where
  map f s := ⟨s.fields, fun slots => (s.build slots).map f⟩

instance : Applicative (Shape α) where
  pure x := ⟨[], fun _ => .ok x⟩
  seq f x := ⟨f.fields ++ (x ()).fields, fun slots =>
    match f.build slots with
    | .ok g => ((x ()).build slots).map g
    | .error e => .error e⟩

/-- A field that must be there. -/
def required (name : String) (read : α → Except Error τ) : Shape α τ where
  fields := [⟨name, true, fun a => (read a).map fun _ => ()⟩]
  build slots :=
    match slots.lookup name with
    | some a => read a
    | none => .error (.missing name)

/-- A field that may be null or absent. -/
def optional [Readable α] (name : String) (read : α → Except Error τ) : Shape α (Option τ) where
  fields := [⟨name, false, fun a => (readOption read a).map fun _ => ()⟩]
  build slots :=
    match slots.lookup name with
    | some a => readOption read a
    | none => .ok none

/-- A field with a value of its own when it is absent. -/
def defaulted (name : String) (read : α → Except Error τ) (value : τ) : Shape α τ where
  fields := [⟨name, false, fun a => (read a).map fun _ => ()⟩]
  build slots :=
    match slots.lookup name with
    | some a => read a
    | none => .ok value

end Shape

/-! ### Reading a shape -/

/-- Checks the entries of an object in their order. -/
def checkEntries [Readable α] (fields : List (Field α)) :
    List String → List (String × α) → Except Error Unit
  | _, [] => .ok ()
  | seen, (key, a) :: rest =>
    match fields.find? fun field => field.name == key with
    | none =>
      match Readable.skip a with
      | some f => .error (.fault f)
      | none => checkEntries fields seen rest
    | some field =>
      if key ∈ seen then .error (.duplicate key)
      else
        match field.check a with
        | .error e => .error e
        | .ok _ => checkEntries fields (key :: seen) rest

/-- Checks the items of an array against the fields in their order. -/
def checkItems : List (Field α) → List α → Except Error Unit
  | field :: fields, a :: rest =>
    match field.check a with
    | .error e => .error e
    | .ok _ => checkItems fields rest
  | _, _ => .ok ()

/-- The place of the first field from `index` on that must be there. -/
def firstRequired (index : Nat) : List (Field α) → Option Nat
  | [] => none
  | field :: rest => if field.required then some index else firstRequired (index + 1) rest

/-- What is wrong with the end of an array of `length` items of which `count` were taken. -/
def surplus (length count : Nat) (stop : Stop) : Option Error :=
  if count < length then
    match stop with
    | .whole => some (.wrongLength length "fewer elements in array")
    | _ => some (.fault .trailingCharacters)
  else stop.closeFault?.map .fault

/-- What is wrong with the length of an array of items for some fields. -/
def lengthError (name : String) (fields : List (Field α)) (length : Nat) (stop : Stop) :
    Option Error :=
  if length < fields.length then
    match stop.readFault? with
    | some f => some (.fault f)
    | none =>
      let unit := if fields.length = 1 then "element" else "elements"
      (firstRequired length (fields.drop length)).map fun index =>
        .wrongLength index s!"struct {name} with {fields.length} {unit}"
  else surplus length fields.length stop

/-- Reads a record of the given name and shape. -/
def Shape.read [Readable α] (name : String) (shape : Shape α τ) (a : α) : Except Error τ :=
  match Readable.view a with
  | .object entries fault =>
    match checkEntries shape.fields [] entries, fault with
    | .error e, _ => .error e
    | .ok _, some f => .error (.fault f)
    | .ok _, none => shape.build entries
  | .array items stop =>
    match checkItems shape.fields items with
    | .error e => .error e
    | .ok _ =>
      match lengthError name shape.fields items.length stop with
      | some e => .error e
      | none => shape.build ((shape.fields.map Field.name).zip items)
  | v => .error (v.mismatch s!"struct {name}")

/-! ### Whole texts -/

/-- Reads a document with nothing but blanks behind its value. -/
def readDocument (read : Excerpt → Except Error τ) (d : Json.Document) : Except Error τ :=
  d.finish Error.fault (read ⟨d.draft, Json.depthLimit⟩)

/-- Reads a text. -/
def readFromText (read : Excerpt → Except Error τ) (text : String) : Except Error τ :=
  readDocument read (Json.Document.ofText text)

end CredentialWallet.Record
