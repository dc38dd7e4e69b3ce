import CredentialWallet.Json.Draft
/-!
# One level of what is read

A record is read in one way from a value and from a text. `Readable` is what both offer: a view of the
outermost level, the whole as a free value, and whether it can be passed over.

The entries of a value come in key order and are all there; those of a text come in its own order, may
repeat a key and may break off.
-/

namespace CredentialWallet.Record

open Json (Draft Stop)

/-- The outermost level of what is read, with its parts unread. -/
inductive View (α : Type)
  | null
  | bool (value : Bool)
  | number (value : Number)
  | string (value : String)
  | array (items : List α) (stop : Stop)
  | object (entries : List (String × α)) (fault : Option Fault)
  | fault (fault : Fault)

class Readable (α : Type) where
  view : α → View α
  /-- The whole as a value of any shape. -/
  free : α → Except Fault Json
  /-- The fault met by passing over it. -/
  skip : α → Option Fault

/-! ### Values -/

instance : Readable Json where
  view
    | .null => .null
    | .bool b => .bool b
    | .number n => .number n
    | .string s => .string s
    | .array items => .array items .whole
    | .object entries => .object entries none
  free value := .ok value
  skip _ := none

/-! ### Texts -/

/-- A part of a text, and how many more levels may be entered. -/
structure Excerpt where
  draft : Draft
  depth : Nat

namespace Excerpt

/-- The entries up to the first key that cannot be read, and what stops them. -/
def entries (depth : Nat) (stop : Stop) :
    List (Except Fault String × Draft) → List (String × Excerpt) × Option Fault
  | [] => ([], stop.readFault?)
  | (.error fault, _) :: _ => ([], some fault)
  | (.ok key, draft) :: rest =>
    let behind := entries depth stop rest
    ((key, ⟨draft, depth⟩) :: behind.1, behind.2)

def view (e : Excerpt) : View Excerpt :=
  match e.draft with
  | .null => .null
  | .bool b => .bool b
  | .number n => .number n
  | .string s => .string s
  | .spoilt fault => .fault fault
  | .fault read _ => .fault read
  | .array items stop =>
    match e.depth with
    | 0 => .array [] (.torn false .tooDeep .tooDeep)
    | depth + 1 => .array (items.map fun item => ⟨item, depth⟩) stop
  | .object members stop =>
    match e.depth with
    | 0 => .object [] (some .tooDeep)
    | depth + 1 =>
      let found := entries depth stop members
      .object found.1 found.2

end Excerpt

instance : Readable Excerpt where
  view := Excerpt.view
  free e := e.draft.toJson? e.depth
  skip e := e.draft.skipFault?

end CredentialWallet.Record
