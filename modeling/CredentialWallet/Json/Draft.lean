import CredentialWallet.Json.Scan
/-!
# JSON texts as far as they can be read

A draft is what a text says up to the place where it stops being JSON. Readers of records go through a
text in its own order and may fail on what they have read before they come to that place, so a draft
keeps both: the values, in the order of the text and with repeated keys, and what stopped it.

`Draft.toJson?` reads a draft as a free value, at most `depthLimit` levels deep; `Draft.skipFault?`
passes over one, at any depth.
-/

namespace CredentialWallet.Json

/-- How a list of items or entries ends: all of a value's items are there, a text closes it, or a text
is torn, maybe behind a comma, with the fault for a reading and for a passing over. -/
inductive Stop
  | whole
  | closed
  | torn (behindComma : Bool) (read skip : Fault)
deriving DecidableEq, Inhabited

inductive Draft
  | null
  | bool (value : Bool)
  | number (value : Number)
  | string (value : String)
  | spoilt (fault : Fault)
  | array (items : List Draft) (stop : Stop)
  | object (entries : List (Except Fault String × Draft)) (stop : Stop)
  | fault (read skip : Fault)
deriving Inhabited

namespace Stop

/-- The fault for a reading that comes to the end of a list. -/
def readFault? : Stop → Option Fault
  | torn _ read _ => some read
  | _ => none

def skipFault? : Stop → Option Fault
  | torn _ _ skip => some skip
  | _ => none

/-- The fault for a reading that is through with its items and expects the list to be closed. -/
def closeFault? : Stop → Option Fault
  | torn true read _ => some (if read = .trailingComma then .trailingComma else .trailingCharacters)
  | torn false read _ => some (if read = .endOfList then .endOfList else .trailingCharacters)
  | _ => none

end Stop

namespace Draft

/-- Whether a text cannot be followed beyond this draft. -/
def isTorn : Draft → Bool
  | fault _ _ => true
  | array _ (.torn ..) => true
  | object _ (.torn ..) => true
  | _ => false

/-! ### Taking a draft off a text -/

/-- A literal of which the first letter is gone. -/
def literal (value : Draft) : List Char → List Glyph → Draft × List Glyph
  | [], rest => (value, rest)
  | _ :: _, [] => (.fault .endOfValue .endOfValue, [])
  | c :: letters, g :: rest =>
    if g = some c then literal value letters rest else (.fault .expectedIdent .expectedIdent, rest)

def ofString : Scan String → Draft × List Glyph
  | .found value rest => (.string value, rest)
  | .spoilt f rest => (.spoilt f, rest)
  | .stopped read skip => (.fault read skip, [])

def ofNumber : Scan Number → Draft × List Glyph
  | .found value rest => (.number value, rest)
  | .spoilt f rest => (.spoilt f, rest)
  | .stopped read skip => (.fault read skip, [])

/-- A text at the place of an item or entry: the list is over, or the next one begins. -/
inductive Place
  | over (stop : Stop) (rest : List Glyph)
  | next (text : List Glyph)

/-- Where an array goes on. -/
def itemPlace (first : Bool) (text : List Glyph) : Place :=
  match skipBlanks text with
  | [] => .over (.torn false .endOfList .endOfList) []
  | g :: rest =>
    if g = some ']' then .over .closed rest
    else if first then .next (g :: rest)
    else if g = some ',' then
      match skipBlanks rest with
      | [] => .over (.torn true .endOfValue .endOfValue) []
      | g :: rest =>
        if g = some ']' then .over (.torn true .trailingComma .expectedValue) rest
        else .next (g :: rest)
    else .over (.torn false .expectedListCommaOrEnd .expectedListCommaOrEnd) rest

/-- Where an object goes on; the next entry begins behind the opening quote of its key. -/
def entryPlace (first : Bool) (text : List Glyph) : Place :=
  match skipBlanks text with
  | [] => .over (.torn false .endOfObject .endOfObject) []
  | g :: rest =>
    if g = some '}' then .over .closed rest
    else if first then
      if g = some '"' then .next rest else .over (.torn false .keyNotString .keyNotString) rest
    else if g = some ',' then
      match skipBlanks rest with
      | [] => .over (.torn true .endOfValue .endOfObject) []
      | g :: rest =>
        if g = some '"' then .next rest
        else if g = some '}' then .over (.torn true .trailingComma .keyNotString) rest
        else .over (.torn true .keyNotString .keyNotString) rest
    else .over (.torn false .expectedObjectCommaOrEnd .expectedObjectCommaOrEnd) rest

/-- What stands between a key and its value: the rest behind the colon, or a fault. -/
def colon (text : List Glyph) : Except Fault (List Glyph) :=
  match skipBlanks text with
  | [] => .error .endOfObject
  | g :: rest => if g = some ':' then .ok rest else .error .expectedColon

mutual

/-- Takes a value off a text. The fuel bounds the steps, two for each glyph. -/
def scan : Nat → List Glyph → Draft × List Glyph
  | 0, text => (.fault .tooDeep .tooDeep, text)
  | fuel + 1, text =>
    match skipBlanks text with
    | [] => (.fault .endOfValue .endOfValue, [])
    | none :: rest => (.fault .expectedValue .expectedValue, rest)
    | some c :: rest =>
      if c = 'n' then literal .null ['u', 'l', 'l'] rest
      else if c = 't' then literal (.bool true) ['r', 'u', 'e'] rest
      else if c = 'f' then literal (.bool false) ['a', 'l', 's', 'e'] rest
      else if c = '"' then ofString (scanString rest)
      else if c = '-' then ofNumber (scanNumber true rest)
      else if '0' ≤ c ∧ c ≤ '9' then ofNumber (scanNumber false (some c :: rest))
      else if c = '[' then
        let items := scanItems fuel true rest
        (.array items.1 items.2.1, items.2.2)
      else if c = '{' then
        let entries := scanEntries fuel true rest
        (.object entries.1 entries.2.1, entries.2.2)
      else (.fault .expectedValue .expectedValue, rest)

/-- Takes the items of an array off a text, and how they end. -/
def scanItems : Nat → Bool → List Glyph → List Draft × Stop × List Glyph
  | 0, _, text => ([], .torn false .tooDeep .tooDeep, text)
  | fuel + 1, first, text =>
    match itemPlace first text with
    | .over stop rest => ([], stop, rest)
    | .next text =>
      let item := scan fuel text
      if item.1.isTorn then ([item.1], .torn false .expectedValue .expectedValue, item.2)
      else
        let items := scanItems fuel false item.2
        (item.1 :: items.1, items.2.1, items.2.2)

/-- Takes the entries of an object off a text, and how they end. -/
def scanEntries : Nat → Bool → List Glyph →
    List (Except Fault String × Draft) × Stop × List Glyph
  | 0, _, text => ([], .torn false .tooDeep .tooDeep, text)
  | fuel + 1, first, text =>
    match entryPlace first text with
    | .over stop rest => ([], stop, rest)
    | .next text =>
      match scanString text with
      | .stopped read skip => ([], .torn false read skip, [])
      | .found key rest => scanEntry fuel (.ok key) rest
      | .spoilt f rest => scanEntry fuel (.error f) rest

/-- Takes the value of an entry and the entries behind it off a text. -/
def scanEntry : Nat → Except Fault String → List Glyph →
    List (Except Fault String × Draft) × Stop × List Glyph
  | 0, _, text => ([], .torn false .tooDeep .tooDeep, text)
  | fuel + 1, key, text =>
    match colon text with
    | .error f => ([(key, .fault f f)], .torn false f f, [])
    | .ok text =>
      let value := scan fuel text
      if value.1.isTorn then ([(key, value.1)], .torn false .expectedValue .expectedValue, value.2)
      else
        let entries := scanEntries fuel false value.2
        ((key, value.1) :: entries.1, entries.2.1, entries.2.2)

end

/-! ### Passing over and reading freely -/

mutual

/-- Why a draft cannot be passed over. -/
def skipFault? : Draft → Option Fault
  | fault _ skip => some skip
  | array items stop => (skipItems? items).or stop.skipFault?
  | object entries stop => (skipEntries? entries).or stop.skipFault?
  | _ => none

def skipItems? : List Draft → Option Fault
  | [] => none
  | item :: rest => (skipFault? item).or (skipItems? rest)

def skipEntries? : List (Except Fault String × Draft) → Option Fault
  | [] => none
  | (_, value) :: rest => (skipFault? value).or (skipEntries? rest)

end

mutual

/-- Reads a draft as a value of at most `depth` levels. Of two entries with one key the later stays. -/
def toJson? (depth : Nat) : Draft → Except Fault Json
  | null => .ok .null
  | bool b => .ok (.bool b)
  | number n => .ok (.number n)
  | string s => .ok (.string s)
  | spoilt f => .error f
  | fault read _ => .error read
  | array items stop =>
    match depth with
    | 0 => .error .tooDeep
    | depth + 1 => do
      let items ← itemsToJson? depth items
      match stop.readFault? with
      | some f => .error f
      | none => .ok (.array items)
  | object entries stop =>
    match depth with
    | 0 => .error .tooDeep
    | depth + 1 => do
      let entries ← entriesToJson? depth entries
      match stop.readFault? with
      | some f => .error f
      | none => .ok (.object (Entries.ofList entries))

def itemsToJson? (depth : Nat) : List Draft → Except Fault (List Json)
  | [] => .ok []
  | item :: rest => do
    let value ← toJson? depth item
    let values ← itemsToJson? depth rest
    .ok (value :: values)

def entriesToJson? (depth : Nat) :
    List (Except Fault String × Draft) → Except Fault (List (String × Json))
  | [] => .ok []
  | (key, item) :: rest => do
    let key ← key
    let value ← toJson? depth item
    let entries ← entriesToJson? depth rest
    .ok ((key, value) :: entries)

end

end Draft

/-- How many levels of arrays and objects a text may have. -/
def depthLimit : Nat := 127

/-- A text taken as one value, and whether anything but blanks stands behind it. -/
structure Document where
  draft : Draft
  trailing : Bool

namespace Document

def ofGlyphs (text : List Glyph) : Document :=
  let found := Draft.scan (2 * text.length + 2) text
  ⟨found.1, skipBlanks found.2 != []⟩

def ofText (text : String) : Document := ofGlyphs (text.toList.map some)

/-- Refuses what stands behind the value, once the value has been read. -/
def finish {α : Type} {ε : Type} (d : Document) (fault : Fault → ε) (read : Except ε α) :
    Except ε α := do
  let value ← read
  if d.trailing then .error (fault .trailingCharacters) else .ok value

end Document

/-- Reads a text as a free value. -/
def ofText? (text : String) : Except Fault Json :=
  let d := Document.ofText text
  d.finish id (d.draft.toJson? depthLimit)

end CredentialWallet.Json
