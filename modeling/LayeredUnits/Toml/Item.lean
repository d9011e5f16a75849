import LayeredUnits.Value

/-!
# Tables under construction

The pairs and headers of a TOML text build a table step by step, and how a
table came about decides what may still be added to it: a table that has had
its own header takes no more dotted keys from elsewhere, and no table is
opened by a header twice. `addPair` and `openTable` are the two steps;
`Item.finished` is the value in the end.
-/

namespace LayeredUnits.Toml

/-- A key as the way to it, part by part. -/
abbrev Key := List String

/-- How a table came about. This is forgotten when the table is finished; until then it says who may
add to it. -/
inductive Built where
  /-- By its own header. -/
  | header
  /-- By the header of a table inside it. -/
  | passed
  /-- By keys with dots. -/
  | dotted
deriving DecidableEq

/-- What a name in a table stands for while the text is read. -/
inductive Item where
  | value (value : Value)
  | table (built : Built) (fields : List (String × Item))
  /-- Tables that share a name, each opened by a header of its own. -/
  | rows (rows : List (List (String × Item)))

/-- The contents of a table. -/
abbrev Fields := List (String × Item)

mutual

/-- The value that an item has in the end, with no trace of how it was written. -/
def Item.finished : Item → Value
  | .value value => value
  | .table _ fields => .table (finishedFields fields)
  | .rows rows => .list (finishedRows rows)

/-- The fields of a finished table. -/
def finishedFields : List (String × Item) → List (String × Value)
  | [] => []
  | field :: rest => (field.1, field.2.finished) :: finishedFields rest

/-- The tables of finished rows. -/
def finishedRows : List (List (String × Item)) → List Value
  | [] => []
  | fields :: rest => .table (finishedFields fields) :: finishedRows rest

end

/-- Puts an item in the place of the one with this name, or after all others. -/
def putField (fields : Fields) (name : String) (item : Item) : Fields :=
  if fields.any (·.1 == name) then
    fields.map fun field => if field.1 == name then (name, item) else field
  else fields ++ [(name, item)]

/-- Changes the last of some rows. -/
def onLast (change : Fields → Option Fields) (rows : List Fields) : Option (List Fields) :=
  match rows.getLast? with
  | none => none
  | some last => (change last).map fun last => rows.dropLast ++ [last]

/-- Adds a pair. The table that takes it has to be the one at hand or one that dotted
keys have built. -/
def addPair (value : Value) : Key → Fields → Option Fields
  | [], _ => none
  | [name], fields =>
    if fields.any (·.1 == name) then none else some (fields ++ [(name, .value value)])
  | name :: key, fields =>
    match fields.lookup name with
    | none => (addPair value key []).map fun below => putField fields name (.table .dotted below)
    | some (.table built below) =>
      -- A table with a header of its own is closed. One that a header has only passed takes no pair
      -- itself, but a table below it may.
      if built = .header ∨ (built = .passed ∧ key.length = 1) then none
      else (addPair value key below).map fun below => putField fields name (.table built below)
    | some (.rows rows) =>
      if key.length = 1 then none
      else (onLast (addPair value key) rows).map fun rows => putField fields name (.rows rows)
    | some (.value _) => none

/-- Adds pairs in order, up to the first that cannot be added. -/
def addPairs (pairs : List (Key × Value)) (fields : Fields) : Option Fields :=
  pairs.foldlM (fun fields pair => addPair pair.2 pair.1 fields) fields

/-- Opens the table of a header, or a new row if `isRow`, and fills it. -/
def openTable (isRow : Bool) (fill : Fields → Option Fields) : Key → Fields → Option Fields
  | [], _ => none
  | [name], fields =>
    match isRow, fields.lookup name with
    | false, none => (fill []).map fun below => putField fields name (.table .header below)
    | false, some (.table .passed below) =>
      (fill below).map fun below => putField fields name (.table .header below)
    | true, none => (fill []).map fun row => putField fields name (.rows [row])
    | true, some (.rows rows) =>
      (fill []).map fun row => putField fields name (.rows (rows ++ [row]))
    | _, _ => none
  | name :: key, fields =>
    match fields.lookup name with
    | none =>
      (openTable isRow fill key []).map fun below => putField fields name (.table .passed below)
    | some (.table built below) =>
      (openTable isRow fill key below).map fun below => putField fields name (.table built below)
    | some (.rows rows) =>
      (onLast (openTable isRow fill key) rows).map fun rows => putField fields name (.rows rows)
    | some (.value _) => none

end LayeredUnits.Toml
