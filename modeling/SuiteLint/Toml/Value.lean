import SuiteLint.KeyedList

/-!
# TOML values

A document is a table of values. While it is read, its tables may still grow: `Item` remembers of
each table how it came about, because only some tables may be added to later.
-/

namespace SuiteLint.Toml

/-- A value. Numbers, truth values and dates are kept as they are written. -/
inductive Value where
  | string (text : String)
  | scalar (text : String)
  | array (elements : List Value)
  | table (members : List (String × Value))
deriving Repr, Inhabited

/-- A part of a document that is being read. -/
inductive Item where
  /-- A value that is complete. -/
  | value (v : Value)
  /-- A table. It is implicit if only longer keys mention it, and dotted if it comes from the key of
  a value. -/
  | table (isImplicit isDotted : Bool) (members : List (String × Item))
  /-- The tables of an array; the last one may grow. -/
  | tables (elements : List Item)
deriving Inhabited

namespace Item

mutual

/-- The value of an item that is complete. -/
def toValue : Item → Value
  | .value v => v
  | .table _ _ members => .table (membersToValues members)
  | .tables elements => .array (toValues elements)

/-- The values of items. -/
def toValues : List Item → List Value
  | [] => []
  | item :: rest => item.toValue :: toValues rest

/-- The values of members. -/
def membersToValues : List (String × Item) → List (String × Value)
  | [] => []
  | (key, item) :: rest => (key, item.toValue) :: membersToValues rest

end

/-- An empty table. -/
def empty : Item := .table false false []

/-- Changes the table that a path of keys leads to. Missing tables are made; `isDotted` tells keys
of values from those of headers. -/
def modifyAt (isDotted : Bool) (f : Item → Option Item) : List String → Item → Option Item
  | [], item => f item
  | key :: path, .table isImplicit wasDotted members =>
    let put := fun item => Item.table isImplicit wasDotted (KeyedList.set key item members)
    match KeyedList.get? key members with
    | none => (modifyAt isDotted f path (.table true isDotted [])).map put
    | some (.table inner dotted members) =>
      if isDotted && !inner then none
      else (modifyAt isDotted f path (.table inner dotted members)).map put
    | some (.tables elements) =>
      match elements.getLast? with
      | some last =>
        (modifyAt isDotted f path last).map fun last => put (.tables (elements.dropLast ++ [last]))
      | none => none
    | some (.value _) => none
  | _ :: _, _ => none

/-- Adds a value under a key that is new. A table must not mix plain and dotted keys. -/
def addValue (path : List String) (key : String) (v : Value) (item : Item) : Option Item :=
  modifyAt true
    (fun
      | .table isImplicit isDotted members =>
        if isDotted == path.isEmpty then none
        else
          match KeyedList.get? key members with
          | none => some (.table isImplicit isDotted (KeyedList.set key (.value v) members))
          | some _ => none
      | _ => none)
    path item

/-- Opens the table of a header. It may be there only if longer headers have mentioned it. -/
def openTable (path : List String) (key : String) (item : Item) : Option Item :=
  modifyAt false
    (fun
      | .table isImplicit isDotted members =>
        match KeyedList.get? key members with
        | none => some (.table isImplicit isDotted (KeyedList.set key empty members))
        | some (.table true false inner) =>
          some (.table isImplicit isDotted (KeyedList.set key (.table false false inner) members))
        | some _ => none
      | _ => none)
    path item

/-- Opens the next table of an array. -/
def openElement (path : List String) (key : String) (item : Item) : Option Item :=
  modifyAt false
    (fun
      | .table isImplicit isDotted members =>
        match KeyedList.get? key members with
        | none => some (.table isImplicit isDotted (KeyedList.set key (.tables [empty]) members))
        | some (.tables elements) =>
          some (.table isImplicit isDotted
            (KeyedList.set key (.tables (elements ++ [empty])) members))
        | some _ => none
      | _ => none)
    path item

end Item

end SuiteLint.Toml
