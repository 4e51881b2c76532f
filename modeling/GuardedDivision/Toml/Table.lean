import GuardedDivision.Toml.Item

namespace GuardedDivision.Toml.Entries

def find? (entries : Entries) (key : Key) : Option Item := entries.lookup key

def replace (entries : Entries) (key : Key) (item : Item) : Entries :=
  entries.map fun (k, old) => (k, if k = key then item else old)

/-- Changes the table that keys lead to. An array of tables is entered at its newest one; dotted
keys do not enter a table that has a header of its own. -/
def descend (dotted : Bool) (change : Origin → Entries → Option Entries) :
    Origin → Entries → List Key → Option Entries
  | origin, entries, [] => change origin entries
  | _, entries, key :: keys =>
    match find? entries key with
    | none =>
      let origin := if dotted then .dotted else .implied
      (descend dotted change origin [] keys).map fun inner =>
        entries ++ [(key, .table origin inner)]
    | some (.table origin inner) =>
      if dotted && origin = .header then none
      else (descend dotted change origin inner keys).map fun inner =>
        replace entries key (.table origin inner)
    | some (.tables elements) =>
      match elements with
      | [] => none
      | newest :: older => (descend dotted change .header newest keys).map fun newest =>
        replace entries key (.tables (newest :: older))
    | some _ => none

def insertNew (entries : Entries) (key : Key) (item : Item) : Option Entries :=
  match entries.find? key with
  | none => some (entries ++ [(key, item)])
  | some _ => none

/-- Assigns an item to a key. A dotted key has to end in a table that dotted keys have made. -/
def assign (entries : Entries) (keys : List Key) (item : Item) : Option Entries :=
  match keys.getLast? with
  | none => none
  | some last =>
    let path := keys.dropLast
    let add (origin : Origin) (inner : Entries) : Option Entries :=
      if origin = .dotted ↔ path ≠ [] then inner.insertNew last item else none
    descend true add .header entries path

def reach? : Entries → List Key → Option Entries
  | entries, [] => some entries
  | entries, key :: keys =>
    match find? entries key with
    | none => some []
    | some (.table _ inner) => reach? inner keys
    | some (.tables (newest :: _)) => reach? newest keys
    | some _ => none

/-- What the table of a header holds before its lines are read. It has to be new, or so far only
implied. -/
def beforeHeader? (entries : Entries) (keys : List Key) : Option Entries :=
  match keys.getLast? with
  | none => none
  | some last =>
    (reach? entries keys.dropLast).bind fun inner =>
      match inner.find? last with
      | none => some []
      | some (.table .implied old) => some old
      | some _ => none

def putTable (entries : Entries) (keys : List Key) (table : Entries) : Option Entries :=
  match keys.getLast? with
  | none => none
  | some last =>
    let put (_ : Origin) (inner : Entries) : Option Entries :=
      match inner.find? last with
      | none => some (inner ++ [(last, .table .header table)])
      | some _ => some (inner.replace last (.table .header table))
    descend false put .header entries keys.dropLast

def putElement (entries : Entries) (keys : List Key) (table : Entries) : Option Entries :=
  match keys.getLast? with
  | none => none
  | some last =>
    let put (_ : Origin) (inner : Entries) : Option Entries :=
      match inner.find? last with
      | none => some (inner ++ [(last, .tables [table])])
      | some (.tables elements) => some (inner.replace last (.tables (table :: elements)))
      | some _ => none
    descend false put .header entries keys.dropLast

end GuardedDivision.Toml.Entries
