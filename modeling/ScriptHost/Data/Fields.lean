/-! Maps from names to values, kept as lists in ascending order of the names with no
name twice. The order is that of the characters' code points, which is also the
order of the names' UTF-8 bytes. -/

namespace ScriptHost

/-- Entries in ascending order of their names. -/
abbrev Fields (α : Type) := List (String × α)

namespace Fields

variable {α β : Type}

def get? (fields : Fields α) (name : String) : Option α := fields.lookup name

def contains (fields : Fields α) (name : String) : Bool := (fields.get? name).isSome

/-- Puts a value at its place, over an older one of the name. -/
def insert (name : String) (value : α) : Fields α → Fields α
  | [] => [(name, value)]
  | (key, old) :: rest =>
    if name < key then (name, value) :: (key, old) :: rest
    else if name = key then (name, value) :: rest
    else (key, old) :: insert name value rest

/-- Puts a value at its place unless the name is there already. -/
def insertNew (name : String) (value : α) : Fields α → Fields α
  | [] => [(name, value)]
  | (key, old) :: rest =>
    if name < key then (name, value) :: (key, old) :: rest
    else if name = key then (key, old) :: rest
    else (key, old) :: insertNew name value rest

def erase (name : String) (fields : Fields α) : Fields α :=
  fields.filter fun entry => entry.1 != name

/-- The map of a list of entries, the last of each name counting. Taking the entries
from the end keeps ascending input cheap. -/
def ofList (entries : List (String × α)) : Fields α :=
  entries.foldr (fun entry fields => fields.insertNew entry.1 entry.2) []

def mapValues (f : α → β) (fields : Fields α) : Fields β :=
  fields.map fun entry => (entry.1, f entry.2)

end Fields

end ScriptHost
