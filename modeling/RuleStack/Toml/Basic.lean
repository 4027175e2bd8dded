set_option autoImplicit false

namespace RuleStack

inductive Toml.Origin where
  /-- Under a header of its own, or the document itself. -/
  | header
  /-- Passed through by a longer header. -/
  | implied
  | dotted
  | inline
  deriving DecidableEq, Repr

inductive Toml where
  | text (value : String)
  | number (literal : String)
  | boolean (value : Bool)
  | moment (literal : String)
  | array (items : List Toml)
  /-- Tables under headers in double brackets. -/
  | tables (items : List Toml)
  | table (origin : Toml.Origin) (entries : List (String × Toml))
  deriving Inhabited

namespace Toml

abbrev Entries := List (String × Toml)

structure KeyPath where
  lead : List String
  last : String
  deriving DecidableEq, Repr

def KeyPath.all (p : KeyPath) : List String := p.lead ++ [p.last]

/-- The table that a key leads to: the table itself, or the last one of several. -/
def inner? : Toml → Option (Origin × Entries)
  | .table origin entries => some (origin, entries)
  | .tables items =>
    match items.getLast? with
    | some (.table origin entries) => some (origin, entries)
    | _ => none
  | _ => none

def withInner (value : Toml) (entries : Entries) : Toml :=
  match value with
  | .table origin _ => .table origin entries
  | .tables items => .tables (items.dropLast ++ [.table .header entries])
  | value => value

/-- A way of this origin may pass through the value. A dotted key opens no table that a header or
braces have defined. -/
def admits (way : Origin) : Toml → Bool
  | .table origin _ =>
    origin != .inline && (way != .dotted || origin == .implied || origin == .dotted)
  | .tables _ => true
  | _ => false

def setEntry (key : String) (value : Toml) : Entries → Entries
  | [] => [(key, value)]
  | (k, v) :: rest => if k = key then (key, value) :: rest else (k, v) :: setEntry key value rest

/-- Changes the table at the end of a way. Tables that are missing on the way are made, with the
origin `way`. -/
def alter (way : Origin) (change : Origin → Entries → Option Entries) (origin : Origin)
    (entries : Entries) : List String → Option Entries
  | [] => change origin entries
  | key :: rest =>
    match entries.lookup key with
    | none => do
      let entered ← alter way change way [] rest
      some (entries ++ [(key, .table way entered)])
    | some value =>
      if value.admits way then do
        let (origin, entered) ← value.inner?
        let entered ← alter way change origin entered rest
        some (setEntry key (value.withInner entered) entries)
      else none

def addNew (key : String) (value : Toml) (entries : Entries) : Option Entries :=
  if (entries.lookup key).isSome then none else some (entries ++ [(key, value)])

/-- Puts in a value under a key that may be dotted. What a dotted key leads to has to be a table
that dotted keys made. -/
def assign (entries : Entries) (path : KeyPath) (value : Toml) : Option Entries :=
  alter .dotted
    (fun origin inner =>
      if path.lead.isEmpty || origin == .dotted then addNew path.last value inner else none)
    .header entries path.lead

def find? (entries : Entries) : List String → Option Toml
  | [] => none
  | [key] => entries.lookup key
  | key :: rest => do
    let value ← entries.lookup key
    let (_, entered) ← value.inner?
    find? entered rest

inductive Header where
  | table (path : KeyPath)
  | element (path : KeyPath)
  deriving DecidableEq, Repr

def opened (root : Entries) : Header → Entries
  | .table path =>
    match find? root path.all with
    | some (.table .implied entries) => entries
    | _ => []
  | .element _ => []

def closeTable (key : String) (content parent : Entries) : Option Entries :=
  match parent.lookup key with
  | none | some (.table .implied _) => some (setEntry key (.table .header content) parent)
  | some _ => none

def closeElement (key : String) (content parent : Entries) : Option Entries :=
  match parent.lookup key with
  | none => some (setEntry key (.tables [.table .header content]) parent)
  | some (.tables items) =>
    some (setEntry key (.tables (items ++ [.table .header content])) parent)
  | some _ => none

def close (root content : Entries) : Header → Option Entries
  | .table path => alter .implied (fun _ => closeTable path.last content) .header root path.lead
  | .element path => alter .implied (fun _ => closeElement path.last content) .header root path.lead

inductive Line where
  | header (header : Header)
  | entry (path : KeyPath) (value : Toml)

/-- Goes on below a header, of which `content` is there so far. -/
def buildUnder (root : Entries) (header : Header) (content : Entries) :
    List Line → Option Entries
  | [] => close root content header
  | .entry path value :: rest => do
    let content ← assign content path value
    buildUnder root header content rest
  | .header next :: rest => do
    let root ← close root content header
    buildUnder root next (opened root next) rest

def build (root : Entries) : List Line → Option Entries
  | [] => some root
  | .entry path value :: rest => do
    let root ← assign root path value
    build root rest
  | .header header :: rest => buildUnder root header (opened root header) rest

end Toml
end RuleStack
