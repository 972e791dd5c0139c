/-!
# Trees of settings

A setting is a text, a list or a table of settings with keys. Tables are written in several ways:
in braces, under a header of their own, or by naming their entries with a path of keys. However a
table is written, it is written once: `assignIn?` and `openTable?` add to a tree and refuse what
would set a key or open a table for the second time.
-/

namespace DocLint.Settings

/-- How a table came to be, which settles what may still be added to it. -/
inductive TableOrigin
  /-- It was written in braces, and is complete. -/
  | braces
  /-- It has had its header. -/
  | header
  /-- It arose from a path of keys before an equals sign. -/
  | path
  /-- It arose from the header of a table within it, and its own header may follow. -/
  | implied
  deriving DecidableEq, Repr

/-- A setting. Of the lists, only the one without items has a use. -/
inductive Setting
  | text (s : String)
  | emptyList
  | table (origin : TableOrigin) (entries : List (String × Setting))

/-- The settings of a table, by their keys. -/
abbrev Entries := List (String × Setting)

/-- Whether a setting has nothing in it: an empty list or an empty table. -/
def Setting.isVacant : Setting → Bool
  | .emptyList | .table _ [] => true
  | .text _ | .table _ (_ :: _) => false

namespace Entries

/-- The entries with the one of a key changed, or added at the end if there is none; `f` refuses or
gives what the key is set to next. -/
def alter? (key : String) (f : Option Setting → Option Setting) : Entries → Option Entries
  | [] => (f none).map fun v => [(key, v)]
  | (k, v) :: rest =>
    if k = key then (f (some v)).map fun v => (k, v) :: rest
    else (alter? key f rest).map ((k, v) :: ·)

/-- Sets the key at the end of a path, which leads through tables that such paths made. -/
def assign? (v : Setting) : List String → Entries → Option Entries
  | [], _ => none
  | [key], es => es.alter? key fun
    | none => some v
    | some _ => none
  | key :: path, es => es.alter? key fun
    | none => (assign? v path []).map (.table .path)
    | some (.table .path inner) => (assign? v path inner).map (.table .path)
    | some _ => none

/-- Sets the key at the end of a path that starts in an open table. -/
def assignIn? (path : List String) (v : Setting) : List String → Entries → Option Entries
  | [], es => es.assign? v path
  | key :: keys, es => es.alter? key fun
    | some (.table origin inner) => (assignIn? path v keys inner).map (.table origin)
    | _ => none

/-- Opens the table with a header. The tables around it may have been written in any way but in
braces; the table itself has at most been implied. -/
def openTable? : List String → Entries → Option Entries
  | [], _ => none
  | [key], es => es.alter? key fun
    | none => some (.table .header [])
    | some (.table .implied inner) => some (.table .header inner)
    | some _ => none
  | key :: keys, es => es.alter? key fun
    | none => (openTable? keys []).map (.table .implied)
    | some (.table .braces _) => none
    | some (.table origin inner) => (openTable? keys inner).map (.table origin)
    | some _ => none

end Entries

end DocLint.Settings
