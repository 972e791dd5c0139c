import DocLint.Settings.Quoted
import DocLint.Settings.Tree
import DocLint.Text.Lines

/-!
# Reading settings

A settings file has one setting a line: a path of keys, the sign `=` and a value. Keys are plain
words or in quotes, with dots between them. A header, which is a path in brackets, opens the table
that the following lines belong to. Comments start with `#`. `parse` gives the tree of a file, or
none if the file is anything else.
-/

namespace DocLint.Settings

/-! ## Between the parts -/

/-- The text after the end of a line, before which there may be a comment. -/
def afterLine? (s : List Char) : Option (List Char) :=
  match s.dropWhile isGap with
  | [] => some []
  | '#' :: rest =>
    let body := rest.takeWhile (· != '\n')
    match rest.dropWhile (· != '\n') with
    | [] => if body.any isForbidden then none else some []
    | _ :: after => if (Text.dropReturn body).any isForbidden then none else some after
  | rest => afterNewline? rest

/-- The text after blanks, comments and line ends, which may stand between the parts of a value in
brackets or braces. -/
def skipLines (s : List Char) : List Char :=
  match afterLine? s with
  | none => s.dropWhile isGap
  | some rest => if rest.length < s.length then skipLines rest else rest
termination_by s.length

/-! ## Keys -/

/-- Whether a character may stand in a plain key. -/
def isKeyChar (c : Char) : Bool := c.isAlphanum || c == '_' || c == '-'

/-- The key at the start of a text, and the text after it. -/
def key? (s : List Char) : Option (String × List Char) :=
  let word := s.takeWhile isKeyChar
  if word.isEmpty then (string? false s).map fun (cs, rest) => (String.ofList cs, rest)
  else some (String.ofList word, s.dropWhile isKeyChar)

/-- The path of keys at the start of a text, and the text after it and the blanks that follow. -/
def path? (s : List Char) : Option (List String × List Char) :=
  match key? (s.dropWhile isGap) with
  | none => none
  | some (key, rest) =>
    match rest.dropWhile isGap with
    | '.' :: rest =>
      if rest.length < s.length then (path? rest).map fun (keys, rest) => (key :: keys, rest)
      else none
    | rest => some ([key], rest)
termination_by s.length

/-! ## Values -/

/-- The entries of a table in braces, after those read so far; the text is the one after the
opening brace or a comma, and after the closing brace. -/
def braced? (value? : List Char → Option (Setting × List Char)) (es : Entries) (s : List Char) :
    Option (Entries × List Char) :=
  match skipLines s with
  | '}' :: rest => some (es, rest)
  | start => do
    let (path, rest) ← path? start
    match skipLines rest with
    | '=' :: rest =>
      let (v, rest) ← value? (skipLines rest)
      let es ← es.assign? v path
      match skipLines rest with
      | '}' :: rest => return (es, rest)
      | ',' :: rest => if rest.length < s.length then braced? value? es rest else none
      | _ => none
    | _ => none
termination_by s.length

/-- The value at the start of a text, with tables in braces nested less than `depth` times, and the
text after it. -/
def nestedValue? : Nat → List Char → Option (Setting × List Char)
  | 0, _ => none
  | depth + 1, s =>
    match s with
    | '{' :: rest => (braced? (nestedValue? depth) [] rest).map fun (es, rest) =>
      (.table .braces es, rest)
    | '[' :: rest =>
      match skipLines rest with
      | ']' :: rest => some (.emptyList, rest)
      | _ => none
    | s => (string? true s).map fun (cs, rest) => (.text (String.ofList cs), rest)

/-- The value at the start of a text, and the text after it. Each brace nests by one, so that there
is depth enough. -/
def value? (s : List Char) : Option (Setting × List Char) := nestedValue? (s.length + 1) s

/-! ## Lines -/

/-- The settings read so far, and the path of the table that is open. -/
structure State where
  root : Entries
  current : List String

/-- What a line with something on it adds, and the text after the part that says so. -/
def statement? (st : State) (s : List Char) : Option (State × List Char) := do
  match s with
  | '[' :: rest =>
    let (path, rest) ← path? rest
    match rest with
    | ']' :: rest =>
      let root ← st.root.openTable? path
      return (⟨root, path⟩, rest)
    | _ => none
  | s =>
    let (path, rest) ← path? s
    match rest with
    | '=' :: rest =>
      let (v, rest) ← value? (rest.dropWhile isGap)
      let root ← st.root.assignIn? path v st.current
      return ({ st with root }, rest)
    | _ => none

/-- The settings after one more line, and the text after the line. -/
def line? (st : State) (s : List Char) : Option (State × List Char) :=
  match afterLine? s with
  | some rest => some (st, rest)
  | none => do
    let (st, rest) ← statement? st (s.dropWhile isGap)
    let rest ← afterLine? rest
    return (st, rest)

/-- The settings after all lines of a text. -/
def linesFrom? (st : State) (s : List Char) : Option Entries :=
  if s.isEmpty then some st.root
  else match line? st s with
    | none => none
    | some (st, rest) => if rest.length < s.length then linesFrom? st rest else none
termination_by s.length

/-- The settings of a file, which may start with a byte order mark. -/
def parse (s : String) : Option Entries :=
  match s.toList with
  | '\ufeff' :: rest => linesFrom? ⟨[], []⟩ rest
  | cs => linesFrom? ⟨[], []⟩ cs

end DocLint.Settings
