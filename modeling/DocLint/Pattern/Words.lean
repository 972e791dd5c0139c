import DocLint.Pattern.Encoding
import DocLint.Pattern.Simplify

/-!
# Patterns that are words

Some patterns match a few words and nothing else. These are searched for as words, without automata,
so that there is no limit to their size. A pattern is taken for one of them (`Node.isWordSearch`) if
the words with which its matches start can be told (`Node.words`) and are all of the match, and if
shortening them would not make for a faster search; or if it is written as a long list of words.
-/

namespace DocLint.Pattern

/-- The bytes with which a match starts. The word is exact if they are all of the match. -/
structure Word where
  bytes : List Nat
  exact : Bool := true
  deriving DecidableEq, Repr

/-- Words in the order in which they are preferred; none if there are too many to be told. -/
abbrev Words := Option (List Word)

namespace Word

/-- The word that is read without a character. -/
def blank : Word := ⟨[], true⟩

/-- At most so many bytes of a word. -/
def keep (length : Nat) (w : Word) : Word :=
  if w.bytes.length ≤ length then w else ⟨w.bytes.take length, false⟩

/-- A word and what follows it, if the word is exact. -/
def followedBy (w : Word) (next : List Word) : List Word :=
  if w.exact then next.map fun v => ⟨w.bytes ++ v.bytes, v.exact⟩ else [w]

/-- Words without those that repeat the one before; it stays exact if all of them are. -/
def dedupFrom (w : Word) : List Word → List Word
  | [] => [w]
  | v :: rest =>
    if w.bytes = v.bytes then dedupFrom ⟨w.bytes, w.exact && v.exact⟩ rest
    else w :: dedupFrom v rest

def dedup : List Word → List Word
  | [] => []
  | w :: rest => dedupFrom w rest

/-- The words that start with no word before them: where an earlier one matches, it is preferred. -/
def minimize (words : List Word) : List Word :=
  words.foldl (fun kept w => if kept.any (·.bytes.isPrefixOf w.bytes) then kept else kept ++ [w]) []

/-- The bytes with which two words start. -/
def shared : List Nat → List Nat → List Nat
  | a :: as, b :: bs => if a = b then a :: shared as bs else []
  | _, _ => []

/-- The bytes with which all words start. -/
def sharedByAll : List Word → List Nat
  | [] => []
  | w :: rest => rest.foldl (fun start v => shared start v.bytes) w.bytes

end Word

/-! ## Telling the words of a pattern -/

namespace Words

/-- The greatest length of a word, the greatest number of words, of members of a set, and of
repetitions that are followed. -/
def lengthLimit : Nat := 100

def countLimit : Nat := 250

def setLimit : Nat := 10

def repetitionLimit : Nat := 10

/-- Whether nothing can be put behind any of the words. -/
def areFinal (ws : Words) : Bool := ws.all (·.all (!·.exact))

/-- The words as starts of longer ones. -/
def asStarts (ws : Words) : Words := ws.map (·.map fun w => { w with exact := false })

/-- The words of one pattern, then those of another one. -/
def followedBy (ws next : Words) : Words :=
  match ws, next with
  | none, _ => none
  | some ws, some next =>
    if countLimit < ws.length * next.length then after ws
    else some ((Word.dedup (ws.flatMap (·.followedBy next))).map (·.keep lengthLimit))
  | some ws, none => after ws
where
  /-- The words with anything behind them. -/
  after (ws : List Word) : Words := if ws.any (·.bytes.isEmpty) then none else asStarts (some ws)

/-- The words of one pattern or another one. If they are too many, they are shortened first. -/
def orElse (ws others : Words) : Words :=
  match ws, others with
  | some ws, some others =>
    if ws.length + others.length ≤ countLimit then some (Word.dedup (ws ++ others))
    else
      let ws := Word.dedup (ws.map (·.keep 4))
      let others := Word.dedup (others.map (·.keep 4))
      if ws.length + others.length ≤ countLimit then some (Word.dedup (ws ++ others)) else none
  | _, _ => none

/-- So many times the words of a pattern, behind others. -/
def times (one : Words) : Nat → Words → Words
  | 0, ws => ws
  | k + 1, ws => if ws.areFinal then ws else times one k (ws.followedBy one)

/-- The members of a set as words. -/
def ofSet (s : CharSet) : Words :=
  if setLimit < s.ranges.foldl (fun n (a, b) => n + (b + 1 - a)) 0 then none
  else some (s.ranges.flatMap fun (a, b) =>
    (List.range (b + 1 - a)).map fun k => ⟨utf8Bytes (a + k), true⟩)

/-- The words of repetitions. -/
def repeated (least : Nat) (most : Option Nat) (greedy : Bool) (one : Words) : Words :=
  if least = 0 then
    let once := if most = some 1 then one else one.asStarts
    let blank : Words := some [.blank]
    if greedy then once.orElse blank else blank.orElse once
  else
    let ws := times one (min least repetitionLimit) (some [.blank])
    if most = some least && least ≤ repetitionLimit then ws else ws.asStarts

end Words

namespace Node

mutual

/-- The words with which the matches of a simple pattern start. -/
def words : Node → Words
  | .literal cs => some [(Word.mk (cs.flatMap fun c => utf8Bytes c.toNat) true).keep
      Words.lengthLimit]
  | .set _ s => Words.ofSet s
  | .look _ => some [.blank]
  | .capture a => a.words
  | .rep least most greedy a => Words.repeated least most greedy a.words
  | .seq items => wordsOfAll (some [.blank]) items
  | .alt branches => wordsOfAny (some []) branches

/-- Words with those of a sequence behind them. -/
def wordsOfAll (ws : Words) : List Node → Words
  | [] => ws
  | a :: rest => if ws.areFinal then ws else wordsOfAll (ws.followedBy a.words) rest

/-- Words with those of some branches after them. -/
def wordsOfAny (ws : Words) : List Node → Words
  | [] => ws
  | a :: rest => if ws.isNone then none else wordsOfAny (ws.orElse a.words) rest

end

mutual

/-- Whether a pattern has neither groups whose matches are kept nor places to require. -/
def isPlain : Node → Bool
  | .literal _ | .set .. => true
  | .look _ | .capture _ => false
  | .rep _ _ _ a => a.isPlain
  | .seq items | .alt items => arePlain items

def arePlain : List Node → Bool
  | [] => true
  | a :: rest => a.isPlain && arePlain rest

end

end Node

/-! ## Searching for words -/

namespace Words

/-- The ASCII characters that are so frequent that a search does not stop at one of them alone. -/
def frequentBytes : List Nat := "\n\r (),-./0129:_abcdefghilmnoprstuvxy|".toList.map Char.toNat

/-- Whether a search would stop at a byte alone. -/
def isRare (b : Nat) : Bool := b < 0x80 && !frequentBytes.contains b

/-- Attempts to make many words shorter and fewer: the length to which they are cut, and the number
of words above which this is tried. -/
def attempts : List (Nat × Nat) := [(5, 10), (4, 10), (3, 64), (2, 64), (1, 10)]

/-- Words after the attempts; these stop at the first one that is not needed. -/
def shorten (ws : List Word) : List (Nat × Nat) → List Word
  | [] => ws
  | (length, limit) :: rest =>
    if ws.length ≤ limit then ws else shorten (Word.minimize (ws.map (·.keep length))) rest

/-- Whether exact words are left when they are made ready for a search. Words with a common start
are searched for by that, if it is rare or long enough, and many words are cut if the search gains
by that; what is cut is no longer exact. -/
def areSearchable (ws : List Word) : Bool :=
  let least := Word.minimize ws
  let start := Word.sharedByAll least
  if 1 < ws.length && start.length ≤ 3 && start.head?.any isRare then
    least.all fun w => w.exact && w.bytes.length ≤ 1
  else
    let isFast := least.all (·.exact) && least.length ≤ 16
    let cut :=
      if 4 < start.length || (1 < start.length && !isFast) then
        Word.dedup (least.map (·.keep start.length))
      else least
    let few := shorten cut attempts
    cut.all (·.exact) &&
      (few.all (·.exact) || few.any (·.bytes.length ≤ 2) || 64 < few.length)

/-- The number of words from which on a list of words is searched for as such. -/
def longList : Nat := 3000

end Words

/-- Whether a simple pattern is searched for as words. -/
def Node.isWordSearch (a : Node) : Bool :=
  a.isPlain &&
    (match a.words with
      | some ws => !ws.isEmpty && ws.all (!·.bytes.isEmpty) && Words.areSearchable ws
      | none => false) ||
    (match a with
      | .alt branches => Words.longList ≤ branches.length && branches.all fun
        | .literal cs => !cs.isEmpty
        | _ => false
      | _ => false)

end DocLint.Pattern
