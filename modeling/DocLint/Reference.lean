import DocLint.Text.Space

/-!
# References in text

A text refers to a record by markup such as `<@link command pause>`: the sign `<@link`, white space,
a category, white space, a name and a closing bracket. The sign opens a reference where white space,
the closing bracket or the end of the text follows, so that `<@linked>` is none; the reference goes
on to the next closing bracket or to the end of the text. `Reference.scan` lists the references of a
text in order.
-/

namespace DocLint

/-- A reference in a text. -/
inductive Reference
  /-- A category and a name. -/
  | link (raw category name : String)
  /-- A reference without a name. -/
  | incomplete (raw : String)
  /-- A reference that is not closed; it takes the rest of the text. -/
  | unterminated (raw : String)
  deriving DecidableEq, Repr

namespace Reference

/-- The markup of a reference. -/
def raw : Reference → String
  | link r _ _ | incomplete r | unterminated r => r

/-- The sign with which references start. -/
def sign : List Char := ['<', '@', 'l', 'i', 'n', 'k']

/-- Whether a text after the sign makes it open a reference. -/
def opensBefore : List Char → Bool
  | [] => true
  | c :: _ => c == '>' || Text.isSpace c

/-- The text after the sign, if a reference opens at the start of the text. -/
def afterOpener? (s : List Char) : Option (List Char) :=
  if sign.isPrefixOf s && opensBefore (s.drop sign.length) then some (s.drop sign.length) else none

/-- An opener takes at least one character. -/
theorem afterOpener?_length {s inner : List Char} (h : afterOpener? s = some inner) :
    inner.length < s.length := by
  unfold afterOpener? at h
  split at h
  · rename_i ho
    simp only [Bool.and_eq_true] at ho
    have := (List.isPrefixOf_iff_prefix.1 ho.1).length_le
    simp only [Option.some.injEq] at h
    simp only [← h, sign, List.length_drop, List.length_cons, List.length_nil] at this ⊢
    omega
  · simp at h

/-- What a closed reference with the given text between sign and bracket refers to. -/
def ofBody (raw body : List Char) : Reference :=
  let body := Text.trimChars body
  let name := Text.trimChars (body.dropWhile fun c => !Text.isSpace c)
  if name.isEmpty then incomplete (String.ofList raw)
  else link (String.ofList raw) (String.ofList (body.takeWhile fun c => !Text.isSpace c))
    (String.ofList name)

/-- The references of a text, in order. -/
def scanChars (s : List Char) : List Reference :=
  match s with
  | [] => []
  | c :: rest =>
    match _hopen : afterOpener? (c :: rest) with
    | none => scanChars rest
    | some inner =>
      let body := inner.takeWhile (· != '>')
      match _hclose : inner.dropWhile (· != '>') with
      | [] => [unterminated (String.ofList (c :: rest))]
      | close :: after => ofBody (sign ++ body ++ [close]) body :: scanChars after
termination_by s.length
decreasing_by
  · simp
  · have h₁ := afterOpener?_length _hopen
    have h₂ := (List.dropWhile_suffix (l := inner) (· != '>')).length_le
    rw [_hclose] at h₂
    simp only [List.length_cons] at h₁ h₂ ⊢
    omega

/-- The references of a text, in order. -/
def scan (s : String) : List Reference := scanChars s.toList

end Reference

end DocLint
