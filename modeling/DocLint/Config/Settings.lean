import DocLint.Config
import DocLint.Settings.Reader

/-!
# Configuration files

A configuration file sets policies by their names. A policy is a text, or a table whose one key is
the name and has nothing in it. There are no other keys; what is not set keeps its default.
-/

namespace DocLint.Config

open Settings (Setting Entries)

/-- The policy that a setting names. -/
def policyNamed? : Setting → Option Policy
  | .text name => Policy.ofName? name
  | .table _ [(name, v)] => if v.isVacant then Policy.ofName? name else none
  | .emptyList | .table _ [] | .table _ (_ :: _ :: _) => none

/-- Sets the policy with a key. -/
def set? (c : Config) (key : String) (p : Policy) : Option Config :=
  match key with
  | "repeated_tags" => some { c with repeatedTags := p }
  | "synonym_shadow" => some { c with synonymShadow := p }
  | _ => none

/-- The configuration with settings made one after the other. -/
def setAll? (c : Config) : Entries → Option Config
  | [] => some c
  | (key, v) :: rest => do
    let p ← policyNamed? v
    let c ← c.set? key p
    c.setAll? rest

/-- The configuration in a file. -/
def parse (text : String) : Option Config := do
  let settings ← Settings.parse text
  setAll? {} settings

end DocLint.Config
