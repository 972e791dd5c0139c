import DocLint.Config
import DocLint.Json.Shape

/-!
# Configurations as JSON
-/

namespace DocLint

def Policy.toJson (p : Policy) : Json := .ofText p.name

def Policy.ofJson? : Json → Option Policy := Json.choice? Policy.ofName?

namespace Config

def toJson (c : Config) : Json :=
  .record [("repeated_tags", c.repeatedTags.toJson), ("synonym_shadow", c.synonymShadow.toJson)]

/-- A policy that may be left out. -/
def policy? (default : Policy) : Option Json → Option Policy
  | none => some default
  | some v => Policy.ofJson? v

/-- The configuration in a value; there are no other members than the two policies. -/
def ofJson? (v : Json) : Option Config := do
  match ← v.fields? true ["repeated_tags", "synonym_shadow"] with
  | [r, s] =>
    let r ← policy? ({} : Config).repeatedTags r
    let s ← policy? ({} : Config).synonymShadow s
    return ⟨r, s⟩
  | _ => none

end Config

end DocLint
