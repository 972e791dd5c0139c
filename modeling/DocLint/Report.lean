import DocLint.Issue

/-!
# Reports

A report files issues under names of records, the names in the order of their code points and the
issues of one name in the order in which they came. `Report.push` files an issue under its own
record.
-/

namespace DocLint

/-! ## Filing -/

/-- Lists of issues filed under names. -/
abbrev Folders := List (String × List Issue)

namespace Folders

/-- The names, in order. -/
def names (fs : Folders) : List String := fs.map Prod.fst

/-- Whether the names ascend, so that none occurs twice. -/
def Ordered (fs : Folders) : Prop := fs.names.Pairwise (· < ·)

instance (fs : Folders) : Decidable fs.Ordered := inferInstanceAs (Decidable (List.Pairwise _ _))

/-- The issues filed under a name. -/
def get (fs : Folders) (name : String) : List Issue := (fs.lookup name).getD []

/-- Changes what is filed under a name, a new folder being put in its place in the order. -/
def alter (name : String) (f : List Issue → List Issue) : Folders → Folders
  | [] => [(name, f [])]
  | (n, is) :: rest =>
    if name < n then (name, f []) :: (n, is) :: rest
    else if name = n then (n, f is) :: rest
    else (n, is) :: alter name f rest

theorem mem_names_alter {name : String} {f : List Issue → List Issue} {fs : Folders} {m : String} :
    m ∈ (alter name f fs).names ↔ m = name ∨ m ∈ fs.names := by
  induction fs with
  | nil => simp [alter, names]
  | cons p rest ih =>
    obtain ⟨n, is⟩ := p
    simp only [names] at ih
    unfold alter
    split
    · simp [names]
    · split
      · rename_i h
        simp [names, h]
      · simp only [names, List.map_cons, List.mem_cons, ih]
        grind

/-- The order of names is total. -/
theorem lt_of_not_lt_of_ne {a b : String} (h : ¬a < b) (h' : a ≠ b) : b < a := by
  have := String.le_antisymm (a := a) (b := b)
  by_cases hb : b < a
  · exact hb
  · exact absurd (this (String.not_lt.1 hb) (String.not_lt.1 h)) h'

theorem ordered_alter {name : String} {f : List Issue → List Issue} {fs : Folders}
    (h : fs.Ordered) : (alter name f fs).Ordered := by
  induction fs with
  | nil => simp [alter, Ordered, names]
  | cons p rest ih =>
    obtain ⟨n, is⟩ := p
    have hrest : Ordered rest := (List.pairwise_cons.1 h).2
    have hn : ∀ m ∈ names rest, n < m := (List.pairwise_cons.1 h).1
    unfold alter
    split
    · rename_i hlt
      refine List.pairwise_cons.2 ⟨fun m hm => ?_, h⟩
      rcases List.mem_cons.1 hm with rfl | hm
      · exact hlt
      · exact String.lt_trans hlt (hn m hm)
    · split
      · exact List.pairwise_cons.2 ⟨hn, hrest⟩
      · rename_i hlt hne
        refine List.pairwise_cons.2 ⟨fun m hm => ?_, ih hrest⟩
        rcases mem_names_alter.1 hm with rfl | hm
        · exact lt_of_not_lt_of_ne hlt hne
        · exact hn m hm

end Folders

/-- The issues of a run, and the number of records that were checked. -/
structure Report where
  recordsChecked : Nat
  folders : Folders
  ordered : folders.Ordered

namespace Report

/-- The report without issues. -/
def empty : Report := ⟨0, [], .nil⟩

/-- Files an issue under its record, after those already there. -/
def push (r : Report) (i : Issue) : Report :=
  { r with
    folders := r.folders.alter i.record (· ++ [i])
    ordered := Folders.ordered_alter r.ordered }

/-- Files issues one after the other. -/
def pushAll (r : Report) (is : List Issue) : Report := is.foldl push r

/-- The issues filed under a name. -/
def issuesFor (r : Report) (name : String) : List Issue := r.folders.get name

/-- The issues filed under a name that belong to a category. -/
def issuesIn (r : Report) (c : Category) (name : String) : List Issue :=
  (r.issuesFor name).filter (·.category == some c)

/-- All issues, in the order of the names. -/
def issues (r : Report) : List Issue := r.folders.flatMap Prod.snd

def countKind (r : Report) (k : IssueKind) : Nat := r.issues.countP (·.kind == k)

def errorCount (r : Report) : Nat := r.issues.countP (·.severity == .error)

def warningCount (r : Report) : Nat := r.issues.countP (·.severity == .warning)

def hasErrors (r : Report) : Bool := 0 < r.errorCount

/-- The number of issues. -/
def size (r : Report) : Nat := r.issues.length

def isEmpty (r : Report) : Bool := r.size == 0

/-- The lines of a report: each name with the issues under it, then the counts. -/
def textLines (r : Report) : List String :=
  r.folders.flatMap (fun (name, is) => name :: is.map Issue.indentedText) ++
    [r.recordsChecked.repr ++ " records checked: " ++ r.errorCount.repr ++ " errors, " ++
      r.warningCount.repr ++ " warnings"]

/-- The text of a report; its last line is not ended. -/
def text (r : Report) : String := "\n".intercalate r.textLines

end Report

end DocLint
