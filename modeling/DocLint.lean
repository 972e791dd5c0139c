import DocLint.Case
import DocLint.Config.Json
import DocLint.Main
import DocLint.Proofs.Lowercase
import DocLint.Proofs.Registry
import DocLint.Proofs.Registration
import DocLint.Proofs.Draft
import DocLint.Proofs.Loading
import DocLint.Proofs.Account
import DocLint.Proofs.Faultless
import DocLint.Proofs.Reference
import DocLint.Proofs.Matching
import DocLint.Proofs.ReferencePattern
import DocLint.Proofs.Relabel
import DocLint.Proofs.Isolation
import DocLint.Proofs.Reordering
import DocLint.Proofs.Synonyms
import DocLint.Proofs.Growth
import DocLint.Proofs.Attribution
import DocLint.Proofs.Building
import DocLint.Proofs.Lines
import DocLint.Proofs.Block
import DocLint.Proofs.BlockWriting
import DocLint.Proofs.CaseWriting
import DocLint.Proofs.Tokens
import DocLint.Proofs.Json
import DocLint.Proofs.Shape
import DocLint.Proofs.ReportJson
import DocLint.Proofs.JsonGrammar
import DocLint.Proofs.FragmentJson
import DocLint.Proofs.LinkedText
import DocLint.Proofs.Mention
import DocLint.Proofs.JsonLength
import DocLint.Proofs.Checking
import DocLint.Proofs.Log
import DocLint.Proofs.LoadReport
import DocLint.Proofs.AsciiCase
import DocLint.Proofs.Switches
import DocLint.Proofs.BlockNames
import DocLint.Proofs.Recording
import DocLint.Proofs.CategoryWords
import DocLint.Proofs.Entries
import DocLint.Proofs.Summary
