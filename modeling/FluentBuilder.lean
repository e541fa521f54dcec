import FluentBuilder.Builder.Session
import FluentBuilder.Main
import FluentBuilder.Number.Reading
import FluentBuilder.Spec.Lookup
import FluentBuilder.Proofs.Class.Names
import FluentBuilder.Proofs.Class.Offence
import FluentBuilder.Proofs.Class.Identifier
import FluentBuilder.Proofs.Class.References
import FluentBuilder.Proofs.Rule.Resolve
import FluentBuilder.Proofs.Spec.Assembly
import FluentBuilder.Proofs.Builder.Work
import FluentBuilder.Proofs.Builder.Member
import FluentBuilder.Proofs.Builder.Run
import FluentBuilder.Proofs.Builder.Change
import FluentBuilder.Proofs.Builder.History
import FluentBuilder.Proofs.Builder.Presence
import FluentBuilder.Proofs.Builder.Attribute
import FluentBuilder.Proofs.Number.Digits
import FluentBuilder.Proofs.Number.Overflow
import FluentBuilder.Proofs.Rule.Fault
import FluentBuilder.Proofs.Spec.Fault
import FluentBuilder.Proofs.Spec.Outcome
import FluentBuilder.Proofs.Spec.Setters
import FluentBuilder.Proofs.Builder.LifeCycle
import FluentBuilder.Proofs.Rule.Check
import FluentBuilder.Proofs.Text.Blank
import FluentBuilder.Proofs.TypeRef.Brackets
import FluentBuilder.Proofs.TypeRef.Reading
import FluentBuilder.Proofs.TypeRef.Balance
import FluentBuilder.Proofs.TypeRef.Nameless
import FluentBuilder.Proofs.TypeRef.Rendering
import FluentBuilder.Proofs.TypeRef.Canonical
import FluentBuilder.Proofs.TypeRef.Pieces
import FluentBuilder.Proofs.Rule.Wording
import FluentBuilder.Proofs.Spec.Description
import FluentBuilder.Proofs.Builder.Agreement
import FluentBuilder.Proofs.Builder.Session
import FluentBuilder.Proofs.Builder.Memory
import FluentBuilder.Proofs.Text.Spelling
import FluentBuilder.Proofs.Document.Parts
import FluentBuilder.Proofs.Document.Writing
import FluentBuilder.Proofs.Document.Refusal
import FluentBuilder.Proofs.Number.Order
import FluentBuilder.Proofs.Rule.Interval
import FluentBuilder.Proofs.Spec.Equality
import FluentBuilder.Proofs.Spec.Bystander
import FluentBuilder.Proofs.Builder.Namespace
import FluentBuilder.Proofs.Settings.Precedence
import FluentBuilder.Proofs.Cli.Verdict
import FluentBuilder.Proofs.Rule.Satisfiable
import FluentBuilder.Proofs.Rule.Expression
import FluentBuilder.Proofs.Rule.Message
import FluentBuilder.Proofs.Yaml.Syntax
import FluentBuilder.Proofs.Yaml.Content
import FluentBuilder.Proofs.Document.Loading
import FluentBuilder.Proofs.Spec.Comments
import FluentBuilder.Proofs.Spec.CommentLines
