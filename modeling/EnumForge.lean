import EnumForge.Main
import EnumForge.Sample.Criterion
import EnumForge.Proofs.Checked
import EnumForge.Proofs.Validation
import EnumForge.Proofs.Violation
import EnumForge.Proofs.Generation
import EnumForge.Proofs.Text.ByteOrder
import EnumForge.Proofs.Text.Hexadecimal
import EnumForge.Proofs.Text.Utf8
import EnumForge.Proofs.Format.External
import EnumForge.Proofs.Format.InProcess
import EnumForge.Proofs.Emit.Lookup
import EnumForge.Proofs.Emit.Tables
import EnumForge.Proofs.Emit.Answers
import EnumForge.Proofs.Emit.Warnings
import EnumForge.Proofs.Emission
import EnumForge.Proofs.Json.Grammar
import EnumForge.Proofs.Json.Text
import EnumForge.Proofs.Json.Number
import EnumForge.Proofs.Json.Object
import EnumForge.Proofs.Json.Record
import EnumForge.Proofs.Value.Fallback
import EnumForge.Proofs.Value.Reading
import EnumForge.Proofs.Value.Padding
import EnumForge.Proofs.Sample.Criterion
import EnumForge.Proofs.Config.Replacement
import EnumForge.Proofs.Config.Substitution
import EnumForge.Proofs.Config.Nearest
import EnumForge.Proofs.Table.Keys
import EnumForge.Proofs.Table.Document
import EnumForge.Proofs.Table.Family
import EnumForge.Proofs.Table.Aliases
import EnumForge.Proofs.Table.Library
import EnumForge.Proofs.Table.Steps
import EnumForge.Proofs.Decimal.Rounding
import EnumForge.Proofs.Table.Numbers
import EnumForge.Proofs.Table.Refusals
import EnumForge.Proofs.Run.Basic
import EnumForge.Proofs.Run.File
import EnumForge.Proofs.Run.Stages
import EnumForge.Proofs.World.Path
import EnumForge.Proofs.World.Tree
import EnumForge.Proofs.World.Alike
import EnumForge.Proofs.World.EnvironmentFile
import EnumForge.Proofs.Run.Effect
import EnumForge.Proofs.Run.Agreement
import EnumForge.Proofs.Run.Regeneration
import EnumForge.Proofs.Run.Delivery
import EnumForge.Proofs.Run.Log
import EnumForge.Proofs.Emit.Bindings
import EnumForge.Proofs.Emit.Scope
import EnumForge.Proofs.Source.Literal
import EnumForge.Proofs.Source.Comment
import EnumForge.Proofs.Emit.Recovery
import EnumForge.Proofs.Emit.Blocks
import EnumForge.Proofs.Emit.Options
import EnumForge.Proofs.Config.Resolution
import EnumForge.Proofs.Source.Word
import EnumForge.Proofs.Naming
import EnumForge.Proofs.Constant
import EnumForge.Proofs.Emit.Line
