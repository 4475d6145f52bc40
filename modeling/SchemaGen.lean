import SchemaGen.Files.FileSystem
import SchemaGen.Main
import SchemaGen.Proofs.Schema.Mention
import SchemaGen.Proofs.Zod.Admission
import SchemaGen.Proofs.Zod.Closure
import SchemaGen.Proofs.Zod.Ordering
import SchemaGen.Proofs.Zod.Outcome
import SchemaGen.Proofs.Entity.Gathering
import SchemaGen.Proofs.Naming
import SchemaGen.Proofs.Run.Arrangement
import SchemaGen.Proofs.Run.Written
import SchemaGen.Proofs.Schema.Meaning
import SchemaGen.Proofs.Zod.Acceptance
import SchemaGen.Proofs.Zod.Meaning
import SchemaGen.Proofs.Entity.Partition
import SchemaGen.Proofs.Zod.Source
import SchemaGen.Proofs.Entity.Aggregate
import SchemaGen.Proofs.Entity.Statement
import SchemaGen.Proofs.Entity.Suffix
import SchemaGen.Proofs.Entity.TypeName
import SchemaGen.Proofs.Run.Blocks
import SchemaGen.Proofs.Text.Case
import SchemaGen.Proofs.Text.Cluster
import SchemaGen.Proofs.Text.Pascal
import SchemaGen.Proofs.Entity.Triple
import SchemaGen.Proofs.Database.Flattening
import SchemaGen.Proofs.Database.Selection
import SchemaGen.Proofs.Run.TypeImport
import SchemaGen.Proofs.Schema.Filling
import SchemaGen.Proofs.Database.Resolution
import SchemaGen.Proofs.Zod.Filling
import SchemaGen.Proofs.Run.Reference
import SchemaGen.Proofs.Run.Atomicity
import SchemaGen.Proofs.Database.Identifier
import SchemaGen.Proofs.Database.Agreement
import SchemaGen.Proofs.Zod.PropertyKey
import SchemaGen.Proofs.Zod.Enumeration
import SchemaGen.Proofs.Schema.Body
import SchemaGen.Proofs.Schema.KeptComment
import SchemaGen.Proofs.Database.Documentation
import SchemaGen.Proofs.Zod.Refinement
import SchemaGen.Proofs.Database.Note
import SchemaGen.Proofs.Zod.Passes
import SchemaGen.Proofs.Zod.Loading
import SchemaGen.Proofs.Database.Isolation
import SchemaGen.Proofs.Format.Lines
import SchemaGen.Proofs.Path.Normal
import SchemaGen.Proofs.Run.Alias
import SchemaGen.Proofs.Zod.Comment
