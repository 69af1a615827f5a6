import RecordBuilders.Builder.Session
import RecordBuilders.Main
import RecordBuilders.Proofs.Builder.Records
import RecordBuilders.Proofs.Syntax.SourceGrammar
import RecordBuilders.Proofs.Target.ModuleParts
import RecordBuilders.Proofs.Target.ModuleProblems
import RecordBuilders.Proofs.Target.PairOutline
import RecordBuilders.Proofs.Target.Blame
import RecordBuilders.Proofs.Field.ClashReports
import RecordBuilders.Proofs.Field.FieldReports
import RecordBuilders.Proofs.Field.Likeness
import RecordBuilders.Proofs.Field.SourceRoles
import RecordBuilders.Proofs.Target.Likeness
import RecordBuilders.Proofs.Syntax.ConcreteTree
import RecordBuilders.Proofs.Syntax.TreeBuilder
import RecordBuilders.Proofs.Syntax.TreeMeaning
import RecordBuilders.Proofs.Syntax.TreeExistence
import RecordBuilders.Proofs.Target.Totality
import RecordBuilders.Proofs.CommandLine.Sources
import RecordBuilders.Proofs.CommandLine.Outcome
import RecordBuilders.Proofs.CommandLine.Legibility
import RecordBuilders.Proofs.Syntax.TypeText
import RecordBuilders.Proofs.Syntax.AttributeText
import RecordBuilders.Proofs.Target.Annotations
import RecordBuilders.Proofs.Target.EmittedAnnotations
import RecordBuilders.Proofs.Target.Erasure
import RecordBuilders.Proofs.Config.Acceptance
import RecordBuilders.Proofs.Syntax.Locations
import RecordBuilders.Proofs.Syntax.Respacing
import RecordBuilders.Proofs.Syntax.EarliestError
