import QualifierBindings.Conversion.Converter
import QualifierBindings.Conversion.Declared
import QualifierBindings.Data.Parser
import QualifierBindings.Data.Printer
import QualifierBindings.Encoding.AnnotationUse
import QualifierBindings.Encoding.Config
import QualifierBindings.Encoding.Declaration
import QualifierBindings.Encoding.Qualifier
import QualifierBindings.Log.Installation
import QualifierBindings.Log.Line
import QualifierBindings.Project
import QualifierBindings.Session
import QualifierBindings.Proofs.Annotation.DocumentOrder
import QualifierBindings.Proofs.Annotation.Insertion
import QualifierBindings.Proofs.Annotation.Roles
import QualifierBindings.Proofs.Annotation.ParameterFold
import QualifierBindings.Proofs.Conversion.ClauseReading
import QualifierBindings.Proofs.Conversion.Collected
import QualifierBindings.Proofs.Conversion.Adjusted
import QualifierBindings.Proofs.Conversion.Contributions
import QualifierBindings.Proofs.Conversion.Announcements
import QualifierBindings.Proofs.Conversion.Outcome
import QualifierBindings.Proofs.Conversion.TaintingForm
import QualifierBindings.Proofs.Conversion.LeafSets
import QualifierBindings.Proofs.Conversion.Prefiltering
import QualifierBindings.Proofs.Conversion.Rearrangement
import QualifierBindings.Proofs.Conversion.SessionSteps
import QualifierBindings.Proofs.Conversion.ErrorOrder
import QualifierBindings.Proofs.Conversion.PerParameter
import QualifierBindings.Proofs.Conversion.ModifierInsertion
import QualifierBindings.Proofs.Conversion.MissingBases
import QualifierBindings.Proofs.Conversion.Duality
import QualifierBindings.Proofs.Conversion.SoundRanges
import QualifierBindings.Proofs.Conversion.EventAccount
import QualifierBindings.Proofs.Hierarchy.Order
import QualifierBindings.Proofs.Hierarchy.Widening
import QualifierBindings.Proofs.Hierarchy.TwoPoint
import QualifierBindings.Proofs.Hierarchy.OrderIndependence
import QualifierBindings.Proofs.Hierarchy.Valuation
import QualifierBindings.Proofs.Hierarchy.Embedding
import QualifierBindings.Proofs.Hierarchy.SoundRange
import QualifierBindings.Proofs.Hierarchy.Satisfiability
import QualifierBindings.Proofs.Annotation.Mirroring
import QualifierBindings.Proofs.Conversion.Translation
import QualifierBindings.Proofs.Annotation.Classification
import QualifierBindings.Proofs.Conversion.OpaqueNames
import QualifierBindings.Proofs.Annotation.NameChange
import QualifierBindings.Proofs.Conversion.PackageChange
import QualifierBindings.Proofs.Encoding.Lossless
import QualifierBindings.Proofs.Encoding.Trees
import QualifierBindings.Proofs.Encoding.Bindings
import QualifierBindings.Proofs.Declaration.DeclaredParameters
import QualifierBindings.Proofs.Declaration.PolymorphicSignature
import QualifierBindings.Proofs.Annotation.MarkerNames
import QualifierBindings.Proofs.Config.PackageUse
import QualifierBindings.Proofs.Config.UnknownKeys
import QualifierBindings.Proofs.Config.KnownPart
import QualifierBindings.Proofs.Config.Transparency
import QualifierBindings.Proofs.Config.PackageGrammar
import QualifierBindings.Proofs.Conversion.Merging
import QualifierBindings.Proofs.Conversion.AdjustmentFrame
import QualifierBindings.Proofs.Config.LevelFilter
