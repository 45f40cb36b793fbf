import OpenApi.Document.Writing
import OpenApi.Main
import OpenApi.Proofs.ByteOrder
import OpenApi.Proofs.Sorting
import OpenApi.Proofs.Groups
import OpenApi.Proofs.References
import OpenApi.Proofs.ModelNames
import OpenApi.Proofs.Validity
import OpenApi.Proofs.Integrity
import OpenApi.Proofs.Skipped
import OpenApi.Proofs.Arranging
import OpenApi.Proofs.OrderIndependence
import OpenApi.Proofs.Declarations
import OpenApi.Proofs.AliasChains
import OpenApi.Proofs.Renaming
import OpenApi.Proofs.TagFrame
import OpenApi.Proofs.RoundTrip
import OpenApi.Proofs.ParameterBuckets
import OpenApi.Proofs.ReferenceChains
import OpenApi.Proofs.UnusedSchemas
import OpenApi.Proofs.MergedProperties
import OpenApi.Proofs.UnderscoredNames
import OpenApi.Proofs.EnumMembers
import OpenApi.Proofs.Classification
import OpenApi.Proofs.Imports
import OpenApi.Proofs.Ancestors
import OpenApi.Proofs.ClassNames
import OpenApi.Proofs.NumericBounds
import OpenApi.Proofs.SchemaUses
import OpenApi.Proofs.AliasedModels
import OpenApi.Proofs.Responses
import OpenApi.Proofs.PathVariables
import OpenApi.Proofs.ValidationGate
import OpenApi.Proofs.QuotedLiterals
import OpenApi.Proofs.StyledForms
