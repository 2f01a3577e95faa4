import ClassExpansion.Directory.MarkerValue
import ClassExpansion.Expansion
import ClassExpansion.Proofs.ClassScoped
import ClassExpansion.Proofs.Constants
import ClassExpansion.Proofs.Construction
import ClassExpansion.Proofs.DebugFlag
import ClassExpansion.Proofs.DefaultResolution
import ClassExpansion.Proofs.FactoryRuns
import ClassExpansion.Proofs.FactorySlots
import ClassExpansion.Proofs.FieldFaults
import ClassExpansion.Proofs.Independence
import ClassExpansion.Proofs.KeptAttributes
import ClassExpansion.Proofs.MetadataIntegers
import ClassExpansion.Proofs.Projection
import ClassExpansion.Proofs.Standalone
import ClassExpansion.Proofs.TypeText
import ClassExpansion.Proofs.UsableNames
import ClassExpansion.Text.Similarity
import ClassExpansion.Token.Invisible
